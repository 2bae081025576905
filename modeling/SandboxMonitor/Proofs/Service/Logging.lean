import SandboxMonitor.Proofs.Action.Filtering
import SandboxMonitor.Proofs.Service.Serving

/-!
# What a service does whatever is logged

A service is compared under two log filters, with the readings of counters or without them.  With
them, it does the same up to log records (`Desk.agree_serve` for `counted = true`), unless only
one of the filters has an inference measured.  An inference that is measured reads the counters
around the engine and does nothing else that could be told (`Desk.agree_profiled`), so without
the readings an inference does the same, too.
-/

namespace SandboxMonitor

open SandboxMonitor.Action

/-- What two runs are compared by: every event but log records, and but the readings of counters
unless these count. -/
def Event.compared (counted : Bool) : Event → Bool
  | .log _ _ => false
  | .counter _ _ => counted
  | _ => true

variable {B α : Type} {f g : LogFilter} {counted : Bool}

/-! ### The machine -/

namespace Machine

/-- The machines differ only in what their counters answer, and not even there if readings
count. -/
def Same (counted : Bool) (m n : Machine B) : Prop :=
  ∃ counters, n = { m with counters } ∧ (counted = true → counters = m.counters)

theorem agree_peek (addr : UInt32) (length : Nat) :
  (peek addr length : Action (Machine B) _).Indifferent f g (Event.compared counted) (Same counted)
  := by
  rw [peek]
  apply Agree.of_gets
  · rintro m _ ⟨counters, rfl, -⟩
    rfl
  · intro m _ _
    cases m.memory.read? addr length with
    | none => apply agree_stop
    | some bytes => apply agree_pure

theorem agree_poke (addr : UInt32) (bytes : List UInt8) :
  (poke addr bytes : Action (Machine B) _).Indifferent f g (Event.compared counted) (Same counted)
  := by
  rintro m _ ⟨counters, rfl, hcounters⟩
  rw [Action.run, Action.run, poke, poke]
  cases m.memory.holds addr bytes.length with
  | true => exact ⟨rfl, ⟨counters, rfl, hcounters⟩, rfl⟩
  | false => exact ⟨rfl, ⟨counters, rfl, hcounters⟩, rfl⟩

theorem agree_readUser (addr length : UInt32) :
  (readUser addr length : Action (Machine B) _).Indifferent f g (Event.compared counted)
    (Same counted)
  := by
  rw [readUser]
  apply Agree.bind (agree_emit _)
  intro _
  apply agree_peek

theorem agree_writeUser (addr : UInt32) (bytes : List UInt8) :
  (writeUser addr bytes : Action (Machine B) _).Indifferent f g (Event.compared counted)
    (Same counted)
  := by
  rw [writeUser]
  apply Agree.bind (agree_emit _)
  intro _
  apply agree_poke

theorem Same.change {m n : Machine B} (h : Same counted m n) {change : Machine B → Machine B}
    (hchange : ∀ machine counters, change { machine with counters }
      = { change machine with counters }) :
  Same counted (change m) (change n)
  := by
  obtain ⟨counters, rfl, hcounters⟩ := h
  have hkept : (change m).counters = m.counters := by rw [hchange m m.counters]
  use counters, hchange m counters
  rw [hkept]
  apply hcounters

theorem agree_skipInstruction :
  (skipInstruction : Action (Machine B) _).Indifferent f g (Event.compared counted) (Same counted)
  := by
  rw [skipInstruction]
  apply Agree.of_gets
  · rintro m _ ⟨counters, rfl, -⟩
    rfl
  · intro m _ _
    apply Agree.bind
    · rw [fetchHalfword]
      apply Agree.bind (agree_peek _ _)
      intro _
      apply agree_pure
    · intro _
      apply agree_modify
      intro m n hsame
      apply hsame.change fun _ _ => rfl

/-- Where readings count, the counters answer the same. -/
theorem agree_snapshot :
  (snapshot : Action (Machine B) _).Indifferent f g (Event.compared true) (Same true)
  := by
  rintro m _ ⟨_, rfl, hcounters⟩
  obtain rfl := hcounters rfl
  exact ⟨rfl, ⟨_, rfl, fun _ => rfl⟩, rfl⟩

/-- Where readings do not count, a snapshot is not seen. -/
theorem unseen_snapshot :
  (snapshot : Action (Machine B) _).Unseen f (Event.compared false) (Same false)
  := by
  have hhidden : ∀ (r : WideReading) (c : Counter),
      (r.events c).filter (Event.compared false) = [] := by
    intro r c
    rw [WideReading.events, List.filter_flatMap]
    apply List.flatMap_eq_nil_iff.mpr
    intro pass _
    rfl
  intro m
  refine ⟨_, _, _, rfl, ?_, ?_⟩
  · rintro _ ⟨counters, rfl, -⟩
    exact ⟨counters, rfl, nofun⟩
  · rw [List.filter_append, List.filter_append, hhidden, hhidden]
    rfl

end Machine

/-! ### The services -/

namespace Desk

/-- The desks differ only in what their counters answer, and not even there if readings count. -/
def Same (counted : Bool) (d e : Desk B) : Prop :=
  ∃ counters, e = d.withCounters counters ∧ (counted = true → counters = d.machine.counters)

theorem Same.machine {d e : Desk B} (h : Same counted d e) :
  Machine.Same counted d.machine e.machine
  := by
  obtain ⟨counters, rfl, hcounters⟩ := h
  exact ⟨counters, rfl, hcounters⟩

theorem Same.symm {d e : Desk B} (h : Same counted d e) :
  Same counted e d
  := by
  obtain ⟨counters, rfl, hcounters⟩ := h
  exact ⟨d.machine.counters, rfl, fun h => (hcounters h).symm⟩

theorem agree_onMachine {a : Action (Machine B) α}
    (h : a.Indifferent f g (Event.compared counted) (Machine.Same counted)) :
  (onMachine a).Indifferent f g (Event.compared counted) (Same counted)
  := by
  rw [onMachine]
  apply h.on
  · intro d e hsame
    apply hsame.machine
  · rintro d _ m _ ⟨_, rfl, -⟩ ⟨counters, rfl, hcounters⟩
    exact ⟨counters, rfl, hcounters⟩

theorem unseen_onMachine {a : Action (Machine B) α}
    (h : a.Unseen f (Event.compared false) (Machine.Same false)) :
  (onMachine a).Unseen f (Event.compared false) (Same false)
  := by
  rw [onMachine]
  apply h.on
  · intro d e hsame
    apply hsame.machine
  · rintro d _ m ⟨_, rfl, -⟩ ⟨counters, hmachine, -⟩
    exact ⟨counters, congrArg d.withMachine hmachine, nofun⟩

theorem agree_onLine {a : Action SerialLine α} (h : ∀ line, a.run g line = a.run f line) :
  (onLine a : Action (Desk B) α).Indifferent f g (Event.compared counted) (Same counted)
  := by
  rw [onLine]
  apply (agree_of_run_eq h).on
  · rintro d _ ⟨_, rfl, -⟩
    rfl
  · rintro d _ line _ ⟨counters, rfl, hcounters⟩ rfl
    exact ⟨counters, rfl, hcounters⟩

theorem agree_consult (input : List UInt8) :
  (consult input : Action (Desk B) _).Indifferent f g (Event.compared counted) (Same counted)
  := by
  rw [consult]
  apply Agree.of_gets
  · rintro d _ ⟨_, rfl, -⟩
    rfl
  · intro d _ _
    apply Agree.bind (agree_emit _)
    intro _
    apply Agree.bind
    · apply agree_modify
      rintro d _ ⟨counters, rfl, hcounters⟩
      exact ⟨counters, rfl, hcounters⟩
    · intro _
      apply agree_pure

/-- An action agrees when it is measured on one side, where readings do not count. -/
theorem agree_profiled_left {a b : Action (Desk B) α}
    (h : Agree f g (Event.compared false) (Same false) a b) :
  Agree f g (Event.compared false) (Same false) (profiled a) b
  := by
  rw [profiled]
  apply Agree.keeps_bind
  cases f.keeps .debug with
  | false => apply h
  | true =>
    -- What follows the action on one side follows it as nothing on the other.
    rw [← bind_pure b]
    apply (unseen_onMachine Machine.unseen_snapshot).agree_bind
    intro earlier
    apply h.bind
    intro v
    apply (unseen_onMachine Machine.unseen_snapshot).agree_bind
    intro later
    apply (unseen_log _ rfl).agree_bind
    intro _
    apply agree_pure

/-- A measured action agrees unless readings count and only one side is measured. -/
theorem agree_profiled {a : Action (Desk B) α}
    (hkeeps : counted = true → g.keeps .debug = f.keeps .debug)
    (h : a.Indifferent f g (Event.compared counted) (Same counted)) :
  (profiled a).Indifferent f g (Event.compared counted) (Same counted)
  := by
  cases counted with
  | false =>
    apply agree_profiled_left
    have hright : Agree g f (Event.compared false) (Same false) (profiled a) a :=
      agree_profiled_left (h.symm fun _ _ => Same.symm)
    apply hright.symm fun _ _ => Same.symm
  | true =>
    rw [profiled]
    apply Agree.bind (agree_keeps (hkeeps rfl))
    intro profiles
    cases profiles with
    | false => apply h
    | true =>
      apply Agree.bind (agree_onMachine Machine.agree_snapshot)
      intro earlier
      apply h.bind
      intro v
      apply Agree.bind (agree_onMachine Machine.agree_snapshot)
      intro later
      apply Agree.bind (agree_log _ rfl)
      intro _
      apply agree_pure

theorem agree_reply (answer : Except InferenceError (List Int8)) :
  (reply answer : Action (Desk B) _).Indifferent f g (Event.compared counted) (Same counted)
  := by
  have hrespond : ∀ line, (emit (.respond line) >>= fun _ => emit .flush :
      Action (Desk B) _).Indifferent f g (Event.compared counted) (Same counted) := by
    intro line
    apply Agree.bind (agree_emit _)
    intro _
    apply agree_emit
  unfold reply
  cases answer with
  | error e =>
    apply Agree.bind (agree_log _ rfl)
    intro _
    apply hrespond
  | ok scores =>
    dsimp only
    split
    · apply hrespond
    · apply Agree.bind (agree_log _ rfl)
      intro _
      apply hrespond

theorem agree_deliver (answer : Except InferenceError (List Int8)) :
  (deliver answer : Action (Desk B) _).Indifferent f g (Event.compared counted) (Same counted)
  := by
  rw [deliver]
  apply Agree.of_gets
  · rintro d _ ⟨_, rfl, -⟩
    rfl
  · intro d _ _
    cases d.delivery with
    | forward => apply agree_reply
    | resultBuffer addr =>
      cases answer with
      | ok scores => apply agree_onMachine (Machine.agree_writeUser _ _)
      | error e =>
        apply Agree.bind (agree_log _ rfl)
        intro _
        apply Agree.of_gets
        · rintro d _ ⟨_, rfl, -⟩
          rfl
        · intro d _ _
          apply agree_onMachine (Machine.agree_writeUser _ _)

theorem agree_infer (hkeeps : counted = true → g.keeps .debug = f.keeps .debug)
    (ptr length : UInt32) :
  (infer ptr length : Action (Desk B) _).Indifferent f g (Event.compared counted) (Same counted)
  := by
  rw [infer]
  apply Agree.of_gets
  · rintro d _ ⟨_, rfl, -⟩
    rfl
  · intro d _ _
    cases d.checkInfer ptr length with
    | error r => apply agree_pure
    | ok u =>
      apply Agree.bind (agree_log _ rfl)
      intro _
      apply Agree.bind
      · apply agree_profiled hkeeps
        apply Agree.bind (agree_onMachine (Machine.agree_readUser _ _))
        intro input
        apply agree_consult
      · intro answer
        apply Agree.bind (agree_deliver answer)
        intro _
        apply agree_pure

/-- Readings that are stored count. -/
theorem agree_readCounters (ptr length : UInt32) :
  (readCounters ptr length : Action (Desk B) _).Indifferent f g (Event.compared true) (Same true)
  := by
  rw [readCounters]
  apply Agree.bind (agree_onMachine Machine.agree_snapshot)
  intro s
  apply Agree.bind (agree_log _ rfl)
  intro _
  split
  · apply agree_pure
  · apply Agree.of_gets
    · rintro d _ ⟨_, rfl, -⟩
      rfl
    · intro d _ _
      cases d.checkCounters ptr length with
      | error r => apply agree_pure
      | ok u =>
        apply Agree.bind (agree_onMachine (Machine.agree_writeUser _ _))
        intro _
        apply agree_pure

/-- Readings may count in a call unless it is an inference that only one filter has measured, and
need not count in an inference. -/
structure Comparable (f g : LogFilter) (counted : Bool) (call : Call) : Prop where
  measured : counted = true → call = .infer → g.keeps .debug = f.keeps .debug
  uncounted : counted = false → call = .infer

theorem agree_dispatch {call : Call} (h : Comparable f g counted call) (arg0 arg1 : UInt32) :
  (dispatch call arg0 arg1 : Action (Desk B) _).Indifferent f g (Event.compared counted)
    (Same counted)
  := by
  cases call with
  | infer =>
    apply Agree.bind
    · apply agree_infer
      intro hcounted
      apply h.measured hcounted rfl
    · intro _
      apply agree_pure
  | putByte =>
    apply Agree.bind
    · apply agree_onLine
      intro line
      rfl
    · intro _
      apply agree_pure
  | getByte =>
    apply Agree.bind
    · apply agree_onLine
      intro line
      rw [SerialLine.run_receive, SerialLine.run_receive]
    · intro _
      apply agree_pure
  | readCounters =>
    cases counted with
    | false => cases h.uncounted rfl
    | true =>
      apply Agree.bind (agree_readCounters arg0 arg1)
      intro _
      apply agree_pure

theorem agree_settleFrame (call : Call) (frame : Registers)
    (answer : Except Rejection (Option UInt32)) :
  (settleFrame call frame answer : Action (Desk B) _).Indifferent f g (Event.compared counted)
    (Same counted)
  := by
  rcases answer with r | _ | v
  · apply Agree.bind (agree_log _ rfl)
    intro _
    apply agree_pure
  · apply agree_pure
  · apply agree_pure

/-- Serving a call does the same under two filters. -/
theorem agree_serve {frame : Registers}
    (h : ∀ call, Call.ofId? (frame.get .a7) = some call → Comparable f g counted call) :
  (serve frame : Action (Desk B) _).Indifferent f g (Event.compared counted) (Same counted)
  := by
  rw [serve]
  cases hcall : Call.ofId? frame.request.id with
  | none =>
    apply Agree.of_gets
    · rintro d _ ⟨_, rfl, -⟩
      rfl
    · intro d _ _
      apply agree_pure
  | some call =>
    apply Agree.bind (agree_log _ rfl)
    intro _
    apply Agree.bind (agree_dispatch (h call hcall) _ _)
    intro answer
    apply Agree.bind (agree_settleFrame _ _ _)
    intro frame
    apply Agree.bind (agree_onMachine Machine.agree_skipInstruction)
    intro _
    apply Agree.bind
    · apply agree_onMachine
      apply agree_modify
      intro m n hsame
      apply hsame.change fun _ _ => rfl
    · intro _
      apply agree_pure

end Desk

end SandboxMonitor
