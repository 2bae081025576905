import SandboxMonitor.Proofs.Service.Serving

/-!
# Traffic on the serial line

A call to send a byte puts that byte on the serial line, a call for a byte takes the one that the
line has next, and other calls leave the line alone.  `Action.Exchanges` says so of an action, and
holds of the answer to a call (`Desk.exchanges_serve`).  On a line that is looped back, what has
been taken and what waits is then what waited before and what has been sent
(`SerialLine.taken_append_queue`).
-/

namespace SandboxMonitor

/-! ### Events -/

/-- The byte that an event puts on the line. -/
def Event.sent? : Event → Option UInt8
  | .sent byte => some byte
  | _ => none

/-- The byte that an event takes from the line. -/
def Event.received? : Event → Option UInt8
  | .received byte => some byte
  | _ => none

/-- The event has nothing to do with the line. -/
def Event.IsQuiet (e : Event) : Prop := e.sent? = none ∧ e.received? = none

variable {σ τ α β : Type}

/-- The bytes that have been put on the line. -/
def Outcome.sent (o : Outcome σ α) : List UInt8 := o.events.filterMap Event.sent?

/-- The bytes that have been taken from the line. -/
def Outcome.received (o : Outcome σ α) : List UInt8 := o.events.filterMap Event.received?

/-! ### What a call does to the line -/

/-- A call with its first argument. -/
structure Asked where
  call : Call
  arg0 : UInt32

/-- The call that a frame asks for. -/
def Registers.asked? (frame : Registers) : Option Asked :=
  (Call.ofId? (frame.get .a7)).map fun call => ⟨call, frame.get .a0⟩

/-- The byte that a call puts on the line, if it is to send one. -/
def Asked.sends? (asked : Asked) : Option UInt8 :=
  if asked.call = .putByte then some asked.arg0.toUInt8 else none

/-- Whether a call is for a byte of the line. -/
def Asked.takes (asked : Asked) : Bool := asked.call = .getByte

namespace SerialLine

/-- What a call takes from the line. -/
def taken (line : SerialLine) (asked : Option Asked) : List UInt8 :=
  if asked.any Asked.takes then line.next?.toList else []

/-- The line after a call. -/
def after (line : SerialLine) (asked : Option Asked) : SerialLine :=
  match asked.bind Asked.sends? with
  | some byte => if line.loopback then line.feed [byte] else line
  | none => if asked.any Asked.takes then line.rest else line

@[simp]
theorem loopback_after (line : SerialLine) (asked : Option Asked) :
  (line.after asked).loopback = line.loopback
  := by
  rw [after]
  split
  · split <;> rfl
  · split <;> rfl

/-- There is nothing left of nothing. -/
theorem rest_eq_self {line : SerialLine} (h : line.queue = []) :
  line.rest = line
  := by
  obtain ⟨queue, loopback, waits⟩ := line
  change queue = [] at h
  subst h
  rfl

/-- On a line that is looped back no byte is lost, unless a byte is taken where there is none. -/
theorem taken_append_queue {line : SerialLine} (hloop : line.loopback = true)
    {asked : Option Asked} (h : asked.any Asked.takes = true → line.queue ≠ []) :
  line.taken asked ++ (line.after asked).queue
    = line.queue ++ (asked.bind Asked.sends?).toList
  := by
  rw [taken, after]
  rcases asked with _ | ⟨call, arg0⟩
  · simp
  · cases call with
    | infer => simp [Asked.sends?, Asked.takes]
    | putByte => simp [Asked.sends?, Asked.takes, hloop, feed]
    | getByte =>
      obtain ⟨byte, queue, hqueue⟩ := List.exists_cons_of_ne_nil (h rfl)
      simp [Asked.sends?, Asked.takes, next?, rest, hqueue]
    | readCounters => simp [Asked.sends?, Asked.takes]

/-- Where there is a byte to take, one is taken. -/
theorem next?_eq_head? {line : SerialLine} (h : line.queue ≠ []) :
  line.next? = line.queue.head?
  := by
  obtain ⟨byte, queue, hqueue⟩ := List.exists_cons_of_ne_nil h
  rw [next?, hqueue, List.head?_cons]

theorem length_taken {line : SerialLine} {asked : Option Asked}
    (h : asked.any Asked.takes = true → line.queue ≠ []) :
  (line.taken asked).length = (asked.any Asked.takes).toNat
  := by
  rw [taken]
  split
  · rename_i htakes
    obtain ⟨byte, queue, hqueue⟩ := List.exists_cons_of_ne_nil (h htakes)
    rw [htakes, next?_eq_head? (h htakes), hqueue]
    rfl
  · rename_i hleaves
    rw [Bool.not_eq_true] at hleaves
    rw [hleaves]
    rfl

end SerialLine

/-! ### Exchanges -/

/-- The outcome has put on a line and taken from it what a call does, and left it as the call
does. -/
structure Outcome.Exchange (lineOf : σ → SerialLine) (line : SerialLine) (asked : Option Asked)
    (o : Outcome σ α) : Prop where
  sent : o.sent = (asked.bind Asked.sends?).toList
  received : o.received = line.taken asked
  after : lineOf o.state = line.after asked

namespace Action

variable {lineOf : σ → SerialLine} {asked : Option Asked}

/-- The action does to the line what a call does. -/
def Exchanges (lineOf : σ → SerialLine) (asked : Option Asked) (a : Action σ α) : Prop :=
  ∀ filter s, (a.run filter s).Exchange lineOf (lineOf s) asked

/-- The action leaves the line alone. -/
def Quiet (lineOf : σ → SerialLine) (a : Action σ α) : Prop :=
  ∀ line, a.Confined (lineOf · = line) Event.IsQuiet

/-- Events that have nothing to do with the line move no byte. -/
theorem filterMap_eq_nil_of_isQuiet {events : List Event} (h : ∀ e ∈ events, e.IsQuiet) :
  events.filterMap Event.sent? = [] ∧ events.filterMap Event.received? = []
  := by
  rw [List.filterMap_eq_nil_iff, List.filterMap_eq_nil_iff]
  exact ⟨fun e he => (h e he).1, fun e he => (h e he).2⟩

theorem Quiet.exchanges {a : Action σ α} (h : a.Quiet lineOf)
    (hsends : asked.bind Asked.sends? = none) (htakes : asked.any Asked.takes = false) :
  a.Exchanges lineOf asked
  := by
  intro filter s
  obtain ⟨hline, hevents⟩ := h _ filter s rfl
  obtain ⟨hsent, hreceived⟩ := filterMap_eq_nil_of_isQuiet hevents
  constructor
  · rw [hsends]
    apply hsent
  · rw [SerialLine.taken, htakes]
    apply hreceived
  · rw [SerialLine.after, hsends, htakes]
    apply hline

/-- What follows an exchange may leave the line alone. -/
theorem Exchanges.after {line : SerialLine} {a : Action σ α} {next : α → Action σ β}
    {filter : LogFilter} {s : σ} (h : (a.run filter s).Exchange lineOf line asked)
    (hnext : ∀ v, (next v).Quiet lineOf) :
  ((a >>= next).run filter s).Exchange lineOf line asked
  := by
  rw [run_bind]
  rcases hrun : a.run filter s with ⟨why | v, s', events⟩
  · rw [hrun] at h
    exact ⟨h.sent, h.received, h.after⟩
  · rw [hrun] at h
    obtain ⟨hline, hevents⟩ := hnext v _ filter s' rfl
    obtain ⟨hsent, hreceived⟩ := filterMap_eq_nil_of_isQuiet hevents
    dsimp only
    constructor
    · rw [Outcome.sent, List.filterMap_append, hsent, List.append_nil]
      apply h.sent
    · rw [Outcome.received, List.filterMap_append, hreceived, List.append_nil]
      apply h.received
    · rw [hline]
      apply h.after

theorem Exchanges.bind {a : Action σ α} {next : α → Action σ β} (ha : a.Exchanges lineOf asked)
    (hnext : ∀ v, (next v).Quiet lineOf) :
  (a >>= next).Exchanges lineOf asked
  := fun filter s => Exchanges.after (ha filter s) hnext

/-- A log record before an exchange makes no difference. -/
theorem Exchanges.log_bind {level : LogLevel} {message : String} {next : Unit → Action σ β}
    (h : (next ()).Exchanges lineOf asked) :
  (log level message >>= next).Exchanges lineOf asked
  := by
  intro filter s
  obtain ⟨hsent, hreceived, hafter⟩ := h filter s
  have hquiet : ∀ e ∈ (if filter.keeps level then [Event.log level message] else []),
      e.IsQuiet := by
    intro e he
    obtain ⟨_, _, rfl⟩ := forall_isRecord_log e he
    exact ⟨rfl, rfl⟩
  obtain ⟨hsent', hreceived'⟩ := filterMap_eq_nil_of_isQuiet hquiet
  rw [run_bind, run_log]
  dsimp only
  constructor
  · rw [Outcome.sent, List.filterMap_append, hsent', List.nil_append]
    apply hsent
  · rw [Outcome.received, List.filterMap_append, hreceived', List.nil_append]
    apply hreceived
  · apply hafter

theorem quiet_log (level : LogLevel) (message : String) :
  (log level message : Action σ Unit).Quiet lineOf
  := fun _ => confined_log level ⟨rfl, rfl⟩

end Action

open SandboxMonitor.Action

/-! ### The services -/

namespace Desk

variable {B : Type}

/-- The machine has no part in the line. -/
theorem quiet_onMachine {a : Action (Machine B) α}
    (h : ∀ bank, a.Confined (Machine.HasBank bank) Event.IsQuiet) :
  (onMachine a).Quiet line
  := by
  intro line filter d hd
  use hd, (h d.machine.bank filter d.machine rfl).2

theorem quiet_readUser (addr length : UInt32) :
  (onMachine (Machine.readUser addr length) : Action (Desk B) _).Quiet line
  := quiet_onMachine fun _ => Machine.confined_readUser ⟨rfl, rfl⟩

theorem quiet_writeUser (addr : UInt32) (bytes : List UInt8) :
  (onMachine (Machine.writeUser addr bytes) : Action (Desk B) _).Quiet line
  := quiet_onMachine fun _ => Machine.confined_writeUser ⟨rfl, rfl⟩

theorem quiet_snapshot :
  (onMachine Machine.snapshot : Action (Desk B) _).Quiet line
  := quiet_onMachine fun _ => Machine.confined_snapshot fun _ _ => ⟨rfl, rfl⟩

theorem quiet_consult (input : List UInt8) :
  (consult input : Action (Desk B) _).Quiet line
  := by
  intro queue
  rw [consult]
  apply Confined.bind (confined_gets _)
  intro model
  apply Confined.bind (confined_emit ⟨rfl, rfl⟩)
  intro _
  apply Confined.bind
  · apply confined_modify
    intro d hd
    apply hd
  · intro _
    apply confined_pure

theorem quiet_profiled {a : Action (Desk B) α} (ha : a.Quiet line) :
  (profiled a).Quiet line
  := by
  intro queue
  rw [profiled]
  apply Confined.bind (confined_keeps _)
  intro profiles
  cases profiles with
  | false => apply ha
  | true =>
    apply Confined.bind (quiet_snapshot queue)
    intro earlier
    apply Confined.bind (ha queue)
    intro v
    apply Confined.bind (quiet_snapshot queue)
    intro later
    apply Confined.bind (quiet_log _ _ queue)
    intro _
    apply confined_pure

theorem quiet_reply (answer : Except InferenceError (List Int8)) :
  (reply answer : Action (Desk B) _).Quiet line
  := by
  intro queue
  have hrespond : ∀ text, (emit (.respond text) >>= fun _ => emit .flush :
      Action (Desk B) _).Confined (line · = queue) Event.IsQuiet := by
    intro text
    apply Confined.bind (confined_emit ⟨rfl, rfl⟩)
    intro _
    apply confined_emit ⟨rfl, rfl⟩
  unfold reply
  cases answer with
  | error e =>
    apply Confined.bind (quiet_log _ _ queue)
    intro _
    apply hrespond
  | ok scores =>
    dsimp only
    split
    · apply hrespond
    · apply Confined.bind (quiet_log _ _ queue)
      intro _
      apply hrespond

theorem quiet_deliver (answer : Except InferenceError (List Int8)) :
  (deliver answer : Action (Desk B) _).Quiet line
  := by
  intro queue
  rw [deliver]
  apply Confined.bind (confined_gets _)
  intro delivery
  cases delivery with
  | forward => apply quiet_reply
  | resultBuffer addr =>
    cases answer with
    | ok scores => apply quiet_writeUser
    | error e =>
      apply Confined.bind (quiet_log _ _ queue)
      intro _
      apply Confined.bind (confined_gets _)
      intro sentinel
      apply quiet_writeUser

theorem quiet_infer (ptr length : UInt32) :
  (infer ptr length : Action (Desk B) _).Quiet line
  := by
  intro queue
  rw [infer]
  apply Confined.bind (confined_gets _)
  intro checked
  cases checked with
  | error r => apply confined_pure
  | ok u =>
    apply Confined.bind (quiet_log _ _ queue)
    intro _
    apply Confined.bind
    · apply quiet_profiled
      intro queue
      apply Confined.bind (quiet_readUser _ _ queue)
      intro input
      apply quiet_consult
    · intro answer
      apply Confined.bind (quiet_deliver answer queue)
      intro _
      apply confined_pure

theorem quiet_readCounters (ptr length : UInt32) :
  (readCounters ptr length : Action (Desk B) _).Quiet line
  := by
  intro queue
  rw [readCounters]
  apply Confined.bind (quiet_snapshot queue)
  intro s
  apply Confined.bind (quiet_log _ _ queue)
  intro _
  split
  · apply confined_pure
  · apply Confined.bind (confined_gets _)
    intro checked
    cases checked with
    | error r => apply confined_pure
    | ok u =>
      apply Confined.bind (quiet_writeUser _ _ queue)
      intro _
      apply confined_pure

theorem quiet_settleFrame (call : Call) (frame : Registers)
    (answer : Except Rejection (Option UInt32)) :
  (settleFrame call frame answer : Action (Desk B) _).Quiet line
  := by
  intro queue
  rcases answer with r | _ | v
  · apply Confined.bind (quiet_log _ _ queue)
    intro _
    apply confined_pure
  · apply confined_pure
  · apply confined_pure

/-- A call does to the line what it is for. -/
theorem exchanges_dispatch (call : Call) (arg0 arg1 : UInt32) :
  (dispatch call arg0 arg1 : Action (Desk B) _).Exchanges line (some ⟨call, arg0⟩)
  := by
  cases call with
  | infer =>
    apply Quiet.exchanges _ rfl rfl
    intro queue
    apply Confined.bind (quiet_infer _ _ queue)
    intro _
    apply confined_pure
  | readCounters =>
    apply Quiet.exchanges _ rfl rfl
    intro queue
    apply Confined.bind (quiet_readCounters _ _ queue)
    intro _
    apply confined_pure
  | putByte =>
    intro filter d
    exact ⟨rfl, rfl, rfl⟩
  | getByte =>
    intro filter d
    rw [run_dispatch_getByte]
    cases hnext : d.line.next? with
    | some byte =>
      constructor
      · rfl
      · change [byte] = d.line.next?.toList
        rw [hnext]
        rfl
      · rfl
    | none =>
      constructor
      · rfl
      · change [] = d.line.next?.toList
        rw [hnext]
        rfl
      · apply (SerialLine.rest_eq_self (SerialLine.next?_eq_none_iff.mp hnext).1).symm

/-- The answer to a frame does to the line what the call is for. -/
theorem exchanges_serve (frame : Registers) :
  (serve frame : Action (Desk B) _).Exchanges line frame.asked?
  := by
  rw [serve, Registers.asked?]
  change Exchanges line ((Call.ofId? frame.request.id).map _) _
  cases Call.ofId? frame.request.id with
  | none =>
    apply Quiet.exchanges _ rfl rfl
    intro queue
    apply Confined.bind (confined_gets _)
    intro _
    apply confined_pure
  | some call =>
    apply Exchanges.log_bind
    apply (exchanges_dispatch _ _ _).bind
    intro answer queue
    apply Confined.bind (quiet_settleFrame _ _ _ queue)
    intro frame
    apply Confined.bind
    · apply quiet_onMachine fun _ => Machine.confined_skipInstruction
    · intro _
      apply Confined.bind
      · apply quiet_onMachine
        intro bank
        apply confined_modify
        intro m hm
        apply hm
      · intro _
        apply confined_pure

/-- A call for a byte answers with the one on the line. -/
theorem result_serve_getByte {filter : LogFilter} {d : Desk B} {frame : Registers} {byte : UInt8}
    {length : UInt32} (hcall : Call.ofId? (frame.get .a7) = some .getByte)
    (hnext : d.line.next? = some byte)
    (hlength : d.machine.memory.instructionLength? d.machine.mepc = some length) :
  ((serve frame).run filter d).result = .ok (.ok (frame.set .a0 byte.toUInt32))
  := by
  have hdispatch := run_dispatch_getByte filter d (frame.get .a0) (frame.get .a1)
  rw [hnext] at hdispatch
  have hstep := serve_step filter d frame
  generalize (serve frame).run filter d = outcome at hstep
  cases hstep with
  | unknown hcall' =>
    rw [hcall] at hcall'
    cases hcall'
  | stops hcall' hdispatch' =>
    rw [hcall] at hcall'
    cases hcall'
    rw [hdispatch] at hdispatch'
    cases hdispatch'
  | faults hcall' hdispatch' hlength' =>
    rw [hcall] at hcall'
    cases hcall'
    rw [hdispatch] at hdispatch'
    cases hdispatch'
    rw [hlength] at hlength'
    cases hlength'
  | resumes hcall' hdispatch' =>
    rw [hcall] at hcall'
    cases hcall'
    rw [hdispatch] at hdispatch'
    cases hdispatch'
    rfl

end Desk

end SandboxMonitor
