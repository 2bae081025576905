import SandboxMonitor.Proofs.Action.Uniformity
import SandboxMonitor.Proofs.Machine.Agreement
import SandboxMonitor.Proofs.Service.Storing

/-!
# What a service cannot tell

Two machines are twins when they differ only in memory, and there only out of the service
window and of the two bytes where the hart is.  A service does the same on twins and leaves
twins (`Desk.uniform_serve`): it reads only what the window admits, so that it cannot tell the
twins apart, and it writes only there, so that what is out of the window stays as it was in
each of them.
-/

namespace SandboxMonitor

open SandboxMonitor.Action

namespace DataWindow

/-- The window has the address. -/
def Spans (w : DataWindow) (a : Nat) : Prop := w.low.toNat ≤ a ∧ a < w.high

/-- The addresses that a trap taken at an address may depend on. -/
def Reveals (w : DataWindow) (pc : UInt32) (a : Nat) : Prop :=
  w.Spans a ∨ a = pc.toNat ∨ a = pc.toNat + 1

/-- The addresses of a buffer that the window serves are in the window. -/
theorem Serves.spans {w : DataWindow} {addr length : UInt32} (h : w.Serves addr length) {a : Nat}
    (hlo : addr.toNat ≤ a) (hhi : a < addr.toNat + length.toNat) :
  w.Spans a
  := by
  obtain ⟨hadmits, -⟩ := h
  simp only [admits, Bool.and_eq_true, decide_eq_true_eq, UInt32.le_iff_toNat_le] at hadmits
  constructor
  · omega
  · omega

end DataWindow

/-- What two runs are compared by. -/
structure Comparison where
  /-- The window and the delivery of both. -/
  window : DataWindow
  delivery : Delivery
  /-- Where the hart is when the trap is taken. -/
  pc : UInt32
  /-- The memory that each run starts from. -/
  memory : Memory
  memory' : Memory

/-! ### The machine -/

namespace Machine

variable {B : Type} {c : Comparison}

/-- The machines differ only in memory.  Their memories agree on what a trap may depend on, and
out of the window each is as it was at the start. -/
structure Twins (c : Comparison) (m n : Machine B) : Prop where
  same : ∃ memory, n = { m with memory }
  agree : m.memory.AgreeOn (c.window.Reveals c.pc) n.memory
  keeps : c.memory.AgreeOn (¬ c.window.Spans ·) m.memory
  keeps' : c.memory'.AgreeOn (¬ c.window.Spans ·) n.memory

/-- Twins where the hart is as the trap found it. -/
def TwinsAt (c : Comparison) (m n : Machine B) : Prop := Twins c m n ∧ m.mepc = c.pc

/-- The same change elsewhere than in memory leaves twins. -/
theorem Twins.change {m n : Machine B} (h : Twins c m n) {f : Machine B → Machine B}
    (hf : ∀ machine memory, f { machine with memory } = { f machine with memory }) :
  Twins c (f m) (f n)
  := by
  obtain ⟨⟨memory, rfl⟩, hagree, hkeeps, hkeeps'⟩ := h
  have hfirst : (f m).memory = m.memory := by rw [hf m m.memory]
  have hsecond : (f { m with memory }).memory = memory := by rw [hf m memory]
  constructor
  · use memory, hf m memory
  · rw [hfirst, hsecond]
    apply hagree
  · rw [hfirst]
    apply hkeeps
  · rw [hsecond]
    apply hkeeps'

theorem uniform_peek {addr : UInt32} {length : Nat}
    (h : ∀ a, addr.toNat ≤ a → a < addr.toNat + length → c.window.Reveals c.pc a) :
  (peek addr length : Action (Machine B) _).Uniform (TwinsAt c) (TwinsAt c)
  := by
  rw [peek]
  apply Uniform.of_gets
  · rintro m n ⟨htwins, -⟩
    apply htwins.agree.read?_eq h
  · intro m _ _
    cases m.memory.read? addr length with
    | none => apply uniform_stop
    | some bytes => apply uniform_pure

theorem uniform_poke {addr : UInt32} {bytes : List UInt8}
    (h : ∀ a, addr.toNat ≤ a → a < addr.toNat + bytes.length → c.window.Spans a) :
  (poke addr bytes : Action (Machine B) _).Uniform (TwinsAt c) (TwinsAt c)
  := by
  have houtside : ∀ a, addr.toNat ≤ a → a < addr.toNat + bytes.length → ¬ ¬ c.window.Spans a :=
    fun a hlo hhi => not_not_intro (h a hlo hhi)
  rintro filter m _ ⟨⟨⟨memory, rfl⟩, hagree, hkeeps, hkeeps'⟩, hpc⟩
  have hholds : memory.holds addr bytes.length = m.memory.holds addr bytes.length :=
    hagree.holds_eq addr bytes.length
  rw [Action.run, Action.run, poke, poke, hholds]
  cases m.memory.holds addr bytes.length with
  | true =>
    refine ⟨_, _, _, _, rfl, rfl, ⟨⟨_, rfl⟩, hagree.write addr bytes, ?_, ?_⟩, hpc⟩
    · apply hkeeps.trans (Memory.agreeOn_write _ houtside)
    · apply hkeeps'.trans (Memory.agreeOn_write _ houtside)
  | false => exact ⟨_, _, _, _, rfl, rfl, ⟨⟨memory, rfl⟩, hagree, hkeeps, hkeeps'⟩, hpc⟩

theorem uniform_readUser {addr length : UInt32} (h : c.window.Serves addr length) :
  (readUser addr length : Action (Machine B) _).Uniform (TwinsAt c) (TwinsAt c)
  := by
  rw [readUser]
  apply Uniform.bind (uniform_emit _)
  intro _
  apply uniform_peek
  intro a hlo hhi
  left
  apply h.spans hlo hhi

theorem uniform_writeUser {addr length : UInt32} {bytes : List UInt8}
    (h : c.window.Serves addr length) (hlength : bytes.length = length.toNat) :
  (writeUser addr bytes : Action (Machine B) _).Uniform (TwinsAt c) (TwinsAt c)
  := by
  rw [writeUser]
  apply Uniform.bind (uniform_emit _)
  intro _
  apply uniform_poke
  rw [hlength]
  intro a hlo hhi
  apply h.spans hlo hhi

/-- Counters have nothing to do with memory. -/
theorem uniform_snapshot :
  (snapshot : Action (Machine B) _).Uniform (TwinsAt c) (TwinsAt c)
  := by
  rintro filter m _ ⟨⟨⟨memory, rfl⟩, hagree, hkeeps, hkeeps'⟩, hpc⟩
  exact ⟨_, _, _, _, rfl, rfl, ⟨⟨memory, rfl⟩, hagree, hkeeps, hkeeps'⟩, hpc⟩

/-- The hart moves past the same instruction. -/
theorem uniform_skipInstruction :
  (skipInstruction : Action (Machine B) _).Uniform (TwinsAt c) (Twins c)
  := by
  rw [skipInstruction]
  apply Uniform.of_gets
  · rintro m _ ⟨⟨⟨memory, rfl⟩, -⟩, -⟩
    rfl
  · rintro m _ ⟨-, hpc⟩
    rw [hpc]
    apply Uniform.andThen
    · rw [fetchHalfword]
      apply Uniform.bind
      · apply uniform_peek
        intro a hlo hhi
        right
        omega
      · intro _
        apply uniform_pure
    · intro halfword
      apply uniform_modify
      rintro m n ⟨htwins, -⟩
      apply htwins.change fun _ _ => rfl
    · rintro m n ⟨htwins, -⟩
      apply htwins

end Machine

/-! ### The services -/

namespace Desk

variable {B : Type} {α : Type} {c : Comparison} {R Q : Machine B → Machine B → Prop}

/-- The desks differ only in their machines, which are related, and serve the memory that they
are compared by. -/
structure Over (c : Comparison) (R : Machine B → Machine B → Prop) (d e : Desk B) : Prop where
  same : ∃ machine, e = d.withMachine machine
  ruled : d.Ruled c.window c.delivery
  machine : R d.machine e.machine

/-- The desks of twins. -/
abbrev Twins (c : Comparison) : Desk B → Desk B → Prop := Over c (Machine.Twins c)

/-- The desks of twins where the hart is as the trap found it. -/
abbrev TwinsAt (c : Comparison) : Desk B → Desk B → Prop := Over c (Machine.TwinsAt c)

theorem Over.mono {d e : Desk B} (h : Over c R d e) (hle : ∀ m n, R m n → Q m n) :
  Over c Q d e
  := ⟨h.same, h.ruled, hle _ _ h.machine⟩

theorem uniform_onMachine {a : Action (Machine B) α} (ha : a.Uniform R Q) :
  (onMachine a).Uniform (Over c R) (Over c Q)
  := by
  rw [onMachine]
  apply ha.on
  · intro d e h
    apply h.machine
  · rintro d _ m n ⟨⟨machine, rfl⟩, hruled, -⟩ hmn
    exact ⟨⟨n, rfl⟩, hruled, hmn⟩

theorem uniform_onLine (a : Action SerialLine α) :
  (onLine a).Uniform (Over c R) (Over c R)
  := by
  rw [onLine]
  apply (uniform_eq a).on
  · rintro d _ ⟨⟨machine, rfl⟩, -⟩
    rfl
  · rintro d _ line _ ⟨⟨machine, rfl⟩, hruled, hmachine⟩ rfl
    exact ⟨⟨machine, rfl⟩, hruled, hmachine⟩

/-- The engine sees no more than its input. -/
theorem uniform_consult (input : List UInt8) :
  (consult input).Uniform (Over c R) (Over c R)
  := by
  rw [consult]
  apply Uniform.of_gets
  · rintro d _ ⟨⟨machine, rfl⟩, -⟩
    rfl
  · intro d _ _
    apply Uniform.bind (uniform_emit _)
    intro _
    apply Uniform.bind
    · apply uniform_modify
      rintro d _ ⟨⟨machine, rfl⟩, hruled, hmachine⟩
      exact ⟨⟨machine, rfl⟩, hruled, hmachine⟩
    · intro _
      apply uniform_pure

theorem uniform_reply (answer : Except InferenceError (List Int8)) :
  (reply answer).Uniform (Over c R) (Over c R)
  := by
  have hrespond : ∀ line, (emit (.respond line) >>= fun _ => emit .flush :
      Action (Desk B) _).Uniform (Over c R) (Over c R) := by
    intro line
    apply Uniform.bind (uniform_emit _)
    intro _
    apply uniform_emit
  unfold reply
  cases answer with
  | error e =>
    apply Uniform.bind (uniform_log _ _)
    intro _
    apply hrespond
  | ok scores =>
    dsimp only
    split
    · apply hrespond
    · apply Uniform.bind (uniform_log _ _)
      intro _
      apply hrespond

theorem uniform_profiled {a : Action (Desk B) α} (ha : a.Uniform (TwinsAt c) (TwinsAt c)) :
  (profiled a).Uniform (TwinsAt c) (TwinsAt c)
  := by
  rw [profiled]
  apply Uniform.bind (uniform_keeps _)
  intro profiles
  cases profiles with
  | false => apply ha
  | true =>
    apply Uniform.bind (uniform_onMachine Machine.uniform_snapshot)
    intro earlier
    apply Uniform.bind ha
    intro v
    apply Uniform.bind (uniform_onMachine Machine.uniform_snapshot)
    intro later
    apply Uniform.bind (uniform_log _ _)
    intro _
    apply uniform_pure

/-- A result is stored where the window has room for it. -/
theorem uniform_deliver (hfits : c.delivery.FitsIn c.window)
    (answer : Except InferenceError (List Int8)) :
  (deliver answer : Action (Desk B) _).Uniform (TwinsAt c) (TwinsAt c)
  := by
  rw [deliver]
  apply Uniform.of_gets
  · rintro d _ ⟨⟨machine, rfl⟩, -⟩
    rfl
  · rintro d _ ⟨-, ⟨-, hdelivery⟩, -⟩
    rw [hdelivery]
    cases hforward : c.delivery with
    | forward => apply uniform_reply
    | resultBuffer addr =>
      rw [hforward] at hfits
      have hstore : ∀ bytes : List UInt8, bytes.length = resultLength →
          (onMachine (Machine.writeUser addr bytes) : Action (Desk B) _).Uniform (TwinsAt c)
            (TwinsAt c) := by
        intro bytes hlength
        apply uniform_onMachine
        apply Machine.uniform_writeUser hfits hlength
      cases answer with
      | ok scores =>
        apply hstore
        rw [resultBytes, List.length_map, List.length_range]
      | error e =>
        apply Uniform.bind (uniform_log _ _)
        intro _
        apply Uniform.of_gets
        · rintro d _ ⟨⟨machine, rfl⟩, -⟩
          rfl
        · intro d _ _
          apply hstore
          apply List.length_replicate

theorem uniform_infer (ptr length : UInt32) :
  (infer ptr length : Action (Desk B) _).Uniform (TwinsAt c) (TwinsAt c)
  := by
  rw [infer]
  apply Uniform.of_gets
  · rintro d _ ⟨⟨machine, rfl⟩, -⟩
    rfl
  · rintro d _ ⟨-, ⟨hwindow, hdelivery⟩, -⟩
    cases hcheck : d.checkInfer ptr length with
    | error r => apply uniform_pure
    | ok u =>
      obtain ⟨hinput, hfits⟩ := checkInfer_eq_ok_iff.mp hcheck
      rw [hwindow] at hinput hfits
      rw [hdelivery] at hfits
      apply Uniform.bind (uniform_log _ _)
      intro _
      apply Uniform.bind
      · apply uniform_profiled
        apply Uniform.bind
        · apply uniform_onMachine (Machine.uniform_readUser hinput)
        · intro input
          apply uniform_consult
      · intro answer
        apply Uniform.bind (uniform_deliver hfits answer)
        intro _
        apply uniform_pure

theorem uniform_readCounters (ptr length : UInt32) :
  (readCounters ptr length : Action (Desk B) _).Uniform (TwinsAt c) (TwinsAt c)
  := by
  rw [readCounters]
  apply Uniform.bind (uniform_onMachine Machine.uniform_snapshot)
  intro s
  apply Uniform.bind (uniform_log _ _)
  intro _
  split
  · apply uniform_pure
  · apply Uniform.of_gets
    · rintro d _ ⟨⟨machine, rfl⟩, -⟩
      rfl
    · rintro d _ ⟨-, ⟨hwindow, -⟩, -⟩
      cases hcheck : d.checkCounters ptr length with
      | error r => apply uniform_pure
      | ok u =>
        obtain ⟨-, hbuffer⟩ := checkCounters_eq_ok_iff.mp hcheck
        rw [hwindow] at hbuffer
        apply Uniform.bind
        · apply uniform_onMachine
          apply Machine.uniform_writeUser hbuffer rfl
        · intro _
          apply uniform_pure

theorem uniform_dispatch (call : Call) (arg0 arg1 : UInt32) :
  (dispatch call arg0 arg1 : Action (Desk B) _).Uniform (TwinsAt c) (TwinsAt c)
  := by
  cases call with
  | infer =>
    apply Uniform.bind (uniform_infer arg0 arg1)
    intro _
    apply uniform_pure
  | putByte =>
    apply Uniform.bind (uniform_onLine _)
    intro _
    apply uniform_pure
  | getByte =>
    apply Uniform.bind (uniform_onLine _)
    intro _
    apply uniform_pure
  | readCounters =>
    apply Uniform.bind (uniform_readCounters arg0 arg1)
    intro _
    apply uniform_pure

theorem uniform_settleFrame (call : Call) (frame : Registers)
    (answer : Except Rejection (Option UInt32)) :
  (settleFrame call frame answer).Uniform (Over c R) (Over c R)
  := by
  rcases answer with r | _ | v
  · apply Uniform.bind (uniform_log _ _)
    intro _
    apply uniform_pure
  · apply uniform_pure
  · apply uniform_pure

/-- Serving a call does the same on twins. -/
theorem uniform_serve (frame : Registers) :
  (serve frame : Action (Desk B) _).Uniform (TwinsAt c) (Twins c)
  := by
  have hleave : ∀ d e : Desk B, TwinsAt c d e → Twins c d e := fun d e h =>
    h.mono fun _ _ hmachine => hmachine.1
  rw [serve]
  cases Call.ofId? frame.request.id with
  | none =>
    apply Uniform.of_gets
    · rintro d _ ⟨⟨machine, rfl⟩, -, ⟨⟨memory, rfl⟩, -⟩, -⟩
      rfl
    · intro d _ _
      apply (uniform_pure _).mono hleave
  | some call =>
    apply Uniform.andThen (uniform_log _ _) _ hleave
    intro _
    apply Uniform.andThen (uniform_dispatch _ _ _) _ hleave
    intro answer
    apply Uniform.andThen (uniform_settleFrame _ _ _) _ hleave
    intro frame
    apply Uniform.andThen (uniform_onMachine Machine.uniform_skipInstruction) _ fun _ _ h => h
    intro _
    apply Uniform.bind
    · apply uniform_onMachine
      apply uniform_modify
      intro m n htwins
      apply htwins.change fun _ _ => rfl
    · intro _
      apply uniform_pure

end Desk

end SandboxMonitor
