import SandboxMonitor.Proofs.Action.Rules
import SandboxMonitor.Service.Desk

/-!
# The footprint of a service

Whatever the sandbox asks for, a service requests memory of the sandbox only for buffers
that the data window serves: they are not empty and the window admits them.
`Desk.confined_serve` says so of the answer to a call, and also that the answer leaves the
window, the delivery and the protection registers as they are.
-/

namespace SandboxMonitor

/-- The event is no request for sandbox memory, or a request for a buffer that is allowed. -/
def Event.RequestsOnly (allowed : UInt32 → UInt32 → Prop) : Event → Prop
  | .read addr length => allowed addr length
  | .write addr length => allowed addr length
  | _ => True

theorem Event.RequestsOnly.mono {allowed allowed' : UInt32 → UInt32 → Prop} {e : Event}
    (h : e.RequestsOnly allowed) (hle : ∀ addr length, allowed addr length → allowed' addr length) :
  e.RequestsOnly allowed'
  := by
  cases e with
  | read addr length => apply hle addr length h
  | write addr length => apply hle addr length h
  | _ => trivial

/-- The buffers that a window lets a service have. -/
def DataWindow.Serves (w : DataWindow) (addr length : UInt32) : Prop :=
  w.admits addr length = true ∧ length ≠ 0

/-- Whether a window has room for what a delivery stores. -/
def Delivery.FitsIn (w : DataWindow) : Delivery → Prop
  | .forward => True
  | .resultBuffer addr => w.Serves addr (.ofNat resultLength)

/-! ### What the checks accept -/

theorem DataWindow.check_eq_ok_iff {w : DataWindow} {ptr length : UInt32} :
  w.check ptr length = .ok () ↔ w.admits ptr length = true
  := by
  rw [check]
  split
  · rename_i h
    simp [h]
  · rename_i h
    simp [h]

namespace Desk

variable {B : Type} {d : Desk B} {ptr length : UInt32}

theorem checkDelivery_eq_ok_iff :
  d.checkDelivery = .ok () ↔ d.delivery.FitsIn d.window
  := by
  rw [checkDelivery]
  cases d.delivery with
  | forward => simp [Delivery.FitsIn]
  | resultBuffer addr =>
    have hpositive : UInt32.ofNat resultLength ≠ 0 := by decide
    simp only [Delivery.FitsIn, DataWindow.Serves, hpositive, ne_eq, not_false_eq_true,
      and_true, ← DataWindow.check_eq_ok_iff]
    cases d.window.check addr (.ofNat resultLength) with
    | error r => constructor <;> intro h <;> cases h
    | ok u => constructor <;> intro _ <;> rfl

/-- An inference is accepted when the window serves its input and has room for its result. -/
theorem checkInfer_eq_ok_iff :
  d.checkInfer ptr length = .ok ()
    ↔ d.window.Serves ptr length ∧ d.delivery.FitsIn d.window
  := by
  rw [checkInfer, ← checkDelivery_eq_ok_iff, DataWindow.Serves, ← DataWindow.check_eq_ok_iff]
  split
  · rename_i hempty
    simp [hempty]
  · rename_i hpositive
    cases d.window.check ptr length with
    | error r => simp
    | ok u => simp [hpositive]

/-- A counter buffer is accepted when it is long enough and the window serves its front. -/
theorem checkCounters_eq_ok_iff :
  d.checkCounters ptr length = .ok ()
    ↔ counterLength ≤ length.toNat ∧ d.window.Serves ptr (.ofNat counterLength)
  := by
  have hpositive : UInt32.ofNat counterLength ≠ 0 := by decide
  rw [checkCounters, DataWindow.Serves, and_iff_left hpositive, ← DataWindow.check_eq_ok_iff]
  split
  · rename_i hshort
    simp [Nat.not_le.mpr hshort]
  · rename_i hlong
    simp [hlong, Nat.le_of_not_lt]

end Desk

/-! ### The accesses of the machine -/

namespace Machine

open SandboxMonitor.Action

variable {B : Type} {P : Machine B → Prop} {E : Event → Prop} {bank : B}

/-- The machine has the given protection registers. -/
def HasBank (bank : B) (m : Machine B) : Prop := m.bank = bank

theorem confined_peek (addr : UInt32) (length : Nat) :
  (peek addr length : Action (Machine B) _).Confined P E
  := by
  rw [peek]
  apply Confined.bind (confined_gets _)
  intro bytes
  cases bytes with
  | none => apply confined_stop
  | some bytes => apply confined_pure

theorem confined_poke (addr : UInt32) (bytes : List UInt8) :
  (poke addr bytes : Action (Machine B) _).Confined (HasBank bank) E
  := by
  intro filter m hm
  rw [Action.run, poke]
  split
  · use hm, List.forall_mem_nil E
  · use hm, List.forall_mem_nil E

theorem confined_readUser {addr length : UInt32} (h : E (.read addr length)) :
  (readUser addr length : Action (Machine B) _).Confined P E
  := by
  rw [readUser]
  apply Confined.bind
  · apply confined_emit h
  · intro _
    apply confined_peek

theorem confined_writeUser {addr : UInt32} {bytes : List UInt8}
    (h : E (.write addr (.ofNat bytes.length))) :
  (writeUser addr bytes : Action (Machine B) _).Confined (HasBank bank) E
  := by
  rw [writeUser]
  apply Confined.bind
  · apply confined_emit h
  · intro _
    apply confined_poke

theorem confined_readCounter (c : Counter)
    (h : ∀ register value, E (.counter register value)) :
  (readCounter c : Action (Machine B) _).Confined (HasBank bank) E
  := by
  intro filter m hm
  use hm
  intro e he
  obtain ⟨pass, -, he⟩ := List.mem_flatMap.mp he
  simp only [List.mem_cons, List.not_mem_nil, or_false] at he
  rcases he with rfl | rfl | rfl <;> apply h

theorem confined_snapshot (h : ∀ register value, E (.counter register value)) :
  (snapshot : Action (Machine B) _).Confined (HasBank bank) E
  := by
  rw [snapshot]
  apply Confined.bind (confined_readCounter _ h)
  intro _
  apply Confined.bind (confined_readCounter _ h)
  intro _
  apply confined_pure

theorem confined_skipInstruction :
  (skipInstruction : Action (Machine B) _).Confined (HasBank bank) E
  := by
  rw [skipInstruction]
  apply Confined.bind (confined_gets _)
  intro addr
  apply Confined.bind
  · rw [fetchHalfword]
    apply Confined.bind (confined_peek _ _)
    intro _
    apply confined_pure
  · intro _
    apply confined_modify
    intro m hm
    apply hm

end Machine

/-! ### The services -/

namespace Desk

open SandboxMonitor.Action

variable {B : Type} {α : Type} {E : Event → Prop} {w : DataWindow} {delivery : Delivery} {bank : B}

/-- The desk has the given window and delivery. -/
def Ruled (w : DataWindow) (delivery : Delivery) (d : Desk B) : Prop :=
  d.window = w ∧ d.delivery = delivery

/-- The desk has the given window and delivery, and its machine the given protection
registers. -/
def Held (w : DataWindow) (delivery : Delivery) (bank : B) (d : Desk B) : Prop :=
  d.Ruled w delivery ∧ d.machine.HasBank bank

theorem confined_onMachine {a : Action (Machine B) α}
    (ha : a.Confined (Machine.HasBank bank) E) :
  (onMachine a).Confined (Held w delivery bank) E
  := by
  apply ha.on
  · intro d h
    apply h.2
  · intro d m h hm
    use h.1, hm

theorem confined_onLine {a : Action SerialLine α} (ha : a.Confined (fun _ => True) E) :
  (onLine a : Action (Desk B) α).Confined (Held w delivery bank) E
  := by
  apply ha.on
  · intro _ _
    trivial
  · intro d line h _
    apply h

/-- The engine and the protocol are used without a request for sandbox memory. -/
theorem confined_consult (input : List UInt8) :
  (consult input : Action (Desk B) _).Confined (Held w delivery bank)
    (Event.RequestsOnly w.Serves)
  := by
  rw [consult]
  apply Confined.bind (confined_gets _)
  intro model
  apply Confined.bind
  · apply confined_emit
    trivial
  · intro _
    apply Confined.bind
    · apply confined_modify
      intro d h
      apply h
    · intro _
      apply confined_pure

theorem confined_profiled {a : Action (Desk B) α}
    (ha : a.Confined (Held w delivery bank) (Event.RequestsOnly w.Serves)) :
  (profiled a).Confined (Held w delivery bank) (Event.RequestsOnly w.Serves)
  := by
  rw [profiled]
  apply Confined.bind (confined_keeps _)
  intro profiles
  cases profiles with
  | false => apply ha
  | true =>
    apply Confined.bind (confined_onMachine (Machine.confined_snapshot fun _ _ => trivial))
    intro earlier
    apply Confined.bind ha
    intro v
    apply Confined.bind (confined_onMachine (Machine.confined_snapshot fun _ _ => trivial))
    intro later
    apply Confined.bind (confined_log _ trivial)
    intro _
    apply confined_pure

theorem confined_reply (answer : Except InferenceError (List Int8)) :
  (reply answer : Action (Desk B) _).Confined (Held w delivery bank)
    (Event.RequestsOnly w.Serves)
  := by
  have hrespond : ∀ line, (emit (.respond line) >>= fun _ => emit .flush :
      Action (Desk B) _).Confined (Held w delivery bank) (Event.RequestsOnly w.Serves) := by
    intro line
    apply Confined.bind (confined_emit trivial)
    intro _
    apply confined_emit
    trivial
  unfold reply
  cases answer with
  | error e =>
    apply Confined.bind (confined_log _ trivial)
    intro _
    apply hrespond
  | ok scores =>
    dsimp only
    split
    · apply hrespond
    · apply Confined.bind (confined_log _ trivial)
      intro _
      apply hrespond

/-- A result is stored only where the window has room for it. -/
theorem confined_deliver (hfits : delivery.FitsIn w)
    (answer : Except InferenceError (List Int8)) :
  (deliver answer : Action (Desk B) _).Confined (Held w delivery bank)
    (Event.RequestsOnly w.Serves)
  := by
  rw [deliver]
  apply Confined.of_gets
  rintro d ⟨⟨-, rfl⟩, -⟩
  cases hdelivery : d.delivery with
  | forward => apply confined_reply
  | resultBuffer addr =>
    rw [hdelivery] at hfits
    have hstore : ∀ bytes : List UInt8, bytes.length = resultLength →
        (onMachine (Machine.writeUser addr bytes) : Action (Desk B) _).Confined
          (Held w (.resultBuffer addr) bank) (Event.RequestsOnly w.Serves) := by
      intro bytes hlength
      apply confined_onMachine
      apply Machine.confined_writeUser
      rw [hlength]
      apply hfits
    cases answer with
    | ok scores =>
      apply hstore
      rw [resultBytes, List.length_map, List.length_range]
    | error e =>
      apply Confined.bind (confined_log _ trivial)
      intro _
      apply Confined.bind (confined_gets _)
      intro sentinel
      apply hstore
      apply List.length_replicate

theorem confined_infer (ptr length : UInt32) :
  (infer ptr length : Action (Desk B) _).Confined (Held w delivery bank)
    (Event.RequestsOnly w.Serves)
  := by
  rw [infer]
  apply Confined.of_gets
  rintro d ⟨⟨rfl, rfl⟩, -⟩
  cases hcheck : d.checkInfer ptr length with
  | error r => apply confined_pure
  | ok u =>
    obtain ⟨hinput, hfits⟩ := checkInfer_eq_ok_iff.mp hcheck
    apply Confined.bind (confined_log _ trivial)
    intro _
    apply Confined.bind
    · apply confined_profiled
      apply Confined.bind
      · apply confined_onMachine
        apply Machine.confined_readUser hinput
      · intro input
        apply confined_consult
    · intro answer
      apply Confined.bind (confined_deliver hfits answer)
      intro _
      apply confined_pure

theorem confined_readCounters (ptr length : UInt32) :
  (readCounters ptr length : Action (Desk B) _).Confined (Held w delivery bank)
    (Event.RequestsOnly w.Serves)
  := by
  rw [readCounters]
  apply Confined.bind (confined_onMachine (Machine.confined_snapshot fun _ _ => trivial))
  intro s
  apply Confined.bind (confined_log _ trivial)
  intro _
  split
  · apply confined_pure
  · apply Confined.of_gets
    rintro d ⟨⟨rfl, rfl⟩, -⟩
    cases hcheck : d.checkCounters ptr length with
    | error r => apply confined_pure
    | ok u =>
      obtain ⟨-, hbuffer⟩ := checkCounters_eq_ok_iff.mp hcheck
      apply Confined.bind
      · apply confined_onMachine
        apply Machine.confined_writeUser hbuffer
      · intro _
        apply confined_pure

/-- The serial line has nothing to do with sandbox memory. -/
theorem confined_send (byte : UInt8) :
  (SerialLine.send byte).Confined (fun _ => True) (Event.RequestsOnly w.Serves)
  := by
  rw [SerialLine.send]
  apply Confined.bind
  · apply confined_emit
    trivial
  · intro _
    apply confined_modify
    intro _ _
    trivial

theorem confined_receive :
  SerialLine.receive.Confined (fun _ => True) (Event.RequestsOnly w.Serves)
  := by
  rw [SerialLine.receive]
  apply Confined.bind (confined_gets _)
  intro queue
  cases queue with
  | cons byte rest =>
    apply Confined.bind
    · apply confined_modify
      intro _ _
      trivial
    · intro _
      apply Confined.bind (confined_emit trivial)
      intro _
      apply confined_pure
  | nil =>
    apply Confined.bind (confined_gets _)
    intro waits
    cases waits with
    | true => apply confined_stop
    | false =>
      apply Confined.bind (confined_emit trivial)
      intro _
      apply confined_pure

theorem confined_dispatch (call : Call) (arg0 arg1 : UInt32) :
  (dispatch call arg0 arg1 : Action (Desk B) _).Confined (Held w delivery bank)
    (Event.RequestsOnly w.Serves)
  := by
  cases call with
  | infer =>
    apply Confined.bind (confined_infer arg0 arg1)
    intro _
    apply confined_pure
  | putByte =>
    apply Confined.bind (confined_onLine (confined_send _))
    intro _
    apply confined_pure
  | getByte =>
    apply Confined.bind (confined_onLine confined_receive)
    intro _
    apply confined_pure
  | readCounters =>
    apply Confined.bind (confined_readCounters arg0 arg1)
    intro _
    apply confined_pure

/-- The answer to a call requests only buffers that the window serves, and keeps the window,
the delivery and the protection registers. -/
theorem confined_serve (frame : Registers) :
  (serve frame : Action (Desk B) _).Confined (Held w delivery bank) (Event.RequestsOnly w.Serves)
  := by
  rw [serve]
  cases Call.ofId? frame.request.id with
  | none =>
    apply Confined.bind (confined_gets _)
    intro _
    apply confined_pure
  | some call =>
    apply Confined.bind (confined_log _ trivial)
    intro _
    apply Confined.bind (confined_dispatch _ _ _)
    intro answer
    apply Confined.bind
    · rcases answer with r | v | _
      · apply Confined.bind (confined_log _ trivial)
        intro _
        apply confined_pure
      · apply confined_pure
      · apply confined_pure
    · intro _
      apply Confined.bind (confined_onMachine Machine.confined_skipInstruction)
      intro _
      apply Confined.bind
      · apply confined_onMachine
        apply confined_modify
        intro m hm
        apply hm
      · intro _
        apply confined_pure

end Desk

end SandboxMonitor
