import SandboxMonitor.Monitor.Basic
import SandboxMonitor.Proofs.Action.Mirroring
import SandboxMonitor.Proofs.Hart.PackedBank
import SandboxMonitor.Proofs.Protection.Installation

/-!
# Packed registers as separate entries

`PackedBank.unpacked` forgets how the entries are packed: it is the bank that keeps each of the
sixteen entries by itself, on hardware on which only a lock stops a write.  Writing commutes
with unpacking (`PackedBank.unpacked_write`), so nothing that uses the registers through their
entries can tell the two banks apart: not a sequence of accesses, not an installation and not
the arming of a monitor (`PackedBank.unpacked_indistinguishable`).
-/

namespace SandboxMonitor

open SandboxMonitor.Action

namespace PackedBank

/-! ### Sixteen separate entries -/

/-- The bank that keeps each of the sixteen entries by itself. -/
def unpacked (b : PackedBank) : RegisterBank := { RegisterBank.clear size with entries := b.entry }

theorem addrFrozen_unpacked (b : PackedBank) {i : Nat} (hopen : (b.entry i).isLocked = false) :
  b.unpacked.addrFrozen i = b.addrFrozen i
  := by
  rw [addrFrozen, hopen, Bool.false_or]
  rfl

theorem locksOnly_unpacked (b : PackedBank) :
  b.unpacked.LocksOnly
  := ⟨rfl, rfl, rfl⟩

/-- Writing to the packed registers is writing to one of the separate entries. -/
theorem unpacked_write (b : PackedBank) {i : Nat} (e : Entry) (hi : i < 16) :
  (b.write i e).unpacked = b.unpacked.write i e
  := by
  have hentries : (b.write i e).entry = (b.unpacked.write i e).entries := by
    funext j
    rw [entry_write b e hi]
    cases hlocked : (b.entry i).isLocked with
    | true =>
      rw [RegisterBank.write_of_isLocked b.unpacked e hlocked]
      simp [unpacked]
    | false =>
      have hwrite : b.unpacked.write i e = b.unpacked.put i (b.unpacked.settled i e) := by
        simp [RegisterBank.write, unpacked, RegisterBank.clear, hlocked]
      rw [hwrite, b.locksOnly_unpacked.settled_eq, RegisterBank.entries_put,
        addrFrozen_unpacked b hlocked]
      simp [unpacked]
  rw [unpacked, hentries, RegisterBank.write]
  split <;> rfl

end PackedBank

/-! ### Looking at a bank -/

namespace ProtectionBank

variable {B C : Type} [ProtectionBank B] [ProtectionBank C] {b : B} {c : C}

theorem firstLocked?_congr (h : ∀ i, entry b i = entry c i) (first : Nat) (es : List Entry) :
  firstLocked? b first es = firstLocked? c first es
  := by
  induction es generalizing first with
  | nil => rfl
  | cons e rest ih => rw [firstLocked?, firstLocked?, h, ih]

theorem firstMismatch?_congr (h : ∀ i, entry b i = entry c i) (first : Nat) (es : List Entry) :
  firstMismatch? b first es = firstMismatch? c first es
  := by
  induction es generalizing first with
  | nil => rfl
  | cons e rest ih => rw [firstMismatch?, firstMismatch?, h, ih]

theorem refusal?_congr (hcount : entryCount b = entryCount c) (h : ∀ i, entry b i = entry c i)
    (plan : Plan) :
  refusal? b plan = refusal? c plan
  := by
  rw [refusal?, refusal?, available, available, hcount, firstLocked?_congr h]

theorem readback?_congr (h : ∀ i, entry b i = entry c i) (plan : Plan) :
  readback? b plan = readback? c plan
  := by
  rw [readback?, readback?, firstMismatch?_congr h]
  simp only [h]

end ProtectionBank

/-! ### Installing on a bank -/

namespace PackedBank

open ProtectionBank (available refusal?_congr readback?_congr)

theorem mirrors_writeEntry {i : Nat} (hi : i < 16) (e : Entry) :
  Mirrors unpacked (writeEntry i e) (writeEntry i e)
  := by
  apply (mirrors_emit _).bind
  intro _
  apply mirrors_modify
  intro b
  exact (b.unpacked_write e hi).symm

theorem mirrors_writeEntries {first : Nat} {es : List Entry} (h : first + es.length ≤ 16) :
  Mirrors unpacked (writeEntries first es) (writeEntries first es)
  := by
  induction es generalizing first with
  | nil => apply mirrors_pure
  | cons e rest ih =>
    rw [List.length_cons] at h
    apply (mirrors_writeEntry (by omega) e).bind
    intro _
    apply ih (by omega)

theorem mirrors_clearStale {i : Nat} (hi : i < 16) :
  Mirrors unpacked (clearStale i) (clearStale i)
  := by
  apply mirrors_state_bind
  intro b
  apply (mirrors_pure ()).ite
  apply (mirrors_log _ _).ite
  apply (mirrors_log _ _).bind
  intro _
  apply mirrors_writeEntry hi

theorem mirrors_sweep {first count : Nat} (h : first + count ≤ 16) :
  Mirrors unpacked (sweep first count) (sweep first count)
  := by
  induction count generalizing first with
  | zero => apply mirrors_pure
  | succ count ih =>
    apply (mirrors_clearStale (by omega)).bind
    intro _
    apply ih (by omega)

theorem mirrors_install (plan : Plan) :
  Mirrors unpacked (install plan) (install plan)
  := by
  apply mirrors_state_bind
  intro b
  have hrefusal := refusal?_congr (b := b.unpacked) (c := b) rfl (fun _ => rfl) plan
  rw [hrefusal]
  cases ProtectionBank.refusal? b plan with
  | some e => apply mirrors_pure
  | none =>
    have hfits := plan.fits
    apply (mirrors_writeEntries (by rw [Plan.capacity] at hfits; omega)).bind
    intro _
    apply mirrors_state_bind
    intro written
    have hreadback := readback?_congr (b := written.unpacked) (c := written) (fun _ => rfl) plan
    rw [hreadback]
    cases ProtectionBank.readback? written plan with
    | some e => apply mirrors_pure
    | none =>
      have havailable : available written = 16 := rfl
      apply (mirrors_sweep _).bind
      · intro _
        apply mirrors_pure
      · rw [Plan.size, havailable]
        rw [Plan.capacity] at hfits
        omega

theorem mirrors_warnIfDegraded (ws : Windows) :
  Mirrors unpacked (warnIfDegraded ws) (warnIfDegraded ws)
  := by
  rw [warnIfDegraded, warnIfDegraded]
  cases ws.isolation with
  | split => apply mirrors_pure
  | degraded => apply mirrors_log

theorem mirrors_installLayout (layout : Layout) :
  Mirrors unpacked (installLayout layout) (installLayout layout)
  := by
  rw [installLayout, installLayout]
  cases layout.windows with
  | error e => apply mirrors_pure
  | ok windows =>
    dsimp only
    cases windows.plan with
    | error e => apply mirrors_pure
    | ok plan =>
      apply (mirrors_install plan).bind
      intro answer
      cases answer with
      | error e => apply mirrors_pure
      | ok _ =>
        apply (mirrors_warnIfDegraded windows).bind
        intro _
        apply (mirrors_log _ _).bind
        intro _
        apply mirrors_pure

end PackedBank

/-! ### Arming a monitor -/

section MapBank

variable {B C : Type}

/-- The machine with another bank. -/
def Machine.mapBank (f : B → C) (m : Machine B) : Machine C := { m with bank := f m.bank }

/-- The desk with another bank in its machine. -/
def Desk.mapBank (f : B → C) (d : Desk B) : Desk C := { d with machine := d.machine.mapBank f }

/-- The monitor with another bank in its machine. -/
def Monitor.mapBank (f : B → C) (m : Monitor B) : Monitor C := { m with desk := m.desk.mapBank f }

theorem Monitor.mirrors_onBank {α : Type} {f : B → C} {a : Action B α} {a' : Action C α}
    (h : Mirrors f a a') :
  Mirrors (mapBank f) (onMachine (Machine.onBank a)) (onMachine (Machine.onBank a'))
  := by
  have hmachine : Mirrors (Machine.mapBank f) (Machine.onBank a) (Machine.onBank a') :=
    h.on (fun _ => rfl) (fun _ _ => rfl)
  have hdesk : Mirrors (Desk.mapBank f) (Desk.onMachine (Machine.onBank a))
      (Desk.onMachine (Machine.onBank a')) :=
    hmachine.on (fun _ => rfl) (fun _ _ => rfl)
  change Mirrors (mapBank f) (onDesk (Desk.onMachine (Machine.onBank a)))
    (onDesk (Desk.onMachine (Machine.onBank a')))
  exact hdesk.on (fun _ => rfl) (fun _ _ => rfl)

@[simp]
theorem Monitor.phase_mapBank (f : B → C) (m : Monitor B) :
  (m.mapBank f).phase = m.phase
  := rfl

@[simp]
theorem Monitor.installed_mapBank (f : B → C) (m : Monitor B) :
  (m.mapBank f).installed = m.installed
  := rfl

@[simp]
theorem Monitor.layout_mapBank (f : B → C) (m : Monitor B) :
  (m.mapBank f).layout = m.layout
  := rfl

@[simp]
theorem Monitor.checkLayout_mapBank (f : B → C) (m : Monitor B) :
  (m.mapBank f).checkLayout = m.checkLayout
  := rfl

end MapBank

namespace PackedBank

theorem mirrors_adopt (installed : Installed) :
  Mirrors (Monitor.mapBank unpacked) (Monitor.adopt installed) (Monitor.adopt installed)
  := by
  apply Mirrors.bind
  · apply mirrors_modify
    intro m
    change (if m.explicitWindow = true then _ else _) = Monitor.mapBank unpacked (ite _ _ _)
    split <;> rfl
  intro _
  apply Mirrors.bind
  · apply mirrors_gets
    intro m
    rfl
  intro text
  apply (mirrors_log _ _).bind
  intro _
  apply mirrors_modify
  intro m
  rfl

theorem mirrors_arm :
  Mirrors (Monitor.mapBank unpacked) Monitor.arm Monitor.arm
  := by
  apply mirrors_state_bind
  intro m
  simp only [Monitor.phase_mapBank, Monitor.installed_mapBank, Monitor.layout_mapBank,
    Monitor.checkLayout_mapBank]
  apply (mirrors_pure _).ite
  cases m.installed with
  | some installed => apply mirrors_pure
  | none =>
    cases m.checkLayout with
    | error e => apply mirrors_pure
    | ok _ =>
      apply (Monitor.mirrors_onBank (mirrors_installLayout m.layout)).bind
      intro answer
      cases answer with
      | error e => apply mirrors_pure
      | ok installed =>
        apply (mirrors_adopt installed).bind
        intro _
        apply mirrors_pure

/-! ### Sequences of accesses -/

end PackedBank

/-- An access to one of the first sixteen entries of a bank. -/
inductive BankAccess where
  /-- Reads a configuration octet. -/
  | octet (index : Fin 16)
  /-- Reads an address register. -/
  | address (index : Fin 16)
  | write (index : Fin 16) (e : Entry)

/-- What a sequence of accesses to a bank reads. -/
def ProtectionBank.observe {B : Type} [ProtectionBank B] (b : B) :
    List BankAccess → List (UInt8 ⊕ UInt32)
  | [] => []
  | .octet i :: rest => .inl (entry b i).cfg :: observe b rest
  | .address i :: rest => .inr (entry b i).addr :: observe b rest
  | .write i e :: rest => observe (write b i e) rest

namespace PackedBank

open ProtectionBank (observe)

theorem observe_unpacked (b : PackedBank) (accesses : List BankAccess) :
  observe b accesses = observe b.unpacked accesses
  := by
  induction accesses generalizing b with
  | nil => rfl
  | cons access rest ih =>
    cases access with
    | octet i =>
      rw [observe, observe, ih]
      rfl
    | address i =>
      rw [observe, observe, ih]
      rfl
    | write i e =>
      rw [observe, observe, ih]
      congr 1
      exact b.unpacked_write e i.isLt

/-- The packed registers cannot be told from sixteen separate entries with the same lock rules:
every sequence of accesses reads the same, a write to an entry changes no other entry, and
installing a plan, installing a layout and arming a monitor give the same results. -/
theorem unpacked_indistinguishable :
  (∀ b : PackedBank, b.unpacked.entryCount = 16 ∧ b.unpacked.LocksOnly
      ∧ ∀ accesses, observe b accesses = observe b.unpacked accesses)
    ∧ (∀ (b : PackedBank) (i j : Fin 16) (e : Entry), j ≠ i → (b.write i e).entry j = b.entry j)
    ∧ (∀ plan, Mirrors unpacked (install plan) (install plan))
    ∧ (∀ layout, Mirrors unpacked (installLayout layout) (installLayout layout))
    ∧ Mirrors (Monitor.mapBank unpacked) Monitor.arm Monitor.arm
  := by
  refine ⟨?_, ?_, mirrors_install, mirrors_installLayout, mirrors_arm⟩
  · intro b
    exact ⟨rfl, b.locksOnly_unpacked, b.observe_unpacked⟩
  · intro b i j e hne
    rw [b.entry_write e i.isLt]
    apply if_neg
    rintro ⟨heq, -⟩
    apply hne (Fin.ext heq)

/-- Registers whose entries 4 to 7 share a word; 4 is locked, and so is 7, as a range that starts
at the address of 6. -/
def neighbours : PackedBank :=
  ((clear.put 4 ⟨0x9B, 0x200001FF⟩).put 6 ⟨0x00, 0x04000000⟩).put 7 ⟨0x8B, 0x04000040⟩

/-- Writing to an entry leaves its neighbours alone, whether they are locked or not. -/
theorem unpacked_indistinguishable_neighbours :
  (neighbours.entry 4).isLocked = true ∧ (neighbours.entry 6).isLocked = false
    ∧ (neighbours.entry 7).freezesBelow = true
    ∧ ∀ j : Fin 16, j ≠ 5 → (neighbours.write 5 ⟨0x1F, 3⟩).entry j = neighbours.entry j
  := by
  refine ⟨by decide, by decide, by decide, ?_⟩
  intro j hne
  apply unpacked_indistinguishable.2.1 neighbours 5 j ⟨0x1F, 3⟩ hne

end PackedBank

end SandboxMonitor
