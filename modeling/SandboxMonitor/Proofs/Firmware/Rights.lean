import SandboxMonitor.Firmware.Program
import SandboxMonitor.Proofs.Hart.Execution
import SandboxMonitor.Proofs.Machine.Separation
import SandboxMonitor.Proofs.Protection.Locking

/-!
# The rights of the program

The layout of the firmware, once it is in force, grants user mode the program and its buffer
(`Firmware.grants_of_inForce`).  So a hart that is set up for the sandbox, `Firmware.Ready`, may
fetch every step of the program and store into the buffer, and of the steps that access nothing
else only a call interrupts the program (`Firmware.Ready.interruption?_eq`).
-/

namespace SandboxMonitor

open ProtectionBank

/-- In user mode a hart may make an access to some of the bytes that user mode may access so. -/
theorem Hart.permits_of_userMayAll {h : Hart} {access : Access} (hmode : h.core.mode = .user)
    {first stop : Nat} (hmay : UserMayAll h.machine.bank access.kind first stop)
    (hlo : first ≤ access.addr.toNat) (hhi : access.addr.toNat + access.length ≤ stop) :
  h.permits access = true
  := by
  obtain ⟨index, hdecides⟩ := hmay
  rw [permits, List.all_eq_true]
  intro i hi
  rw [List.mem_range] at hi
  obtain ⟨hfirst, -⟩ := hdecides access.addr.toNat hlo (by omega)
  obtain ⟨hbyte, hallows⟩ := hdecides (access.addr.toNat + i) (by omega) (by omega)
  rw [may, hmode]
  dsimp only
  rw [userMay, hbyte, hfirst]
  simp only [decide_true, Bool.true_and]
  apply hallows

namespace Firmware

/-! ### What the layout grants -/

/-- User mode may read and execute the program, and read and write its buffer. -/
structure Grants (b : PackedBank) : Prop where
  code : ∀ kind, kind = .read ∨ kind = .execute →
    UserMayAll b kind sandboxBase.toNat (sandboxBase.toNat + codeLength.toNat)
  buffer : ∀ kind, kind = .read ∨ kind = .write →
    UserMayAll b kind userBuffer.toNat (userBuffer.toNat + userBufferLength.toNat)

/-- A bank in which the regions of the layout are in force grants what the program needs. -/
theorem grants_of_inForce {b : PackedBank} {regions : Installed}
    (hwindows : layout.windows = .ok regions.windows) (hforce : regions.InForce b) :
  Grants b
  := by
  have hrounded := Layout.rounded_of_windows hwindows
  obtain ⟨⟨hcode, hdata⟩, -⟩ := hrounded.insideRegions
  constructor
  · intro kind hkind
    have hallows : regions.windows.code.permissions.allows kind = true := by
      cases hrounded.memory with
      | split hregion =>
        rw [(Window.region_eq_ok hregion).2.1, Permissions.allows_readExecute_iff]
        apply hkind
    apply hforce.userMayAll List.mem_cons_self hallows
    · apply UInt32.le_iff_toNat_le.mp hcode.1
    · apply hcode.2
  · intro kind hkind
    apply hforce.userMayAll hrounded.data_mem_regions (hrounded.data_allows hkind)
    · apply UInt32.le_iff_toNat_le.mp hdata.1
    · apply Nat.le_trans _ hdata.2
      decide

/-- The hart is set up for the sandbox: it is in user mode, traps go to the trap vector, which
finds its stack, and the program and its buffer are granted. -/
structure Ready (c : Core) (b : PackedBank) : Prop where
  mode : c.mode = .user
  vector : c.mtvec = trapVector
  scratch : c.mscratch = trapStackTop
  grants : Grants b

/-! ### Steps that are not interrupted -/

/-- Addresses of steps do not wrap. -/
theorem toNat_address {index : Nat} (h : index < Program.steps.length) :
  (Program.address index).toNat = sandboxBase.toNat + 4 * index
  := by
  have hcount : Program.steps.length = 32 := rfl
  have hbase : sandboxBase.toNat = 0x80020000 := rfl
  apply toNat_add_ofNat
  omega

namespace Ready

variable {c : Core} {m : Machine PackedBank} {b : PackedBank} {index : Nat}

theorem write (h : Ready c b) {r : Reg} {w : UInt32} :
  Ready (c.write r w) b
  where
  mode := by rw [Core.mode_write, h.mode]
  vector := by rw [Core.mtvec_write, h.vector]
  scratch := by rw [Core.mscratch_write, h.scratch]
  grants := h.grants

theorem permits_fetch (h : Ready c m.bank) (hindex : index < Program.steps.length) :
  Hart.permits ⟨c, m⟩ (.fetch (Program.address index)) = true
  := by
  have hcount : Program.steps.length = 32 := rfl
  have hlength : codeLength.toNat = 128 := rfl
  have haddr := toNat_address hindex
  have hlo : sandboxBase.toNat ≤ (Program.address index).toNat := by omega
  have hhi : (Program.address index).toNat + 4 ≤ sandboxBase.toNat + codeLength.toNat := by omega
  have hmay := h.grants.code .execute (.inr rfl)
  apply Hart.permits_of_userMayAll (h := ⟨c, m⟩) h.mode hmay hlo hhi

theorem permits_store (h : Ready c m.bank) {addr : UInt32} (hlo : userBuffer.toNat ≤ addr.toNat)
    (hhi : addr.toNat < userBuffer.toNat + userBufferLength.toNat) :
  Hart.permits ⟨c, m⟩ ⟨.write, addr, 1⟩ = true
  := Hart.permits_of_userMayAll h.mode (h.grants.buffer .write (.inr rfl)) hlo hhi

/-- A step is interrupted only when it is a call, if the access that it makes is permitted. -/
theorem interruption?_eq (h : Ready c m.bank) {step : Step}
    (hstep : Program.steps[index]? = some step)
    (haccess : ∀ access ∈ step.access? c, Hart.permits ⟨c, m⟩ access = true) :
  Program.interruption? index ⟨c, m⟩ = if step = .call then some .call else none
  := by
  have hfetch := h.permits_fetch (List.getElem?_eq_some_iff.mp hstep).1
  have hpermits : ∀ access ∈ Program.accesses c index, Hart.permits ⟨c, m⟩ access = true := by
    rw [Program.accesses, hstep, Option.bind_some, List.forall_mem_cons]
    use hfetch
    intro access hmem
    apply haccess access (Option.mem_toList.mp hmem)
  have hnone : (Program.accesses c index).find? (fun access => !Hart.permits ⟨c, m⟩ access)
      = none := by
    rw [List.find?_eq_none]
    intro access hmem
    rw [hpermits access hmem]
    decide
  rw [Program.interruption?]
  dsimp only
  rw [hnone, hstep]
  simp only [Option.some.injEq]

end Ready

end Firmware

end SandboxMonitor
