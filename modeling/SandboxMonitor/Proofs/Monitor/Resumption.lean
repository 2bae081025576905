import SandboxMonitor.Proofs.Monitor.MemorySafety
import SandboxMonitor.Proofs.Service.Storing

/-!
# Where a call resumes

A call is to resume after the instruction that made it.  The size of that instruction is
looked up only after the service has run, and a service may store bytes: where it stores them
over the instruction, the size that is looked up is that of what was stored.
`Monitor.resumes_after_call_iff` says that this is the one case in which a call resumes at
another place, and that it takes a span that is both code and data.
-/

namespace SandboxMonitor

open SandboxMonitor.Action

variable {B : Type}

/-! ### Calls that change the size of their instruction -/

namespace Desk

variable {d : Desk B} {call : Call} {arg0 arg1 : UInt32}

/-- The call stores bytes over the instruction that makes it, and the instruction that is
there then has another size. -/
def Resizes (d : Desk B) (call : Call) (arg0 arg1 : UInt32) : Prop :=
  ∃ addr bytes, d.stored? call arg0 arg1 = some (addr, bytes)
    ∧ addr.toNat ≤ d.machine.mepc.toNat ∧ d.machine.mepc.toNat < addr.toNat + bytes.length
    ∧ (d.machine.memory.write addr bytes).instructionLength? d.machine.mepc
      ≠ d.machine.memory.instructionLength? d.machine.mepc

/-- Where an instruction can be fetched after a call, it could be before. -/
theorem isSome_instructionLength?_memoryAfter (addr : UInt32) :
  ((d.memoryAfter call arg0 arg1).instructionLength? addr).isSome
    = (d.machine.memory.instructionLength? addr).isSome
  := by
  rw [memoryAfter]
  split
  · apply Memory.isSome_instructionLength?_write
  · rfl

/-- Only by storing over an instruction does a call change its size. -/
theorem resizes_iff :
  d.Resizes call arg0 arg1
    ↔ (d.memoryAfter call arg0 arg1).instructionLength? d.machine.mepc
      ≠ d.machine.memory.instructionLength? d.machine.mepc
  := by
  rw [Resizes, memoryAfter]
  cases d.stored? call arg0 arg1 with
  | none => simp
  | some store =>
    obtain ⟨addr, bytes⟩ := store
    constructor
    · rintro ⟨_, _, hstored, -, -, hsize⟩
      cases hstored
      apply hsize
    · intro hsize
      use addr, bytes, rfl
      by_contra houtside
      apply hsize
      apply Memory.instructionLength?_write
      by_contra hreaches
      apply houtside
      use by omega, by omega, hsize

end Desk

/-! ### Traps that resume -/

namespace Monitor

variable {filter : LogFilter} {m m' : Monitor B}

theorem gives_onDesk {α : Type} {a : Action (Desk B) α} {v : α} :
  Gives filter m (onDesk a) v m' ↔ ∃ d, Gives filter m.desk a v d ∧ m' = { m with desk := d }
  := gives_on

/-- A call from user mode that resumes has been served. -/
theorem gives_serve_of_gives_handleTrap {frame frame' : Registers}
    (hcause : m.desk.machine.mcause = 8)
    (h : Gives filter m (handleTrap frame) (.resume, frame') m') :
  Gives filter m.trapped.desk (Desk.serve frame) (.ok frame') m'.desk
  := by
  by_cases hphase : m.phase = .halted
  · rw [handleTrap, gives_gets_bind, if_pos hphase] at h
    cases (gives_pure.mp h).1
  · rw [Gives, run_handleTrap_of_ne_halted filter frame hphase,
      route_eq_userCall_iff.mpr hcause] at h
    obtain ⟨reply, s, hanswer, hrest⟩ := gives_bind.mp h
    obtain ⟨_, t, hconclude, hpure⟩ := gives_bind.mp hrest
    obtain ⟨rfl, rfl⟩ := gives_pure.mp hpure
    obtain rfl := gives_modify.mp hconclude
    obtain ⟨served, u, hdesk, hreply⟩ := gives_bind.mp hanswer
    obtain ⟨d, hserve, rfl⟩ := gives_onDesk.mp hdesk
    cases served with
    | error fault => cases (gives_pure.mp hreply).1
    | ok frame'' =>
      obtain ⟨⟨⟩, rfl⟩ := gives_pure.mp hreply
      apply hserve

/-- A trap that is answered has been handled. -/
theorem gives_handleTrap [ProtectionBank B] {outcome : TrapOutcome} {frame frame' : Registers}
    (h : Gives filter m (Operation.trap frame).perform (.trapped outcome frame') m') :
  Gives filter m (handleTrap frame) (outcome, frame') m'
  := by
  cases Operation.answers_of_gives h with
  | trap htrap => apply htrap

variable [ProtectionBank B] {machine : Machine B} {line : SerialLine} {engine : Engine}
  {config : Config}

omit [ProtectionBank B] in
/-- Where code and data are apart, no call stores over an instruction in the code. -/
theorem combined_of_resizes (h : (ofConfig machine line engine config).Evolves m)
    {regions : Installed} (hregions : m.installed = some regions)
    (hfetch : regions.windows.code.contains m.desk.machine.mepc 2 = true) {call : Call}
    {arg0 arg1 : UInt32} (hresizes : m.desk.Resizes call arg0 arg1) :
  ∃ span peripheral, config.layout = .combined span peripheral
  := by
  obtain ⟨hwindows, hwithin, -⟩ := rules_of_evolves h hregions
  obtain ⟨addr, bytes, hstored, hlo, hhi, -⟩ := hresizes
  obtain ⟨hlength, hserves⟩ := Desk.serves_of_stored? hstored
  have hrounded := Layout.rounded_of_windows hwindows
  cases hlayout : config.layout with
  | combined span peripheral => use span, peripheral
  | split code data peripheral =>
    rw [hlayout] at hrounded
    cases hrounded.memory with
    | split _ _ hapart =>
      have hoverwritten := (hserves.inside hwithin).not_holds hapart hlo
        (Nat.lt_of_lt_of_eq hhi (congrArg _ hlength))
      rw [Region.contains, Bool.and_eq_true, decide_eq_true_eq, decide_eq_true_eq,
        UInt32.le_iff_toNat_le] at hfetch
      apply absurd _ hoverwritten
      constructor
      · apply hfetch.1
      · apply Nat.lt_of_lt_of_le _ hfetch.2
        apply Nat.lt_add_of_pos_right
        decide

/-- In every run, a call from the code that resumes does so right after its instruction, as
it was when the trap was taken, just when the service does not change the size of the
instruction.  It can do so only where one span is both code and data. -/
theorem resumes_after_call_iff {operations : List (Operation B)}
    {before after : List (Step B)} {s : Step B}
    (h : (ofConfig machine line engine config).trace filter operations = before ++ s :: after)
    {regions : Installed} (hregions : s.before.installed = some regions)
    {frame frame' : Registers} (hoperation : s.operation = .trap frame)
    (hcause : s.before.desk.machine.mcause = 8)
    (hfetch : regions.windows.code.contains s.before.desk.machine.mepc 2 = true)
    {call : Call} (hcall : Call.ofId? (frame.get .a7) = some call)
    (hresume : s.outcome.result = .ok (.trapped .resume frame')) :
  ∃ halfword, s.before.desk.machine.memory.halfword? s.before.desk.machine.mepc = some halfword
    ∧ (s.outcome.state.desk.machine.mepc
        = s.before.desk.machine.mepc + instructionLength halfword
      ↔ ¬ s.before.desk.Resizes call (frame.get .a0) (frame.get .a1))
    ∧ (s.before.desk.Resizes call (frame.get .a0) (frame.get .a1) →
      ∃ span peripheral, config.layout = .combined span peripheral)
  := by
  obtain ⟨hevolves, houtcome, -⟩ := trace_split h
  have hgives : Gives filter s.before (Operation.trap frame).perform (.trapped .resume frame')
      s.outcome.state := by
    rw [← hoperation, Gives, ← houtcome]
    exact ⟨hresume, rfl⟩
  obtain ⟨call', length, hcall', hlength, hmepc⟩ :=
    Desk.gives_serve (gives_serve_of_gives_handleTrap hcause (gives_handleTrap hgives))
  rw [hcall] at hcall'
  cases hcall'
  -- A trap only disables interrupts before the call is served.
  change (s.before.desk.memoryAfter call (frame.get .a0) (frame.get .a1)).instructionLength?
    s.before.desk.machine.mepc = some length at hlength
  change s.outcome.state.desk.machine.mepc = s.before.desk.machine.mepc + length at hmepc
  obtain ⟨halfword, hhalfword⟩ : ∃ halfword,
      s.before.desk.machine.memory.halfword? s.before.desk.machine.mepc = some halfword := by
    apply Option.isSome_iff_exists.mp
    rw [← Option.isSome_map (f := instructionLength)]
    apply (Desk.isSome_instructionLength?_memoryAfter _).symm.trans
    rw [hlength, Option.isSome_some]
  use halfword, hhalfword
  constructor
  · rw [hmepc, UInt32.add_right_inj, Desk.resizes_iff, hlength, Memory.instructionLength?,
      hhalfword, Option.map_some, Ne, not_not, Option.some_inj]
  · apply combined_of_resizes hevolves hregions hfetch

/-- With code and data apart, a call for a byte resumes after its instruction. -/
theorem resumes_after_call_getByte :
  ∃ first s halfword, (ofConfig calling ⟨[], false, false⟩ ⟨⟨[]⟩⟩ (.ofLayout .sample)).trace .off
      [.prepareLaunch ⟨0x80000000, 0x80100100, 0, 0⟩, .trap (Registers.zeros.set .a7 2)]
        = [first] ++ [s]
    ∧ s.before.desk.machine.memory.halfword? s.before.desk.machine.mepc = some halfword
    ∧ s.outcome.state.desk.machine.mepc
      = s.before.desk.machine.mepc + instructionLength halfword
  := by
  obtain ⟨first, s, regions, frame', htrace, hregions, hoperation, hcause, hfetch, hresume⟩ :
      ∃ first s regions frame',
        (ofConfig calling ⟨[], false, false⟩ ⟨⟨[]⟩⟩ (.ofLayout .sample)).trace .off
          [.prepareLaunch ⟨0x80000000, 0x80100100, 0, 0⟩, .trap (Registers.zeros.set .a7 2)]
            = [first] ++ [s]
          ∧ s.before.installed = some regions
          ∧ s.operation = .trap (Registers.zeros.set .a7 2)
          ∧ s.before.desk.machine.mcause = 8
          ∧ regions.windows.code.contains s.before.desk.machine.mepc 2 = true
          ∧ s.outcome.result = .ok (.trapped .resume frame') :=
    ⟨_, _, _, _, rfl, rfl, rfl, rfl, rfl, rfl⟩
  have hcall : Call.ofId? ((Registers.zeros.set .a7 2).get .a7) = some .getByte := rfl
  obtain ⟨halfword, hhalfword, hresumes, -⟩ :=
    resumes_after_call_iff htrace hregions hoperation hcause hfetch hcall hresume
  use first, s, halfword, htrace, hhalfword
  apply hresumes.mpr
  rintro ⟨_, _, hstored, -⟩
  cases hstored

/-- A hart that has taken a call, made by four bytes, from the start of a span that is both
code and data. -/
def callingFromSpan : Machine RegisterBank :=
  { calling with memory := ⟨[(Segment.zeros 0x80000000 64).write 0x80000000 [0x73, 0, 0, 0]]⟩ }

/-- A call that has the counters stored over itself resumes two bytes after its start, in the
middle of what was stored, though its instruction had four bytes. -/
theorem call_resumes_inside_store :
  ∃ first s regions frame',
    (ofConfig callingFromSpan ⟨[], false, false⟩ ⟨⟨[]⟩⟩
      (.ofLayout (.combined ⟨0x80000000, 0x1000⟩ none))).trace .off
        [.prepareLaunch ⟨0x80000000, 0x80000100, 0, 0⟩,
          .trap (((Registers.zeros.set .a7 99).set .a0 0x80000000).set .a1 16)] = [first] ++ [s]
      ∧ first.Launches ∧ s.IsUserCall ∧ s.before.installed = some regions
      ∧ regions.windows.code.contains 0x80000000 2 = true
      ∧ s.before.desk.machine.mepc = 0x80000000
      ∧ s.before.desk.machine.memory.halfword? 0x80000000 = some 0x73
      ∧ instructionLength 0x73 = 4
      ∧ s.outcome.result = .ok (.trapped .resume frame')
      ∧ s.outcome.state.desk.machine.mepc = 0x80000002
  := by
  exact ⟨_, _, _, _, rfl, ⟨_, rfl⟩, ⟨⟨_, rfl⟩, rfl⟩, rfl, rfl, rfl, by with_unfolding_all rfl, rfl,
    by with_unfolding_all rfl, by with_unfolding_all rfl⟩

end Monitor

end SandboxMonitor
