import SandboxMonitor.Proofs.Firmware.Loaded
import SandboxMonitor.Proofs.Firmware.Rights
import SandboxMonitor.Proofs.Firmware.Transcript

/-!
# The program between two calls

Wherever a call has left the program, it reaches the call that `Point.ask` says
(`reached_of_poised`).  Its saved registers describe the buffer and the line in it, on the way it
stores nothing but the byte that the line grows by, and none of its accesses is refused.
`Reached` is what there is to say of a run to a call, with one rule for each kind of step.
-/

namespace SandboxMonitor.Firmware

open SandboxMonitor.Action

/-! ### Points and calls -/

/-- The step at which the program goes on. -/
def Point.index : Point → Nat
  | start => 0
  | received _ => 5
  | echoed => 15
  | returned => 19
  | ended => 22
  | scored => 27
  | counted => 31

namespace Ask

/-- The step at which the program calls. -/
def site : Ask → Nat
  | byte => 4
  | send _ next => next.index - 1
  | scores => 26
  | counters => 30

/-- The call that the program makes. -/
def call : Ask → Call
  | byte => .getByte
  | send _ _ => .putByte
  | scores => .infer
  | counters => .readCounters

/-- What the program passes in the first two arguments, when the buffer holds a line. -/
def Passes (line : List UInt8) (arg0 arg1 : UInt32) : Ask → Prop
  | byte => True
  | send b _ => arg0.toUInt8 = b
  | scores => arg0 = userBuffer ∧ arg1 = .ofNat line.length
  | counters => arg0 = 0

end Ask

theorem Point.index_lt (point : Point) :
  point.index < Program.steps.length
  := by
  have hcount : Program.steps.length = 32 := rfl
  rw [hcount]
  cases point <;> (rw [index]; omega)

theorem Ask.site_lt (ask : Ask) :
  ask.site < Program.steps.length
  := by
  have hcount : Program.steps.length = 32 := rfl
  cases ask with
  | send b next =>
    have hnext := next.index_lt
    rw [site]
    omega
  | _ =>
    rw [site]
    omega

/-- The address of a step tells which one it is. -/
theorem indexOf?_address {index : Nat} (h : index < Program.steps.length) :
  Program.indexOf? (Program.address index) = some index
  := by
  have hall : ∀ index < Program.steps.length,
      Program.indexOf? (Program.address index) = some index := by decide
  apply hall index h

/-- After a call the program goes on behind it, with the line as it was for the call. -/
theorem Console.next_of_step {c c' : Console} {said : List UInt8}
    (h : c.step = some (said, c')) :
  c'.point.index = (c.point.ask c.line).site + 1 ∧ c'.line = c.grown ∧ c'.point ≠ .start
  := by
  rw [step] at h
  cases hask : c.point.ask c.line with
  | byte =>
    rw [hask] at h
    cases hqueue : c.queue with
    | nil =>
      rw [hqueue] at h
      cases h
    | cons b rest =>
      rw [hqueue] at h
      cases h
      exact ⟨rfl, rfl, Point.noConfusion⟩
  | send b next =>
    rw [hask] at h
    cases h
    rcases Point.next_of_ask hask with rfl | rfl | rfl
    · exact ⟨rfl, rfl, Point.noConfusion⟩
    · exact ⟨rfl, rfl, Point.noConfusion⟩
    · exact ⟨rfl, rfl, Point.noConfusion⟩
  | scores =>
    rw [hask] at h
    cases h
    exact ⟨rfl, rfl, Point.noConfusion⟩
  | counters =>
    rw [hask] at h
    cases h
    exact ⟨rfl, rfl, Point.noConfusion⟩

/-- The saved registers describe the buffer, the hart is set up for the sandbox, and memory is
loaded. -/
structure Held (line : List UInt8) (c : Core) (m : Machine PackedBank) : Prop where
  buffer : c.read .s0 = userBuffer
  capacity : c.read .s1 = userBufferLength
  count : c.read .s2 = .ofNat line.length
  ready : Ready c m.bank
  memory : Loaded line m.memory

/-- The program goes on from a point. -/
def Poised (line : List UInt8) (c : Core) (m : Machine PackedBank) : Point → Prop
  | .start => c.read .a0 = userBuffer ∧ c.read .a1 = userBufferLength
    ∧ Ready c m.bank ∧ Loaded line m.memory
  | .received b => Held line c m ∧ c.read .a0 = b.toUInt32
  | _ => Held line c m

theorem Poised.ready {line : List UInt8} {c : Core} {m : Machine PackedBank} {point : Point}
    (h : Poised line c m point) :
  Ready c m.bank
  := by
  cases point with
  | start => apply h.2.2.1
  | received b => apply h.1.ready
  | _ => apply Held.ready h

/-- The program makes a call. -/
structure Calls (ask : Ask) (line : List UInt8) (c : Core) (m : Machine PackedBank) : Prop where
  held : Held line c m
  number : c.read .a7 = ask.call.id
  arguments : ask.Passes line (c.read .a0) (c.read .a1)

/-- The hart has stored a byte in the buffer. -/
def StoresInBuffer (e : Event) : Prop :=
  ∃ addr, e = .store addr 1 ∧ userBuffer.toNat ≤ addr.toNat
    ∧ addr.toNat < userBuffer.toNat + userBufferLength.toNat

/-- From a machine the program has come to a call. -/
structure Reached (ask : Ask) (line : List UInt8) (m : Machine PackedBank)
    (o : Outcome Hart (Option (Nat × Interruption))) : Prop where
  returns : o.result = .ok (some (ask.site, .call))
  calls : Calls ask line o.state.core o.state.machine
  machine : m.SameButMemory o.state.machine
  stores : ∀ e ∈ o.events, StoresInBuffer e

/-! ### The saved registers -/

namespace Held

variable {line : List UInt8} {c : Core} {m : Machine PackedBank}

/-- A register that is not saved is free for the program to use. -/
theorem write (h : Held line c m) {r : Reg} (hr : r ∉ [Reg.s0, Reg.s1, Reg.s2]) (w : UInt32) :
  Held line (c.write r w) m
  := by
  simp only [List.mem_cons, List.not_mem_nil, or_false, not_or] at hr
  constructor
  · rw [Core.read_write_of_ne _ (Ne.symm hr.1), h.buffer]
  · rw [Core.read_write_of_ne _ (Ne.symm hr.2.1), h.capacity]
  · rw [Core.read_write_of_ne _ (Ne.symm hr.2.2), h.count]
  · apply h.ready.write
  · apply h.memory

/-- The count is written when the line in memory has changed. -/
theorem recount (h : Held line c m) {line' : List UInt8} {memory : Memory}
    (hmemory : Loaded line' memory) {w : UInt32} (hw : w = .ofNat line'.length) :
  Held line' (c.write .s2 w) { m with memory }
  := by
  constructor
  · rw [Core.read_write_of_ne _ (by decide), h.buffer]
  · rw [Core.read_write_of_ne _ (by decide), h.capacity]
  · rw [Core.read_write_self _ (by decide), hw]
  · apply h.ready.write
  · apply hmemory

end Held

/-! ### Steps -/

section Steps

open Program (steps advance)

variable {filter : LogFilter} {fuel index target : Nat} {c c' : Core} {r₁ r₂ : Reg}
  {ask : Ask} {line : List UInt8} {m m₀ : Machine PackedBank}

/-- A step that is not a call is done when the access that it makes is permitted. -/
theorem run_advance (filter : LogFilter) (hready : Ready c m.bank) {step : Step}
    (hstep : steps[index]? = some step) (hgoes : step ≠ .call)
    (haccess : ∀ access ∈ step.access? c, Hart.permits ⟨c, m⟩ access = true) :
  (advance (fuel + 1) index).run filter ⟨c, m⟩ = (match step with
    | .plain i => i.exec >>= fun _ => advance fuel (index + 1)
    | .branchEqual r₁ r₂ target =>
      advance fuel (if c.read r₁ = c.read r₂ then target else index + 1)
    | .jump target => advance fuel target
    | .call => pure none).run filter ⟨c, m⟩
  := by
  have hnone := hready.interruption?_eq hstep haccess
  rw [if_neg hgoes] at hnone
  rw [advance, run_gets_bind (Program.interruption? index) _ filter hnone, hstep]
  cases step <;> rfl

/-- An instruction between registers. -/
theorem Reached.plain (hready : Ready c m.bank) {i : Instruction}
    (hstep : steps[index]? = some (.plain i)) (haccess : i.access? c = none)
    (hi : i.exec.run filter ⟨c, m⟩ = ⟨.ok (), ⟨c', m⟩, []⟩)
    (hrest : Reached ask line m₀ ((advance fuel (index + 1)).run filter ⟨c', m⟩)) :
  Reached ask line m₀ ((advance (fuel + 1) index).run filter ⟨c, m⟩)
  := by
  rw [run_advance filter hready hstep nofun (by rw [Step.access?, haccess]; nofun)]
  dsimp only
  rw [run_bind, hi]
  apply hrest

/-- A byte stored in the buffer.  From here on the buffer may hold another line. -/
theorem Reached.store (hready : Ready c m.bank) {src base : Reg}
    (hstep : steps[index]? = some (.plain (.storeByte src base 0))) {i : Nat}
    (hi : i < userBufferLength.toNat) (hbase : c.read base = userBuffer + .ofNat i)
    (hmemory : Loaded line m.memory) {grown : List UInt8}
    (hrest : Reached ask grown m₀ ((advance fuel (index + 1)).run filter ⟨c, { m with
      memory := m.memory.write (userBuffer + .ofNat i) [(c.read src).toUInt8] }⟩)) :
  Reached ask grown m₀ ((advance (fuel + 1) index).run filter ⟨c, m⟩)
  := by
  have haddr := toNat_userBuffer_add hi.le
  have hrun : (Instruction.storeByte src base 0).exec.run filter ⟨c, m⟩
      = ⟨.ok (), ⟨c, { m with
          memory := m.memory.write (userBuffer + .ofNat i) [(c.read src).toUInt8] }⟩,
          [.store (userBuffer + .ofNat i) 1]⟩ := by
    have hexec : (Instruction.storeByte src base 0).exec.run filter ⟨c, m⟩
        = (Hart.store (c.read base + 0) [(c.read src).toUInt8]).run filter ⟨c, m⟩ := rfl
    rw [hexec, hbase, UInt32.add_zero]
    apply Hart.run_store
    apply hmemory.holds_buffer
    rw [List.length_singleton]
    omega
  have hpermits : ∀ access ∈ (Step.plain (.storeByte src base 0)).access? c,
      Hart.permits ⟨c, m⟩ access = true := by
    rw [Step.access?, Instruction.access?, hbase, UInt32.add_zero]
    rintro _ ⟨⟩
    apply hready.permits_store <;> omega
  rw [run_advance filter hready hstep nofun hpermits]
  dsimp only
  rw [run_bind, hrun]
  constructor
  · apply hrest.returns
  · apply hrest.calls
  · apply hrest.machine
  · apply List.forall_mem_append.mpr ⟨List.forall_mem_singleton.mpr ?_, hrest.stores⟩
    use userBuffer + .ofNat i, rfl
    omega

theorem Reached.branch (hready : Ready c m.bank)
    (hstep : steps[index]? = some (.branchEqual r₁ r₂ target))
    (hrest : Reached ask line m₀ ((advance fuel
      (if c.read r₁ = c.read r₂ then target else index + 1)).run filter ⟨c, m⟩)) :
  Reached ask line m₀ ((advance (fuel + 1) index).run filter ⟨c, m⟩)
  := by
  rw [run_advance filter hready hstep nofun nofun]
  apply hrest

theorem Reached.jump (hready : Ready c m.bank) (hstep : steps[index]? = some (.jump target))
    (hrest : Reached ask line m₀ ((advance fuel target).run filter ⟨c, m⟩)) :
  Reached ask line m₀ ((advance (fuel + 1) index).run filter ⟨c, m⟩)
  := by
  rw [run_advance filter hready hstep nofun nofun]
  apply hrest

/-- A byte compared with another one. -/
theorem Reached.test (hready : Ready c m.bank) {b k : UInt8}
    (hstep : steps[index]? = some (.plain (.li .t0 k.toUInt32)))
    (hbranch : steps[index + 1]? = some (.branchEqual .a0 .t0 target))
    (hbyte : c.read .a0 = b.toUInt32)
    (hrest : Reached ask line m₀ ((advance fuel (if b = k then target else index + 2)).run filter
      ⟨c.write .t0 k.toUInt32, m⟩)) :
  Reached ask line m₀ ((advance (fuel + 2) index).run filter ⟨c, m⟩)
  := by
  have hequal : b.toUInt32 = k.toUInt32 ↔ b = k := by
    rw [← UInt32.toNat_inj, ← UInt8.toNat_inj, UInt8.toNat_toUInt32, UInt8.toNat_toUInt32]
  apply Reached.plain hready hstep rfl (Hart.run_li filter c m .t0 k.toUInt32)
  apply Reached.branch hready.write hbranch
  rw [Core.read_write_of_ne _ (by decide), Core.read_write_self _ (by decide), hbyte]
  simp only [hequal]
  apply hrest

/-- A program whose arguments are ready makes its call. -/
theorem Reached.call (hnumber : steps[index]? = some (.plain (.li .a7 ask.call.id)))
    (hcall : steps[index + 1]? = some .call) (hsite : ask.site = index + 1)
    (hheld : Held line c m) (harguments : ask.Passes line (c.read .a0) (c.read .a1))
    (hmachine : m₀.SameButMemory m) :
  Reached ask line m₀ ((advance (fuel + 2) index).run filter ⟨c, m⟩)
  := by
  have hcalls : Program.interruption? (index + 1) ⟨c.write .a7 ask.call.id, m⟩ = some .call := by
    rw [hheld.ready.write.interruption?_eq hcall nofun, if_pos rfl]
  apply Reached.plain hheld.ready hnumber rfl (Hart.run_li filter c m .a7 ask.call.id)
  rw [advance, run_gets_bind (Program.interruption? (index + 1)) _ filter hcalls]
  dsimp only
  rw [run_pure]
  constructor
  · rw [hsite]
  · constructor
    · apply hheld.write (r := .a7) (by decide)
    · apply Core.read_write_self _ (by decide)
    · rw [Core.read_write_of_ne _ (by decide), Core.read_write_of_ne _ (by decide)]
      apply harguments
  · apply hmachine
  · apply List.forall_mem_nil

end Steps

/-! ### From a point to a call -/

section Reaching

open Program (advance)

variable {filter : LogFilter} {line : List UInt8} {c : Core} {m m₀ : Machine PackedBank} {b : UInt8}

/-- The program asks for a byte. -/
theorem reached_askByte (filter : LogFilter) (fuel : Nat) (hheld : Held line c m)
    (hmachine : m₀.SameButMemory m) :
  Reached .byte line m₀ ((advance (fuel + 2) Program.readByte).run filter ⟨c, m⟩)
  := .call rfl rfl rfl hheld trivial hmachine

/-- The program starts a line over and asks for a byte. -/
theorem reached_startLine (filter : LogFilter) (fuel : Nat) (hheld : Held line c m) :
  Reached .byte [] m ((advance (fuel + 3) Program.newLine).run filter ⟨c, m⟩)
  := by
  apply Reached.plain hheld.ready rfl rfl (Hart.run_li filter c m .s2 0)
  apply reached_askByte filter fuel (hheld.recount hheld.memory.nil rfl) (.refl m)

theorem reached_start (filter : LogFilter) (hbuffer : c.read .a0 = userBuffer)
    (hlength : c.read .a1 = userBufferLength) (hready : Ready c m.bank)
    (hmemory : Loaded line m.memory) :
  Reached .byte [] m ((advance 32 Point.start.index).run filter ⟨c, m⟩)
  := by
  apply Reached.plain hready rfl rfl (Hart.run_mv filter c m .s0 .a0)
  apply Reached.plain hready.write rfl rfl (Hart.run_mv filter _ m .s1 .a1)
  apply Reached.plain hready.write.write rfl rfl (Hart.run_li filter _ m .s2 0)
  apply reached_askByte filter 27 _ (.refl m)
  constructor
  · simp (disch := decide) only [Core.read_write_of_ne, Core.read_write_self, hbuffer]
  · simp (disch := decide) only [Core.read_write_of_ne, Core.read_write_self, hlength]
  · apply Core.read_write_self _ (by decide)
  · apply hready.write.write.write
  · apply hmemory.nil

/-- The program sends a carriage return. -/
theorem reached_echoEnd (filter : LogFilter) (fuel : Nat) (hheld : Held line c m) :
  Reached (.send 13 .returned) line m
    ((advance (fuel + 3) Program.endOfLine).run filter ⟨c, m⟩)
  := by
  apply Reached.plain hheld.ready rfl rfl (Hart.run_li filter c m .a0 13)
  apply Reached.call rfl rfl rfl (hheld.write (by decide) 13) _ (.refl m)
  rw [Core.read_write_self _ (by decide)]
  rfl

/-- A byte that ends the line leads out of the loop over the bytes. -/
theorem reached_received_end (filter : LogFilter) (hheld : Held line c m)
    (hbyte : c.read .a0 = b.toUInt32) (hends : endsLine b = true) :
  Reached (.send 13 .returned) line m ((advance 32 (Point.received b).index).run filter ⟨c, m⟩)
  := by
  have hheld' := hheld.write (r := .t0) (by decide) 13
  apply Reached.test hheld.ready (b := b) (k := 13) rfl rfl hbyte
  split
  · apply reached_echoEnd filter 27 hheld'
  · rename_i hreturn
    apply Reached.test hheld'.ready (b := b) (k := 10) rfl rfl
      ((Core.read_write_of_ne _ (by decide) _).trans hbyte)
    have hfeed : b = 10 := by simpa [endsLine, hreturn] using hends
    rw [if_pos hfeed]
    apply reached_echoEnd filter 25 (hheld'.write (by decide) 10)

/-- Any other byte is compared with the room in the buffer. -/
theorem reached_received (filter : LogFilter) {ask : Ask} {grown : List UInt8}
    (hheld : Held line c m) (hbyte : c.read .a0 = b.toUInt32)
    (hgoes : ¬ endsLine b = true)
    (hrest : ∀ c', Held line c' m → c'.read .a0 = b.toUInt32 →
      Reached ask grown m ((advance 27 (if line.length = userBufferLength.toNat then
        Program.readByte else 10)).run filter ⟨c', m⟩)) :
  Reached ask grown m ((advance 32 (Point.received b).index).run filter ⟨c, m⟩)
  := by
  have hheld' := (hheld.write (r := .t0) (by decide) (13 : UInt8).toUInt32).write (r := .t0)
    (by decide) (10 : UInt8).toUInt32
  have hbyte' : (c.write .t0 (13 : UInt8).toUInt32).read .a0 = b.toUInt32 :=
    (Core.read_write_of_ne _ (by decide) _).trans hbyte
  rw [endsLine, Bool.or_eq_true, decide_eq_true_eq, decide_eq_true_eq, not_or] at hgoes
  apply Reached.test hheld.ready (b := b) (k := 13) rfl rfl hbyte
  rw [if_neg hgoes.1]
  apply Reached.test hheld.ready.write (b := b) (k := 10) rfl rfl hbyte'
  rw [if_neg hgoes.2]
  apply Reached.branch hheld'.ready rfl
  have hcount : UInt32.ofNat line.length = userBufferLength
      ↔ line.length = userBufferLength.toNat := by
    rw [← UInt32.toNat_inj, hheld.memory.toNat_length]
  rw [hheld'.count, hheld'.capacity]
  simp only [hcount]
  apply hrest _ hheld'
  apply (Core.read_write_of_ne _ (by decide) _).trans hbyte'

theorem reached_received_full (filter : LogFilter) (hheld : Held line c m)
    (hbyte : c.read .a0 = b.toUInt32) (hgoes : ¬ endsLine b = true)
    (hfull : line.length = userBufferLength.toNat) :
  Reached .byte line m ((advance 32 (Point.received b).index).run filter ⟨c, m⟩)
  := by
  apply reached_received filter hheld hbyte hgoes
  intro c' hheld' _
  rw [if_pos hfull]
  apply reached_askByte filter 25 hheld' (.refl m)

theorem reached_received_room (filter : LogFilter) (hheld : Held line c m)
    (hbyte : c.read .a0 = b.toUInt32) (hgoes : ¬ endsLine b = true)
    (hroom : ¬ line.length = userBufferLength.toNat) :
  Reached (.send b .echoed) (line ++ [b]) m
    ((advance 32 (Point.received b).index).run filter ⟨c, m⟩)
  := by
  have hless : line.length < userBufferLength.toNat := by
    have hle := hheld.memory.room
    omega
  apply reached_received filter hheld hbyte hgoes
  intro c' hheld' hbyte'
  rw [if_neg hroom]
  -- The test for room stands before the store, so the byte goes to an address of the buffer.
  apply Reached.plain hheld'.ready rfl rfl (Hart.run_add filter c' m .t1 .s0 .s2)
  apply Reached.store hheld'.ready.write rfl hless _ hheld'.memory
  · rw [Core.read_write_of_ne _ (by decide), hbyte', UInt8.toUInt8_toUInt32]
    apply Reached.plain _ rfl rfl (Hart.run_addi filter _ .s2 .s2 1)
    apply Reached.call rfl rfl rfl
    · apply (hheld'.write (by decide) _).recount (hheld'.memory.push hless b)
      rw [Core.read_write_of_ne _ (by decide), hheld'.count, List.length_append,
        List.length_singleton, UInt32.ofNat_add]
      rfl
    · simp (disch := decide) only [Core.read_write_of_ne, hbyte']
      apply UInt8.toUInt8_toUInt32
    · exact ⟨rfl, m.memory.extents_write _ _⟩
    · apply hheld'.ready.write
  · rw [Core.read_write_self _ (by decide), hheld'.buffer, hheld'.count]

theorem reached_returned (filter : LogFilter) (hheld : Held line c m) :
  Reached (.send 10 .ended) line m ((advance 32 Point.returned.index).run filter ⟨c, m⟩)
  := by
  apply Reached.plain hheld.ready rfl rfl (Hart.run_li filter c m .a0 10)
  apply Reached.call rfl rfl rfl (hheld.write (by decide) 10) _ (.refl m)
  rw [Core.read_write_self _ (by decide)]
  rfl

theorem reached_ended (filter : LogFilter) (hheld : Held line c m) (hline : line ≠ []) :
  Reached .scores line m ((advance 32 Point.ended.index).run filter ⟨c, m⟩)
  := by
  have hcount : c.read .s2 ≠ c.read .zero := by
    rw [hheld.count, Core.read_zero, ne_eq, ← UInt32.toNat_inj, hheld.memory.toNat_length]
    apply Nat.ne_of_gt (List.length_pos_of_ne_nil hline)
  apply Reached.branch hheld.ready rfl
  rw [if_neg hcount]
  apply Reached.plain hheld.ready rfl rfl (Hart.run_mv filter c m .a0 .s0)
  apply Reached.plain hheld.ready.write rfl rfl (Hart.run_mv filter _ m .a1 .s2)
  apply Reached.call rfl rfl rfl ((hheld.write (by decide) _).write (by decide) _) _ (.refl m)
  simp (disch := decide) only [Core.read_write_of_ne, Core.read_write_self, hheld.buffer,
    hheld.count]
  exact ⟨rfl, rfl⟩

theorem reached_scored (filter : LogFilter) (hheld : Held line c m) :
  Reached .counters line m ((advance 32 Point.scored.index).run filter ⟨c, m⟩)
  := by
  apply Reached.plain hheld.ready rfl rfl (Hart.run_li filter c m .a0 0)
  apply Reached.plain hheld.ready.write rfl rfl (Hart.run_li filter _ m .a1 0)
  apply Reached.call rfl rfl rfl ((hheld.write (by decide) 0).write (by decide) 0) _ (.refl m)
  rw [Core.read_write_of_ne _ (by decide), Core.read_write_self _ (by decide)]
  rfl

/-- Wherever a call has left the program, it reaches the next one. -/
theorem reached_of_poised (filter : LogFilter) {point : Point}
    (hpoised : Poised line c m point) :
  Reached (point.ask line) (point.grow line) m
    ((advance Program.steps.length point.index).run filter ⟨c, m⟩)
  := by
  have hfuel : Program.steps.length = 32 := rfl
  rw [hfuel]
  cases point with
  | start =>
    obtain ⟨hbuffer, hlength, hready, hmemory⟩ := hpoised
    apply reached_start filter hbuffer hlength hready hmemory
  | received b =>
    obtain ⟨hheld, hbyte⟩ := hpoised
    rw [Point.ask, Point.grow]
    by_cases hends : endsLine b = true
    · rw [if_pos hends, if_pos hends]
      apply reached_received_end filter hheld hbyte hends
    · rw [if_neg hends, if_neg hends]
      by_cases hfull : line.length = userBufferLength.toNat
      · rw [if_pos hfull, if_pos hfull]
        apply reached_received_full filter hheld hbyte hends hfull
      · rw [if_neg hfull, if_neg hfull]
        apply reached_received_room filter hheld hbyte hends hfull
  | echoed =>
    apply Reached.jump hpoised.ready rfl
    apply reached_askByte filter 29 hpoised (.refl m)
  | returned => apply reached_returned filter hpoised
  | ended =>
    rw [Point.ask]
    by_cases hempty : line = []
    · subst hempty
      apply Reached.branch hpoised.ready rfl
      rw [hpoised.count, Core.read_zero]
      apply reached_startLine filter 28 hpoised
    · rw [if_neg hempty]
      apply reached_ended filter hpoised hempty
  | scored => apply reached_scored filter hpoised
  | counted =>
    apply Reached.jump hpoised.ready rfl
    apply reached_startLine filter 28 hpoised

end Reaching

end SandboxMonitor.Firmware
