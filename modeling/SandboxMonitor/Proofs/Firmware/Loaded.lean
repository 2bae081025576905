import SandboxMonitor.Firmware.Program
import SandboxMonitor.Proofs.Hart.Handling

/-!
# What memory holds during a session

During a session memory has the segments of the memory map, the program, and at the front of
the buffer the line that is being read: it is `Firmware.Loaded` with the line.  A frame on the
trap stack leaves it so (`Firmware.Loaded.of_reframed`), and a byte that the program stores
behind the line makes the line longer (`Firmware.Loaded.push`).
-/

namespace SandboxMonitor.Firmware

open TrapVector (frameSize)

/-- Memory is loaded with the program and a line. -/
structure Loaded (line : List UInt8) (m : Memory) : Prop where
  extents : m.extents = (memory Program.code).extents
  code : m.read? sandboxBase Program.code.length = some Program.code
  buffer : m.read? userBuffer line.length = some line
  room : line.length ≤ userBufferLength.toNat

theorem extents_memory (code : List UInt8) :
  (memory code).extents
    = [(ramBase, ramLength), (sandboxBase, sandboxLength), (romBase, romLength)]
  := by
  simp [Memory.extents, memory, Segment.write, Segment.zeros, size_overwrite]

/-- The segments of the memory map are apart. -/
theorem apart_memory (code : List UInt8) :
  (memory code).Apart
  := by
  rw [Memory.Apart, extents_memory]
  decide

/-- Addresses in the buffer do not wrap. -/
theorem toNat_userBuffer_add {i : Nat} (h : i ≤ userBufferLength.toNat) :
  (userBuffer + .ofNat i).toNat = userBuffer.toNat + i
  := by
  have hstart : userBuffer.toNat = 0x80028000 := rfl
  have hlength : userBufferLength.toNat = 0x800 := rfl
  apply toNat_add_ofNat
  omega

namespace Loaded

variable {m m' : Memory} {line : List UInt8}

/-- The length of the line is a word. -/
theorem toNat_length (h : Loaded line m) :
  (UInt32.ofNat line.length).toNat = line.length
  := by
  have hroom := h.room
  have hlt := userBufferLength.toNat_lt
  rw [UInt32.toNat_ofNat', Nat.mod_eq_of_lt (by omega)]

theorem apart (h : Loaded line m) :
  m.Apart
  := (apart_memory _).congr h.extents

theorem holds_eq (h : Loaded line m) (addr : UInt32) (length : Nat) :
  m.holds addr length = [(ramBase, ramLength), (sandboxBase, sandboxLength),
    (romBase, romLength)].any fun e => e.1 ≤ addr && addr.toNat + length ≤ e.1.toNat + e.2
  := by
  rw [Memory.holds_eq_any_extents, h.extents, extents_memory]

/-- There is memory for a frame on the trap stack. -/
theorem holds_frame (h : Loaded line m) :
  m.holds (trapStackTop - frameSize) 128 = true
  := by
  rw [h.holds_eq]
  decide

theorem hasFrame (h : Loaded line m) :
  m.HasFrame trapStackTop
  := Memory.hasFrame_of_holds (by decide) h.holds_frame

/-- The buffer lies in memory. -/
theorem holds_buffer (h : Loaded line m) {i : Nat} {length : Nat}
    (hi : i + length ≤ userBufferLength.toNat) :
  m.holds (userBuffer + .ofNat i) length = true
  := by
  have haddr := toNat_userBuffer_add (show i ≤ userBufferLength.toNat by omega)
  have hbase : sandboxBase.toNat = 0x80020000 := rfl
  have hstart : userBuffer.toNat = 0x80028000 := rfl
  have hlength : userBufferLength.toNat = 0x800 := rfl
  have hsandbox : sandboxLength = 0x10000 := rfl
  rw [h.holds_eq, List.any_eq_true]
  use (sandboxBase, sandboxLength), List.mem_cons_of_mem _ List.mem_cons_self
  rw [Bool.and_eq_true, decide_eq_true_eq, decide_eq_true_eq, UInt32.le_iff_toNat_le, haddr]
  dsimp only
  omega

/-- Every step of the program takes four bytes. -/
theorem instructionLength?_eq (h : Loaded line m) {index : Nat}
    (hindex : index < Program.steps.length) :
  m.instructionLength? (Program.address index) = some 4
  := by
  have hhalfword : ∀ index < Program.steps.length,
      instructionLength (.ofNat (littleEndian ((Program.code.drop (4 * index)).take 2))) = 4 := by
    decide
  have hlength : Program.code.length = 128 := rfl
  have hcount : Program.steps.length = 32 := rfl
  have hread := h.apart.read?_slice (n := 4 * index) (k := 2) h.code (by omega) (by
    have hbase : sandboxBase.toNat = 0x80020000 := rfl
    omega)
  rw [Memory.instructionLength?, Memory.halfword?, Program.address, hread, Option.map_some,
    Option.map_some, hhalfword index hindex]

/-- A frame on the trap stack is beside the program and the buffer. -/
theorem of_reframed (h : Loaded line m) {words : Registers}
    (hextents : m'.extents = m.extents) (hframe : m.Reframed trapStackTop words m') :
  Loaded line m'
  where
  extents := hextents.trans h.extents
  code := (hframe.read?_eq (.inr (by decide))).trans h.code
  buffer := (hframe.read?_eq (.inr (by decide))).trans h.buffer
  room := h.room

/-- The program starts a line over without touching memory. -/
theorem nil (h : Loaded line m) :
  Loaded [] m
  where
  extents := h.extents
  code := h.code
  buffer := by
    apply Memory.read?_zero
    rw [← userBuffer.add_zero]
    apply h.holds_buffer (i := 0)
    apply Nat.zero_le
  room := Nat.zero_le _

/-- A byte that is stored behind the line belongs to it. -/
theorem push (h : Loaded line m) (hroom : line.length < userBufferLength.toNat) (b : UInt8) :
  Loaded (line ++ [b]) (m.write (userBuffer + .ofNat line.length) [b])
  := by
  have haddr := toNat_userBuffer_add hroom.le
  have hstart : userBuffer.toNat = 0x80028000 := rfl
  have hbase : sandboxBase.toNat = 0x80020000 := rfl
  have hcode : Program.code.length = 128 := rfl
  have hlength : userBufferLength.toNat = 0x800 := rfl
  have hextents := m.extents_write (userBuffer + .ofNat line.length) [b]
  constructor
  · rw [hextents, h.extents]
  · rw [Memory.read?_write_of_apart _ (.inl (by omega)), h.code]
  · apply (h.apart.congr hextents).read?_append
    · rw [Memory.holds_write, ← userBuffer.add_zero]
      apply h.holds_buffer (i := 0)
      rw [List.length_singleton]
      omega
    · omega
    · rw [Memory.read?_write_of_apart _ (.inl (by omega)), h.buffer]
    · apply Memory.read?_write_self
      apply h.holds_buffer
      rw [List.length_singleton]
      omega
  · rw [List.length_append, List.length_singleton]
    omega

end Loaded

/-- At power-on no line has been read. -/
theorem loaded_memory :
  Loaded [] (memory Program.code)
  := by
  have hcode : (Segment.zeros sandboxBase sandboxLength).holds sandboxBase Program.code.length
      = true := by
    have hlength : Program.code.length = 128 := rfl
    apply Segment.holds_zeros
    rw [hlength, sandboxLength]
    omega
  have hsegment : (Segment.zeros sandboxBase sandboxLength).write sandboxBase Program.code
      ∈ (memory Program.code).segments := List.mem_cons_of_mem _ List.mem_cons_self
  constructor
  · rfl
  · rw [(apart_memory _).read?_eq hsegment (by rw [Segment.holds_write]; apply hcode),
      Segment.read_write_self hcode]
  · apply Memory.read?_zero
    rw [Memory.holds_eq_any_extents, extents_memory]
    decide
  · apply Nat.zero_le

end SandboxMonitor.Firmware
