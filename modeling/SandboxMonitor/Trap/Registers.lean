/-!
# Integer registers

`Registers` are the words of the 32 integer registers, as the hart holds them and as the
trap entry spills them into a frame.  Register 0 is hard-wired to zero in a hart, which is
the hart's affair; a frame holds a word for it like for any other.
-/

namespace SandboxMonitor

/-- The number of an integer register. -/
abbrev Reg := Fin 32

namespace Reg

/-- The register that always reads zero. -/
def zero : Reg := 0

/-- The stack pointer. -/
def sp : Reg := 2

/-- The first temporary. -/
def t0 : Reg := 5

/-- The second temporary. -/
def t1 : Reg := 6

/-- The first saved register. -/
def s0 : Reg := 8

/-- The second saved register. -/
def s1 : Reg := 9

/-- The first argument, and the result. -/
def a0 : Reg := 10

/-- The second argument. -/
def a1 : Reg := 11

/-- The number of a call. -/
def a7 : Reg := 17

/-- The third saved register. -/
def s2 : Reg := 18

end Reg

/-- A word for each integer register. -/
structure Registers where
  words : Vector UInt32 32
deriving DecidableEq

namespace Registers

/-- Every register zero. -/
def zeros : Registers := ⟨Vector.replicate 32 0⟩

/-- The word of a register. -/
def get (rs : Registers) (r : Reg) : UInt32 := rs.words[r.val]

/-- The registers with one word replaced. -/
def set (rs : Registers) (r : Reg) (w : UInt32) : Registers := ⟨rs.words.set r.val w⟩

/-- The registers whose words are at the front of a list, the rest being zero. -/
def ofList (ws : List UInt32) : Registers := ⟨Vector.ofFn fun i => ws.getD i.val 0⟩

/-- The words in the order of the registers. -/
def toList (rs : Registers) : List UInt32 := rs.words.toList

/-- The registers that differ from an earlier state, each with its new word, in order. -/
def changes (later earlier : Registers) : List (Reg × UInt32) :=
  (List.finRange 32).filterMap fun r =>
    if later.get r = earlier.get r then none else some (r, later.get r)

@[simp]
theorem get_set_self (rs : Registers) (r : Reg) (w : UInt32) :
  (rs.set r w).get r = w
  := by
  simp [get, set]

theorem get_set_of_ne (rs : Registers) {r s : Reg} (w : UInt32) (h : r ≠ s) :
  (rs.set r w).get s = rs.get s
  := by
  simp only [get, set]
  exact Vector.getElem_set_ne _ _ (fun hv => h (Fin.ext hv))

@[ext]
theorem ext {rs ss : Registers} (h : ∀ r, rs.get r = ss.get r) :
  rs = ss
  := by
  obtain ⟨ws⟩ := rs
  obtain ⟨vs⟩ := ss
  congr
  exact Vector.ext fun i hi => h ⟨i, hi⟩

end Registers

end SandboxMonitor
