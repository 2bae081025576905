/-!
# Scripts

A `Script` is a list of answers to be given in turn.  Each reading uses up one answer, but
the last answer stays and is given for ever.
-/

namespace SandboxMonitor

/-- Answers to be given in turn, of which the last one repeats. -/
structure Script (α : Type) where
  items : List α

namespace Script

variable {α : Type}

/-- The answer that comes next, or `fallback` when there never was one. -/
def head (s : Script α) (fallback : α) : α := s.items.headD fallback

/-- The script after one reading. -/
def advance (s : Script α) : Script α :=
  match s.items with
  | _ :: next :: rest => ⟨next :: rest⟩
  | _ => s

/-- The number of answers that are left. -/
def size (s : Script α) : Nat := s.items.length

theorem size_advance_le (s : Script α) :
  s.advance.size ≤ s.size
  := by
  obtain ⟨items⟩ := s
  match items with
  | [] => simp [advance]
  | [_] => simp [advance]
  | _ :: _ :: _ => simp [advance, size]

/-- A script whose next two answers differ has more than one answer left. -/
theorem size_advance_lt {s : Script α} {fallback : α}
    (h : s.advance.head fallback ≠ s.head fallback) :
  s.advance.size < s.size
  := by
  obtain ⟨items⟩ := s
  match items with
  | [] => exact absurd rfl h
  | [_] => exact absurd rfl h
  | _ :: _ :: _ => simp [advance, size]

end Script

end SandboxMonitor
