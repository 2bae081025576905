import Mathlib.Data.List.Basic
import Mathlib.Tactic.Use
import SandboxMonitor.Service.Desk

/-!
# Lines of scores

A line is written to a buffer piece by piece, and any piece may not fit.  Writing one text and
then another is writing both at once (`LineBuffer.write?_bind_write?`), so writing a line in
pieces is writing it whole: it fails just when the whole line does not fit
(`LineBuffer.writeScores?_eq`).

A line can be read back (`readLine_scoresLine`), so no two lists of scores have the same line, and
its size is at most five bytes for each score and one more (`LineBuffer.line_exact`).
-/

namespace SandboxMonitor

/-- The line of some scores: their numerals with commas between them, and the end of a line. -/
def scoresLine (scores : List Int8) : String := ",".intercalate (scores.map scoreText) ++ lineEnd

/-- A score takes at most four characters. -/
theorem utf8ByteSize_scoreText_le (v : Int8) :
  (scoreText v).utf8ByteSize ≤ 4
  := by
  have hall : ∀ b : BitVec 8, (scoreText (.ofBitVec b)).utf8ByteSize ≤ 4 := by decide +kernel
  apply hall v.toBitVec

namespace LineBuffer

/-- Two texts fit one after the other when they fit together. -/
theorem write?_bind_write? (b : LineBuffer) (s t : String) :
  ((b.write? s).bind fun b => b.write? t) = b.write? (s ++ t)
  := by
  rw [write?, write?, String.utf8ByteSize_append]
  by_cases hfirst : b.text.utf8ByteSize + s.utf8ByteSize ≤ b.capacity
  · rw [if_pos hfirst, Option.bind_some, write?, String.utf8ByteSize_append, Nat.add_assoc,
      String.append_assoc]
  · rw [if_neg hfirst, if_neg (by omega), Option.bind_none]

/-- The scores of a line after the first one. -/
def tailText : List Int8 → String
  | [] => ""
  | v :: rest => "," ++ scoreText v ++ tailText rest

theorem append_tailText (v : Int8) (rest : List Int8) :
  scoreText v ++ tailText rest = ",".intercalate ((v :: rest).map scoreText)
  := by
  induction rest generalizing v with
  | nil => simp [tailText]
  | cons w rest ih =>
    rw [tailText, String.append_assoc, ih, List.map_cons, List.map_cons, List.map_cons,
      String.intercalate_cons_cons, String.append_assoc]

/-- Each score that follows is written as the end of what was written before it. -/
theorem write?_bind_writeTail? (b : LineBuffer) (s : String) (rest : List Int8) :
  ((b.write? s).bind fun b => b.writeTail? rest) = b.write? (s ++ tailText rest)
  := by
  induction rest generalizing s with
  | nil =>
    rw [tailText, String.append_empty]
    apply Option.bind_fun_some
  | cons v rest ih =>
    have hstep : (fun b : LineBuffer => b.writeTail? (v :: rest))
        = fun b => (b.write? ("," ++ scoreText v)).bind fun b => b.writeTail? rest := by
      funext b
      rw [writeTail?, ← write?_bind_write?, Option.bind_assoc]
      rfl
    rw [hstep, ← Option.bind_assoc, write?_bind_write?, ih, tailText, String.append_assoc]

/-- A line of scores is written if the whole of it fits, and fails otherwise. -/
theorem writeScores?_eq (b : LineBuffer) (scores : List Int8) :
  b.writeScores? scores = b.write? (scoresLine scores)
  := by
  cases scores with
  | nil =>
    rw [scoresLine, List.map_nil, String.intercalate_nil, String.empty_append]
    rfl
  | cons v rest =>
    rw [scoresLine, ← append_tailText, ← write?_bind_write?, ← write?_bind_writeTail?]
    rfl

/-- An empty buffer takes the lines that its capacity has room for. -/
theorem writeScores?_empty (capacity : Nat) (scores : List Int8) :
  (LineBuffer.mk capacity "").writeScores? scores
    = if (scoresLine scores).utf8ByteSize ≤ capacity then some ⟨capacity, scoresLine scores⟩
      else none
  := by
  have hempty : ("").utf8ByteSize = 0 := rfl
  rw [writeScores?_eq, write?, hempty, Nat.zero_add, String.empty_append]

end LineBuffer

/-! ### Reading a line back -/

/-- The number that decimal digits mean. -/
def digitsValue (digits : List Char) : Int :=
  digits.foldl (fun n c => 10 * n + (c.toNat - '0'.toNat : Int)) 0

/-- The number that a decimal numeral means. -/
def numeralValue : List Char → Int
  | '-' :: digits => -digitsValue digits
  | digits => digitsValue digits

/-- The numbers on a line, which has two more characters at its end. -/
def readLine (line : String) : List Int :=
  let body := line.toList.dropLast.dropLast
  if body = [] then [] else (body.splitOn ',').map numeralValue

/-- The numeral of a score means the score, and it is a text without commas. -/
theorem numeralValue_scoreText (v : Int8) :
  numeralValue (scoreText v).toList = v.toInt ∧ ',' ∉ (scoreText v).toList
    ∧ (scoreText v).toList ≠ []
  := by
  have hall : ∀ b : BitVec 8,
      numeralValue (scoreText (.ofBitVec b)).toList = (Int8.ofBitVec b).toInt
        ∧ ',' ∉ (scoreText (.ofBitVec b)).toList ∧ (scoreText (.ofBitVec b)).toList ≠ [] := by
    decide +kernel
  apply hall v.toBitVec

/-- Without its end a line is its numerals with commas between them. -/
theorem dropLast_toList_scoresLine (scores : List Int8) :
  (scoresLine scores).toList.dropLast.dropLast
    = [','].intercalate (scores.map fun v => (scoreText v).toList)
  := by
  have hend : lineEnd.toList = ['\r'] ++ ['\n'] := rfl
  rw [scoresLine, String.toList_append, String.toList_intercalate, hend, List.map_map,
    ← List.append_assoc, List.dropLast_concat, List.dropLast_concat]
  rfl

/-- A line of scores is read as the scores. -/
theorem readLine_scoresLine (scores : List Int8) :
  readLine (scoresLine scores) = scores.map Int8.toInt
  := by
  rw [readLine, dropLast_toList_scoresLine]
  cases scores with
  | nil => rfl
  | cons v rest =>
    have hcommas : ∀ text ∈ (v :: rest).map fun v => (scoreText v).toList, ',' ∉ text := by
      intro text htext
      obtain ⟨w, -, rfl⟩ := List.mem_map.mp htext
      apply (numeralValue_scoreText w).2.1
    have hbody : [','].intercalate ((v :: rest).map fun v => (scoreText v).toList) ≠ [] := by
      have hfirst := (numeralValue_scoreText v).2.2
      cases rest with
      | nil => simpa using hfirst
      | cons w rest => simp [List.intercalate_cons_cons]
    rw [if_neg hbody, List.splitOn_intercalate ',' hcommas (List.cons_ne_nil _ _), List.map_map]
    apply List.map_congr_left
    intro w _
    apply (numeralValue_scoreText w).1

/-- Different scores have different lines. -/
theorem scoresLine_injective :
  Function.Injective scoresLine
  := by
  intro scores scores' h
  have hread := congrArg readLine h
  rw [readLine_scoresLine, readLine_scoresLine] at hread
  apply List.map_injective_iff.mpr (fun _ _ => Int8.toInt_inj.mp) hread

/-! ### The size of a line -/

namespace LineBuffer

theorem utf8ByteSize_tailText_le (rest : List Int8) :
  (tailText rest).utf8ByteSize ≤ 5 * rest.length
  := by
  induction rest with
  | nil => apply Nat.le_refl
  | cons v rest ih =>
    have hscore := utf8ByteSize_scoreText_le v
    have hcomma : (",").utf8ByteSize = 1 := rfl
    rw [tailText, String.utf8ByteSize_append, String.utf8ByteSize_append, List.length_cons, hcomma]
    omega

/-- A score of four characters takes five bytes wherever it is not the first. -/
theorem utf8ByteSize_tailText_replicate (n : Nat) :
  (tailText (List.replicate n (-128))).utf8ByteSize = 5 * n
  := by
  induction n with
  | zero => rfl
  | succ n ih =>
    have hscore : (scoreText (-128)).utf8ByteSize = 4 := by decide
    have hcomma : (",").utf8ByteSize = 1 := rfl
    rw [List.replicate_succ, tailText, String.utf8ByteSize_append, String.utf8ByteSize_append,
      hscore, hcomma, ih]
    omega

theorem utf8ByteSize_scoresLine_cons (v : Int8) (rest : List Int8) :
  (scoresLine (v :: rest)).utf8ByteSize
    = (scoreText v).utf8ByteSize + (tailText rest).utf8ByteSize + 2
  := by
  have hend : lineEnd.utf8ByteSize = 2 := rfl
  rw [scoresLine, ← append_tailText, String.utf8ByteSize_append, String.utf8ByteSize_append, hend]

/-- The lines of so many scores all fit in a reply just when there are at most 51 of them. -/
theorem scoresLine_fits_iff (n : Nat) :
  (∀ scores : List Int8, scores.length ≤ n → (scoresLine scores).utf8ByteSize ≤ responseCapacity)
    ↔ n ≤ 51
  := by
  rw [responseCapacity]
  constructor
  · intro h
    by_contra hmany
    have hfits := h (List.replicate 52 (-128)) (by rw [List.length_replicate]; omega)
    have hscore : (scoreText (-128)).utf8ByteSize = 4 := by decide
    rw [List.replicate_succ, utf8ByteSize_scoresLine_cons, utf8ByteSize_tailText_replicate,
      hscore] at hfits
    omega
  · intro hn scores hlength
    cases scores with
    | nil => decide
    | cons v rest =>
      have hscore := utf8ByteSize_scoreText_le v
      have hrest := utf8ByteSize_tailText_le rest
      rw [List.length_cons] at hlength
      rw [utf8ByteSize_scoresLine_cons]
      omega

/-- A line is written just when there is room for all of it, and then exactly it comes after what
was there; different scores have different lines; and an empty reply has room for all lists of so
many scores just when there are at most 51 of them. -/
theorem line_exact :
  (∀ (b b' : LineBuffer) (scores : List Int8), b.writeScores? scores = some b'
      ↔ b.text.utf8ByteSize + (scoresLine scores).utf8ByteSize ≤ b.capacity
        ∧ b' = ⟨b.capacity, b.text ++ scoresLine scores⟩)
    ∧ Function.Injective scoresLine
    ∧ ∀ n, (∀ scores : List Int8, scores.length ≤ n →
      ∃ b', (LineBuffer.mk responseCapacity "").writeScores? scores = some b') ↔ n ≤ 51
  := by
  have hwrite : ∀ (b b' : LineBuffer) (scores : List Int8), b.writeScores? scores = some b'
      ↔ b.text.utf8ByteSize + (scoresLine scores).utf8ByteSize ≤ b.capacity
        ∧ b' = ⟨b.capacity, b.text ++ scoresLine scores⟩ := by
    intro b b' scores
    rw [writeScores?_eq, write?]
    split
    · rename_i hfits
      simp [hfits, eq_comm]
    · rename_i hfits
      simp [hfits]
  use hwrite, scoresLine_injective
  intro n
  rw [← scoresLine_fits_iff]
  apply forall_congr'
  intro scores
  apply imp_congr_right
  intro _
  rw [writeScores?_empty]
  split
  · rename_i hfits
    exact iff_of_true ⟨_, rfl⟩ hfits
  · rename_i hfits
    exact iff_of_false nofun hfits

/-- A line may fill its buffer to the last byte, and a reply has room for 51 scores whatever they
are. -/
theorem line_exact_full :
  (LineBuffer.mk 11 "> ").writeScores? [12, -3, 0] = some ⟨11, "> 12,-3,0\r\n"⟩
    ∧ ∃ b', (LineBuffer.mk responseCapacity "").writeScores? (List.replicate 51 (-128)) = some b'
  := by
  obtain ⟨hwrite, -, hfits⟩ := line_exact
  constructor
  · apply (hwrite _ _ _).mpr
    decide
  · apply (hfits 51).mpr (Nat.le_refl _)
    apply Nat.le_of_eq List.length_replicate

end LineBuffer

end SandboxMonitor
