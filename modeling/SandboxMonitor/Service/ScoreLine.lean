/-!
# Score lines

Scores are answered as one line of text: their decimal values with commas between them, and
a carriage return and a line feed at the end.  `LineBuffer` is text of bounded size, and
`LineBuffer.writeScores?` writes a line to it piece by piece, which fails when a piece does
not fit.
-/

namespace SandboxMonitor

/-- Text that may take at most `capacity` bytes. -/
structure LineBuffer where
  capacity : Nat
  text : String
deriving DecidableEq

/-- The end of a line. -/
def lineEnd : String := "\r\n"

/-- The decimal numeral of a score. -/
def scoreText (v : Int8) : String := toString v.toInt

namespace LineBuffer

/-- The buffer with more text, if there is room for it. -/
def write? (b : LineBuffer) (s : String) : Option LineBuffer :=
  if b.text.utf8ByteSize + s.utf8ByteSize ≤ b.capacity then some { b with text := b.text ++ s }
  else none

/-- The buffer with each of the scores after a comma. -/
def writeTail? (b : LineBuffer) : List Int8 → Option LineBuffer
  | [] => some b
  | v :: rest => do
    let b ← b.write? ","
    let b ← b.write? (scoreText v)
    b.writeTail? rest

/-- The buffer with a line of scores, if there is room for all of it. -/
def writeScores? (b : LineBuffer) (scores : List Int8) : Option LineBuffer := do
  let b ← match scores with
    | [] => some b
    | v :: rest => (b.write? (scoreText v)).bind fun b => b.writeTail? rest
  b.write? lineEnd

end LineBuffer

end SandboxMonitor
