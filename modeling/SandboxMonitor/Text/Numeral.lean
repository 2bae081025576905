/-!
# Numerals

`hex width n` writes a number in hexadecimal and `padded width n` in decimal, both filled
with zeros to a least number of digits.  A number with more digits than that is written
in full.
-/

namespace SandboxMonitor.Text

/-- The digits `ds` with zeros in front, to at least `width` characters. -/
def zeroFilled (width : Nat) (ds : List Char) : List Char :=
  List.replicate (width - ds.length) '0' ++ ds

/-- The hexadecimal numeral of `n` after `0x`, with at least `width` lowercase digits. -/
def hex (width n : Nat) : String :=
  "0x" ++ String.ofList (zeroFilled width (Nat.toDigits 16 n))

/-- The decimal numeral of `n` with at least `width` digits. -/
def padded (width n : Nat) : String :=
  String.ofList (zeroFilled width (Nat.toDigits 10 n))

/-- A 32-bit word as eight hexadecimal digits. -/
def word (w : UInt32) : String := hex 8 w.toNat

/-- An octet as two hexadecimal digits. -/
def octet (b : UInt8) : String := hex 2 b.toNat

end SandboxMonitor.Text
