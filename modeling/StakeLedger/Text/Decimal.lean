/-!
# Decimal Numerals

A numeral in canonical form has no sign and no superfluous leading zero.
-/

namespace StakeLedger.Decimal

/-- The number that `digits` stand for, most significant digit first. -/
def ofDigits (digits : List Char) : Nat := digits.foldl (fun n c => 10 * n + (c.toNat - 48)) 0

/-- The number that a non-empty text of digits stands for, with any number of leading zeros. -/
def read? (text : List Char) : Option Nat :=
  if !text.isEmpty && text.all Char.isDigit then some (ofDigits text) else none

/-- The number that a numeral in canonical form stands for: there is no zero in front of other
digits. -/
def readCanonical? : List Char → Option Nat
  | '0' :: _ :: _ => none
  | text => read? text

/-- The number that digits stand for, with a minus sign in front of them or without. -/
def readSigned? : List Char → Option Int
  | '-' :: text => (read? text).map fun n => -(n : Int)
  | text => (read? text).map Int.ofNat

end StakeLedger.Decimal
