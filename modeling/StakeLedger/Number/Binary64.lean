/-!
# Magnitudes in Binary Floating Point

A number of 64 bits in binary floating point has 53 significant bits. Each finite one is a whole
multiple of the smallest positive one, so that a magnitude is counted in this unit; comparing
magnitudes is comparing counts. Numbers between two of them are rounded to the nearer one, and half
way to the one whose last significant bit is zero.
-/

namespace StakeLedger

/-- The magnitude of a number in binary floating point of 64 bits. -/
inductive Binary64 where
  /-- The magnitude of so many `units`, each of them the fraction `1 / unitsPerOne`. -/
  | finite (units : Nat)
  | infinite
  deriving DecidableEq, Repr

namespace Binary64

/-- How many units make one: the unit is `2 ^ (-1074)`, the least positive magnitude. -/
def unitsPerOne : Nat := 1 <<< 1074

/-- The least number of units that is no longer finite. -/
def bound : Nat := 1 <<< 2098

/-- The quotient `num / den` rounded to the nearest whole number, half way to the even one. -/
def divideToEven (num den : Nat) : Nat :=
  let quotient := num / den
  let twice := 2 * (num % den)
  if twice < den ∨ (twice = den ∧ quotient % 2 = 0) then quotient else quotient + 1

/-- The quotient `num / den` rounded to so many significant `bits`, and to a whole number at
least. -/
def divideToBits (bits num den : Nat) : Nat :=
  let length := Nat.log2 (num / den) + 1
  let dropped := length - bits
  divideToEven num (den <<< dropped) <<< dropped

/-- The magnitude nearest to the quotient `num / den`. -/
def ofRatio (num den : Nat) : Binary64 :=
  let units := divideToBits 53 (num * unitsPerOne) den
  if units < bound then finite units else infinite

/-- The magnitude nearest to `digits * 10 ^ exponent`. -/
def ofDecimal (digits : Nat) (exponent : Int) : Binary64 :=
  -- how many digits stand in front of the point decides all but a few cases
  let front := digits.repr.length + exponent
  if digits = 0 ∨ front < -330 then finite 0
  else if 310 < front then infinite
  else if exponent < 0 then ofRatio digits (Nat.pow 10 exponent.natAbs)
  else ofRatio (digits * Nat.pow 10 exponent.natAbs) 1

/-- The magnitude nearest to a product of two magnitudes. -/
def mul : Binary64 → Binary64 → Binary64
  | finite a, finite b => ofRatio (a * b) (unitsPerOne * unitsPerOne)
  | _, _ => infinite

/-- The magnitude nearest to a quotient of two finite magnitudes. -/
def div : Binary64 → Binary64 → Binary64
  | finite a, finite b => ofRatio a b
  | _, _ => infinite

end Binary64

end StakeLedger
