import StakeLedger.Number.Shortest
import StakeLedger.Text.Decimal

/-!
# Data in Columns

A datum is what a column of a row holds: an integer of 64 bits, a number in binary floating point,
or a text. A column of numbers takes a text as its number if the text is a numeral, and as an
integer if the number is one of 64 bits; any other text it keeps. A column of texts takes an integer
as its numeral.

Numbers come before texts, and texts are ordered by their characters.
-/

namespace StakeLedger

/-- A number in binary floating point, as its sign and its magnitude. -/
structure RealNumber where
  isNegative : Bool
  magnitude : Binary64
  deriving DecidableEq, Repr

/-- What a column of a row holds. -/
inductive Datum where
  | integer (n : Int64)
  /-- A number in binary floating point that is no integer of 64 bits. -/
  | real (x : RealNumber)
  | text (s : String)
  deriving DecidableEq, Repr

namespace RealNumber

/-- Where the number `x` stands: below, among or above the finite ones, and among them by its
units. -/
def position (x : RealNumber) : Int × Int :=
  match x.isNegative, x.magnitude with
  | false, .finite units => (0, units)
  | true, .finite units => (0, -units)
  | false, .infinite => (1, 0)
  | true, .infinite => (-1, 0)

/-- The text of the number `x`, with a minus sign if it is negative. -/
def text (x : RealNumber) : String :=
  if x.isNegative then "-" ++ x.magnitude.text else x.magnitude.text

/-- The order of numbers, from their positions `a` and `b`. -/
def comparePosition (a b : Int × Int) : Ordering := (compare a.1 b.1).then (compare a.2 b.2)

/-- The integer of 64 bits that the number `x` is, if it is one strictly between the least and the
greatest of them. -/
def integer? (x : RealNumber) : Option Int64 :=
  match x.position with
  | (0, units) =>
    let n := units / Binary64.unitsPerOne
    if n * Binary64.unitsPerOne = units ∧ Int64.minValue.toInt < n ∧ n < Int64.maxValue.toInt then
      some (Int64.ofInt n)
    else none
  | _ => none

/-- The number after `x`, rounded, so that a large number is its own next one. -/
def next (x : RealNumber) : RealNumber :=
  match x.position with
  | (0, units) =>
    let sum := units + Binary64.unitsPerOne
    ⟨decide (sum < 0), .ofRatio sum.natAbs Binary64.unitsPerOne⟩
  | _ => x

end RealNumber

/-! ## Numerals -/

/-- A numeral taken apart, before it is known which number it stands for. -/
structure Numeral where
  /-- Whether it has a minus sign. -/
  isNegative : Bool
  /-- The digits in front of the point. -/
  whole : List Char
  /-- The digits behind the point, or `none` if there is no point. -/
  fraction : Option (List Char)
  /-- Whether the exponent has a minus sign, and its digits, or `none` if there is no exponent. -/
  exponent : Option (Bool × List Char)

namespace Numeral

/-- Whether the character `c` may stand around a numeral. -/
def isBlank (c : Char) : Bool := c == ' ' || (0x09 ≤ c.toNat && c.toNat ≤ 0x0D)

/-- Takes a sign off the front of a text, and tells whether it is a minus sign. -/
def sign : List Char → Bool × List Char
  | '-' :: s => (true, s)
  | '+' :: s => (false, s)
  | s => (false, s)

/-- Takes the exponent off the front of what follows the digits. An `e` that no digits follow
fails. -/
def exponentOf : List Char → Option (Option (Bool × List Char) × List Char)
  | [] => some (none, [])
  | c :: rest =>
    if c = 'e' ∨ c = 'E' then
      let (isNegative, rest) := sign rest
      match rest.span Char.isDigit with
      | ([], _) => none
      | (digits, rest) => some (some (isNegative, digits), rest)
    else some (none, c :: rest)

/-- The numeral that the text `s` is, if blanks around it do not count. -/
def read? (s : List Char) : Option Numeral := do
  let (isNegative, s) := sign (s.dropWhile isBlank)
  let (whole, s) := s.span Char.isDigit
  let (fraction, s) := match s with
    | '.' :: s => let (digits, s) := s.span Char.isDigit; (some digits, s)
    | s => (none, s)
  guard (!whole.isEmpty || !(fraction.getD []).isEmpty)
  let (exponent, s) ← exponentOf s
  guard (s.all isBlank)
  return { isNegative, whole, fraction, exponent }

/-- The integer that a numeral without point and exponent stands for. -/
def integer? (n : Numeral) : Option Int :=
  match n.fraction, n.exponent with
  | none, none =>
    let magnitude : Int := Decimal.ofDigits n.whole
    some (if n.isNegative then -magnitude else magnitude)
  | _, _ => none

/-- From this significand on, `takeDigits` takes no further digits. -/
def fullFrom : Nat := 1844674407370955160

/-- Takes `digits` one by one into a significand, with the power of ten it is counted in. A digit
behind the point counts that power down if it is taken, one in front of the point counts it up if it
is not. -/
def takeDigits (isFraction : Bool) (start : Nat × Int) (digits : List Char) : Nat × Int :=
  digits.foldl (fun (s, power) c =>
    if s < fullFrom then (10 * s + (c.toNat - 48), if isFraction then power - 1 else power)
    else (s, if isFraction then power else power + 1)) start

/-- The number of an exponent, which is cut off at `10000`, where it does not matter any more. -/
def exponentNumber (digits : List Char) : Nat :=
  digits.foldl (fun e c => if e < 10000 then 10 * e + (c.toNat - 48) else 10000) 0

/-- The significand of the numeral `n` and the power of ten it is counted in. -/
def scientific (n : Numeral) : Nat × Int :=
  let (s, power) := takeDigits true (takeDigits false (0, 0) n.whole) (n.fraction.getD [])
  match n.exponent with
  | none => (s, power)
  | some (isNegative, digits) =>
    let e : Int := exponentNumber digits
    (s, power + if isNegative then -e else e)

/-- Brings the power of ten nearer to zero while the significand stays a whole number that is not
too large; `fuel` bounds the steps. -/
def balance : (fuel : Nat) → Nat × Int → Nat × Int
  | 0, p => p
  | fuel + 1, (s, power) =>
    if 0 < power ∧ s ≤ fullFrom then balance fuel (10 * s, power - 1)
    else if power < 0 ∧ s % 10 = 0 then balance fuel (s / 10, power + 1)
    else (s, power)

/-- A number with 64 significant bits: a significand and the power of two it is counted in. -/
abbrev Wide := Nat × Int

/-- Rounds a number to 64 significant bits, to an even significand where two are equally near. -/
def widen : Wide → Wide
  | (s, power) =>
    let dropped := Nat.log2 s + 1 - 64
    (Binary64.divideToEven s (1 <<< dropped), power + dropped)

/-- The product of `a` and `b`, rounded to 64 significant bits. -/
def times (a b : Wide) : Wide := widen (a.1 * b.1, a.2 + b.2)

/-- The power `10 ^ exponent`, or its inverse, with 64 significant bits. -/
def wideTen (exponent : Nat) (isInverse : Bool) : Wide :=
  let power := Nat.pow 10 exponent
  if isInverse then
    -- a quotient with many more bits than are kept, with a mark for what is cut off
    let shift := 2 * Nat.log2 power + 128
    let quotient := (1 <<< shift) / power
    widen (2 * quotient + 1, -(shift : Int) - 1)
  else widen (power, 0)

/-- Multiplies `x` by `10 ^ power` in steps of hundreds, tens and ones, each of which is rounded. -/
def scale (x : Wide) (power : Int) : Wide :=
  let steps := power.natAbs
  let isInverse := power < 0
  let by' (exponent times' : Nat) (x : Wide) : Wide :=
    (List.range times').foldl (fun x _ => times x (wideTen exponent isInverse)) x
  by' 1 (steps % 10) (by' 10 (steps % 100 / 10) (by' 100 (steps / 100) x))

/-- The magnitude of the numeral `n`, rounded after every step. -/
def magnitude (n : Numeral) : Binary64 :=
  let (s, power) := n.scientific
  if s = 0 then .finite 0
  else
    let (s, power) := balance 40 (s, power)
    if power = 0 then .ofRatio s 1
    else
      let (s, q) := scale (s, 0) power
      let (num, den) := if q < 0 then (s, 1 <<< q.natAbs) else (s <<< q.natAbs, 1)
      -- the largest finite number is a limit that is not rounded to
      if (Binary64.bound - (1 <<< 2045)) * den < num * Binary64.unitsPerOne then .infinite
      else .ofRatio num den

end Numeral

namespace Datum

/-- The datum of a number: `integer` if it is one. -/
def ofReal (x : RealNumber) : Datum :=
  match x.integer? with
  | some n => integer n
  | none => real x

/-- What a column of numbers makes of the text `s`: its number if it is a numeral, else the text. -/
def ofText (s : String) : Datum :=
  match Numeral.read? s.toList with
  | none => text s
  | some numeral =>
    let rounded := ofReal ⟨numeral.isNegative, numeral.magnitude⟩
    match numeral.integer? with
    | none => rounded
    | some n =>
      if Int64.minValue.toInt ≤ n ∧ n ≤ Int64.maxValue.toInt then
        integer (Int64.ofInt n)
      else rounded

/-- What a column of numbers makes of a datum, which is `ofText` for a text. -/
def numeric : Datum → Datum
  | text s => ofText s
  | d => d

/-- The text that a column of texts makes of a datum, if it makes one. -/
def textual? : Datum → Option String
  | text s => some s
  | integer n => some n.toInt.repr
  | real _ => none

/-- Where a datum stands, with texts behind all numbers. -/
def position : Datum → Int × Int
  | integer n => (0, n.toInt * Binary64.unitsPerOne)
  | real x => x.position
  | text _ => (2, 0)

instance : Ord Datum where
  compare
    | integer a, integer b => compare a b
    | text a, text b => compare a b
    | a, b => RealNumber.comparePosition a.position b.position

/-- The number after a datum; a text stays. An integer past 64 bits is counted in floating point. -/
def next : Datum → Datum
  | integer n =>
    if n = Int64.maxValue then real ⟨false, .ofRatio 9223372036854775808 1⟩ else integer (n + 1)
  | real x => real x.next
  | text s => text s

end Datum

end StakeLedger
