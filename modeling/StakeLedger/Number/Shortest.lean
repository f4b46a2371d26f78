import StakeLedger.Number.Binary64

/-!
# Shortest Decimal Texts

A number in binary floating point is written with the fewest decimal digits that are read back as
the same number, and among these with the ones nearest to it. Numbers of moderate size are written
positionally, with a digit on both sides of the point, and all others with an exponent.
-/

namespace StakeLedger.Binary64

/-- The places that decimal fractions of finite numbers are shifted by to count their digits. -/
def fractionPlaces : Nat := 400

/-- How many digits of `units` stand in front of the point, which is negative if zeros follow the
point. -/
def frontDigits (units : Nat) : Int :=
  let shifted := units * Nat.pow 10 fractionPlaces / unitsPerOne
  (shifted.repr.length : Int) - fractionPlaces

/-- Four times the decimal number `digits * 10 ^ power` in units, as a quotient. -/
def fourfold (digits : Nat) (power : Int) : Nat × Nat :=
  if power < 0 then (4 * digits * unitsPerOne, Nat.pow 10 power.natAbs)
  else (4 * digits * unitsPerOne * Nat.pow 10 power.natAbs, 1)

/-- Whether the decimal number `digits * 10 ^ power` is read as `units`. -/
def isReadAs (units : Nat) (digits : Nat) (power : Int) : Bool :=
  let gap := 1 <<< (Nat.log2 units - 52)
  -- below a power of two the numbers lie closer together
  let below := if units = gap <<< 52 ∧ 1 < gap then gap else 2 * gap
  let (num, den) := fourfold digits power
  let low := (4 * units - below) * den
  let high := (4 * units + 2 * gap) * den
  if units / gap % 2 = 0 then low ≤ num && num ≤ high else low < num && num < high

/-- How far the decimal number `digits * 10 ^ power` is from `units`, as a multiple of a common
fraction. -/
def distance (units : Nat) (digits : Nat) (power : Int) : Nat :=
  let (num, den) := fourfold digits power
  ((num : Int) - (4 * units * den : Nat)).natAbs

/-- The decimal number of `count` digits that is read as `units`, if there is one. -/
def ofLength? (units count : Nat) : Option (Nat × Int) :=
  let power := frontDigits units - count
  let (num, den) := fourfold 1 power
  let low := 4 * units * den / num
  match isReadAs units low power, isReadAs units (low + 1) power with
  | true, true =>
    if distance units (low + 1) power < distance units low power then some (low + 1, power)
    else some (low, power)
  | true, false => some (low, power)
  | false, true => some (low + 1, power)
  | false, false => none

/-- The shortest decimal number that is read as `units`. -/
def shortest (units : Nat) : Nat × Int :=
  ((List.range 17).findSome? fun n => ofLength? units (n + 1)).getD (0, 0)

/-- A text of `count` zeros, which is empty for a negative count. -/
def zeros (count : Int) : String := String.ofList (List.replicate count.toNat '0')

/-- The text of the decimal number `digits * 10 ^ power`, with an exponent where the point would
stand far from the digits. -/
def layout (digits : Nat) (power : Int) : String :=
  -- zeros at the end of the digits are none of them
  let significant := (digits.repr.toList.reverse.dropWhile (· = '0')).reverse
  let power := power + (digits.repr.length - significant.length)
  let front := significant.length + power
  if 0 ≤ power ∧ front ≤ 16 then String.ofList significant ++ zeros power ++ ".0"
  else if 0 < front ∧ front ≤ 16 then
    String.ofList (significant.take front.toNat) ++ "." ++
      String.ofList (significant.drop front.toNat)
  else if -5 < front ∧ front ≤ 0 then "0." ++ zeros (-front) ++ String.ofList significant
  else
    let fraction := if significant.length = 1 then "" else "." ++ String.ofList (significant.drop 1)
    String.ofList (significant.take 1) ++ fraction ++ "e" ++ (front - 1).repr

/-- The shortest text of a magnitude from which the same magnitude is read. -/
def text : Binary64 → String
  | .infinite => "inf"
  | .finite units =>
    if units = 0 then "0.0" else let (digits, power) := shortest units; layout digits power

end StakeLedger.Binary64
