import StakeLedger.Text.Decimal

/-!
# Punycode

A text with characters beyond ASCII is encoded in ASCII: first its ASCII characters and a hyphen,
then for each of the others how many places to go on, counting all places where it could stand, for
one character after the other. The distances are written in digits whose range adapts to the
distances before.
-/

namespace StakeLedger.Punycode

/-- The number that the digit `c` stands for: a letter or, from `26` on, a decimal digit. -/
def digit? (c : Char) : Option Nat :=
  if c.isAlpha then some (c.toLower.toNat - 'a'.toNat)
  else if c.isDigit then some (26 + (c.toNat - '0'.toNat))
  else none

/-- How many digits there are in Punycode. -/
def base : Nat := 36

/-- The least digit that is not the last one, at a `place` counted from the front, under the given
`bias`. -/
def threshold (place bias : Nat) : Nat := min 26 (max 1 (base * place - bias))

/-- The least number that is too large for a distance: numbers have 32 bits. -/
def bound : Nat := 0x100000000

/-- A digit that is not the last one is at least `1`, so that every digit counts. -/
theorem one_le_threshold (place bias : Nat) : 1 ≤ threshold place bias := by
  unfold threshold
  omega

/-- Reads the digits of a distance, from the least significant one on. The digits read so far give
`distance`, and the next one counts `weight`. -/
def distance? (bias place weight distance : Nat) : List Char → Option (Nat × List Char)
  | [] => none
  | c :: rest => do
    let d ← digit? c
    let distance := distance + d * weight
    guard (distance < bound)
    let t := threshold place bias
    if d < t then return (distance, rest)
    let weight := weight * (base - t)
    guard (weight < bound)
    distance? bias (place + 1) weight distance rest

/-- How often the distance `delta` goes through the whole range of digits, and what is left of
it. -/
def reduce (delta : Nat) : Nat × Nat :=
  if 455 < delta then
    let (count, rest) := reduce (delta / 35)
    (count + 1, rest)
  else (0, delta)
termination_by delta
decreasing_by omega

/-- What `reduce` leaves of a distance is within the range of digits. -/
theorem reduce_le (delta : Nat) : (reduce delta).2 ≤ 455 := by
  fun_induction reduce delta with
  | case1 delta h count rest hr ih => simpa [hr] using ih
  | case2 delta h => exact Nat.not_lt.1 h

/-- The bias after a distance: the larger it was, the larger the next one is expected to be. -/
def adapt (distance length : Nat) (isFirst : Bool) : Nat :=
  let delta := if isFirst then distance / 700 else distance / 2
  let (count, rest) := reduce (delta + delta / length)
  base * count + base * rest / (rest + 38)

/-- A text that is being decoded, with what is known of the next character. -/
structure Decoding where
  text : List Char
  /-- The least code that the next character can have. -/
  code : Nat
  /-- The place in `text` where the next character could stand. -/
  place : Nat
  /-- The bias of the next distance, by which `threshold` is computed. -/
  bias : Nat

/-- Goes over `distance` and inserts the next character where that leads. -/
def Decoding.step? (s : Decoding) (distance : Nat) : Option Decoding :=
  let length := s.text.length + 1
  let place := distance % length
  let code := s.code + distance / length
  if code.isValidChar then
    some {
      text := s.text.insertIdx place (Char.ofNat code)
      code
      place := place + 1
      bias := adapt (distance - s.place) length (s.place = 0) }
  else none

/-- Decodes distances from the state `s`, of which there are less than `fuel`. -/
def decodeFrom (s : Decoding) : (fuel : Nat) → List Char → Option (List Char)
  | 0, _ => none
  | _ + 1, [] => some s.text
  | fuel + 1, c :: rest => do
    let (distance, rest) ← distance? s.bias 1 1 s.place (c :: rest)
    decodeFrom (← s.step? distance) fuel rest

/-- Decodes the text `s`. Its ASCII characters are read in small letters. -/
def decode? (s : List Char) : Option (List Char) :=
  let (distances, start) := s.reverse.span (· ≠ '-')
  -- a hyphen without anything in front of it divides nothing
  let (ascii, distances) := match start with
    | _ :: c :: rest => ((c :: rest).reverse.map Char.toLower, distances.reverse)
    | _ => ([], s)
  decodeFrom ⟨ascii, 0x80, 0, 72⟩ (distances.length + 1) distances

end StakeLedger.Punycode
