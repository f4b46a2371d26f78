import StakeLedger.Text.Hex

/-!
# X-Only Public Keys

A key is the first coordinate of a point of the curve y² = x³ + 7 over the field with 2²⁵⁶ - 2³² -
977 elements. Since the size of that field is one short of a multiple of four, the power (p + 1) / 4
of a square is one of its roots, which makes the curve condition decidable by one power.

Keys are displayed as 64 hexadecimal digits and ordered as numbers.
-/

namespace StakeLedger

/-- The number of elements of the field the curve is defined over. -/
def fieldSize : Nat := 0xfffffffffffffffffffffffffffffffffffffffffffffffffffffffefffffc2f

/-- The power of `base` to `exponent` modulo `modulus`, for an exponent of at most 256 bits, by
squaring once per bit. -/
def powerMod (base exponent modulus : Nat) : Nat :=
  (List.range 256).foldl
    (fun acc i =>
      -- the bits are taken from the most significant one down
      let square := acc * acc % modulus
      if exponent.testBit (255 - i) then square * base % modulus else square)
    (1 % modulus)

/-- The only possible square root of `n` in the field, up to sign. -/
def rootCandidate (n : Nat) : Nat := powerMod n ((fieldSize + 1) / 4) fieldSize

/-- The square of the second coordinate of a point with first coordinate `x`. -/
def curveSquare (x : Nat) : Nat := (x * x * x + 7) % fieldSize

/-- Some point of the curve has the first coordinate `x`: the candidate for a root of `x ^ 3 + 7` is
one. -/
def IsCurveX (x : Nat) : Prop :=
  x < fieldSize ∧
    rootCandidate (curveSquare x) * rootCandidate (curveSquare x) % fieldSize = curveSquare x

instance (x : Nat) : Decidable (IsCurveX x) := inferInstanceAs (Decidable (_ ∧ _))

/-- The public key of a staker, a finality provider or a covenant member: the first coordinate of a
point of the curve. -/
structure XOnlyKey where
  number : BitVec 256
  /-- There is a point with this first coordinate. -/
  isCurveX : IsCurveX number.toNat
  deriving DecidableEq

namespace XOnlyKey

instance : Ord XOnlyKey := ⟨compareOn number⟩

instance : Std.TransOrd XOnlyKey :=
  inferInstanceAs (Std.TransCmp (compareOn number))

instance : Std.LawfulEqOrd XOnlyKey where
  eq_of_compare {a b} h := by
    have hn : a.number = b.number := Std.LawfulEqOrd.eq_of_compare h
    cases a
    cases b
    simp only at hn
    subst hn
    rfl

/-- The key with the first coordinate `n`, if there is such a point. -/
def ofNat? (n : Nat) : Option XOnlyKey :=
  let number := BitVec.ofNat 256 n
  if h : IsCurveX number.toNat then some ⟨number, h⟩ else none

/-- The displayed text of the key `k`: 64 lower-case digits. -/
def text (k : XOnlyKey) : String := String.ofList (Hex.ofNat 64 k.number.toNat)

/-- Reads a displayed key from the text `s`, with digits of either case. -/
def ofText? (s : String) : Option XOnlyKey :=
  (Hex.read? 64 s.toList).bind ofNat?

/-- A key is read back from its text. -/
theorem ofText?_text (k : XOnlyKey) : ofText? k.text = some k := by
  have h : k.number.toNat < Hex.capacity 64 := k.number.isLt
  simp [ofText?, text, Hex.read?_ofNat h, ofNat?, k.isCurveX]

end XOnlyKey

end StakeLedger
