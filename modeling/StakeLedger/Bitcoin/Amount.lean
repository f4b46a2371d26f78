/-!
# Amounts

Amounts are counted in satoshi, of which a bitcoin has a hundred million. In messages an amount of
whole bitcoins is written without decimals and every other one with all eight.
-/

namespace StakeLedger

/-- An amount of bitcoin, counted in satoshi. -/
structure Amount where
  sats : UInt64
  deriving DecidableEq, Inhabited

namespace Amount

instance : LT Amount := ⟨fun a b => a.sats < b.sats⟩

instance (a b : Amount) : Decidable (a < b) := inferInstanceAs (Decidable (a.sats < b.sats))

/-- The number of satoshi in a bitcoin. -/
def satsPerBitcoin : Nat := 100000000

/-- The decimal digits of `n`, filled up with zeros in front to `width` of them. -/
def paddedDigits (width n : Nat) : String :=
  let digits := toString n
  String.ofList (List.replicate (width - digits.length) '0') ++ digits

/-- The amount `a` in bitcoin, as messages show it: with eight decimals or without any. -/
def text (a : Amount) : String :=
  let whole := a.sats.toNat / satsPerBitcoin
  let rest := a.sats.toNat % satsPerBitcoin
  if rest = 0 then s!"{whole} BTC" else s!"{whole}.{paddedDigits 8 rest} BTC"

end Amount

end StakeLedger
