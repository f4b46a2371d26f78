import StakeLedger.Text.Hex

/-!
# Signatures

A Schnorr signature is 64 bytes, displayed as 128 hexadecimal digits. It is stored and returned;
whether it verifies is not examined here.
-/

namespace StakeLedger

/-- The signature of a covenant member over a delegation. -/
structure Signature where
  /-- The 64 bytes as one number, the first byte most significant. -/
  number : BitVec 512
  deriving DecidableEq, Inhabited

namespace Signature

/-- The displayed text of the signature `s`: 128 lower-case digits. -/
def text (s : Signature) : String := String.ofList (Hex.ofNat 128 s.number.toNat)

/-- Reads a displayed signature from the text `s`, with digits of either case. -/
def ofText? (s : String) : Option Signature :=
  (Hex.read? 128 s.toList).map fun n => ⟨BitVec.ofNat 512 n⟩

/-- A signature is read back from its text. -/
theorem ofText?_text (s : Signature) : ofText? s.text = some s := by
  have h : s.number.toNat < Hex.capacity 128 :=
    Nat.lt_of_lt_of_eq s.number.isLt (by decide +kernel)
  simp [ofText?, text, Hex.read?_ofNat h]

end Signature

end StakeLedger
