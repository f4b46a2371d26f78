import StakeLedger.Text.Hex

/-!
# Transaction Identifiers

A transaction identifier is a number of 256 bits. It is displayed as its 64 hexadecimal digits, most
significant first, and identifiers are ordered as they are displayed, which is their numeric order.
-/

namespace StakeLedger

/-- The identifier of a Bitcoin transaction. -/
structure Txid where
  /-- The identifier as a number, of which `text` is the hexadecimal form. -/
  number : BitVec 256
  deriving DecidableEq, Inhabited

namespace Txid

instance : Ord Txid := ⟨compareOn number⟩

instance : Std.TransOrd Txid :=
  inferInstanceAs (Std.TransCmp (compareOn number))

instance : Std.LawfulEqOrd Txid where
  eq_of_compare {a b} h := by
    cases a
    cases b
    exact congrArg mk (Std.LawfulEqOrd.eq_of_compare h)

/-- The number of identifiers, `2 ^ 256`. -/
def count : Nat := 1 <<< 256

/-- The displayed text of the identifier `t`: 64 lower-case digits. -/
def text (t : Txid) : String := String.ofList (Hex.ofNat 64 t.number.toNat)

/-- Reads a displayed identifier from the text `s`, with digits of either case. -/
def ofText? (s : String) : Option Txid :=
  (Hex.read? 64 s.toList).map fun n => ⟨BitVec.ofNat 256 n⟩

/-- The displayed bytes of the identifier `t`, most significant first. -/
def displayBytes (t : Txid) : List UInt8 :=
  (List.range 32).map fun i => UInt8.ofNat (t.number.toNat >>> (8 * (31 - i)))

/-- An identifier is read back from its text. -/
theorem ofText?_text (t : Txid) : ofText? t.text = some t := by
  have h : t.number.toNat < Hex.capacity 64 := t.number.isLt
  simp [ofText?, text, Hex.read?_ofNat h]

end Txid

end StakeLedger
