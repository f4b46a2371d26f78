import StakeLedger.Database.Column
import StakeLedger.Proofs.Bitcoin.Encoding
import StakeLedger.Proofs.Data.Json
import StakeLedger.Proofs.Order.Listing
import StakeLedger.Proofs.Text.HexOrder

/-!
# Reading Back Columns

A column of signed numbers holds heights below two to the 63rd in their own order
(`compare_encodeHeight`) and gives them back (`decodeHeight_encodeHeight`). Numbers of 32 bits,
names, sets of keys and transactions of the size a reader accepts are given back as well.
-/

namespace StakeLedger

/-- The height `h` is below `2 ^ 63`, so that it is not stored as a negative number. -/
def IsStorableHeight (h : Height) : Prop := h.toNat < 2 ^ 63

namespace Column

/-! ## Numbers -/

/-- A number below `2 ^ 63` is the same with a sign. -/
theorem toInt_toInt64 {n : UInt64} (h : n.toNat < 2 ^ 63) : n.toInt64.toInt = n.toNat := by
  change n.toBitVec.toInt = n.toNat
  refine BitVec.toInt_eq_toNat_of_lt ?_
  change 2 * n.toNat < 2 ^ 64
  omega

/-- Different numbers are stored as different signed numbers, the large ones included. -/
theorem toInt64_inj {m n : UInt64} (h : m.toInt64 = n.toInt64) : m = n := by
  have hback := congrArg Int64.toUInt64 h
  rwa [UInt64.toUInt64_toInt64, UInt64.toUInt64_toInt64] at hback

/-- A number below `2 ^ 63` is not negative where it is stored. -/
theorem not_toInt64_neg {n : UInt64} (h : n.toNat < 2 ^ 63) : ¬n.toInt64 < 0 := by
  rw [Int64.lt_iff_toInt_lt, toInt_toInt64 h, Int64.toInt_zero]
  omega

/-- A stored height is read back if it is below `2 ^ 63`, whatever the column was `expected` to
hold. -/
theorem decodeHeight_encodeHeight {h : Height} (hh : IsStorableHeight h)
    (expected : ExpectedNumber) :
    decodeHeight expected (encodeHeight h) = .ok h := by
  change (if h.toInt64 < 0 then _ else _) = _
  rw [if_neg (not_toInt64_neg hh), UInt64.toUInt64_toInt64]
  rfl

/-- Stored heights are ordered as the heights `a` and `b`, if both are below `2 ^ 63`. -/
theorem compare_encodeHeight {a b : Height} (ha : IsStorableHeight a) (hb : IsStorableHeight b) :
    compare (encodeHeight a) (encodeHeight b) = compare a b := by
  change compareOfLessAndEq a.toInt64 b.toInt64 = compareOfLessAndEq a b
  have hlt : a.toInt64 < b.toInt64 ↔ a < b := by
    rw [Int64.lt_iff_toInt_lt, toInt_toInt64 ha, toInt_toInt64 hb, UInt64.lt_iff_toNat_lt]
    exact Int.ofNat_lt
  have heq : a.toInt64 = b.toInt64 ↔ a = b := ⟨toInt64_inj, congrArg UInt64.toInt64⟩
  simp only [compareOfLessAndEq, hlt, heq]

/-- A number of 32 bits is read back from its column, whatever it is. -/
theorem decodeWord_encodeWord (n : UInt32) : decodeWord (encodeWord n) = .ok n := by
  have hn := n.toNat_lt
  have hsmall : n.toUInt64.toNat < 2 ^ 63 := by
    rw [UInt32.toNat_toUInt64]
    omega
  have hlt : n.toUInt64 < 4294967296 := by
    rw [UInt64.lt_iff_toNat_lt, UInt32.toNat_toUInt64]
    exact hn
  change (if n.toUInt64.toInt64 < 0 then _ else if n.toUInt64.toInt64.toUInt64 < 4294967296 then _
    else _) = _
  rw [if_neg (not_toInt64_neg hsmall), UInt64.toUInt64_toInt64, if_pos hlt,
    UInt32.toUInt32_toUInt64]
  rfl

/-! ## Texts -/

theorem decodeName_state (s : State) : decodeName State.ofName? s.name = .ok s := by
  rw [decodeName, State.ofName?_name]
  rfl

theorem decodeName_subState (s : SubState) : decodeName SubState.ofName? s.name = .ok s := by
  rw [decodeName, SubState.ofName?_name]
  rfl

theorem decodeName_slashedOutput (o : SlashedOutput) :
    decodeName SlashedOutput.ofName? o.name = .ok o := by
  rw [decodeName, SlashedOutput.ofName?_name]
  rfl

/-- A transaction is read back from its text if its encoding has at most `Transaction.sizeLimit`
bytes. -/
theorem decodeTransaction_hex {t : Transaction} (h : t.encode.length ≤ Transaction.sizeLimit) :
    decodeTransaction t.hex = .ok t := by
  rw [decodeTransaction, decodeWith, Transaction.ofHex?_hex h]

/-- The texts of the keys in a set, in the order of the set. -/
def keyTexts (keys : SortedSet XOnlyKey) : List String := keys.elements.map XOnlyKey.text

/-- A set of keys is stored as the list of `keyTexts keys`. -/
theorem encodeKeys_eq (keys : SortedSet XOnlyKey) :
    encodeKeys keys = Json.text (.list ((keyTexts keys).map .text)) := by
  rw [keyTexts, List.map_map]
  rfl

/-- A set of keys is read back from its column. -/
theorem decodeKeys_encodeKeys (keys : SortedSet XOnlyKey) :
    decodeKeys (encodeKeys keys) = .ok keys := by
  have hlist : Form.key.list.IsLossless :=
    Form.isLossless_list (Form.isLossless_spelled XOnlyKey.ofText?_text)
  have hkeys : Form.keySet.read? (.list ((keyTexts keys).map .text)) = some keys := by
    have hread := congrArg (Option.map SortedSet.ofList) (hlist keys.elements)
    rw [Option.map_some, SortedSet.ofList_elements] at hread
    rw [keyTexts, List.map_map]
    exact hread
  have hplain : (Value.list ((keyTexts keys).map .text)).IsPlain 127 := by
    intro v hv
    obtain ⟨s, -, rfl⟩ := List.mem_map.1 hv
    trivial
  rw [decodeKeys, encodeKeys_eq, Json.read?_text hplain, Option.bind_some, hkeys]

end Column

end StakeLedger
