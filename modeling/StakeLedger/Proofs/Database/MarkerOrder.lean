import StakeLedger.Proofs.Bitcoin.DisplayBytes
import StakeLedger.Proofs.Database.Rows

/-!
# One Order of Markers

Markers are ordered by height, by the displayed bytes of the transaction and by spending path. A
query orders their rows by what is stored: a signed number, the bytes of a text, and a rank for the
name of the spending path (`Marker.sortKey`). These are the same order where heights are below two
to the 63rd (`Marker.compare_sortKey`); a larger height is stored as a negative number and comes
first.
-/

namespace StakeLedger

/-- What a query orders the rows of markers by: the stored height, the stored bytes of the text of
the transaction, and the rank of the spending path. -/
structure SortKey where
  height : Int64
  txid : List UInt8
  rank : Nat

namespace SortKey

/-- Keys are compared from the front. -/
instance : Ord SortKey :=
    ⟨compareLex (compareOn height) (compareLex (compareOn txid) (compareOn rank))⟩

/-- Keys are compared by `height`, then by `txid`, then by `rank`. -/
theorem compare_eq (k l : SortKey) :
    compare k l = (compare k.height l.height).then
      ((compare k.txid l.txid).then (compare k.rank l.rank)) := rfl

end SortKey

namespace Marker

/-- The key of the row of the marker `m`, made of the values in its columns. -/
def sortKey (m : Marker) : SortKey where
  height := m.expireHeight.toInt64
  txid := storedBytes m.txid.text
  rank := if m.subState = .timelock then 0 else 1

/-- The spending paths are ranked in their own order: `0` for the timelock, `1` for early
unbonding. -/
theorem rank_sortKey (m : Marker) : m.sortKey.rank = m.subState.index := by
  unfold sortKey
  cases m.subState <;> rfl

/-- A query orders the rows of markers by their keys, whatever the heights. -/
theorem compareKey_eq_sortKey (a b : Marker) :
    (MarkerRow.ofMarker a).compareKey (.ofMarker b) = compare a.sortKey b.sortKey := by
  -- the texts of rows are compared by characters, those of keys by bytes
  have htxid : compare (MarkerRow.ofMarker a).txid (MarkerRow.ofMarker b).txid =
      compare a.sortKey.txid b.sortKey.txid :=
    (Txid.compare_text a.txid b.txid).trans (Txid.compare_storedBytes_text a.txid b.txid).symm
  rw [MarkerRow.compareKey, htxid, MarkerRow.rank_ofMarker, MarkerRow.rank_ofMarker, ← rank_sortKey,
    ← rank_sortKey, SortKey.compare_eq]
  rfl

/-- Keys are ordered as the markers `a` and `b`, if the heights are below `2 ^ 63` and so keep their
order where they are stored. -/
theorem compare_sortKey {a b : Marker} (ha : IsStorableHeight a.expireHeight)
    (hb : IsStorableHeight b.expireHeight) :
    compare a.sortKey b.sortKey = compare a b := by
  rw [← compareKey_eq_sortKey, MarkerRow.compareKey_ofMarker ha hb]

/-- Markers are compared by height, by the bytes of the transaction as they are displayed, and by
spending path. -/
theorem compare_eq_displayBytes (a b : Marker) :
    compare a b = (compare a.expireHeight b.expireHeight).then
      ((compare a.txid.displayBytes b.txid.displayBytes).then (compare a.subState b.subState)) := by
  rw [compare_eq, Txid.compare_displayBytes]

/-- The order of markers is total, and it is the order in which a query lists their rows. -/
structure OrdersAgree : Prop where
  /-- Any two markers `a` and `b` can be compared. -/
  total : ∀ a b : Marker, (compare a b).isLE ∨ (compare b a).isLE
  /-- Exchanging `a` and `b` turns the comparison around. -/
  swap : ∀ a b : Marker, compare a b = (compare b a).swap
  /-- If `a` is not behind `b`, and `b` not behind `c`, then `a` is not behind `c`. -/
  trans : ∀ a b c : Marker, (compare a b).isLE → (compare b c).isLE → (compare a c).isLE
  /-- Markers come at the same place exactly if all their fields are the same. -/
  same : ∀ a b : Marker, compare a b = .eq ↔
    a.expireHeight = b.expireHeight ∧ a.txid = b.txid ∧ a.subState = b.subState
  /-- Markers are compared by height, by `displayBytes` of the transaction and by spending path. -/
  fields : ∀ a b : Marker, compare a b = (compare a.expireHeight b.expireHeight).then
    ((compare a.txid.displayBytes b.txid.displayBytes).then (compare a.subState b.subState))
  /-- With heights below `2 ^ 63`, markers are ordered as their keys, `sortKey`. -/
  keys : ∀ a b : Marker, IsStorableHeight a.expireHeight → IsStorableHeight b.expireHeight →
    compare a b = compare a.sortKey b.sortKey
  /-- Rows come in the order of the keys, whatever the heights: `MarkerRow.compareKey` is that
  order. -/
  rows : ∀ a b : Marker, (MarkerRow.ofMarker a).compareKey (.ofMarker b) =
    compare a.sortKey b.sortKey
  /-- What is displayed are the 32 bytes of the wire form, in reverse: `displayBytes` is
  big-endian. -/
  displayed : ∀ t : Txid, t.displayBytes = (Wire.littleEndian 32 t.number.toNat).reverse
  /-- The text has 64 digits, two for each byte of `displayBytes`. -/
  text : ∀ t : Txid, t.text.length = 64 ∧ t.text = String.ofList (Hex.ofBytes t.displayBytes)
  /-- Texts are ordered as `displayBytes`, by the bytes in which they are stored. -/
  texts : ∀ t u : Txid, compare (storedBytes t.text) (storedBytes u.text) =
    compare t.displayBytes u.displayBytes

end Marker

open Marker

/-- Markers have one order, in memory and in the database, where heights are below `2 ^ 63`. -/
theorem marker_orders_agree : OrdersAgree where
  total a b := by
    rw [Std.OrientedOrd.eq_swap (a := b)]
    cases compare a b <;> simp
  swap _ _ := Std.OrientedOrd.eq_swap
  trans _ _ _ := Std.TransOrd.isLE_trans
  same a b := by
    rw [Std.LawfulEqOrd.compare_eq_iff_eq]
    constructor
    · rintro rfl
      exact ⟨rfl, rfl, rfl⟩
    · rintro ⟨hheight, htxid, hsub⟩
      cases a
      cases b
      rw [Marker.mk.injEq]
      exact ⟨hheight, htxid, hsub⟩
  -- three comparisons: field by field, by the sort key, and by the columns of a row
  fields := compare_eq_displayBytes
  keys _ _ ha hb := (compare_sortKey ha hb).symm
  rows := compareKey_eq_sortKey
  displayed := Txid.displayBytes_eq
  text t := ⟨by rw [Txid.text, String.length_ofList, Hex.length_ofNat], Txid.text_eq t⟩
  texts t u := by rw [Txid.compare_storedBytes_text, Txid.compare_displayBytes]

/-- A height of two to the 63rd is stored as a negative number. -/
example (t : Txid) (s : SubState) :
    compare (sortKey ⟨9223372036854775808, t, s⟩) (sortKey ⟨0, t, s⟩) = .lt := by rfl

end StakeLedger
