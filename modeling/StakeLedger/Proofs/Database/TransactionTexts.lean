import StakeLedger.Proofs.Bitcoin.Canonical
import StakeLedger.Proofs.Database.Columns
import StakeLedger.Proofs.Text.HexBytes

/-!
# The Column of Transactions

The transaction that slashed a delegation is stored as the hexadecimal text of its encoding. What is
read from such a column is known exactly (`Column.decodeTransaction_eq_ok_iff`): a transaction if
the text shows its encoding and this is not too large, and nothing otherwise. So the column keeps
every transaction of that size, tells all of them apart, and refuses a text that shows more or less
than an encoding (`transaction_column_lossless`).
-/

namespace StakeLedger

namespace Column

/-- A text is read as the transaction `t` if and only if it shows `t.encode`, in digits of either
case, and this has at most `Transaction.sizeLimit` bytes. -/
theorem decodeTransaction_eq_ok_iff {s : String} {t : Transaction} :
    decodeTransaction s = .ok t ↔
      t.encode.length ≤ Transaction.sizeLimit ∧ Hex.Shows s t.encode := by
  -- what a column says of a failure does not matter here
  have hread : decodeTransaction s = .ok t ↔ Transaction.ofHex? s = some t := by
    unfold decodeTransaction decodeWith
    split
    next u hu => rw [hu, Except.ok.injEq, Option.some.injEq]
    next hnone => simp [hnone]
  rw [hread, Transaction.ofHex?, Option.bind_eq_some_iff]
  constructor
  · rintro ⟨bytes, hbytes, hdecode⟩
    obtain ⟨hsize, rfl⟩ := Transaction.decode?_eq_some_iff.1 hdecode
    exact ⟨hsize, Hex.bytes?_eq_some_iff.1 hbytes⟩
  · rintro ⟨hsize, hshows⟩
    exact ⟨t.encode, Hex.bytes?_eq_some_iff.2 hshows, Transaction.decode?_eq_some_iff.2
      ⟨hsize, rfl⟩⟩

/-- The text `t.hex` shows the encoding of `t`. -/
theorem shows_hex (t : Transaction) : Hex.Shows t.hex t.encode := by
  rw [← Hex.bytes?_eq_some_iff, Transaction.hex, String.toList_ofList, Hex.bytes?_ofBytes]

/-- The text `s` is not read as a transaction. -/
def RefusesTransaction (s : String) : Prop :=
  decodeTransaction s = .error (.undecodable .transaction)

/-- What is not read as any transaction is refused; there is no other failure. -/
theorem refusesTransaction_of_ne {s : String} (h : ∀ t, decodeTransaction s ≠ .ok t) :
    RefusesTransaction s := by
  unfold RefusesTransaction
  unfold decodeTransaction decodeWith at h ⊢
  split
  next t ht => exact absurd (by rw [ht]) (h t)
  next => rfl

/-- A text that shows `bytes` shows the encoding of the transaction `u` as which it is read. -/
theorem eq_of_shows {s : String} {bytes : List UInt8} {u : Transaction} (hshows : Hex.Shows s bytes)
    (hread : decodeTransaction s = .ok u) :
    bytes = u.encode ∧ u.Fits ∧ u.encode.length ≤ Transaction.sizeLimit := by
  obtain ⟨hsize, hshows'⟩ := decodeTransaction_eq_ok_iff.1 hread
  rw [← Hex.bytes?_eq_some_iff] at hshows hshows'
  rw [hshows, Option.some.injEq] at hshows'
  exact ⟨hshows', Transaction.fits_of_length (Nat.lt_of_le_of_lt hsize (by decide)), hsize⟩

/-- The column of transactions keeps what is written to it, and gives only what could have been
written. -/
structure KeepsTransactions : Prop where
  /-- A transaction is read back from `t.hex` if its encoding has at most `sizeLimit` bytes. -/
  reads_back : ∀ t : Transaction, t.encode.length ≤ Transaction.sizeLimit →
    decodeTransaction t.hex = .ok t
  /-- Different transactions `t` and `u` have different texts, even if the one of `u` is too
  large. -/
  distinct : ∀ t u : Transaction, t.encode.length ≤ Transaction.sizeLimit → t ≠ u → t.hex ≠ u.hex
  /-- A text is read as `t` only if it shows `t.encode`, in digits of either case. -/
  shows : ∀ (s : String) (t : Transaction), decodeTransaction s = .ok t → Hex.Shows s t.encode
  /-- A text that shows `t.encode` and further bytes is refused. -/
  overlong : ∀ (s : String) (t : Transaction) (rest : List UInt8), rest ≠ [] →
    Hex.Shows s (t.encode ++ rest) → RefusesTransaction s
  /-- A text that shows `t.encode` without its last bytes is refused, also where the encoding has
  more than `sizeLimit` bytes. -/
  cut_off : ∀ (s : String) (t : Transaction) (front rest : List UInt8),
    t.encode.length < UInt64.size → t.encode = front ++ rest → rest ≠ [] →
      Hex.Shows s front → RefusesTransaction s
  /-- A text that is not an even number of hexadecimal digits is refused. -/
  no_bytes : ∀ s : String, ¬(Even s.toList.length ∧ ∀ c ∈ s.toList, Hex.IsDigit c) →
    RefusesTransaction s

end Column

open Column

/-- Stored transactions are kept, told apart, and not confused with anything else. -/
theorem transaction_column_lossless : KeepsTransactions where
  reads_back _ hsize := decodeTransaction_hex hsize
  distinct t u hsize hne hhex := by
    -- the text that both have is read as one of them, so that the other one is no larger and read
    -- as well
    have hread : decodeTransaction u.hex = .ok t := by
      rw [← hhex]
      exact decodeTransaction_hex hsize
    obtain ⟨hencode, -, -⟩ := eq_of_shows (shows_hex u) hread
    rw [← hencode] at hsize
    rw [decodeTransaction_hex hsize, Except.ok.injEq] at hread
    exact hne hread.symm
  shows s t hread := (decodeTransaction_eq_ok_iff.1 hread).2
  overlong s t rest hrest hshows := by
    refine refusesTransaction_of_ne fun u hread => ?_
    obtain ⟨hencode, hfits, hsize⟩ := eq_of_shows hshows hread
    -- what is shown is larger than the encoding in front of it
    have hle : t.encode.length ≤ u.encode.length := by
      rw [← hencode, List.length_append]
      exact Nat.le_add_right _ _
    have ht : t.Fits := Transaction.fits_of_length
      (Nat.lt_of_le_of_lt (Nat.le_trans hle hsize) (by decide))
    exact hrest (Transaction.eq_of_encode_append hfits ht hencode.symm).2
  cut_off s t front rest hsize hencode hrest hshows := by
    refine refusesTransaction_of_ne fun u hread => ?_
    obtain ⟨rfl, hfits, -⟩ := eq_of_shows hshows hread
    exact hrest (Transaction.eq_of_encode_append (Transaction.fits_of_length hsize) hfits hencode).2
  no_bytes s hdigits := by
    refine refusesTransaction_of_ne fun u hread => ?_
    exact hdigits (Hex.exists_shows_iff.1 ⟨_, (decodeTransaction_eq_ok_iff.1 hread).2⟩)

/-- Without inputs, the marker byte stands in front of two empty lists. -/
example : (⟨2, 0, [], []⟩ : Transaction).encode = [2, 0, 0, 0, 0, 1, 0, 0, 0, 0, 0, 0] := by decide

end StakeLedger
