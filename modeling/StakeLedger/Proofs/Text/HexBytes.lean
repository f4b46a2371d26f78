import Mathlib.Algebra.Group.Nat.Even
import Mathlib.Data.Nat.Init
import StakeLedger.Proofs.Text.LetterCase

/-!
# The Hexadecimal Texts of Bytes

A text shows bytes if in lower case it is the text that is written for them (`Hex.Shows`). Every
text of an even number of digits shows bytes, and no other text does (`Hex.exists_shows_iff`).

Texts of bytes are ordered as the bytes, shorter ones in front. This is shown for the bytes in which
texts are stored (`storedBytes`): each byte becomes two of them, and the first of these decides
unless it is the same (`Hex.compare_storedBytes`).
-/

namespace StakeLedger

namespace Hex

/-! ## Which Texts Show Bytes -/

/-- The character `c` is a hexadecimal digit of either case. -/
def IsDigit (c : Char) : Prop := ('0' ≤ c ∧ c ≤ '9') ∨ ('a' ≤ c ∧ c ≤ 'f') ∨ ('A' ≤ c ∧ c ≤ 'F')

/-- The characters that `digit?` reads are those of which `IsDigit` holds. -/
theorem exists_digit?_iff {c : Char} : (∃ n, digit? c = some n) ↔ IsDigit c := by
  have hle : ∀ a b : Char, a ≤ b ↔ a.toNat ≤ b.toNat := fun _ _ => UInt32.le_iff_toNat_le
  simp only [IsDigit, hle, Char.reduceToNat]
  unfold digit?
  split
  next h => exact ⟨fun _ => .inl h, fun _ => ⟨_, rfl⟩⟩
  next h =>
    split
    next h' => exact ⟨fun _ => .inr (.inl h'), fun _ => ⟨_, rfl⟩⟩
    next h' =>
      split
      next h'' => exact ⟨fun _ => .inr (.inr h''), fun _ => ⟨_, rfl⟩⟩
      next h'' =>
        refine ⟨nofun, ?_⟩
        rintro (hc | hc | hc)
        · exact absurd hc h
        · exact absurd hc h'
        · exact absurd hc h''

/-- The text `s` shows `bytes`, with digits of either case. -/
def Shows (s : String) (bytes : List UInt8) : Prop := s.toLower = String.ofList (ofBytes bytes)

/-- Bytes are read from the texts that show them, and from no others. -/
theorem bytes?_eq_some_iff {s : String} {bytes : List UInt8} :
    bytes? s.toList = some bytes ↔ Shows s bytes := by
  rw [Shows, ← ofList_map_toLower, String.ofList_inj]
  constructor
  · intro h
    exact (ofBytes_of_bytes? h).symm
  · intro h
    rw [← bytes?_map_toLower, h, bytes?_ofBytes]

/-- Some bytes are read exactly from an even number of digits. -/
theorem exists_bytes?_iff {text : List Char} :
    (∃ bytes, bytes? text = some bytes) ↔ Even text.length ∧ ∀ c ∈ text, IsDigit c := by
  induction text using bytes?.induct with
  | case1 => simp [bytes?]
  | case2 c => simp [bytes?]
  | case3 high low rest ih =>
    -- bytes are read if both digits and what follows are
    have hbytes : (∃ bytes, bytes? (high :: low :: rest) = some bytes) ↔
        (∃ n, digit? high = some n) ∧ (∃ n, digit? low = some n) ∧
          ∃ bytes, bytes? rest = some bytes := by
      constructor
      · rintro ⟨bytes, h⟩
        obtain ⟨hi, hhigh, h⟩ := Option.bind_eq_some_iff.1 h
        obtain ⟨lo, hlow, h⟩ := Option.bind_eq_some_iff.1 h
        obtain ⟨others, hrest, -⟩ := Option.bind_eq_some_iff.1 h
        exact ⟨⟨hi, hhigh⟩, ⟨lo, hlow⟩, others, hrest⟩
      · rintro ⟨⟨hi, hhigh⟩, ⟨lo, hlow⟩, others, hrest⟩
        exact ⟨UInt8.ofNat (16 * hi + lo) :: others, by simp [bytes?, hhigh, hlow, hrest]⟩
    have heven : Even (high :: low :: rest).length ↔ Even rest.length := by
      simp [Nat.even_add_one]
    rw [hbytes, ih, exists_digit?_iff, exists_digit?_iff, List.forall_mem_cons,
      List.forall_mem_cons, heven]
    simp only [and_left_comm]

theorem exists_shows_iff {s : String} :
    (∃ bytes, Shows s bytes) ↔ Even s.toList.length ∧ ∀ c ∈ s.toList, IsDigit c := by
  simp only [← bytes?_eq_some_iff, exists_bytes?_iff]

end Hex

/-! ## The Order of Texts -/

/-- Of two numbers, the quotients by `k` decide unless they are the same, and then the remainders
do. -/
theorem compare_div_mod {k : Nat} (m n : Nat) :
    compare m n = (compare (m / k) (n / k)).then (compare (m % k) (n % k)) := by
  have hm := Nat.div_add_mod m k
  have hn := Nat.div_add_mod n k
  rcases Nat.lt_trichotomy (m / k) (n / k) with hlt | heq | hgt
  · rw [Nat.compare_eq_lt.2 hlt, Nat.compare_eq_lt.2 (Nat.lt_of_div_lt_div hlt), Ordering.lt_then]
  · rw [Nat.compare_eq_eq.2 heq, Ordering.eq_then]
    rw [heq] at hm
    refine ordering_eq ?_ ?_
    · rw [Nat.compare_eq_lt, Nat.compare_eq_lt]
      omega
    · rw [Nat.compare_eq_eq, Nat.compare_eq_eq]
      omega
  · rw [Nat.compare_eq_gt.2 hgt, Nat.compare_eq_gt.2 (Nat.lt_of_div_lt_div hgt), Ordering.gt_then]

theorem compare_toNat (a b : UInt8) : compare a.toNat b.toNat = compare a b := by
  change compareOfLessAndEq a.toNat b.toNat = compareOfLessAndEq a b
  simp only [compareOfLessAndEq, UInt8.lt_iff_toNat_lt, UInt8.toNat_inj]

/-- The bytes in which a text is stored, those of UTF-8. -/
def storedBytes (s : String) : List UInt8 := s.toUTF8.data.toList

theorem storedBytes_ofList (text : List Char) :
    storedBytes (String.ofList text) = text.flatMap String.utf8EncodeChar := by
  rw [storedBytes, String.toUTF8, String.toByteArray_ofList, List.utf8Encode, List.data_toByteArray]

namespace Hex

/-- A digit is stored in one byte. -/
theorem utf8EncodeChar_digit {n : Nat} (h : n < 16) :
    String.utf8EncodeChar (digit n) = [UInt8.ofNat (digit n).toNat] := by
  have all : ∀ i : Fin 16, String.utf8EncodeChar (digit i.val) =
    [UInt8.ofNat (digit i.val).toNat] := by decide
  exact all ⟨n, h⟩

/-- The stored digits are ordered as the numbers below `16` that they show. -/
theorem compare_digit {m n : Nat} (hm : m < 16) (hn : n < 16) :
    compare (UInt8.ofNat (digit m).toNat) (UInt8.ofNat (digit n).toNat) = compare m n := by
  have all : ∀ i j : Fin 16, compare (UInt8.ofNat (digit i.val).toNat)
    (UInt8.ofNat (digit j.val).toNat) = compare i.val j.val := by decide
  exact all ⟨m, hm⟩ ⟨n, hn⟩

/-- A byte `b` of what is shown is stored in two bytes, of which the first one shows `b / 16`. -/
theorem storedBytes_cons (b : UInt8) (rest : List UInt8) :
    storedBytes (String.ofList (ofBytes (b :: rest))) =
      UInt8.ofNat (digit (b.toNat / 16)).toNat :: UInt8.ofNat (digit (b.toNat % 16)).toNat ::
        storedBytes (String.ofList (ofBytes rest)) := by
  have hb := b.toNat_lt
  rw [storedBytes_ofList, storedBytes_ofList, ofBytes, List.flatMap_cons, List.flatMap_cons,
    utf8EncodeChar_digit (by omega), utf8EncodeChar_digit (by omega)]
  rfl

/-- Stored texts are ordered as the bytes that they show. The induction is on the bytes; two stored
ones decide between `xs` and `ys` as one shown byte does. -/
theorem compare_storedBytes (xs ys : List UInt8) :
    compare (storedBytes (String.ofList (ofBytes xs))) (storedBytes (String.ofList (ofBytes ys))) =
        compare xs ys := by
  induction xs generalizing ys with
  | nil =>
    cases ys with
    | nil => rfl
    | cons y ys => rw [storedBytes_cons]; rfl
  | cons x xs ih =>
    cases ys with
    | nil => rw [storedBytes_cons]; rfl
    | cons y ys =>
      -- the two digits of a byte are compared as its quotient and its remainder by sixteen
      have hx := x.toNat_lt
      have hy := y.toNat_lt
      rw [storedBytes_cons, storedBytes_cons, List.compare_cons_cons, List.compare_cons_cons,
        List.compare_cons_cons, ih, compare_digit (by omega) (by omega),
        compare_digit (by omega) (by omega), ← Ordering.then_assoc,
        ← compare_div_mod, compare_toNat]

end Hex

end StakeLedger
