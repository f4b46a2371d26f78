import StakeLedger.Proofs.Bitcoin.Wire
import StakeLedger.Proofs.Text.HexBytes

/-!
# Displayed Identifiers

An identifier is displayed with the bytes of its wire form in reverse (`Txid.displayBytes_eq`), two
digits for each (`Txid.text_eq`). The last byte of the wire form is the most significant one. So the
displayed bytes are ordered as the numbers (`Txid.compare_displayBytes`), and they are ordered as
the displayed texts.
-/

namespace StakeLedger

/-- Of lists that begin with as many items, the beginnings `xs` and `ys` decide unless they are the
same. -/
theorem compare_append {xs ys : List UInt8} (h : xs.length = ys.length) (xs' ys' : List UInt8) :
    compare (xs ++ xs') (ys ++ ys') = (compare xs ys).then (compare xs' ys') := by
  induction xs generalizing ys with
  | nil =>
    obtain rfl := List.length_eq_zero_iff.1 h.symm
    rfl
  | cons x xs ih =>
    obtain ⟨y, ys, rfl⟩ := List.exists_cons_of_length_eq_add_one h.symm
    rw [List.length_cons, List.length_cons, Nat.add_right_cancel_iff] at h
    rw [List.cons_append, List.cons_append, List.compare_cons_cons, List.compare_cons_cons, ih h,
      Ordering.then_assoc]

namespace Wire

/-- The byte at place `i` of a number is its quotient by `256 ^ i`, cut to a byte. -/
theorem littleEndian_eq_map (width n : Nat) :
    littleEndian width n = (List.range width).map fun i => UInt8.ofNat (n / 256 ^ i) := by
  induction width generalizing n with
  | zero => rfl
  | succ width ih =>
    rw [littleEndian, ih, List.range_succ_eq_map, List.map_cons, List.map_map, Nat.pow_zero,
      Nat.div_one]
    congr 2
    ext i
    rw [Function.comp_apply, Nat.succ_eq_add_one, Nat.pow_succ', Nat.div_div_eq_div_mul]

/-- With the most significant byte in front, bytes are ordered as the numbers `m` and `n`. -/
theorem compare_reverse_littleEndian {width m n : Nat} (hm : m < 256 ^ width)
    (hn : n < 256 ^ width) :
    compare (littleEndian width m).reverse (littleEndian width n).reverse = compare m n := by
  induction width generalizing m n with
  | zero =>
    obtain rfl : m = 0 := Nat.lt_one_iff.1 hm
    obtain rfl : n = 0 := Nat.lt_one_iff.1 hn
    rfl
  | succ width ih =>
    rw [Nat.pow_succ'] at hm hn
    -- the lowest byte now comes last, so it decides only between numbers with the same quotient
    have hhigh := ih (Nat.div_lt_of_lt_mul hm) (Nat.div_lt_of_lt_mul hn)
    have hlow : compare [UInt8.ofNat m] [UInt8.ofNat n] = compare (m % 256) (n % 256) := by
      rw [List.compare_cons_cons, List.compare_nil_nil, Ordering.then_eq, ← compare_toNat,
        UInt8.toNat_ofNat', UInt8.toNat_ofNat']
    have hlength : (littleEndian width (m / 256)).reverse.length =
        (littleEndian width (n / 256)).reverse.length := by
      simp
    rw [littleEndian, littleEndian, List.reverse_cons, List.reverse_cons, compare_append hlength,
      hhigh, hlow, ← compare_div_mod]

end Wire

namespace Hex

/-- The last digit stands for the remainder by `16`, and the other ones for the quotient. -/
theorem ofNat_succ (width n : Nat) :
    ofNat (width + 1) n = ofNat width (n / 16) ++ [digit (n % 16)] := by
  induction width with
  | zero => simp only [ofNat, capacity, Nat.div_one, List.nil_append]
  | succ width ih => rw [ofNat, ih, ofNat, capacity, Nat.div_div_eq_div_mul, List.cons_append]

theorem ofBytes_append (xs ys : List UInt8) : ofBytes (xs ++ ys) = ofBytes xs ++ ofBytes ys := by
  induction xs with
  | nil => rfl
  | cons x xs ih => rw [List.cons_append, ofBytes, ofBytes, ih, List.cons_append, List.cons_append]

/-- A number is written with the digits of its bytes, the most significant byte in front. -/
theorem ofBytes_reverse_littleEndian (width n : Nat) :
    ofBytes (Wire.littleEndian width n).reverse = ofNat (2 * width) n := by
  induction width generalizing n with
  | zero => rfl
  | succ width ih =>
    -- the last byte gives the last two digits
    have hhigh : n % 256 / 16 = n / 16 % 16 := by omega
    have hlow : n % 256 % 16 = n % 16 := by omega
    have hbyte : ofBytes [UInt8.ofNat n] = [digit (n / 16 % 16), digit (n % 16)] := by
      rw [ofBytes, ofBytes, UInt8.toNat_ofNat', hhigh, hlow]
    rw [Wire.littleEndian, List.reverse_cons, ofBytes_append, ih, hbyte, Nat.mul_succ,
      ofNat_succ, ofNat_succ, Nat.div_div_eq_div_mul, List.append_assoc, List.singleton_append]

end Hex

namespace Txid

/-- What is displayed is the wire form of `t`, in reverse. -/
theorem displayBytes_eq (t : Txid) :
    t.displayBytes = (Wire.littleEndian 32 t.number.toNat).reverse := by
  rw [displayBytes, Wire.littleEndian_eq_map]
  -- a shift by eight bits is a division by 256
  refine List.ext_getElem (by simp) fun i h _ => ?_
  rw [List.length_map, List.length_range] at h
  simp only [List.getElem_map, List.getElem_range, List.getElem_reverse, List.length_map,
    List.length_range, Nat.shiftRight_eq_div_pow, Nat.pow_mul]

theorem text_eq (t : Txid) : t.text = String.ofList (Hex.ofBytes t.displayBytes) := by
  rw [displayBytes_eq, Hex.ofBytes_reverse_littleEndian, text]

theorem compare_displayBytes (a b : Txid) :
    compare a.displayBytes b.displayBytes = compare a b := by
  have hlt : ∀ t : Txid, t.number.toNat < 256 ^ 32 := fun t => t.number.isLt
  rw [displayBytes_eq, displayBytes_eq, Wire.compare_reverse_littleEndian (hlt a) (hlt b)]
  change compareOfLessAndEq a.number.toNat b.number.toNat = compareOfLessAndEq a.number b.number
  simp only [compareOfLessAndEq, BitVec.lt_def, BitVec.toNat_inj]

/-- Identifiers are ordered as the bytes in which their texts are stored, which is how SQL compares
them. -/
theorem compare_storedBytes_text (a b : Txid) :
    compare (storedBytes a.text) (storedBytes b.text) = compare a b := by
  rw [text_eq, text_eq, Hex.compare_storedBytes, compare_displayBytes]

end Txid

end StakeLedger
