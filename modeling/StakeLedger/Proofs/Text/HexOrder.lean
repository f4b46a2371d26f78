import StakeLedger.Bitcoin.Txid
import StakeLedger.Bitcoin.XOnlyKey

/-!
# The Order of Hexadecimal Texts

Texts of a fixed count of hexadecimal digits are ordered as the numbers they show, most significant
digit first. Identifiers are therefore ordered as their displayed texts (`Txid.compare_text`), and
texts of different identifiers or keys differ.
-/

namespace StakeLedger

namespace Hex

/-- Digits are ordered as the numbers below `16` that they stand for. -/
theorem digit_lt_digit_iff {m n : Nat} (hm : m < 16) (hn : n < 16) : digit m < digit n ↔ m < n := by
  have all : ∀ i j : Fin 16, digit i.val < digit j.val ↔ i.val < j.val := by decide
  exact all ⟨m, hm⟩ ⟨n, hn⟩

/-- Different numbers below `16` have different digits. -/
theorem digit_inj {m n : Nat} (hm : m < 16) (hn : n < 16) (h : digit m = digit n) : m = n := by
  have hread := congrArg digit? h
  rw [digit?_digit hm, digit?_digit hn] at hread
  exact Option.some.inj hread

theorem capacity_pos (width : Nat) : 0 < capacity width := by
  induction width with
  | zero => exact Nat.one_pos
  | succ width ih => exact Nat.mul_pos (by decide) ih

/-- The last `width` digits of a number do not depend on what stands in front of them. -/
theorem ofNat_mod (width n : Nat) : ofNat width (n % capacity width) = ofNat width n := by
  induction width generalizing n with
  | zero => rfl
  | succ width ih =>
    have hpos := capacity_pos width
    have hsplit : n % capacity (width + 1) / capacity width % 16 = n / capacity width % 16 := by
      rw [capacity, Nat.mul_comm, Nat.mod_mul_right_div_self, Nat.mod_mod]
    have hlow : n % capacity (width + 1) % capacity width = n % capacity width := by
      rw [capacity, Nat.mod_mul_left_mod]
    rw [ofNat, ofNat, hsplit, ← ih, hlow, ih]

/-- Numbers below the `capacity` of `width` digits are ordered as their digits. -/
theorem ofNat_lt_ofNat_iff {width m n : Nat} (hm : m < capacity width) (hn : n < capacity width) :
    ofNat width m < ofNat width n ↔ m < n := by
  induction width generalizing m n with
  | zero =>
    rw [capacity] at hm hn
    obtain rfl : m = 0 := by omega
    obtain rfl : n = 0 := by omega
    exact ⟨fun h => absurd h (List.lt_irrefl _), fun h => absurd h (Nat.lt_irrefl 0)⟩
  | succ width ih =>
    have hpos := capacity_pos width
    rw [capacity] at hm hn
    have hm' : m / capacity width < 16 := Nat.div_lt_of_lt_mul (by rwa [Nat.mul_comm])
    have hn' : n / capacity width < 16 := Nat.div_lt_of_lt_mul (by rwa [Nat.mul_comm])
    have hlow := ih (Nat.mod_lt m hpos) (Nat.mod_lt n hpos)
    rw [ofNat_mod, ofNat_mod] at hlow
    rw [ofNat, ofNat, Nat.mod_eq_of_lt hm', Nat.mod_eq_of_lt hn', List.cons_lt_cons_iff,
      digit_lt_digit_iff hm' hn', hlow]
    -- the leading digits decide, and the rest where they agree
    have hdm := Nat.div_add_mod m (capacity width)
    have hdn := Nat.div_add_mod n (capacity width)
    constructor
    · rintro (hlt | ⟨heq, hlt⟩)
      · have hstep := Nat.mul_le_mul_left (capacity width) (Nat.succ_le_of_lt hlt)
        have hrest := Nat.mod_lt m hpos
        rw [Nat.mul_succ] at hstep
        omega
      · rw [digit_inj hm' hn' heq] at hdm
        omega
    · intro hlt
      rcases Nat.lt_or_eq_of_le (Nat.div_le_div_right (c := capacity width) (Nat.le_of_lt hlt)) with
        hdiv | hdiv
      · exact .inl hdiv
      · rw [hdiv] at hdm
        exact .inr ⟨congrArg digit hdiv, by omega⟩

end Hex

theorem ordering_eq {a b : Ordering} (hlt : a = .lt ↔ b = .lt) (heq : a = .eq ↔ b = .eq) :
    a = b := by
  cases a <;> cases b <;> simp_all

namespace Txid

theorem text_inj {a b : Txid} (h : a.text = b.text) : a = b := by
  have hread := congrArg ofText? h
  rw [ofText?_text, ofText?_text] at hread
  exact Option.some.inj hread

/-- Identifiers are ordered as their texts, since all texts have the same length: the order of
digits is that of the numbers. -/
theorem compare_text (a b : Txid) : compare a.text b.text = compare a b := by
  have hcapacity : Hex.capacity 64 = 2 ^ 256 := by decide +kernel
  have ha : a.number.toNat < Hex.capacity 64 := hcapacity ▸ a.number.isLt
  have hb : b.number.toNat < Hex.capacity 64 := hcapacity ▸ b.number.isLt
  refine ordering_eq ?_ ?_
  · change compareOfLessAndEq a.text b.text = .lt ↔ compareOfLessAndEq a.number b.number = .lt
    rw [compareOfLessAndEq_eq_lt, compareOfLessAndEq_eq_lt, BitVec.lt_def,
      ← Hex.ofNat_lt_ofNat_iff ha hb]
    change (String.ofList _).toList < (String.ofList _).toList ↔ _
    rw [String.toList_ofList, String.toList_ofList]
  · rw [Std.LawfulEqOrd.compare_eq_iff_eq, Std.LawfulEqOrd.compare_eq_iff_eq]
    exact ⟨text_inj, congrArg text⟩

end Txid

theorem XOnlyKey.text_inj {a b : XOnlyKey} (h : a.text = b.text) : a = b := by
  have hread := congrArg ofText? h
  rw [ofText?_text, ofText?_text] at hread
  exact Option.some.inj hread

end StakeLedger
