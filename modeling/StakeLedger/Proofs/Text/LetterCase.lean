import StakeLedger.Proofs.Text.HexOrder
import StakeLedger.Text.Decimal

/-!
# The Case of Letters

A hexadecimal digit stands for the same number in either case. What is read from a text `s` is
therefore written as `s.toLower`: of all the texts that say the same, this is the one that is ever
written (`Hex.ofNat_of_read?`, `Hex.ofBytes_of_bytes?`, `XOnlyKey.text_of_ofText?`).
-/

namespace StakeLedger

/-! ## Characters -/

/-- What holds of the first 128 characters, among which all digits and letters are, and of the
others holds of all. -/
theorem char_cases {P : Char → Prop} (hlow : ∀ i : Fin 128, P (Char.ofNat i.val))
    (hhigh : ∀ c : Char, 128 ≤ c.toNat → P c) (c : Char) : P c := by
  rcases Nat.lt_or_ge c.toNat 128 with h | h
  · have hc := hlow ⟨c.toNat, h⟩
    rwa [Char.ofNat_toNat] at hc
  · exact hhigh c h

/-- Only the first 128 characters have a lower case. -/
theorem toLower_of_le {c : Char} (h : 128 ≤ c.toNat) : c.toLower = c := by
  have hupper : ¬(c.val ≥ 'A'.val ∧ c.val ≤ 'Z'.val) := by
    rintro ⟨-, hle⟩
    have hnat : c.toNat ≤ 'Z'.toNat := UInt32.le_iff_toNat_le.1 hle
    have hz : 'Z'.toNat = 90 := rfl
    omega
  exact dif_neg hupper

theorem toList_toLower (s : String) :
    s.toLower.toList = s.toList.map Char.toLower := String.toList_map

theorem ofList_map_toLower (s : String) :
    String.ofList (s.toList.map Char.toLower) = s.toLower := by
  rw [← toList_toLower, String.ofList_toList]

/-! ## Numerals -/

namespace Decimal

theorem isDigit_toLower (c : Char) : c.toLower.isDigit = c.isDigit := by
  refine char_cases (P := fun c => c.toLower.isDigit = c.isDigit) (by decide) (fun c h => ?_) c
  rw [toLower_of_le h]

theorem toLower_of_isDigit {c : Char} (h : c.isDigit = true) : c.toLower = c := by
  have all : c.isDigit = true → c.toLower = c :=
    char_cases (P := fun c => c.isDigit = true → c.toLower = c) (by decide)
      (fun c h _ => toLower_of_le h) c
  exact all h

/-- A text with anything but digits is no numeral. -/
theorem readCanonical?_of_not_all {text : List Char} (h : text.all Char.isDigit = false) :
    readCanonical? text = none := by
  rw [readCanonical?.eq_def]
  split
  next => rfl
  next => simp [read?, h]

/-- Only digits make up a numeral, and they have no case. -/
theorem readCanonical?_map_toLower (text : List Char) :
    readCanonical? (text.map Char.toLower) = readCanonical? text := by
  cases h : text.all Char.isDigit with
  | true =>
    have hsame : text.map Char.toLower = text.map id :=
      List.map_congr_left fun c hc => toLower_of_isDigit (List.all_eq_true.1 h c hc)
    rw [hsame, List.map_id]
  | false =>
    have hlower : (text.map Char.toLower).all Char.isDigit = false := by
      simpa only [List.all_map, Function.comp_def, isDigit_toLower] using h
    rw [readCanonical?_of_not_all h, readCanonical?_of_not_all hlower]

end Decimal

namespace Hex

theorem digit?_of_le {c : Char} (h : 128 ≤ c.toNat) : digit? c = none := by
  rw [digit?, if_neg (by omega), if_neg (by omega), if_neg (by omega)]

theorem digit?_toLower (c : Char) : digit? c.toLower = digit? c := by
  refine char_cases (P := fun c => digit? c.toLower = digit? c) (by decide) (fun c h => ?_) c
  rw [toLower_of_le h]

/-- The number `n` that the character `c` stands for is written as `c` in lower case. -/
theorem digit_of_digit? {c : Char} {n : Nat} (h : digit? c = some n) :
    n < 16 ∧ digit n = c.toLower := by
  have all : ∀ n ∈ digit? c, n < 16 ∧ digit n = c.toLower := by
    refine char_cases (P := fun c => ∀ n ∈ digit? c, n < 16 ∧ digit n = c.toLower) (by decide)
      (fun c hc n hn => ?_) c
    rw [digit?_of_le hc] at hn
    cases hn
  exact all n h

theorem toNat?_map_toLower (acc : Nat) (text : List Char) :
    toNat? acc (text.map Char.toLower) = toNat? acc text := by
  induction text generalizing acc with
  | nil => rfl
  | cons c rest ih => simp only [List.map_cons, toNat?, digit?_toLower, ih]

/-- A number of `width` digits is the same in lower case. -/
theorem read?_map_toLower (width : Nat) (text : List Char) :
    read? width (text.map Char.toLower) = read? width text := by
  rw [read?, read?, List.length_map, toNat?_map_toLower]

/-- The bytes that a text shows are the same in lower case. -/
theorem bytes?_map_toLower (text : List Char) : bytes? (text.map Char.toLower) = bytes? text := by
  induction text using bytes?.induct with
  | case1 => rfl
  | case2 => rfl
  | case3 high low rest ih => simp only [List.map_cons, bytes?, digit?_toLower, ih]

/-- Digits read after the ones that gave `acc` make up the lower part `low` of the number. -/
theorem exists_of_toNat? {acc n : Nat} {text : List Char} (h : toNat? acc text = some n) :
    ∃ low < capacity text.length, n = acc * capacity text.length + low ∧
      ofNat text.length low = text.map Char.toLower := by
  induction text generalizing acc with
  | nil =>
    cases h
    exact ⟨0, Nat.one_pos, by simp [capacity], rfl⟩
  | cons c rest ih =>
    obtain ⟨d, hd, hrest⟩ := Option.bind_eq_some_iff.1 h
    obtain ⟨hlt, hdigit⟩ := digit_of_digit? hd
    obtain ⟨low, hlow, rfl, hwritten⟩ := ih hrest
    have hpos := capacity_pos rest.length
    -- `low` is below the place of the first digit, and so cut off by the division
    have hfront : (low + d * capacity rest.length) / capacity rest.length = d := by
      rw [Nat.add_mul_div_right _ _ hpos, Nat.div_eq_of_lt hlow, Nat.zero_add]
    have hback : (low + d * capacity rest.length) % capacity rest.length = low := by
      rw [Nat.add_mul_mod_self_right, Nat.mod_eq_of_lt hlow]
    refine ⟨low + d * capacity rest.length, ?_, ?_, ?_⟩
    · have hle := Nat.mul_le_mul_right (capacity rest.length) (Nat.succ_le_of_lt hlt)
      rw [Nat.succ_mul] at hle
      rw [List.length_cons, capacity]
      omega
    · rw [List.length_cons, capacity, Nat.add_mul, ← Nat.mul_assoc, Nat.mul_comm 16 acc]
      omega
    · rw [List.length_cons, ofNat, hfront, Nat.mod_eq_of_lt hlt, hdigit, ← ofNat_mod, hback,
        hwritten, List.map_cons]

/-- A number read from `width` digits is written as its text in lower case. -/
theorem ofNat_of_read? {width n : Nat} {text : List Char} (h : read? width text = some n) :
    n < capacity width ∧ ofNat width n = text.map Char.toLower := by
  obtain ⟨hlength, h⟩ := Option.ite_none_right_eq_some.1 h
  obtain ⟨low, hlow, rfl, hwritten⟩ := exists_of_toNat? h
  rw [hlength] at hlow hwritten
  rw [Nat.zero_mul, Nat.zero_add]
  exact ⟨hlow, hwritten⟩

/-- Bytes read are written as their text in lower case. -/
theorem ofBytes_of_bytes? {text : List Char} {bs : List UInt8} (h : bytes? text = some bs) :
    ofBytes bs = text.map Char.toLower := by
  induction text using bytes?.induct generalizing bs with
  | case1 =>
    cases h
    rfl
  | case2 => cases h
  | case3 high low rest ih =>
    obtain ⟨hi, hhigh, h⟩ := Option.bind_eq_some_iff.1 h
    obtain ⟨lo, hlow, h⟩ := Option.bind_eq_some_iff.1 h
    obtain ⟨bs, hrest, h⟩ := Option.bind_eq_some_iff.1 h
    cases h
    obtain ⟨hhi, hhigh⟩ := digit_of_digit? hhigh
    obtain ⟨hlo, hlow⟩ := digit_of_digit? hlow
    have hlt : 16 * hi + lo < UInt8.size := by
      rw [UInt8.size]
      omega
    have hbyte : (UInt8.ofNat (16 * hi + lo)).toNat = 16 * hi + lo := UInt8.toNat_ofNat_of_lt hlt
    -- the byte is taken apart again into its two digits
    have hdiv : (16 * hi + lo) / 16 = hi := by omega
    have hmod : (16 * hi + lo) % 16 = lo := by omega
    rw [ofBytes, hbyte, hdiv, hmod, hhigh, hlow, ih hrest, List.map_cons, List.map_cons]

end Hex

/-! ## Keys -/

/-- A key that is read from `s` is written as `s.toLower`. -/
theorem XOnlyKey.text_of_ofText? {s : String} {k : XOnlyKey} (h : ofText? s = some k) :
    k.text = s.toLower := by
  obtain ⟨n, hread, h⟩ := Option.bind_eq_some_iff.1 h
  obtain ⟨hlt, hwritten⟩ := Hex.ofNat_of_read? hread
  obtain ⟨hcurve, h⟩ := Option.dite_none_right_eq_some.1 h
  obtain rfl := Option.some.inj h
  have hn : (BitVec.ofNat 256 n).toNat = n := Nat.mod_eq_of_lt hlt
  rw [text, hn, hwritten, ofList_map_toLower]

end StakeLedger
