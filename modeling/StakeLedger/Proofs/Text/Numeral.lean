import StakeLedger.Text.Decimal

/-!
# Decimal Numerals of Numbers

The numeral of a number is canonical: it has digits only, it has no superfluous leading zero, and it
stands for the number (`Decimal.readCanonical?_toDigits`).
-/

namespace StakeLedger.Decimal

/-- Every character of a numeral `Nat.toDigits 10 n` is a digit. -/
theorem isDigit_of_mem_toDigits {n : Nat} {c : Char} (h : c ∈ Nat.toDigits 10 n) :
    c.isDigit = true :=
  Nat.isDigit_of_mem_toDigits (by decide) (by decide) h

theorem ofDigits_toDigits (n : Nat) : ofDigits (Nat.toDigits 10 n) = n :=
  Nat.ofDigitChars_toDigits (by decide) (by decide)

/-- The numeral of a positive number does not start with a zero. -/
theorem head_toDigits_ne {n : Nat} (hn : 0 < n) {c : Char} {rest : List Char}
    (h : Nat.toDigits 10 n = c :: rest) : c ≠ '0' := by
  induction n using Nat.strongRecOn generalizing rest with
  | _ n ih =>
    by_cases hlt : n < 10
    · rw [Nat.toDigits_of_lt_base hlt] at h
      obtain ⟨rfl, -⟩ := List.cons.inj h
      have all : ∀ i : Fin 10, 0 < i.val → i.val.digitChar ≠ '0' := by decide
      exact all ⟨n, hlt⟩ hn
    · -- the digit in front is the one of the number without its last digit
      rw [Nat.toDigits_of_base_le (by decide) (Nat.le_of_not_lt hlt)] at h
      cases hfront : Nat.toDigits 10 (n / 10) with
      | nil => exact absurd hfront Nat.toDigits_ne_nil
      | cons d front =>
        rw [hfront] at h
        obtain ⟨rfl, -⟩ := List.cons.inj h
        exact ih (n / 10) (by omega) (by omega) hfront

/-- A numeral that starts with a zero is the one of zero. -/
theorem toDigits_eq_zero {n : Nat} {rest : List Char} (h : Nat.toDigits 10 n = '0' :: rest) :
    rest = [] := by
  by_cases hn : 0 < n
  · exact absurd rfl (head_toDigits_ne hn h)
  · obtain rfl := Nat.eq_zero_of_not_pos hn
    exact (List.cons.inj h).2.symm

/-- The numeral `Nat.toDigits 10 n` is read back as `n`. -/
theorem readCanonical?_toDigits (n : Nat) : readCanonical? (Nat.toDigits 10 n) = some n := by
  have hread : read? (Nat.toDigits 10 n) = some n := by
    have hempty : (Nat.toDigits 10 n).isEmpty = false := by simp
    have hall : (Nat.toDigits 10 n).all Char.isDigit = true :=
      List.all_eq_true.2 fun c hc => isDigit_of_mem_toDigits hc
    simp [read?, hempty, hall, ofDigits_toDigits]
  have hzero := @toDigits_eq_zero n
  generalize Nat.toDigits 10 n = digits at *
  rw [readCanonical?.eq_def]
  split
  next c rest => cases hzero rfl
  next => exact hread

end StakeLedger.Decimal
