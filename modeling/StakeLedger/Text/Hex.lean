/-!
# Hexadecimal Text

Numbers are written with a fixed count of digits, most significant digit first, and bytes with two
digits each. Written digits are lower case; digits of either case are read.

The main statements are that reading undoes writing (`read?_ofNat`, `bytes?_ofBytes`).
-/

namespace StakeLedger.Hex

/-- The lower-case digit of the number `n`, which is below sixteen. -/
def digit (n : Nat) : Char := if n < 10 then Char.ofNat (48 + n) else Char.ofNat (87 + n)

/-- The number that the character `c` stands for as a digit of either case. -/
def digit? (c : Char) : Option Nat :=
  if 48 ≤ c.toNat ∧ c.toNat ≤ 57 then some (c.toNat - 48)
  else if 97 ≤ c.toNat ∧ c.toNat ≤ 102 then some (c.toNat - 87)
  else if 65 ≤ c.toNat ∧ c.toNat ≤ 70 then some (c.toNat - 55)
  else none

/-- How many numbers `width` digits can tell apart. -/
def capacity : (width : Nat) → Nat
  | 0 => 1
  | width + 1 => 16 * capacity width

/-- The last `width` digits of the number `n`, most significant first. -/
def ofNat : (width : Nat) → Nat → List Char
  | 0, _ => []
  | width + 1, n => digit (n / capacity width % 16) :: ofNat width n

/-- Reads digits after the ones that gave `acc`. -/
def toNat? (acc : Nat) : List Char → Option Nat
  | [] => some acc
  | c :: rest => do toNat? (16 * acc + (← digit? c)) rest

/-- Reads a number from a text of exactly `width` digits. -/
def read? (width : Nat) (text : List Char) : Option Nat :=
  if text.length = width then toNat? 0 text else none

/-- The digits of bytes, the high half of each byte first. -/
def ofBytes : List UInt8 → List Char
  | [] => []
  | b :: rest => digit (b.toNat / 16) :: digit (b.toNat % 16) :: ofBytes rest

/-- Reads bytes from a text of two digits for each. -/
def bytes? : List Char → Option (List UInt8)
  | [] => some []
  | [_] => none
  | high :: low :: rest => do
    let h ← digit? high
    let l ← digit? low
    let bytes ← bytes? rest
    some (UInt8.ofNat (16 * h + l) :: bytes)

/-- A digit stands for the number it was written for. -/
theorem digit?_digit {n : Nat} (h : n < 16) : digit? (digit n) = some n := by
  have all : ∀ i : Fin 16, digit? (digit i.val) = some i.val := by decide
  exact all ⟨n, h⟩

/-- A number of `width` digits has that many. -/
@[simp]
theorem length_ofNat (width n : Nat) : (ofNat width n).length = width := by
  induction width with
  | zero => rfl
  | succ width ih => simp [ofNat, ih]

/-- Reading the last `width` digits of a number after `acc` appends them to it. -/
theorem toNat?_ofNat (width n acc : Nat) :
    toNat? acc (ofNat width n) = some (acc * capacity width + n % capacity width) := by
  induction width generalizing acc with
  | zero => simp [ofNat, toNat?, capacity, Nat.mod_one]
  | succ width ih =>
    have hlt : n / capacity width % 16 < 16 := Nat.mod_lt _ (by decide)
    simp only [ofNat, toNat?, digit?_digit hlt, Option.bind_eq_bind, Option.bind_some, ih,
      Option.some.injEq]
    -- the digit just read and the ones below it make up the remainder
    have hsplit : n % capacity (width + 1) =
        n % capacity width + capacity width * (n / capacity width % 16) := by
      rw [capacity, Nat.mul_comm 16, Nat.mod_mul]
    rw [hsplit, capacity, Nat.add_mul, ← Nat.mul_assoc, Nat.mul_comm 16 acc,
      Nat.mul_comm (n / capacity width % 16)]
    omega

/-- A number is read back from `width` digits if they are enough to tell it apart:
`n < capacity width`. -/
theorem read?_ofNat {width n : Nat} (h : n < capacity width) :
    read? width (ofNat width n) = some n := by
  simp [read?, toNat?_ofNat, Nat.mod_eq_of_lt h]

/-- Bytes are read back from their digits. -/
theorem bytes?_ofBytes (bytes : List UInt8) : bytes? (ofBytes bytes) = some bytes := by
  induction bytes with
  | nil => rfl
  | cons b rest ih =>
    have hb := b.toNat_lt
    have hh : b.toNat / 16 < 16 := by omega
    have hl : b.toNat % 16 < 16 := Nat.mod_lt _ (by decide)
    have hsum : 16 * (b.toNat / 16) + b.toNat % 16 = b.toNat := by omega
    simp only [ofBytes, bytes?, digit?_digit hh, digit?_digit hl, ih, Option.bind_eq_bind,
      Option.bind_some, hsum, UInt8.ofNat_toNat]

end StakeLedger.Hex
