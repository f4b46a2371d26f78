import StakeLedger.Text.Hex

/-!
# Quoted Text in JSON

A text is written between quotation marks. Quotation marks, backslashes and control characters are
escaped, everything else is written as it is. Reading knows all escapes of the format; a character
outside the basic plane may be escaped as a surrogate pair.

The main statement is that a quoted text is read back, whatever follows it (`unquote_quote`).
-/

namespace StakeLedger.Json

/-- How the character `c` is written inside a quoted text. -/
def escape (c : Char) : List Char :=
  if c = '"' then ['\\', '"']
  else if c = '\\' then ['\\', '\\']
  else if c.toNat < 32 then ['\\', 'u'] ++ Hex.ofNat 4 c.toNat
  else [c]

/-- The `text` between quotation marks, with each character written by `escape`. -/
def quote (text : List Char) : List Char := '"' :: (text.flatMap escape ++ ['"'])

/-- The character that a single-letter escape stands for, if there is such an escape. -/
def escaped? : Char → Option Char
  | '"' => some '"'
  | '\\' => some '\\'
  | '/' => some '/'
  | 'b' => some '\x08'
  | 'f' => some '\x0c'
  | 'n' => some '\n'
  | 'r' => some '\r'
  | 't' => some '\t'
  | _ => none

/-- The character of a code `unit` that is no surrogate. -/
def unit? (unit : Nat) : Option Char :=
  if unit.isValidChar then some (Char.ofNat unit) else none

/-- The character of the surrogate pair `high`, `low`. -/
def pair? (high low : Nat) : Option Char :=
  if 0xD800 ≤ high ∧ high < 0xDC00 ∧ 0xDC00 ≤ low ∧ low < 0xE000 then
    unit? (0x10000 + (high - 0xD800) * 0x400 + (low - 0xDC00))
  else none

/-- Reads a quoted text behind its opening mark; gives it, reversed on top of `acc`, and what
follows. -/
def unquote (acc : List Char) : List Char → Option (List Char × List Char)
  | [] => none
  | '"' :: rest => some (acc.reverse, rest)
  | '\\' :: 'u' :: a :: b :: c :: d :: rest =>
    match Hex.toNat? 0 [a, b, c, d] with
    | none => none
    | some high =>
      match unit? high, rest with
      | some e, rest => unquote (e :: acc) rest
      | none, '\\' :: 'u' :: e :: f :: g :: h :: rest =>
        match (Hex.toNat? 0 [e, f, g, h]).bind (pair? high) with
        | some p => unquote (p :: acc) rest
        | none => none
      | none, _ => none
  | '\\' :: c :: rest =>
    match escaped? c with
    | some e => unquote (e :: acc) rest
    | none => none
  | c :: rest => if c.toNat < 32 ∨ c = '\\' then none else unquote (c :: acc) rest

/-- A written character is read back by `unquote`, and reading goes on behind it. -/
theorem unquote_escape (acc : List Char) (c : Char) (rest : List Char) :
    unquote acc (escape c ++ rest) = unquote (c :: acc) rest := by
  unfold escape
  split
  next h => subst h; simp [unquote, escaped?]
  next hq =>
    split
    next h => subst h; simp [unquote, escaped?]
    next hb =>
      split
      next h32 =>
        -- a control character: its four digits are read back
        have hlt : c.toNat < Hex.capacity 4 := Nat.lt_trans h32 (by decide)
        have hread := Hex.toNat?_ofNat 4 c.toNat 0
        rw [Nat.mod_eq_of_lt hlt, Nat.zero_mul, Nat.zero_add] at hread
        have hunit : unit? c.toNat = some c := by
          have valid : c.toNat.isValidChar := c.valid
          rw [unit?, if_pos valid, Char.ofNat_toNat]
        simp only [Hex.ofNat] at hread ⊢
        simp only [List.cons_append, List.nil_append, unquote, hread, hunit]
      next h32 =>
        -- any other character stands for itself
        simp [unquote, hb, h32]

/-- A quoted text is read back by `unquote`, whatever follows it. -/
theorem unquote_quote (text rest acc : List Char) :
    unquote acc (text.flatMap escape ++ '"' :: rest) = some (acc.reverse ++ text, rest) := by
  induction text generalizing acc with
  | nil => simp [unquote]
  | cons c text ih => simp [List.flatMap_cons, List.append_assoc, unquote_escape, ih]

end StakeLedger.Json
