import StakeLedger.Text.Hex

/-!
# Tables of Characters

A property of characters is given by ranges of codes and the value that each range has. Ranges do
not overlap and stand in ascending order, so that the one that holds a code is found by halving.

Tables are written as words: the hexadecimal bounds of a range with a hyphen between, or the code of
a single character, and then the value behind an equals sign if it is not the only one.

The main statement is that an entry that is found holds the code
(`Table.mem_range_of_findBetween?`).
-/

namespace StakeLedger.Unicode

/-- The parts of `text` between dividers, without empty ones. -/
def parts (isDivider : Char → Bool) (text : List Char) : List (List Char) :=
  let all := text.foldr (fun c (acc : List (List Char)) =>
    if isDivider c then [] :: acc else (c :: acc.headD []) :: acc.tail) [[]]
  all.filter (!·.isEmpty)

/-- Reads a code from its hexadecimal `digits`. -/
def code (digits : List Char) : Nat := (Hex.toNat? 0 digits).getD 0

/-- A range of codes from `low` to `high`, all with the same value of type `α`. -/
structure Entry (α : Type) where
  low : Nat
  high : Nat
  value : α
  deriving Repr

/-- Ranges of codes with values of type `α`, in ascending order. -/
abbrev Table (α : Type) := Array (Entry α)

/-- Reads an entry from a `word`, by `read` for the value behind the equals sign. -/
def Entry.ofWord {α : Type} (read : List Char → α) (word : List Char) : Entry α :=
  let (range, value) := word.span (· ≠ '=')
  let (low, high) := range.span (· ≠ '-')
  ⟨code low, if high.isEmpty then code low else code (high.drop 1), read (value.drop 1)⟩

namespace Table

variable {α : Type}

/-- Reads a table from its entries in `text`, each by `Entry.ofWord`. -/
def ofText (read : List Char → α) (text : String) : Table α :=
  ((parts Char.isWhitespace text.toList).map (Entry.ofWord read)).toArray

/-- The entry of `table` that holds the code `n`, if it stands from the index `start` on and in
front of `stop`. -/
def findBetween? (table : Table α) (n start stop : Nat) : Option (Entry α) :=
  if _h : start < stop then
    let middle := (start + stop) / 2
    match table[middle]? with
    | none => none
    | some e =>
      if n < e.low then findBetween? table n start middle
      else if e.high < n then findBetween? table n (middle + 1) stop
      else some e
  else none
termination_by stop - start

/-- An entry that is found holds the code `n`. -/
theorem mem_range_of_findBetween? {table : Table α} {n start stop : Nat} {e : Entry α}
    (h : table.findBetween? n start stop = some e) : e.low ≤ n ∧ n ≤ e.high := by
  fun_induction findBetween? table n start stop with
  | case1 => simp at h
  | case2 start stop _ _ e' _ _ ih => exact ih h
  | case3 start stop _ _ e' _ _ _ ih => exact ih h
  | case4 start stop _ _ e' _ hlow hhigh =>
    obtain rfl : e' = e := Option.some.inj h
    exact ⟨Nat.not_lt.1 hlow, Nat.not_lt.1 hhigh⟩
  | case5 => simp at h

/-- The entry of `table` that holds the character `c`. -/
def find? (table : Table α) (c : Char) : Option (Entry α) := table.findBetween? c.toNat 0 table.size

/-- The value of the character `c` in `table`. -/
def value? (table : Table α) (c : Char) : Option α := (table.find? c).map (·.value)

end Table

/-- Ranges of codes. -/
abbrev Ranges := Table Unit

namespace Ranges

/-- Reads ranges from `text`, in which the codes have no values. -/
def ofText (text : String) : Ranges := Table.ofText (fun _ => ()) text

/-- Whether the character `c` lies in one of `ranges`. -/
def contains (ranges : Ranges) (c : Char) : Bool := (Table.find? ranges c).isSome

end Ranges

end StakeLedger.Unicode
