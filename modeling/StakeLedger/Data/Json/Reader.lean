import StakeLedger.Data.Json.Writer
import StakeLedger.Text.Decimal

/-!
# Reading JSON

A reader takes what it reads off the front of the characters and gives the rest. Lists and records
may be nested 127 deep. Of fields with the same name the last one counts. A number without fraction
and exponent is an integer if it fits in 64 bits, signed or unsigned; minus zero is not an integer.
-/

namespace StakeLedger.Json

/-- A reader of values of type `α`: it takes one off the front of the characters, and gives the
rest. -/
abbrev Reader (α : Type) := List Char → Option (α × List Char)

/-- Whether the character `c` may stand between the parts of a value. -/
def isBlank (c : Char) : Bool := c == ' ' || c == '\n' || c == '\t' || c == '\r'

/-- The characters of `s` behind leading blanks. -/
def skipBlanks (s : List Char) : List Char := s.dropWhile isBlank

/-- Takes digits, at least one. -/
def digits : Reader (List Char) := fun s =>
  match s.span Char.isDigit with
  | ([], _) => none
  | (ds, rest) => some (ds, rest)

/-- Takes the whole part of a number, which has no superfluous leading zero. -/
def whole : Reader (List Char)
  | '0' :: c :: rest => if c.isDigit then none else some (['0'], c :: rest)
  | s => digits s

/-- Takes the fraction of a number, with its point, if there is one. -/
def fraction : Reader (List Char)
  | '.' :: rest => (digits rest).map fun (ds, rest) => ('.' :: ds, rest)
  | s => some ([], s)

/-- Takes the exponent of a number, with its letter, if there is one. -/
def exponent : Reader (List Char)
  | c :: rest =>
    if c = 'e' ∨ c = 'E' then
      match rest with
      | '+' :: rest => (digits rest).map fun (ds, rest) => (c :: '+' :: ds, rest)
      | '-' :: rest => (digits rest).map fun (ds, rest) => (c :: '-' :: ds, rest)
      | rest => (digits rest).map fun (ds, rest) => (c :: ds, rest)
    else some ([], c :: rest)
  | [] => some ([], [])

/-- Takes a number without its sign, which `negative` tells. -/
def unsigned (negative : Bool) : Reader Value := fun s => do
  let (w, rest) ← whole s
  let (f, rest) ← fraction rest
  let (e, rest) ← exponent rest
  let n := Decimal.ofDigits w
  let fits := if negative then 0 < n && n ≤ UInt64.size / 2 else n < UInt64.size
  if f.isEmpty && e.isEmpty && fits then
    some (.integer (if negative then -(n : Int) else n), rest)
  else
    let sign := if negative then ['-'] else []
    some (.real (String.ofList (sign ++ w ++ f ++ e)), rest)

/-- Takes a quoted text, with its marks. -/
def quoted : Reader String
  | '"' :: rest => (unquote [] rest).map fun (cs, rest) => (String.ofList cs, rest)
  | _ => none

/-- Takes a value that is neither a list nor a record. -/
def scalar : Reader Value
  | 'n' :: 'u' :: 'l' :: 'l' :: rest => some (.null, rest)
  | 't' :: 'r' :: 'u' :: 'e' :: rest => some (.bool true, rest)
  | 'f' :: 'a' :: 'l' :: 's' :: 'e' :: rest => some (.bool false, rest)
  | '"' :: rest => (quoted ('"' :: rest)).map fun (s, rest) => (.text s, rest)
  | '-' :: rest => unsigned true rest
  | s => unsigned false s

/-- Takes items up to the character `close`; `fuel` bounds their number. -/
def sequence {α : Type} (item : Reader α) (close : Char) : (fuel : Nat) → List α → Reader (List α)
  | 0, _, _ => none
  | fuel + 1, acc, s =>
    match item (skipBlanks s) with
    | none => none
    | some (a, rest) =>
      match skipBlanks rest with
      | [] => none
      | c :: rest =>
        if c = close then some ((a :: acc).reverse, rest)
        else if c = ',' then sequence item close fuel (a :: acc) rest
        else none

/-- Takes items behind the opening character, up to the closing one, `close`. -/
def enclosed {α : Type} (item : Reader α) (close : Char) : Reader (List α) := fun s =>
  match skipBlanks s with
  | [] => none
  | c :: rest =>
    if c = close then some ([], rest) else sequence item close (rest.length + 1) [] (c :: rest)

/-- Takes a field: a name, a colon, and the value behind it. -/
def member (value : Reader Value) : Reader (String × Value) := fun s => do
  let (name, rest) ← quoted s
  match skipBlanks rest with
  | ':' :: rest =>
    let (v, rest) ← value (skipBlanks rest)
    some ((name, v), rest)
  | _ => none

/-- Takes a value with lists and records nested at most `depth` deep. -/
def value : (depth : Nat) → Reader Value
  | 0 => scalar
  | depth + 1 => fun
    | '[' :: rest => (enclosed (value depth) ']' rest).map fun (items, rest) => (.list items, rest)
    | '{' :: rest =>
      (enclosed (member (value depth)) '}' rest).map fun (fields, rest) =>
        (.record (Value.keepLast fields), rest)
    | s => scalar s

/-- Reads the text `s` if it holds one value, with nothing but blanks around it. -/
def read? (s : String) : Option Value :=
  match value 127 (skipBlanks s.toList) with
  | some (v, rest) => if (skipBlanks rest).isEmpty then some v else none
  | none => none

end StakeLedger.Json
