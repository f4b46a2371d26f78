import StakeLedger.Data.Json.Reader
import StakeLedger.Data.Json5.Quoted

/-!
# Reading JSON5

JSON5 is JSON with more freedom: comments, more blanks, names without quotation marks, a comma
behind the last item, signs, hexadecimal numbers, points at either end of a number, and names for
what is no finite number, here with letters of either case. Lists and records may be nested 1000
deep. A text ends at its first null character. Of fields with the same name all are kept.
-/

namespace StakeLedger.Json5

open Json (Reader digits exponent)

/-- Whether the character `c` may stand between the parts of a value. -/
def isBlank (c : Char) : Bool :=
  Json.isBlank c || c == '\x0b' || c == '\x0c' || c == '\u00a0' || c == '\u1680' ||
    (0x2000 ≤ c.toNat && c.toNat ≤ 0x200A) || isLineEnd c || c == '\u202f' || c == '\u205f' ||
    c == '\u3000' || c == '\ufeff'

/-- The characters behind the end of a comment that may go over lines, if it ends. -/
def behindComment? : List Char → Option (List Char)
  | [] => none
  | '*' :: '/' :: rest => some rest
  | _ :: rest => behindComment? rest

/-- The characters behind blanks and comments, of which there are at most `fuel`. -/
def skip : (fuel : Nat) → List Char → List Char
  | 0, s => s
  | fuel + 1, s =>
    match s with
    | [] => []
    | '/' :: '/' :: rest => skip fuel (rest.dropWhile fun c => !isLineEnd c)
    | '/' :: '*' :: rest =>
      match behindComment? rest with
      | some rest => skip fuel rest
      | none => s
    | c :: rest => if isBlank c then skip fuel rest else s

/-- The characters of `s` behind leading blanks and comments. -/
def skipBlanks (s : List Char) : List Char := skip s.length s

/-- The words that stand for values as they are written here. -/
def words : List (String × Value) := [("null", .null), ("true", .bool true), ("false", .bool false)]

/-- The words that stand for numbers in letters of either case. -/
def numberWords : List String := ["inf", "infinity", "nan", "qnan", "snan"]

/-- Takes a word that stands for a value, which may not go on with a letter or a digit. -/
def word : Reader Value := fun s =>
  let (letters, rest) := s.span Char.isAlphanum
  let text := String.ofList letters
  match words.lookup text with
  | some v => some (v, rest)
  | none => if text.toLower ∈ numberWords then some (.real text, rest) else none

/-- Takes a decimal number without sign, which has a digit next to its point. -/
def decimal : Reader Value := fun s => do
  let (w, rest) := s.span Char.isDigit
  let (f, rest) := match rest with
    | '.' :: rest =>
      let (f, rest) := rest.span Char.isDigit
      ('.' :: f, rest)
    | rest => ([], rest)
  guard ((w ++ f).any Char.isDigit && (w.length ≤ 1 || w.head? ≠ some '0'))
  let (e, rest) ← exponent rest
  some (.real (String.ofList (w ++ f ++ e)), rest)

/-- Whether the character `c` is a hexadecimal digit, in either case. -/
def isHexDigit (c : Char) : Bool := (Hex.digit? c).isSome

/-- Takes a number without sign, which is hexadecimal behind `0x`. -/
def unsigned : Reader Value
  | '0' :: x :: c :: rest =>
    if (x = 'x' ∨ x = 'X') ∧ isHexDigit c then
      let (ds, rest) := rest.span isHexDigit
      some (.real (String.ofList ('0' :: x :: c :: ds)), rest)
    else decimal ('0' :: x :: c :: rest)
  | s => decimal s

/-- Takes a number behind its sign, which may be an infinite one. -/
def signed : Reader Value := fun s =>
  if (s.take 3).map Char.toLower = "inf".toList then
    some (.real "inf",
      if (s.take 8).map Char.toLower = "infinity".toList then s.drop 8 else s.drop 3)
  else unsigned s

/-- Takes a quoted text, with its marks of either kind. -/
def quoted : Reader String
  | c :: rest =>
    if c = '"' ∨ c = '\'' then
      (unquote c [] rest).map fun (cs, rest) => (String.ofList cs, rest)
    else none
  | [] => none

/-- Takes a value that is neither a list nor a record. -/
def scalar : Reader Value
  | '+' :: rest => signed rest
  | '-' :: rest => signed rest
  | s => ((quoted s).map fun (t, rest) => (.text t, rest)) <|> word s <|> unsigned s

/-- Takes items behind the opening character, up to `close`; `fuel` bounds their number. -/
def items {α : Type} (item : Reader α) (close : Char) : (fuel : Nat) → List α → Reader (List α)
  | 0, _, _ => none
  | fuel + 1, acc, s =>
    match skipBlanks s with
    | [] => none
    | c :: rest =>
      if c = close then some (acc.reverse, rest)
      else
        match item (c :: rest) with
        | none => none
        | some (a, rest) =>
          match skipBlanks rest with
          | [] => none
          | d :: rest =>
            if d = close then some ((a :: acc).reverse, rest)
            -- a comma may also stand in front of the closing character
            else if d = ',' then items item close fuel (a :: acc) rest
            else none

/-- Whether a name without quotation marks may start with the character `c`. -/
def startsName (c : Char) : Bool :=
  c.isAlpha || c == '$' || c == '_' || (0x7F < c.toNat && !isBlank c)

/-- Takes a name without quotation marks, in which characters may be escaped by code; `acc` is its
start, reversed. -/
def bareName (acc : List Char) : List Char → List Char × List Char
  | [] => (acc.reverse, [])
  | '\\' :: 'u' :: a :: b :: c :: d :: rest =>
    match Hex.toNat? 0 [a, b, c, d] with
    | some code => bareName ((Json.unit? code).getD '\ufffd' :: acc) rest
    | none => (acc.reverse, '\\' :: 'u' :: a :: b :: c :: d :: rest)
  | c :: rest =>
    if startsName c || (c.isDigit && !acc.isEmpty) then bareName (c :: acc) rest
    else (acc.reverse, c :: rest)

/-- Takes the name of a field, quoted or not. A word that stands for a value is no name. -/
def name : Reader String := fun s =>
  quoted s <|>
    if (word s).isSome then none
    else
      match bareName [] s with
      | ([], _) => none
      | (cs, rest) => some (String.ofList cs, rest)

/-- Takes a field: a name, a colon, and the value behind it. -/
def member (value : Reader Value) : Reader (String × Value) := fun s => do
  let (n, rest) ← name s
  match skipBlanks rest with
  | ':' :: rest =>
    let (v, rest) ← value (skipBlanks rest)
    some ((n, v), rest)
  | _ => none

/-- Takes a value with lists and records nested at most `depth` deep. -/
def value : (depth : Nat) → Reader Value
  | 0 => scalar
  | depth + 1 => fun
    | '[' :: rest =>
      (items (value depth) ']' (rest.length + 1) [] rest).map fun (vs, rest) => (.list vs, rest)
    | '{' :: rest =>
      (items (member (value depth)) '}' (rest.length + 1) [] rest).map fun (fs, rest) =>
        (.record fs, rest)
    | s => scalar s

/-- Reads the text `s` if it holds one value up to its first null character. -/
def read? (s : String) : Option Value :=
  match value 1000 (skipBlanks (s.toList.takeWhile (· ≠ '\x00'))) with
  | some (v, rest) => if (skipBlanks rest).isEmpty then some v else none
  | none => none

end StakeLedger.Json5
