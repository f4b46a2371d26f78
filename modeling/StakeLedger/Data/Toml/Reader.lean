import StakeLedger.Data.Toml.Quoted
import StakeLedger.Data.Toml.Scalar
import StakeLedger.Data.Toml.Tree

/-!
# Reading TOML

A document is a sequence of lines: headers of tables, headers of items of lists of tables, and names
with their values. Lists and tables on one line may be nested 79 deep, and a name may have 79 parts.
A reader takes what it reads off the front of the characters and gives the rest.
-/

namespace StakeLedger.Toml

/-- A reader of values of type `α`: it takes one off the front of the characters, and gives the
rest. -/
abbrev Reader (α : Type) := List Char → Option (α × List Char)

/-- The characters of `s` behind leading blanks. -/
def skipBlanks (s : List Char) : List Char := s.dropWhile fun c => c == ' ' || c == '\t'

/-- The characters behind blanks, comments and the ends of lines. It starts `inComment` or
outside. -/
def skipFiller (inComment : Bool) : List Char → Option (List Char)
  | [] => some []
  | '\n' :: rest => skipFiller false rest
  | '\r' :: '\n' :: rest => skipFiller false rest
  | c :: rest =>
    if inComment then if isPlain c then skipFiller true rest else none
    else if c = ' ' ∨ c = '\t' then skipFiller false rest
    else if c = '#' then skipFiller true rest
    else some (c :: rest)

/-- Whether nothing but a comment is left of `s` on its line. -/
def isAtLineEnd (s : List Char) : Bool :=
  match skipBlanks s with
  | [] => true
  | '\n' :: _ => true
  | '\r' :: '\n' :: _ => true
  | '#' :: _ => true
  | _ => false

/-- Whether the character `c` may stand in a name without quotes. -/
def isBare (c : Char) : Bool := c.isAlphanum || c == '_' || c == '-'

/-- Whether the character `c` may stand in a scalar. -/
def isScalarChar (c : Char) : Bool := isBare c || c == '+' || c == '.' || c == ':'

/-- Takes one part of a name, quoted or bare. -/
def namePart : Reader String := fun s =>
  match quotedLine s with
  | some (text, rest) => some (String.ofList text, rest)
  | none =>
    match s.span isBare with
    | ([], _) => none
    | (text, rest) => some (String.ofList text, rest)

/-- How many parts a name may have, and how deep values may be nested. -/
def limit : Nat := 79

/-- Takes a name of so many parts at most, which are divided by points. -/
def nameUpTo : Nat → Reader (List String)
  | 0, _ => none
  | most + 1, s => do
    let (part, rest) ← namePart s
    match skipBlanks rest with
    | '.' :: rest =>
      let (parts, rest) ← nameUpTo most (skipBlanks rest)
      some (part :: parts, rest)
    | rest => some ([part], rest)

/-- Takes a name of at most `limit` parts. -/
def name : Reader (List String) := nameUpTo limit

/-- Takes a scalar without quotes. A blank may divide a date from its time. -/
def scalar : Reader Value := fun s =>
  match s.span isScalarChar with
  | (word, rest) =>
    match rest with
    | ' ' :: a :: b :: ':' :: more =>
      -- two digits and a colon behind a date are its time
      if isDate word && a.isDigit && b.isDigit then
        let (time, rest) := (a :: b :: ':' :: more).span isScalarChar
        (scalar? (word ++ ' ' :: time)).map fun v => (v, rest)
      else (scalar? word).map fun v => (v, rest)
    | rest => (scalar? word).map fun v => (v, rest)

/-- Takes the items of a list up to its closing bracket; `fuel` bounds their number. -/
def items (value : Reader Value) : (fuel : Nat) → List Value → Reader (List Value)
  | 0, _, _ => none
  | fuel + 1, acc, s => do
    match ← skipFiller false s with
    | ']' :: rest => some (acc.reverse, rest)
    | s =>
      let (v, rest) ← value s
      match ← skipFiller false rest with
      | ',' :: rest => items value fuel (v :: acc) rest
      | ']' :: rest => some ((v :: acc).reverse, rest)
      | _ => none

/-- Takes a name with its value, which is taken by `value`. -/
def assignment (value : Reader Value) : Reader (List String × Value) := fun s => do
  let (names, rest) ← name s
  match skipBlanks rest with
  | '=' :: rest =>
    let (v, rest) ← value (skipBlanks rest)
    some ((names, v), rest)
  | _ => none

/-- Takes the fields of a table on one line up to its closing brace; `fuel` bounds their number. -/
def fields (value : Reader Value) : (fuel : Nat) → Entries → Reader Entries
  | 0, _, _ => none
  | fuel + 1, entries, s => do
    let ((names, v), rest) ← assignment value (skipBlanks s)
    let entries ← entries.add v names
    match skipBlanks rest with
    | ',' :: rest => fields value fuel entries rest
    | '}' :: rest => some (entries, rest)
    | _ => none

/-- Takes a value that holds no others: a text or a scalar. -/
def leaf : Reader Value := fun s =>
  match s with
  | '"' :: _ => (quoted s).map fun (text, rest) => (.text (String.ofList text), rest)
  | '\'' :: _ => (quoted s).map fun (text, rest) => (.text (String.ofList text), rest)
  | _ => scalar s

/-- Takes a value with lists and tables nested at most `depth` deep. -/
def value : (depth : Nat) → Reader Value
  | 0, s => leaf s
  | depth + 1, s =>
    match s with
    | '[' :: rest =>
      (items (value depth) (rest.length + 1) [] rest).map fun (vs, rest) => (.list vs, rest)
    | '{' :: rest =>
      match skipBlanks rest with
      | '}' :: rest => some (.record [], rest)
      | rest =>
        (fields (value depth) (rest.length + 1) [] rest).map fun (entries, rest) =>
          (.record (Node.toFields entries), rest)
    | _ => leaf s

/-- A line of a document, apart from comments and empty lines. -/
inductive Line where
  | table (names : List String)
  /-- The header of a further item of a list of tables. -/
  | item (names : List String)
  /-- A name with its value. -/
  | assignment (names : List String) (value : Value)

/-- Takes the name in a header up to its closing brackets, `close`. -/
def header (close : List Char) : Reader (List String) := fun s => do
  let (names, rest) ← name (skipBlanks s)
  let rest := skipBlanks rest
  if close.isPrefixOf rest then some (names, rest.drop close.length) else none

/-- Takes a line, which has to be the only one up to its end. -/
def line : Reader Line := fun s => do
  let (l, rest) ← match s with
    | '[' :: '[' :: rest =>
      (header [']', ']'] rest).map fun (names, rest) => (Line.item names, rest)
    | '[' :: rest => (header [']'] rest).map fun (names, rest) => (Line.table names, rest)
    | s =>
      (assignment (value limit) s).map fun ((names, v), rest) => (Line.assignment names v, rest)
  if isAtLineEnd rest then some (l, rest) else none

/-- Takes the lines of a document; `fuel` bounds their number. -/
def lines : (fuel : Nat) → List Char → Option (List Line)
  | 0, _ => none
  | fuel + 1, s => do
    match ← skipFiller false s with
    | [] => some []
    | s =>
      let (l, rest) ← line s
      return l :: (← lines fuel rest)

/-- Fills the tree of tables with lines, starting under the header `current`. -/
def fill : (current : List String) → Entries → List Line → Option Entries
  | _, entries, [] => some entries
  | _, entries, .table names :: rest => do fill names (← entries.openTable names) rest
  | _, entries, .item names :: rest => do fill names (← entries.openItem names) rest
  | current, entries, .assignment names v :: rest => do
    fill current (← entries.addUnder v names current) rest

/-- Reads the document `text` as the record of its fields. -/
def read? (text : String) : Option Value := do
  let s := match text.toList with
    | '\ufeff' :: rest => rest
    | s => s
  let ls ← lines (s.length + 1) s
  let entries ← fill [] [] ls
  return .record (Node.toFields entries)

end StakeLedger.Toml
