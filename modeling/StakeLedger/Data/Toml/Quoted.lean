import StakeLedger.Text.Hex

/-!
# Quoted Text in TOML

There are basic texts, in which a backslash starts an escape, and literal texts, in which nothing
does; both also come in a form of several lines. Line ends inside a text are kept as a line feed
each. Of the control characters only the tab may stand in a text.

All readers start behind the opening marks, collect characters in reverse on top of `acc`, and give
the text together with what follows its closing marks.
-/

namespace StakeLedger.Toml

/-- The outcome of reading a quoted text: the text and what follows it. -/
abbrev Quoted := Option (List Char × List Char)

/-- Whether the character `c` may stand in a text or a comment. -/
def isPlain (c : Char) : Bool := c == '\t' || (32 ≤ c.toNat && c.toNat ≠ 127)

/-- The character of the number `n` if it is a code point and no surrogate. -/
def scalarChar? (n : Nat) : Option Char :=
  if n.isValidChar then some (Char.ofNat n) else none

/-- The character that a single-letter escape stands for, if there is such an escape. -/
def escaped? : Char → Option Char
  | '"' => some '"'
  | '\\' => some '\\'
  | 'b' => some '\x08'
  | 'f' => some '\x0c'
  | 'n' => some '\n'
  | 'r' => some '\r'
  | 't' => some '\t'
  | _ => none

/-- Whether `s` starts with blanks, if any, and then the end of a line. -/
def isLineEnd (s : List Char) : Bool :=
  match s.dropWhile fun c => c == ' ' || c == '\t' with
  | '\n' :: _ => true
  | '\r' :: '\n' :: _ => true
  | _ => false

/-- Reads a basic text on one line, in which a backslash starts an escape. -/
def basic (acc : List Char) : List Char → Quoted
  | [] => none
  | '"' :: rest => some (acc.reverse, rest)
  | '\\' :: 'u' :: a :: b :: c :: d :: rest =>
    match (Hex.toNat? 0 [a, b, c, d]).bind scalarChar? with
    | some e => basic (e :: acc) rest
    | none => none
  | '\\' :: 'U' :: a :: b :: c :: d :: e :: f :: g :: h :: rest =>
    match (Hex.toNat? 0 [a, b, c, d, e, f, g, h]).bind scalarChar? with
    | some e => basic (e :: acc) rest
    | none => none
  | '\\' :: c :: rest =>
    match escaped? c with
    | some e => basic (e :: acc) rest
    | none => none
  | c :: rest => if isPlain c && c != '\\' then basic (c :: acc) rest else none

/-- Reads a basic text of several lines. While `trimming`, blanks and line ends are left out. -/
def multilineBasic (trimming : Bool) (acc : List Char) : List Char → Quoted
  | [] => none
  -- one or two marks may stand in front of the closing ones
  | '"' :: '"' :: '"' :: '"' :: '"' :: rest => some (('"' :: '"' :: acc).reverse, rest)
  | '"' :: '"' :: '"' :: '"' :: rest => some (('"' :: acc).reverse, rest)
  | '"' :: '"' :: '"' :: rest => some (acc.reverse, rest)
  | '\\' :: 'u' :: a :: b :: c :: d :: rest =>
    match (Hex.toNat? 0 [a, b, c, d]).bind scalarChar? with
    | some e => multilineBasic false (e :: acc) rest
    | none => none
  | '\\' :: 'U' :: a :: b :: c :: d :: e :: f :: g :: h :: rest =>
    match (Hex.toNat? 0 [a, b, c, d, e, f, g, h]).bind scalarChar? with
    | some e => multilineBasic false (e :: acc) rest
    | none => none
  | '\\' :: c :: rest =>
    match escaped? c with
    | some e => multilineBasic false (e :: acc) rest
    -- at the end of a line, a backslash takes away all blanks and line ends up to the next
    -- character
    | none => if isLineEnd (c :: rest) then multilineBasic true acc (c :: rest) else none
  | '\r' :: '\n' :: rest => multilineBasic trimming (if trimming then acc else '\n' :: acc) rest
  | '\n' :: rest => multilineBasic trimming (if trimming then acc else '\n' :: acc) rest
  | c :: rest =>
    if trimming && (c == ' ' || c == '\t') then multilineBasic true acc rest
    else if isPlain c && c != '\\' then multilineBasic false (c :: acc) rest
    else none

/-- Reads a literal text on one line, in which nothing starts an escape. -/
def literal (acc : List Char) : List Char → Quoted
  | [] => none
  | '\'' :: rest => some (acc.reverse, rest)
  | c :: rest => if isPlain c then literal (c :: acc) rest else none

/-- Reads a literal text of several lines, up to the closing marks. -/
def multilineLiteral (acc : List Char) : List Char → Quoted
  | [] => none
  | '\'' :: '\'' :: '\'' :: '\'' :: '\'' :: rest => some (('\'' :: '\'' :: acc).reverse, rest)
  | '\'' :: '\'' :: '\'' :: '\'' :: rest => some (('\'' :: acc).reverse, rest)
  | '\'' :: '\'' :: '\'' :: rest => some (acc.reverse, rest)
  | '\r' :: '\n' :: rest => multilineLiteral ('\n' :: acc) rest
  | '\n' :: rest => multilineLiteral ('\n' :: acc) rest
  | c :: rest => if isPlain c then multilineLiteral (c :: acc) rest else none

/-- The characters behind the end of a line, if one stands here. -/
def skipLineEnd : List Char → List Char
  | '\n' :: rest => rest
  | '\r' :: '\n' :: rest => rest
  | s => s

/-- Reads a quoted text of any of the four forms, with its marks. -/
def quoted : List Char → Quoted
  | '"' :: '"' :: '"' :: rest => multilineBasic false [] (skipLineEnd rest)
  | '"' :: rest => basic [] rest
  | '\'' :: '\'' :: '\'' :: rest => multilineLiteral [] (skipLineEnd rest)
  | '\'' :: rest => literal [] rest
  | _ => none

/-- Reads a quoted text on one line, with its marks, as it may stand in a name. -/
def quotedLine : List Char → Quoted
  | '"' :: rest => basic [] rest
  | '\'' :: rest => literal [] rest
  | _ => none

end StakeLedger.Toml
