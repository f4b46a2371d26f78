import StakeLedger.Data.Json.Quoted

/-!
# Quoted Text in JSON5

A text is quoted with double or single marks. Besides the escapes of JSON there are ones for the
single mark, the vertical tabulator, the null character and any code of two digits. A backslash
joins two lines; where it joins the last line with nothing, a null character stands for it. Half of
a surrogate pair is read as the replacement character.
-/

namespace StakeLedger.Json5

/-- The character that a single-letter escape stands for, the escapes of JSON included. -/
def escaped? : Char → Option Char
  | '\'' => some '\''
  | '0' => some '\x00'
  | 'v' => some '\x0b'
  | c => Json.escaped? c

/-- Whether the character `c` ends a line, in any script. -/
def isLineEnd (c : Char) : Bool := c == '\n' || c == '\r' || c == '\u2028' || c == '\u2029'

/-- The reversed text `acc` after two lines have been joined; `rest` is the second one. -/
def joined (mark : Char) (acc rest : List Char) : List Char :=
  if rest.head? = some mark then '\x00' :: acc else acc

/-- Reads a quoted text behind its opening `mark`; gives it, reversed on top of `acc`, and what
follows. -/
def unquote (mark : Char) (acc : List Char) : List Char → Option (List Char × List Char)
  | [] => none
  | '\\' :: 'u' :: a :: b :: c :: d :: rest =>
    match Hex.toNat? 0 [a, b, c, d] with
    | none => none
    | some high =>
      match Json.unit? high, rest with
      | some e, rest => unquote mark (e :: acc) rest
      | none, '\\' :: 'u' :: e :: f :: g :: h :: rest =>
        match (Hex.toNat? 0 [e, f, g, h]).bind (Json.pair? high) with
        | some p => unquote mark (p :: acc) rest
        | none => unquote mark ('\ufffd' :: acc) ('\\' :: 'u' :: e :: f :: g :: h :: rest)
      | none, rest => unquote mark ('\ufffd' :: acc) rest
  | '\\' :: 'x' :: a :: b :: rest =>
    match Hex.toNat? 0 [a, b] with
    | some code => unquote mark (Char.ofNat code :: acc) rest
    | none => none
  | '\\' :: '\r' :: '\n' :: rest => unquote mark (joined mark acc rest) rest
  | '\\' :: c :: rest =>
    if isLineEnd c then unquote mark (joined mark acc rest) rest
    else
      match escaped? c with
      | some e => unquote mark (e :: acc) rest
      | none => none
  | c :: rest =>
    if c = mark then some (acc.reverse, rest)
    else if c = '\\' then none
    else unquote mark (c :: acc) rest

end StakeLedger.Json5
