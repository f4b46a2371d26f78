/-!
# Texts for Terminals

A text for a terminal may hold control sequences, which start at an escape character and steer the
terminal instead of being shown. Where the output is no terminal, they are left out, and so are
control characters other than blanks and line ends.

A sequence may be broken off by a line end, which is shown. What follows is shown as well, up to the
next character that cannot be; only there the sequence goes on.
-/

namespace StakeLedger.Terminal

/-- Where in a control sequence the characters stand that are looked at: in none of them (`ground`),
behind an escape character, in a control function, in a device control or in a text. Functions and
device controls have parameters and then intermediate characters; one that is not well formed is
ignored up to its end. -/
inductive Place where
  | ground
  | escape
  | escapeIntermediate
  | function
  | functionParams
  | functionIntermediate
  | functionIgnored
  | device
  | deviceParams
  | deviceIntermediate
  | deviceText
  | deviceIgnored
  /-- In a text for the operating system. -/
  | systemText
  /-- In a text for anything else. -/
  | otherText
  deriving DecidableEq, Repr

/-- Whether the character `c` ends or divides words. -/
def isBlank (c : Char) : Bool := c == ' ' || c == '\t' || c == '\n' || c == '\x0c' || c == '\r'

/-- Whether the character `c` is shown outside of sequences. -/
def isShown (c : Char) : Bool := (c.toNat ≥ 0x20 && c.toNat ≠ 0x7F) || isBlank c

/-- Whether the bytes of the character `c` hold the one that ends a string of a sequence, `0x9C`. -/
def holdsTerminator (c : Char) : Bool := (String.singleton c).toUTF8.toList.contains 0x9C

/-- Whether the code of the character `c` lies between `low` and `high`, both included. -/
def isIn (low high : Nat) (c : Char) : Bool := low ≤ c.toNat && c.toNat ≤ high

namespace Place

/-- Whether control characters act at once in a place instead of belonging to a text. -/
def actsAtOnce : Place → Bool
  | ground | escape | escapeIntermediate => true
  | function | functionParams | functionIntermediate | functionIgnored => true
  | _ => false

/-- The place behind the character `c`, which is neither a control character nor beyond the ASCII
ones. -/
def behindGraphic (c : Char) : Place → Place
  | ground => ground
  | escape =>
    if c = '[' then function
    else if c = ']' then systemText
    else if c = 'P' then device
    else if c = 'X' ∨ c = '^' ∨ c = '_' then otherText
    else if isIn 0x20 0x2F c then escapeIntermediate
    else ground
  | escapeIntermediate => if isIn 0x20 0x2F c then escapeIntermediate else ground
  | function =>
    if isIn 0x20 0x2F c then functionIntermediate
    else if isIn 0x30 0x3F c then functionParams
    else ground
  | functionParams =>
    if isIn 0x20 0x2F c then functionIntermediate
    else if isIn 0x30 0x3B c then functionParams
    else if isIn 0x3C 0x3F c then functionIgnored
    else ground
  | functionIntermediate =>
    if isIn 0x20 0x2F c then functionIntermediate
    else if isIn 0x30 0x3F c then functionIgnored
    else ground
  | functionIgnored => if isIn 0x20 0x3F c then functionIgnored else ground
  | device =>
    if isIn 0x20 0x2F c then deviceIntermediate
    else if isIn 0x30 0x3F c then deviceParams
    else deviceText
  | deviceParams =>
    if isIn 0x20 0x2F c then deviceIntermediate
    else if isIn 0x30 0x3B c then deviceParams
    else if isIn 0x3C 0x3F c then deviceIgnored
    else deviceText
  | deviceIntermediate =>
    if isIn 0x20 0x2F c then deviceIntermediate
    else if isIn 0x30 0x3F c then deviceIgnored
    else deviceText
  | deviceText => deviceText
  | deviceIgnored => deviceIgnored
  | systemText => systemText
  | otherText => otherText

/-- The place behind the character `c` that stands in `place`. -/
def behind (c : Char) (place : Place) : Place :=
  let n := c.toNat
  if n = 0x1B then escape
  else if n = 0x18 ∨ n = 0x1A then ground
  else if n < 0x20 then if n = 0x07 ∧ place = systemText then ground else place
  else if n = 0x7F then place
  else if n < 0x7F then place.behindGraphic c
  else
    match place with
    | deviceText | deviceIgnored | otherText => if holdsTerminator c then ground else place
    | place => place

/-- Whether the character `c` is shown in a place. -/
def shows (c : Char) : Place → Bool
  | ground => isShown c
  -- a line end or a tabulator acts at once
  | place => place.actsAtOnce && c.toNat < 0x20 && isBlank c

end Place

/-- The characters that are shown, starting at `place`. While characters are shown one after the
other, the place stays behind. -/
def shown (place : Place) (isShowing : Bool) : List Char → List Char
  | [] => []
  | c :: rest =>
    if isShowing && isShown c then
      c :: shown (if 0x7F < c.toNat then .ground else place) true rest
    else if place.shows c then c :: shown (place.behind c) true rest
    else shown (place.behind c) false rest

/-- The part of `text` that is shown where there is no terminal. -/
def plain (text : String) : String := String.ofList (shown .ground false text.toList)

/-- The first line of `text`, without the line end. -/
def firstLine (text : String) : String :=
  let line := text.toList.takeWhile (· ≠ '\n')
  match line.getLast? with
  | some '\r' => String.ofList line.dropLast
  | _ => String.ofList line

end StakeLedger.Terminal
