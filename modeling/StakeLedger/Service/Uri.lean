/-!
# Identifiers of Resources

The address of a span collector is a URI: a path, an authority alone, or a scheme with an authority
and then a path and a query. The check reads the bytes from left to right and reports the first
fault.
-/

namespace StakeLedger.Uri

/-- Why a text is no URI. The first fault from the left is reported. -/
inductive Fault where
  /-- A character may not stand where it stands. -/
  | invalidCharacter
  /-- The authority is not well formed. -/
  | invalidAuthority
  /-- The parts do not make a URI. -/
  | invalidFormat
  /-- The text has more than `lengthLimit` bytes. -/
  | tooLong
  /-- There is no text, or none behind the scheme. -/
  | empty
  /-- The scheme has more than `schemeLimit` characters. -/
  | schemeTooLong
  deriving DecidableEq, Repr

/-- The text shown for a fault in the address of the collector. -/
def Fault.message : Fault → String
  | invalidCharacter => "invalid uri character"
  | invalidAuthority => "invalid authority"
  | invalidFormat => "invalid format"
  | tooLong => "uri too long"
  | empty => "empty string"
  | schemeTooLong => "scheme too long"

/-- The most bytes a URI may have. -/
def lengthLimit : Nat := 65534

/-- The most characters a scheme may have. -/
def schemeLimit : Nat := 64

/-- Whether the character `c` may stand in a scheme. -/
def isSchemeChar (c : Char) : Bool := c.isAlphanum || c == '+' || c == '-' || c == '.' || c == '~'

/-- Whether the character `c` may stand in an authority, apart from the percent sign. -/
def isAuthorityChar (c : Char) : Bool := c.isAlphanum || "!$&'()*+,-.:;=@[]_~".toList.contains c

/-- Whether the character `c` may stand in a path. -/
def isPathChar (c : Char) : Bool :=
  let n := c.toNat
  n == 0x21 || (0x24 ≤ n && n ≤ 0x3B) || n == 0x3D || (0x40 ≤ n && n ≤ 0x5F) ||
    (0x61 ≤ n && n ≤ 0x7A) ||
    n == 0x7C || n == 0x7E || 0x80 ≤ n || c == '"' || c == '\x7b' || c == '\x7d'

/-- Whether the character `c` may stand in a query. -/
def isQueryChar (c : Char) : Bool :=
  let n := c.toNat
  n == 0x21 || (0x24 ≤ n && n ≤ 0x3B) || n == 0x3D || (0x3F ≤ n && n ≠ 0x7F)

/-- The characters behind the scheme of `s`, if there is one. -/
def afterScheme? (s : List Char) : Except Fault (Option (List Char)) :=
  let (scheme, rest) := s.span isSchemeChar
  match rest with
  | ':' :: '/' :: '/' :: rest =>
    if schemeLimit < scheme.length then .error .schemeTooLong else .ok (some rest)
  | _ => .ok none

/-- What has been `seen` of an authority while it is read from the left. -/
structure Seen where
  /-- The colons that may stand in front of a port. -/
  colons : Nat := 0
  isOpened : Bool := false
  isClosed : Bool := false
  /-- There is a percent sign that is not part of the user information. -/
  hasPercent : Bool := false
  /-- The last character was an at sign. -/
  endsWithAt : Bool := false

/-- Reads an authority, of which `seen` tells the part that was read, and gives what follows it. -/
def authority (seen : Seen) : List Char → Except Fault (List Char)
  | [] => finish seen []
  | c :: rest =>
    if c = '/' ∨ c = '?' ∨ c = '#' then finish seen (c :: rest)
    else
      let seen := { seen with endsWithAt := c = '@' }
      if c = ':' then
        if 8 ≤ seen.colons then .error .invalidAuthority
        else authority { seen with colons := seen.colons + 1 } rest
      else if c = '[' then
        if seen.hasPercent || seen.isOpened then .error .invalidAuthority
        else authority { seen with isOpened := true } rest
      else if c = ']' then
        if !seen.isOpened || seen.isClosed then .error .invalidAuthority
        -- colons inside the brackets belong to the address and not to a port
        else authority { seen with isClosed := true, colons := 0, hasPercent := false } rest
      -- what came before was user information, where colons and percent signs are free
      else if c = '@' then authority { seen with colons := 0, hasPercent := false } rest
      else if c = '%' then authority { seen with hasPercent := true } rest
      else if isAuthorityChar c then authority seen rest
      else .error .invalidCharacter
where
  /-- Checks an authority at its end. -/
  finish (seen : Seen) (rest : List Char) : Except Fault (List Char) :=
    if seen.isOpened != seen.isClosed || 1 < seen.colons || seen.endsWithAt || seen.hasPercent then
      .error .invalidAuthority
    else .ok rest

/-- Checks a path and the query behind it; a fragment is not looked at. -/
def checkPath (s : List Char) : Except Fault Unit :=
  let (path, rest) := s.span fun c => c ≠ '?' ∧ c ≠ '#'
  let query := match rest with
    | '?' :: query => query.takeWhile (· ≠ '#')
    | _ => []
  if path.all isPathChar && query.all isQueryChar then .ok () else .error .invalidCharacter

/-- Checks that `text` is a URI, and reports the first fault in it. -/
def check (text : String) : Except Fault Unit :=
  let s := text.toList
  if lengthLimit < text.utf8ByteSize then .error .tooLong
  else match s with
    | [] => .error .empty
    | ['*'] => .ok ()
    | '/' :: _ => checkPath s
    | [_] => do
      if (← authority {} s).isEmpty then return () else throw .invalidCharacter
    | s => do
      match ← afterScheme? s with
      | none => if (← authority {} s).isEmpty then return () else throw .invalidFormat
      | some [] => throw .empty
      | some rest =>
        let path ← authority {} rest
        if path.length = rest.length then throw .invalidFormat else checkPath path

end StakeLedger.Uri
