import StakeLedger.Service.NodeAddress.Host

/-!
# Addresses of Nodes

A node is reached at a URL over HTTP. The check reads the text from left to right: scheme, user
information, host and port. Blanks around the text and line ends inside it do not count. Some
schemes always have a host; of the others it is enough that they name one, only to be refused for
their scheme.
-/

namespace StakeLedger.NodeAddress

/-- The characters of `s` without blanks and control characters at both ends, and without tabs and
line ends. -/
def clean (s : List Char) : List Char :=
  let isMargin (c : Char) : Bool := c.toNat ≤ 32
  let s := ((s.dropWhile isMargin).reverse.dropWhile isMargin).reverse
  s.filter fun c => c != '\t' && c != '\n' && c != '\r'

/-- The scheme of an address in lower case, and what follows its colon. -/
def scheme? (s : List Char) : Option (String × List Char) :=
  match s.span fun c => c.isAlphanum || c == '+' || c == '-' || c == '.' with
  | (c :: name, ':' :: rest) =>
    if c.isAlpha then some (String.ofList ((c :: name).map Char.toLower), rest) else none
  | _ => none

/-- What a scheme says about the addresses under it. -/
inductive SchemeKind where
  /-- There is always a host, and a backslash counts as a slash. -/
  | hosted
  /-- The address of a file, which may be on another host. -/
  | file
  /-- Nothing is said about the host, which may be any text. -/
  | opaqueHost
  deriving DecidableEq, Repr

/-- The kind of the scheme with the name `scheme`. -/
def SchemeKind.ofName (scheme : String) : SchemeKind :=
  if ["http", "https", "ws", "wss", "ftp"].contains scheme then hosted
  else if scheme = "file" then file
  else opaqueHost

/-- Whether the character `c` ends the authority under a scheme of the given kind. -/
def endsAuthority (kind : SchemeKind) (c : Char) : Bool :=
  c == '/' || c == '?' || c == '#' || (c == '\\' && kind != .opaqueHost)

/-- User information in front of a host, and what follows it. -/
structure UserInfo where
  /-- Whether a name or a password is given. -/
  isGiven : Bool
  rest : List Char

/-- Takes the user information off an address. It goes up to the last at sign of the authority. A
host has to follow where the at sign is all of it. -/
def UserInfo.take (kind : SchemeKind) (s : List Char) : Except Fault UserInfo :=
  let authority := s.takeWhile fun c => !endsAuthority kind c
  let behind := (authority.reverse.takeWhile (· ≠ '@')).length
  -- how many characters go up to the at sign
  let count := authority.length - behind
  let rest := s.drop count
  if count = 1 then
    if rest.head?.any (endsAuthority kind) then .error .emptyHost else .ok ⟨false, rest⟩
  else .ok ⟨(s.take (count - 1)).any (· ≠ ':') || 2 < count, rest⟩

/-- Splits an address behind the host. A colon ends the host unless `isBracketed`: it stands between
brackets. -/
def splitHost (kind : SchemeKind) (isBracketed : Bool) : List Char → List Char × List Char
  | [] => ([], [])
  | c :: rest =>
    if endsAuthority kind c || (c == ':' && !isBracketed) then ([], c :: rest)
    else
      let isBracketed := if c = '[' then true else if c = ']' then false else isBracketed
      let (host, rest) := splitHost kind isBracketed rest
      (c :: host, rest)

/-- Splitting behind the host loses nothing of `s`. -/
theorem splitHost_append (kind : SchemeKind) (isBracketed : Bool) (s : List Char) :
    (splitHost kind isBracketed s).1 ++ (splitHost kind isBracketed s).2 = s := by
  induction s generalizing isBracketed with
  | nil => rfl
  | cons c rest ih =>
    unfold splitHost
    split
    · rfl
    · simp [ih]

/-- Checks a port behind its colon, up to where the path may start. It may be left out. -/
def checkPort (s : List Char) : Except Fault Unit :=
  let (digits, rest) := s.span Char.isDigit
  let isEnded := rest.head?.all (endsAuthority .hosted)
  if Decimal.ofDigits digits < 65536 && isEnded then .ok () else .error .invalidPort

/-- Checks user information, host and port in front of `s`, and gives whether there is a host. -/
def checkAuthority (kind : SchemeKind) (s : List Char) : Except Fault Bool := do
  let user ← UserInfo.take kind s
  let (host, rest) := splitHost kind false user.rest
  match kind with
  | .opaqueHost => checkOpaqueHost host
  | _ => checkHost host
  match rest with
  | ':' :: port =>
    if host.isEmpty then throw .emptyHost
    checkPort port
  | _ => if host.isEmpty && user.isGiven then throw .emptyHost
  return !host.isEmpty

/-- Whether a text names a drive, by a letter and a colon or a bar. -/
def isDrive : List Char → Bool
  | [letter, c] => letter.isAlpha && (c = ':' || c = '|')
  | _ => false

/-- The number of points that a `segment` of a path consists of, given the ways to write a point. -/
def pointCount? (segment : List Char) : Option Nat :=
  match (String.ofList (segment.map Char.toLower)).replace "%2e" "." with
  | "." => some 1
  | ".." => some 2
  | _ => none

/-- Whether a path starts with a drive. The segments follow each other at a `depth`. -/
def startsWithDrive (depth : Nat) : List (List Char) → Bool
  | [] => false
  | segment :: rest =>
    match pointCount? segment with
    | some 1 => startsWithDrive depth rest
    | some _ => startsWithDrive (depth - 1) rest
    | none => (depth = 0 && isDrive segment) || startsWithDrive (depth + 1) rest

/-- The segments of the path in front of `s`, behind its first slash. -/
def segments (s : List Char) : List (List Char) :=
  let path := s.takeWhile fun c => c ≠ '?' && c ≠ '#'
  ((path.drop 1).map fun c => if c = '\\' then '/' else c).splitOn '/'

/-- Checks the address of a file behind the scheme, and gives whether there is a host. A drive, here
or on the host, leaves none. -/
def checkFile (s : List Char) : Except Fault Bool :=
  match s.span fun c => c == '/' || c == '\\' with
  | (_ :: _ :: _, _) =>
    let (host, path) := (s.drop 2).span fun c => !endsAuthority .file c
    if host.isEmpty || isDrive host then .ok false
    else do
      let isLocal ← match host with
        | '[' :: _ => (checkBracketed host).map fun _ => false
        | host => (labels host).map fun ls => ls = ["localhost".toList]
      return !isLocal && !startsWithDrive 0 (segments path)
  | _ => .ok false

/-- Checks that a node can be reached at `address`: over HTTP, at a host that may exist. -/
def check (address : String) : Except Fault Unit := do
  match scheme? (clean address.toList) with
  | none => throw .relative
  | some (scheme, rest) =>
    let kind := SchemeKind.ofName scheme
    let hasHost ← match kind, rest with
      | .hosted, rest => checkAuthority kind (rest.dropWhile fun c => c == '/' || c == '\\')
      | .file, rest => checkFile rest
      | .opaqueHost, '/' :: '/' :: rest => checkAuthority kind rest
      | .opaqueHost, _ => pure false
    if !hasHost then throw .noHost
    unless scheme = "http" || scheme = "https" do throw .unsupportedScheme

end StakeLedger.NodeAddress
