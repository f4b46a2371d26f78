import StakeLedger.Text.DomainName.Mapping
import StakeLedger.Text.DomainName.Punycode
import StakeLedger.Text.Unicode.Direction
import StakeLedger.Text.Unicode.Joining
import StakeLedger.Text.Unicode.Mark
import StakeLedger.Text.Unicode.Normal

/-!
# Names of Domains

The name of a domain is made of labels with points between. Letters of all scripts may be used. A
label in Punycode behind `xn--` stands for the text it encodes, which has to be the one form that is
used in names.

Some labels are not allowed although their characters are: ones that start with a mark, ones that
hold joiners where nothing is to be joined, and ones that mix letters of both directions.
-/

namespace StakeLedger.DomainName

open Unicode (Joining Direction)

/-- Whether the character `c` is not allowed in the name of a host. -/
def isDenied (c : Char) : Bool :=
  c.toNat ≤ 0x20 || c.toNat == 0x7F || "%#/:<>?@[\\]^|".toList.contains c

/-- The form of the text `s` that is used in names, unless it holds a character that is not
allowed. -/
def usedForm? (s : List Char) : Option (List Char) := do
  let used := Unicode.normal (← s.mapM used?).flatten
  guard (!used.any isDenied)
  return used

/-- What stands in front of a label in Punycode: `xn--`. -/
def encodedPrefix : List Char := "xn--".toList

/-- The most characters of a label in Punycode, behind `encodedPrefix`. -/
def encodedLimit : Nat := 2000

/-- The most characters of a label that is to be encoded. -/
def decodedLimit : Nat := 1000

/-- Whether the text `s` is in ASCII. -/
def isAscii (s : List Char) : Bool := s.all fun c => c.toNat < 0x80

/-- Whether a letter of `s` that joins into the direction `directed` stands in front of any that
does not. -/
def joinsFirst (directed : Joining) (s : List Char) : Bool :=
  match (s.map Unicode.joining).find? (· ≠ .transparent) with
  | some j => j = .dual || j = directed
  | none => false

/-- Whether joiners stand only where they are of use: both kinds behind a mark that joins
consonants, and the one that keeps letters apart also between letters that would join. The part in
front of the label is `before`, reversed. -/
def hasJoinersInPlace (before : List Char) : List Char → Bool
  | [] => true
  | c :: rest =>
    let isBehindVirama := before.head?.any fun b => Unicode.combiningClass b = Unicode.viramaClass
    let isInPlace :=
      if c = '\u200d' then isBehindVirama
      else if c = '\u200c' then
        isBehindVirama || (joinsFirst .left before && joinsFirst .right rest)
      else true
    isInPlace && hasJoinersInPlace (c :: before) rest

/-- Whether the `label` may be part of a name with letters from right to left. -/
def keepsDirection (label : List Char) : Bool :=
  match label.map Unicode.direction with
  | [] => true
  | first :: rest =>
    -- marks at the end belong to the character in front of them
    let body := rest.reverse.dropWhile (· = .mark)
    match first, body.head? with
    | .leftToRight, none | .rightToLeft, none => true
    | .leftToRight, some last =>
      (last = .leftToRight || last = .europeanDigit) &&
        body.all fun d => d ≠ .rightToLeft && d ≠ .arabicDigit
    | .rightToLeft, some last =>
      (last = .rightToLeft || last = .europeanDigit || last = .arabicDigit) &&
        body.all (· ≠ .leftToRight) && !(body.contains .europeanDigit && body.contains .arabicDigit)
    | _, _ => false

/-- Whether `name` holds letters or digits that go with letters from right to left. -/
def hasRightToLeft (name : List (List Char)) : Bool :=
  name.any fun label => label.any fun c =>
    Unicode.direction c = .rightToLeft || Unicode.direction c = .arabicDigit

/-- Whether a `label` in the form used in names is allowed by itself. -/
def isAllowed (label : List Char) : Bool :=
  !label.head?.any Unicode.marks.contains && hasJoinersInPlace [] label &&
    (isAscii label || label.length ≤ decodedLimit)

/-- The text that the label `encoded` in Punycode stands for, without what stands in front of it. -/
def decodeLabel? (encoded : List Char) : Option (List Char) := do
  guard (isAscii encoded && encoded.length ≤ encodedLimit && encoded.getLast?.any (· ≠ '-'))
  let label ← Punycode.decode? encoded
  guard ((← usedForm? label) = label && !label.contains '.')
  return label

/-- The text that `label` stands for, if it is allowed. -/
def label? (label : List Char) : Option (List Char) := do
  let text ←
    if encodedPrefix.isPrefixOf label then decodeLabel? (label.drop encodedPrefix.length)
    else some label
  guard (isAllowed text)
  return text

/-- The labels of `name`, if it is allowed. A name may be empty, and so may its labels. -/
def labels? (name : List Char) : Option (List (List Char)) := do
  let labels ← ((← usedForm? name).splitOn '.').mapM label?
  guard (!hasRightToLeft labels || labels.all keepsDirection)
  return labels

end StakeLedger.DomainName
