import StakeLedger.Number.Shortest
import StakeLedger.Text.Visible

/-!
# Faults in JSON

A text that cannot be read has a fault, which is reported with its line and its column. Lines are
counted from one, columns in bytes.
-/

namespace StakeLedger.Json

/-- What stands in a text where something else is expected. -/
inductive Found where
  | null
  | bool (value : Bool)
  | integer (value : Int)
  /-- A number in floating point, which may be zero with a sign. -/
  | real (isNegative : Bool) (magnitude : Binary64)
  | text (value : String)
  | list
  | record
  deriving DecidableEq, Repr

/-- The words for something found in the message of `Fault.unexpected`. -/
def Found.words : Found → String
  | null => "null"
  | bool value => s!"boolean `{value}`"
  | integer value => s!"integer `{value}`"
  | real isNegative magnitude =>
    let sign := if isNegative then "-" else ""
    s!"floating point `{sign}{magnitude.text}`"
  | text value => "string " ++ Visible.quote value
  | list => "sequence"
  | record => "map"

/-- What is wrong with a text that cannot be read. -/
inductive Fault where
  /-- The text ends where a value is due. -/
  | endInValue
  | endInList
  | endInText
  /-- No value starts here. -/
  | noValue
  /-- A word is not the one that it starts like. -/
  | noWord
  /-- Neither a comma nor the end of the list follows an item. -/
  | noComma
  /-- The list ends behind a comma. -/
  | trailingComma
  /-- Something follows the value. -/
  | trailingText
  /-- A quoted text holds a control character. -/
  | controlCharacter
  | unknownEscape
  /-- An escape stands for half of a surrogate pair that cannot stand here. -/
  | loneSurrogate
  /-- The second half of a surrogate pair is missing. -/
  | noSurrogate
  | malformedNumber
  | hugeNumber
  /-- The value `found` is of another type than `expected`. -/
  | unexpected (found : Found) (expected : String)
  | malformedKey
  deriving DecidableEq, Repr

/-- The text shown for a fault, without its place. -/
def Fault.message : Fault → String
  | endInValue => "EOF while parsing a value"
  | endInList => "EOF while parsing a list"
  | endInText => "EOF while parsing a string"
  | noValue => "expected value"
  | noWord => "expected ident"
  | noComma => "expected `,` or `]`"
  | trailingComma => "trailing comma"
  | trailingText => "trailing characters"
  | controlCharacter => "control character (\\u0000-\\u001F) found while parsing a string"
  | unknownEscape => "invalid escape"
  | loneSurrogate => "lone leading surrogate in hex escape"
  | noSurrogate => "unexpected end of hex escape"
  | malformedNumber => "invalid number"
  | hugeNumber => "number out of range"
  | unexpected found expected => s!"invalid type: {found.words}, expected {expected}"
  | malformedKey => "malformed public key"

/-- A fault and its place in a text. -/
structure Misreading where
  fault : Fault
  /-- The line, counted from one. -/
  line : Nat
  /-- How many bytes of the line stand in front of the fault. -/
  column : Nat
  deriving DecidableEq, Repr

/-- The text shown for a fault and its place. -/
def Misreading.message (m : Misreading) : String :=
  s!"{m.fault.message} at line {m.line} column {m.column}"

/-- A fault met while a text is read, with its place counted from the end. -/
structure Stop where
  fault : Fault
  /-- How many bytes of the text follow the place of the fault. -/
  behind : Nat
  deriving DecidableEq, Repr

namespace Stop

/-- How many bytes the characters `s` take. -/
def bytes (s : List Char) : Nat := (String.ofList s).utf8ByteSize

/-- A fault in front of the characters `rest`. -/
def before (rest : List Char) (fault : Fault) : Stop := ⟨fault, bytes rest⟩

/-- A fault inside the characters `rest`, behind the first `count` bytes. -/
def inside (rest : List Char) (count : Nat) (fault : Fault) : Stop := ⟨fault, bytes rest - count⟩

/-- A fault behind the last character of a text. -/
def atEnd (fault : Fault) : Stop := ⟨fault, 0⟩

/-- The place of a fault in the text `s`, by lines and columns. -/
def locate (s : String) (stop : Stop) : Misreading :=
  let front := s.toUTF8.toList.take (s.utf8ByteSize - stop.behind)
  { fault := stop.fault
    line := front.count 10 + 1
    column := (front.reverse.takeWhile (· ≠ 10)).length }

end Stop

end StakeLedger.Json
