import StakeLedger.Data.Json.Quoted
import StakeLedger.Data.Value

/-!
# Writing JSON

Values are written compactly, without blanks, and the fields of a record in their order.
-/

namespace StakeLedger.Json

mutual

/-- The characters of a value, without blanks. -/
def write : Value → List Char
  | .null => "null".toList
  | .bool true => "true".toList
  | .bool false => "false".toList
  | .integer n => n.repr.toList
  | .real numeral => numeral.toList
  | .text s => quote s.toList
  | .list [] => ['[', ']']
  | .list (v :: rest) => '[' :: (write v ++ writeItems rest)
  | .record [] => ['{', '}']
  | .record ((name, v) :: rest) =>
    '{' :: (quote name.toList ++ ':' :: (write v ++ writeFields rest))

/-- The characters of the items that follow another one, up to the end of their list. -/
def writeItems : List Value → List Char
  | [] => [']']
  | v :: rest => ',' :: (write v ++ writeItems rest)

/-- The characters of the fields that follow another one, up to the end of their record. -/
def writeFields : List (String × Value) → List Char
  | [] => ['}']
  | (name, v) :: rest => ',' :: (quote name.toList ++ ':' :: (write v ++ writeFields rest))

end

/-- The text of the value `v`, which `Json.read?` reads back. -/
def text (v : Value) : String := String.ofList (write v)

end StakeLedger.Json
