/-!
# Structured Values

A structured value is what a text in a data format says, apart from how the text spells it: nothing,
truth values, numbers, texts, lists, and records of named fields.
-/

namespace StakeLedger

/-- A structured value: what a text in a data format says, whatever the format. -/
inductive Value where
  | null
  | bool (value : Bool)
  | integer (value : Int)
  /-- A number that is not written as an integer, as it is written. -/
  | real (numeral : String)
  | text (value : String)
  | list (items : List Value)
  /-- A record of named fields, in the order in which they are given. -/
  | record (fields : List (String × Value))
  deriving Repr

namespace Value

instance : Inhabited Value := ⟨null⟩

/-- The natural number `n` as a value. -/
def ofNat (n : Nat) : Value := integer n

/-- The field of a record that has the given `name`, the first one if there are several. -/
def field? (v : Value) (name : String) : Option Value :=
  match v with
  | record fields => fields.lookup name
  | _ => none

/-- The fields without those that are given again later under the same name. -/
def keepLast : List (String × Value) → List (String × Value)
  | [] => []
  | f :: rest => if rest.any (·.1 == f.1) then keepLast rest else f :: keepLast rest

/-- The natural number that a value is, if it is one. -/
def nat? : Value → Option Nat
  | integer (.ofNat n) => some n
  | _ => none

/-- The text that a value is, if it is one. -/
def text? : Value → Option String
  | text s => some s
  | _ => none

/-- The truth value that a value is, if it is one. -/
def bool? : Value → Option Bool
  | bool b => some b
  | _ => none

/-- The items of a value that is a list. -/
def items? : Value → Option (List Value)
  | list items => some items
  | _ => none

end Value

end StakeLedger
