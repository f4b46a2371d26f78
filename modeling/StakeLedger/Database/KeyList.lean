import StakeLedger.Bitcoin.XOnlyKey
import StakeLedger.Data.Json.Found
import StakeLedger.Data.Json.Reader
import StakeLedger.Data.Json5.Reader

/-!
# Key Lists

A set of keys is stored as a list of texts in JSON. Where the stored text is none, the message tells
the first fault on the way from the front: a list is due, its items have to be texts, each of them a
key, and only blanks may follow.

A search for a key looks into the stored text in a more liberal way: it takes JSON5, where the key
may be an item of a list, the value of a field or the whole text.
-/

namespace StakeLedger.KeyList

open Json (skipBlanks Stop Found Misreading)

/-- The words for a list in the messages of `misreading`. -/
def listWords : String := "a sequence"

/-- The words for a key in the messages of `misreading`. -/
def keyWords : String := "a hex string representing 32 byte schnorr public key"

/-- Takes a key off the front of the text `s`, or stops at the first fault in it. -/
def item (s : List Char) : Except Stop (List Char) :=
  match s with
  | '"' :: rest => do
    let (text, rest) ← Json.takeText none [] rest
    if (XOnlyKey.ofText? text).isSome then return rest else throw (.before rest .malformedKey)
  | s => .error (Found.stop keyWords s)

/-- Takes keys up to the end of the list; `fuel` bounds their number. Behind the first one each
follows a comma. -/
def items (isFirst : Bool) : (fuel : Nat) → List Char → Except Stop (List Char)
  | 0, rest => .error (.before rest .endInList)
  | fuel + 1, s =>
    match skipBlanks s with
    | [] => .error (.atEnd .endInList)
    | ']' :: rest => .ok rest
    | c :: rest =>
      if isFirst then item (c :: rest) >>= items false fuel
      else if c = ',' then
        match skipBlanks rest with
        | [] => .error (.atEnd .endInValue)
        | ']' :: rest => .error (.inside (']' :: rest) 1 .trailingComma)
        | rest => item rest >>= items false fuel
      else .error (.inside (c :: rest) 1 .noComma)

/-- The fault that keeps the text `s` from being a list of keys. A text without one has none before
its end. -/
def stop (s : List Char) : Stop :=
  match skipBlanks s with
  | '[' :: rest =>
    match items true (rest.length + 1) rest with
    | .error stop => stop
    | .ok rest =>
      match skipBlanks rest with
      | [] => .atEnd .endInValue
      | rest => .inside rest 1 .trailingText
  | rest => Found.stop listWords rest

/-- What is wrong with the text `s` that is no list of keys, and where. -/
def misreading (s : String) : Misreading := (stop s.toList).locate s

/-- The texts that a search for a key looks at in the stored text `s`, unless this is no JSON5. -/
def searched? (s : String) : Option (List String) :=
  (Json5.read? s).map fun
    | .list items => items.filterMap Value.text?
    | .record fields => fields.filterMap fun f => f.2.text?
    | v => v.text?.toList

end StakeLedger.KeyList
