import StakeLedger.Data.Json.Fault
import StakeLedger.Data.Json.Quoted

/-!
# Telling What Stands in a Text

Where a text cannot be read as what is expected, the message tells what stands there instead, or
what is wrong with it. Values are read strictly and one after the other, so that the first fault is
met first.

A number that is no integer of 64 bits is computed in floating point in two steps: as many digits as
make a number of 64 bits are taken, and the result is scaled by a power of ten. Both steps round.
-/

namespace StakeLedger.Json

/-- The outcome of taking something of type `α` off the front of a text: it and the rest, or the
fault. -/
abbrev Taken (α : Type) := Except Stop (α × List Char)

/-- Takes the `letters` of a word that stands for `result`. -/
def takeWord {α : Type} (result : α) : (letters : List Char) → List Char → Taken α
  | [], rest => .ok (result, rest)
  | _ :: _, [] => .error (.atEnd .endInValue)
  | l :: letters, c :: rest =>
    if c = l then takeWord result letters rest else .error (.inside (c :: rest) 1 .noWord)

/-- The fault where four hexadecimal digits are due in front of `rest`. -/
def digitsStop (rest : List Char) : Stop :=
  if Stop.bytes rest < 4 then .atEnd .endInText else .inside rest 4 .unknownEscape

/-- Whether the code `unit` is the first half of a surrogate pair. -/
def isFirstHalf (unit : Nat) : Bool := 0xD800 ≤ unit && unit < 0xDC00

/-- Whether the code `unit` is the second half of a surrogate pair. -/
def isSecondHalf (unit : Nat) : Bool := 0xDC00 ≤ unit && unit < 0xE000

/-- Takes a quoted text behind its opening mark. The part that stands in `acc`, reversed, is read,
and so is `half`, the first half of a surrogate pair. -/
def takeText (half : Option Nat) (acc : List Char) : List Char → Taken String
  | [] => .error (.atEnd .endInText)
  | '\\' :: 'u' :: a :: b :: c :: d :: rest =>
    match Hex.toNat? 0 [a, b, c, d] with
    | none => .error (digitsStop (a :: b :: c :: d :: rest))
    | some unit =>
      -- a second half follows a first one and nothing else
      if isSecondHalf unit ≠ half.isSome then .error (.before rest .loneSurrogate)
      else if isFirstHalf unit then takeText (some unit) acc rest
      else
        match half with
        | none => takeText none ((unit? unit).toList ++ acc) rest
        | some high => takeText none ((pair? high unit).toList ++ acc) rest
  | '\\' :: 'u' :: rest => .error (digitsStop rest)
  | ['\\'] => .error (.atEnd .endInText)
  | '\\' :: c :: rest =>
    if half.isSome then .error (.inside (c :: rest) 1 .noSurrogate)
    else
      match escaped? c with
      | some e => takeText none (e :: acc) rest
      | none => .error (.inside (c :: rest) 1 .unknownEscape)
  | c :: rest =>
    if half.isSome then .error (.inside (c :: rest) 1 .noSurrogate)
    else if c = '"' then .ok (String.ofList acc.reverse, rest)
    else if c.toNat < 32 then .error (.before rest .controlCharacter)
    else takeText none (c :: acc) rest

/-- The number that the digit `c` stands for. -/
def digitValue (c : Char) : Nat := c.toNat - '0'.toNat

/-- Digits in front of a `rest`, counted with those that were taken before. -/
structure Digits where
  /-- The number that the digits make together with earlier ones. -/
  number : Nat
  /-- How many digits are part of it. -/
  used : Nat
  /-- How many digits follow that would take it beyond 64 bits. -/
  unused : Nat
  /-- What follows the digits. -/
  rest : List Char

/-- Takes digits after the `used` ones that make `number`. -/
def takeDigits (number used : Nat) : List Char → Digits
  | [] => ⟨number, used, 0, []⟩
  | c :: rest =>
    if c.isDigit then
      let next := 10 * number + digitValue c
      if next < UInt64.size then takeDigits next (used + 1) rest
      else
        let (ds, rest) := rest.span Char.isDigit
        ⟨number, used, ds.length + 1, rest⟩
    else ⟨number, used, 0, c :: rest⟩

/-- The largest power of ten that numbers are scaled by in one step. -/
def largestPower : Nat := 308

/-- The power `10 ^ exponent` in floating point. -/
def powerOfTen (exponent : Nat) : Binary64 := .ofRatio (Nat.pow 10 exponent) 1

/-- The magnitude `m` divided by `10 ^ exponent`, in steps of at most `largestPower`. -/
def scaleDown (m : Binary64) (exponent : Nat) : Binary64 :=
  if exponent ≤ largestPower then m.div (powerOfTen exponent)
  else if m = .finite 0 then m
  else scaleDown (m.div (powerOfTen largestPower)) (exponent - largestPower)
termination_by exponent
decreasing_by simp only [largestPower] at *; omega

/-- The number `number * 10 ^ exponent` in floating point, unless it is too large. -/
def scale? (number : Nat) (exponent : Int) : Option Binary64 :=
  let m := Binary64.ofRatio number 1
  if exponent < 0 then some (scaleDown m exponent.natAbs)
  else if number = 0 then some m
  else if exponent.natAbs ≤ largestPower then
    match m.mul (powerOfTen exponent.natAbs) with
    | .infinite => none
    | product => some product
  else none

/-- The outcome of taking the digits of an exponent: its magnitude, or what follows the digit that
takes it beyond 32 bits. -/
def exponentDigits (magnitude : Nat) : List Char → Except (List Char) (Nat × List Char)
  | [] => .ok (magnitude, [])
  | c :: rest =>
    if c.isDigit then
      let next := 10 * magnitude + digitValue c
      if next < 0x80000000 then exponentDigits next rest else .error rest
    else .ok (magnitude, c :: rest)

/-- Takes the exponent of `number` behind its letter and gives the whole number. It counts from
`start`. -/
def takeExponent (number : Nat) (start : Int) (s : List Char) : Taken Binary64 :=
  let (isNegative, s) := match s with
    | '+' :: rest => (false, rest)
    | '-' :: rest => (true, rest)
    | rest => (false, rest)
  match s with
  | [] => .error (.atEnd .endInValue)
  | c :: rest =>
    if !c.isDigit then .error (.inside (c :: rest) 1 .malformedNumber)
    else
      match exponentDigits 0 (c :: rest) with
      | .ok (magnitude, rest) =>
        match scale? number (if isNegative then start - magnitude else start + magnitude) with
        | some m => .ok (m, rest)
        | none => .error (.before rest .hugeNumber)
      | .error rest =>
        if number ≠ 0 ∧ !isNegative then .error (.before rest .hugeNumber)
        else .ok (.finite 0, rest.dropWhile Char.isDigit)

/-- Takes what may follow the digits of a number in floating point and gives the whole number. -/
def takeScale (number : Nat) (start : Int) : List Char → Taken Binary64
  | c :: rest =>
    if c = 'e' ∨ c = 'E' then takeExponent number start rest
    else
      match scale? number start with
      | some m => .ok (m, c :: rest)
      | none => .error (.before (c :: rest) .hugeNumber)
  | [] =>
    match scale? number start with
    | some m => .ok (m, [])
    | none => .error (.atEnd .hugeNumber)

/-- Takes the fraction of `number` behind its point and gives the whole number. -/
def takeFraction (number : Nat) (start : Int) (s : List Char) : Taken Binary64 :=
  let ds := takeDigits number 0 s
  if ds.used = 0 ∧ ds.unused = 0 then
    .error (if s.isEmpty then .atEnd .endInValue else .inside s 1 .malformedNumber)
  else takeScale ds.number (start - ds.used) ds.rest

/-- What an integer counts as. Zero with a sign and numbers beyond 64 bits are in floating point. -/
def Found.ofNumber (isNegative : Bool) (number : Nat) : Found :=
  if !isNegative then .integer number
  else if 0 < number ∧ number ≤ UInt64.size / 2 then .integer (-(number : Int))
  else .real true (.ofRatio number 1)

/-- Takes a number without its sign, which `isNegative` tells. -/
def takeNumber (isNegative : Bool) : List Char → Taken Found
  | [] => .error (.atEnd .endInValue)
  | c :: rest =>
    if !c.isDigit then .error (.inside (c :: rest) 1 .malformedNumber)
    else if c = '0' ∧ (rest.head?.any Char.isDigit) then .error (.inside rest 1 .malformedNumber)
    else
      let ds := takeDigits 0 0 (c :: rest)
      let real (t : Taken Binary64) : Taken Found := t.map fun (m, rest) =>
        (.real isNegative m, rest)
      match ds.rest with
      | '.' :: rest => real (takeFraction ds.number ds.unused rest)
      | rest =>
        let hasExponent := rest.head?.any fun e => e = 'e' ∨ e = 'E'
        if hasExponent ∨ 0 < ds.unused then real (takeScale ds.number ds.unused rest)
        else .ok (.ofNumber isNegative ds.number, rest)

/-- Takes what stands at the front of a text. Lists and records are told by their first character,
which is not taken. -/
def Found.take : List Char → Taken Found
  | [] => .error (.atEnd .endInValue)
  | 'n' :: rest => takeWord .null "ull".toList rest
  | 't' :: rest => takeWord (.bool true) "rue".toList rest
  | 'f' :: rest => takeWord (.bool false) "alse".toList rest
  | '"' :: rest => (takeText none [] rest).map fun (s, rest) => (.text s, rest)
  | '-' :: rest => takeNumber true rest
  | '[' :: rest => .ok (.list, '[' :: rest)
  | '\x7b' :: rest => .ok (.record, '\x7b' :: rest)
  | c :: rest =>
    if c.isDigit then takeNumber false (c :: rest) else .error (.inside (c :: rest) 1 .noValue)

/-- The fault of the text `s` at a place where a value of the type `expected` is due. -/
def Found.stop (expected : String) (s : List Char) : Stop :=
  match Found.take s with
  | .ok (found, rest) => .before rest (.unexpected found expected)
  | .error stop => stop

end StakeLedger.Json
