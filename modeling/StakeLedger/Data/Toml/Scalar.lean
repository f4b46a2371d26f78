import StakeLedger.Data.Value
import StakeLedger.Number.Binary64
import StakeLedger.Text.Decimal
import StakeLedger.Text.Hex

/-!
# Scalars in TOML

Truth values, numbers and dates are written without quotes. Between two digits of a number one
underscore may stand. Integers have 64 bits and a sign; hexadecimal, octal and binary ones are
written without it. A number with a fraction or an exponent has to round to a finite one, unless it
is negative. A date or a time is kept as text in a record with a field of a reserved name.
-/

namespace StakeLedger.Toml

/-- The name of the field that holds the text of a date or time. -/
def dateField : String := "$date"

/-- The digits of a number without underscores, which may only stand between two digits. -/
def plainDigits? (isDigit : Char → Bool) : List Char → Option (List Char)
  | [] => none
  | [c] => if isDigit c then some [c] else none
  | c :: '_' :: rest => if isDigit c then (plainDigits? isDigit rest).map (c :: ·) else none
  | c :: rest => if isDigit c then (plainDigits? isDigit rest).map (c :: ·) else none

/-- The decimal digits of the whole number `s`, which has no superfluous leading zero. -/
def wholeDigits? (s : List Char) : Option (List Char) :=
  match plainDigits? Char.isDigit s with
  | some ('0' :: _ :: _) => none
  | ds => ds

/-- The number that the digits `s` stand for in the given `base`. -/
def inBase? (base : Nat) (s : List Char) : Option Nat := do
  let ds ← plainDigits? (fun c => (Hex.digit? c).any (· < base)) s
  ds.foldlM (fun n c => (Hex.digit? c).map fun d => base * n + d) 0

/-- The number `n` if it fits in 64 bits with a sign. -/
def signed64? (n : Int) : Option Int :=
  if Int64.minValue.toInt ≤ n ∧ n ≤ Int64.maxValue.toInt then some n else none

/-- The integer that a word stands for, in any of the four bases. -/
def integer? : List Char → Option Int
  | '0' :: 'x' :: s => (inBase? 16 s).bind fun n => signed64? n
  | '0' :: 'o' :: s => (inBase? 8 s).bind fun n => signed64? n
  | '0' :: 'b' :: s => (inBase? 2 s).bind fun n => signed64? n
  | '-' :: s => (wholeDigits? s).bind fun ds => signed64? (-(Decimal.ofDigits ds : Int))
  | '+' :: s => (wholeDigits? s).bind fun ds => signed64? (Decimal.ofDigits ds)
  | s => (wholeDigits? s).bind fun ds => signed64? (Decimal.ofDigits ds)

/-- A word without the sign it may have, plus or minus. -/
def unsigned : List Char → List Char
  | '-' :: s => s
  | '+' :: s => s
  | s => s

/-- The exponent that a word behind its letter stands for. -/
def exponent? : List Char → Option Int
  | '-' :: s => (plainDigits? Char.isDigit s).map fun ds => -(Decimal.ofDigits ds : Int)
  | s => (plainDigits? Char.isDigit (unsigned s)).map fun ds => (Decimal.ofDigits ds : Int)

/-- The magnitude of the number `s` with a fraction, an exponent or both. -/
def magnitude? (s : List Char) : Option Binary64 := do
  let (mantissa, tail) := s.span fun c => c ≠ 'e' ∧ c ≠ 'E'
  let exponent ← exponent? (if tail.isEmpty then ['0'] else tail.drop 1)
  match mantissa.span (· ≠ '.') with
  | (whole, '.' :: fraction) =>
    let whole ← wholeDigits? whole
    let fraction ← plainDigits? Char.isDigit fraction
    some (.ofDecimal (Decimal.ofDigits (whole ++ fraction)) (exponent - fraction.length))
  | (whole, _) =>
    let whole ← wholeDigits? whole
    if tail.isEmpty then none else some (.ofDecimal (Decimal.ofDigits whole) exponent)

/-- Whether the word `s` is a number with a fraction, an exponent or both. Past the finite numbers
only negative ones are allowed. -/
def isReal (s : List Char) : Bool :=
  match magnitude? (unsigned s) with
  | some .infinite => s.head? == some '-'
  | some (.finite _) => true
  | none => false

/-- Whether the word `s` is one of the numbers that are no numbers of digits: `inf` or `nan`. -/
def isSpecial (s : List Char) : Bool := unsigned s == "inf".toList || unsigned s == "nan".toList

/-- The number of two digits. -/
def twoDigits? : List Char → Option Nat
  | [a, b] => Decimal.read? [a, b]
  | _ => none

/-- The number of days in the `month` of a `year`. -/
def daysIn (year month : Nat) : Nat :=
  if month = 2 then
    if year % 4 = 0 ∧ (year % 100 ≠ 0 ∨ year % 400 = 0) then 29 else 28
  else if month = 4 ∨ month = 6 ∨ month = 9 ∨ month = 11 then 30
  else 31

/-- Whether a word is a date. -/
def isDate : List Char → Bool
  | [a, b, c, d, '-', e, f, '-', g, h] =>
    match Decimal.read? [a, b, c, d], twoDigits? [e, f], twoDigits? [g, h] with
    | some year, some month, some day =>
      1 ≤ month && month ≤ 12 && 1 ≤ day && day ≤ daysIn year month
    | _, _, _ => false
  | _ => false

/-- Whether `s` is two digits of a number up to `bound`. -/
def isUpTo (bound : Nat) (s : List Char) : Bool := (twoDigits? s).any (· ≤ bound)

/-- Whether the word `s` is the part of a time behind the seconds: a fraction, if any, and, if
`withOffset`, the offset from universal time, if any. -/
def isTimeTail (withOffset : Bool) (s : List Char) : Bool :=
  let rest? := match s with
    | '.' :: fraction =>
      match fraction.span Char.isDigit with
      | ([], _) => none
      | (_, rest) => some rest
    | rest => some rest
  match rest? with
  | none => false
  | some [] => true
  | some ['Z'] => withOffset
  | some ['z'] => withOffset
  | some [sign, a, b, ':', c, d] =>
    withOffset && (sign == '+' || sign == '-') && isUpTo 23 [a, b] && isUpTo 59 [c, d]
  | some _ => false

/-- Whether a word is a time, which may have an offset if `withOffset`. -/
def isTime (withOffset : Bool) : List Char → Bool
  | a :: b :: ':' :: c :: d :: ':' :: e :: f :: tail =>
    isUpTo 23 [a, b] && isUpTo 59 [c, d] && isUpTo 60 [e, f] && isTimeTail withOffset tail
  | _ => false

/-- Whether the word `s` is a date, a time, or a date with a time. -/
def isDateTime (s : List Char) : Bool :=
  isDate s || isTime false s ||
    match s.drop 10 with
    | c :: time => (c == 'T' || c == 't' || c == ' ') && isDate (s.take 10) && isTime true time
    | [] => false

/-- The value of the word `s`, which stands without quotes. -/
def scalar? (s : List Char) : Option Value :=
  if s = "true".toList then some (.bool true)
  else if s = "false".toList then some (.bool false)
  else match integer? s with
    | some n => some (.integer n)
    | none =>
      if isReal s || isSpecial s then some (.real (String.ofList s))
      else if isDateTime s then some (.record [(dateField, .text (String.ofList s))])
      else none

end StakeLedger.Toml
