/-!
# Base64 Text

The standard alphabet with padding: three bytes become four letters of six bits each, and a last
group of one or two bytes is filled up with `=`.
-/

namespace StakeLedger.Base64

/-- The letter of the number `n`, which is below sixty-four. -/
def letter (n : Nat) : Char :=
  if n < 26 then Char.ofNat (65 + n)
  else if n < 52 then Char.ofNat (97 + (n - 26))
  else if n < 62 then Char.ofNat (48 + (n - 52))
  else if n = 62 then '+'
  else '/'

/-- The four letters of the number `n` of twenty-four bits. -/
def letters (n : Nat) : List Char :=
  [letter (n / 262144 % 64), letter (n / 4096 % 64), letter (n / 64 % 64), letter (n % 64)]

/-- The text of a sequence of bytes, four letters for every three of them. -/
def encode : List UInt8 → List Char
  | [] => []
  | [a] => (letters (a.toNat * 65536)).take 2 ++ ['=', '=']
  | [a, b] => (letters (a.toNat * 65536 + b.toNat * 256)).take 3 ++ ['=']
  | a :: b :: c :: rest =>
    letters (a.toNat * 65536 + b.toNat * 256 + c.toNat) ++ encode rest

end StakeLedger.Base64
