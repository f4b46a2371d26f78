import StakeLedger.Text.Hex

/-!
# Percent Encoding

A percent sign with two hexadecimal digits stands for a byte. A percent sign without them stands for
itself, and so do all other characters.
-/

namespace StakeLedger.Percent

/-- The bytes that a text stands for, `%` and two digits being one byte. -/
def decode : List Char → List UInt8
  | [] => []
  | ['%', a] => [0x25] ++ (String.singleton a).toUTF8.toList
  | '%' :: a :: b :: rest =>
    match Hex.digit? a, Hex.digit? b with
    | some high, some low => UInt8.ofNat (16 * high + low) :: decode rest
    | _, _ => 0x25 :: decode (a :: b :: rest)
  | c :: rest => (String.singleton c).toUTF8.toList ++ decode rest

/-- The text that `bytes` encode in UTF-8, if they encode one. -/
def text? (bytes : List UInt8) : Option String := String.fromUTF8? ⟨bytes.toArray⟩

end StakeLedger.Percent
