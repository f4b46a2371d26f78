import StakeLedger.Text.Unicode.Invisible

/-!
# Texts in Messages

A message shows a text between quotation marks and so that every character can be told: quotation
marks and backslashes are escaped, and characters that cannot be seen by themselves are written as a
letter or as their code.
-/

namespace StakeLedger.Visible

/-- The shortest hexadecimal digits of the number `n`. -/
def hex (n : Nat) : List Char :=
  match (Hex.ofNat 8 n).dropWhile (· = '0') with
  | [] => ['0']
  | digits => digits

/-- How the character `c` is shown between quotation marks. -/
def escape (c : Char) : List Char :=
  match c with
  | '"' => ['\\', '"']
  | '\\' => ['\\', '\\']
  | '\n' => ['\\', 'n']
  | '\r' => ['\\', 'r']
  | '\t' => ['\\', 't']
  | '\x00' => ['\\', '0']
  | c =>
    if Unicode.invisible.contains c then ['\\', 'u', '\x7b'] ++ hex c.toNat ++ ['\x7d'] else [c]

/-- The text between quotation marks, with every character shown by `escape`. -/
def quote (text : String) : String := String.ofList ('"' :: (text.toList.flatMap escape ++ ['"']))

end StakeLedger.Visible
