/-!
# Quoted text

A text between quotes in which every character that would end the quotes or the line, or could not
be seen, is escaped: so it always stands on one line.
-/

namespace Assay.Text.Quoted

/-- The digits of a number to the base 16. -/
def hex (n : Nat) : List Char := Nat.toDigits 16 n

/-- A character inside quotes. -/
def escape (c : Char) : List Char :=
  match c with
  | '\x00' => ['\\', '0']
  | '\t' => ['\\', 't']
  | '\n' => ['\\', 'n']
  | '\r' => ['\\', 'r']
  | '"' => ['\\', '"']
  | '\\' => ['\\', '\\']
  | c =>
    if c.toNat < 0x20 ∨ (0x7F ≤ c.toNat ∧ c.toNat < 0xA0) then
      '\\' :: 'u' :: '\x7b' :: hex c.toNat ++ ['\x7d']
    else [c]

/-- A text between quotes. -/
def quote (s : String) : String := String.ofList ('"' :: s.toList.flatMap escape ++ ['"'])

end Assay.Text.Quoted
