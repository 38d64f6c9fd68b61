import Assay.Text.Blank
import Assay.Text.Octets

/-!
# Names in messages

Tools show names so that a shell would read them back as one word: between quotes, always
(`quoted`) or only where something in them asks for it (`plain`). What cannot be seen is written as
an escape, in quotes of its own. A text that was given as an argument stands between curved quotes
(`curved`).
-/

namespace Assay.Tool.Name

open Text (Octets)

/-- A part of a name: a character that can be seen, with its bytes, or a byte that cannot. -/
inductive Part where
  | visible (bytes : Octets)
  | hidden (byte : Char)
deriving DecidableEq, Repr

/-- The character of several bytes that a text begins with. -/
def wide? (s : Octets) : Option Octets :=
  [2, 3, 4].findSome? fun n =>
    match Text.Utf8.decode? (Text.Octets.toBytes (s.take n)) with
    | some [_] => some (s.take n)
    | _ => none

/-- The parts of a name of at most so many bytes. -/
def partsOf : Nat → Octets → List Part
  | 0, _ => []
  | _, [] => []
  | n + 1, c :: s =>
    if c.toNat < 0x20 || c.toNat == 0x7F then .hidden c :: partsOf n s
    else if c.toNat < 0x80 then .visible [c] :: partsOf n s
    else
      match wide? (c :: s) with
      | some bytes => .visible bytes :: partsOf n (s.drop (bytes.length - 1))
      | none => .hidden c :: partsOf n s

/-- The parts of a name. -/
def parts (s : Octets) : List Part := partsOf s.length s

/-- A digit to the base 8. -/
def octalDigit (n : Nat) : Char := Char.ofNat ('0'.toNat + n % 8)

/-- The escape of a byte. -/
def escape (c : Char) : Octets :=
  match c with
  | '\x07' => ['\\', 'a']
  | '\x08' => ['\\', 'b']
  | '\t' => ['\\', 't']
  | '\n' => ['\\', 'n']
  | '\x0b' => ['\\', 'v']
  | '\x0c' => ['\\', 'f']
  | '\r' => ['\\', 'r']
  | c =>
    let n := c.toNat
    ['\\', octalDigit (n / 64), octalDigit (n / 8), octalDigit n]

/-- Characters that mean something to a shell. -/
def special : List Char := " !\"$&'()*;<=>?[\\^\x60|".toList

/-- Characters that mean something only where a word begins. -/
def specialFirst : List Char := ['#', '~']

/-- Characters that may stand between double quotes too. -/
def suitsDouble (c : Char) : Bool :=
  c.isAlphanum || " '%+,-./:]_\x7b\x7d#~".toList.contains c

/-- The parts after the first of a quoted name; `escaping` tells that escapes came last. -/
def spellFrom : (escaping : Bool) → List Part → Octets
  | _, [] => []
  | true, .visible bytes :: rest => "''".toList ++ spellFrom false (.visible bytes :: rest)
  | false, .visible ['\''] :: rest => "'\\''".toList ++ spellFrom false rest
  | false, .visible bytes :: rest => bytes ++ spellFrom false rest
  | escaping, .hidden c :: rest =>
    (if escaping then [] else "'$'".toList) ++ escape c ++ spellFrom true rest
termination_by escaping ps => (ps.length, escaping.toNat)

/-- A name between quotes. -/
def quoted (s : Octets) : Octets :=
  if s.contains '\'' && s.all suitsDouble then '"' :: s ++ ['"']
  else '\'' :: spellFrom false (parts s) ++ ['\'']

/-- Whether a name has to be quoted, where some more characters ask for it. -/
def asks (more : List Char) (s : Octets) : Bool :=
  s.isEmpty || s == ['\x7b'] || s == ['\x7d'] || s.head?.any specialFirst.contains ||
    s.any (fun c => special.contains c || more.contains c) ||
    (parts s).any fun
      | .hidden _ => true
      | .visible _ => false

/-- A name in front of a colon: between quotes where it has to be. -/
def plain (s : Octets) : Octets := if asks [':'] s then quoted s else s

/-- A text between curved quotes. -/
def curved (s : Octets) : Octets :=
  let closing := Text.Octets.ofString "’"
  let inside := (parts s).flatMap fun
    | .hidden c => escape c
    | .visible bytes =>
      if bytes == ['\\'] || bytes == closing then '\\' :: bytes else bytes
  Text.Octets.ofString "‘" ++ inside ++ closing

end Assay.Tool.Name
