import Assay.Text.CharClass.Table

/-!
# Classes of characters

The classes of characters that a search can name, and the two cases of letters. A digit is one of
ASCII; the digits of other scripts count as letters. What can be shown and is neither a letter nor a
digit nor white space is punctuation.
-/

namespace Assay.Text

/-- A class of characters. -/
inductive CharClass where
  | alpha
  | digit
  | alnum
  | upper
  | lower
  | space
  | blank
  | punct
  | print
  | graph
  | cntrl
  | xdigit
  /-- The characters of words: letters, digits and the underscore. -/
  | word
deriving DecidableEq, Repr

namespace CharClass

/-- Whether a number is in one of the ranges from one place of an ascending table to another. The
number of steps bounds the search. -/
def within (table : Array (Nat × Nat)) (n : Nat) : Nat → (low high : Nat) → Bool
  | 0, _, _ => false
  | steps + 1, low, high =>
    if high ≤ low then false
    else
      let middle := (low + high) / 2
      let (first, last) := table.getD middle (0, 0)
      if n < first then within table n steps low middle
      else if last < n then within table n steps (middle + 1) high
      else true

/-- Whether a number is in one of the ranges of an ascending table. -/
def isIn (table : Array (Nat × Nat)) (n : Nat) : Bool := within table n 32 0 table.size

/-- Whether a number is in a run. -/
def Run.has (r : Run) (n : Nat) : Bool :=
  r.first ≤ n && n ≤ r.last && (n - r.first) % r.step = 0

/-- The blanks beyond ASCII that are no line separators. -/
def isWideBlank (c : Char) : Bool :=
  c == '\u1680' || '\u2000' ≤ c && c ≤ '\u2006' || '\u2008' ≤ c && c ≤ '\u200A' ||
    c == '\u205F' || c == '\u3000'

/-- Whether a character is in a class. -/
def has (k : CharClass) (c : Char) : Bool :=
  let n := c.toNat
  let isLetter := if n < 0x80 then c.isAlpha else isIn letters n
  let isSpace := c == ' ' || '\t' ≤ c && c ≤ '\r' || isWideBlank c || c == '\u2028' || c == '\u2029'
  let isShown := if n < 0x80 then ' ' ≤ c && c ≤ '~' else isIn shown n
  match k with
  | alpha => isLetter
  | digit => c.isDigit
  | alnum => isLetter || c.isDigit
  | upper => if n < 0x80 then c.isUpper else capitals.any (·.has n)
  | lower => if n < 0x80 then c.isLower else smalls.any (·.has n)
  | space => isSpace
  | blank => c == ' ' || c == '\t' || isWideBlank c
  | punct => isShown && !isSpace && !isLetter && !c.isDigit
  | print => isShown
  | graph => isShown && !isSpace
  | cntrl => n < 0x20 || 0x7F ≤ n && n < 0xA0 || c == '\u2028' || c == '\u2029'
  | xdigit => c.isDigit || 'a' ≤ c && c ≤ 'f' || 'A' ≤ c && c ≤ 'F'
  | word => isLetter || c.isDigit || c == '_'

/-- The class of a name. -/
def ofName? (name : List Char) : Option CharClass :=
  [("alpha", alpha), ("digit", digit), ("alnum", alnum), ("upper", upper), ("lower", lower),
    ("space", space), ("blank", blank), ("punct", punct), ("print", print), ("graph", graph),
    ("cntrl", cntrl), ("xdigit", xdigit)].findSome? fun (n, k) =>
      if n.toList == name then some k else none

/-- A letter in the case that a table leads to. -/
def shift (table : Array (Run × Int)) (c : Char) : Char :=
  match table.find? (·.1.has c.toNat) with
  | some (_, distance) => Char.ofNat (c.toNat + distance).toNat
  | none => c

/-- The capital letter of a letter. -/
def capital (c : Char) : Char := if c.toNat < 0x80 then c.toUpper else shift toCapital c

/-- The small letter of a letter. -/
def small (c : Char) : Char := if c.toNat < 0x80 then c.toLower else shift toSmall c

/-- The small letters that share their capital letter with another one. -/
def lonely : List Char :=
  ['\u00B5', '\u0131', '\u017F', '\u01C5', '\u01C8', '\u01CB', '\u01F2', '\u0345', '\u03C2',
    '\u03D0', '\u03D1', '\u03D5', '\u03D6', '\u03F0', '\u03F1', '\u03F2', '\u03F5', '\u1E9B',
    '\u1FBE']

/-- The characters that count as a character where the case does not matter: itself, its capital
letter, the small letter of that, and the small letters that have the same capital letter. -/
def counterparts (c : Char) : List Char :=
  let up := capital c
  let low := small up
  let cases := (if up != c then [up] else []) ++
    (if low != up && low != c && capital low == up then [low] else [])
  let others := lonely.filter fun l => l != low && l != up && l != c && capital l == up
  c :: cases ++ others

end CharClass

end Assay.Text
