/-!
# UTF-8

Output of a program is a sequence of bytes; a report is text. `scan` reads bytes as a sequence of
characters and *gaps*: a gap stands for one maximal invalid part, which is a longest beginning of
some well-formed character, cut short by a byte that cannot follow (or by the end), or a single
byte that begins none. Overlong forms, surrogates and values beyond the last code point begin no
character, so the ranges of the second byte refuse them there and then.

Two readers share it: `decode?` refuses a text with a gap, `decodeLossy` puts U+FFFD in its place.
-/

namespace Assay

/-- Raw contents: what a child wrote, what a file holds. -/
abbrev Bytes := List UInt8

end Assay

namespace Assay.Text.Utf8

/-- The bytes of a text. -/
def encode (s : List Char) : Bytes := s.flatMap String.utf8EncodeChar

/-- A character whose first bytes have been read: the bits so far, the number of bytes that must
follow the next one, and the range in which the next one has to lie. -/
structure Pending where
  bits : Nat
  after : Nat
  low : UInt8
  high : UInt8
deriving DecidableEq, Repr

/-- The character begun by a leading byte of two, three or four. The second byte's range leaves out
overlong forms (after `E0` and `F0`), surrogates (after `ED`) and what lies beyond U+10FFFF
(after `F4`). -/
def Pending.ofLead? (b : UInt8) : Option Pending :=
  let n := b.toNat
  if 0xC2 ≤ n ∧ n ≤ 0xDF then some ⟨n % 0x20, 0, 0x80, 0xBF⟩
  else if n = 0xE0 then some ⟨0, 1, 0xA0, 0xBF⟩
  else if n = 0xED then some ⟨0xD, 1, 0x80, 0x9F⟩
  else if 0xE1 ≤ n ∧ n ≤ 0xEF then some ⟨n % 0x10, 1, 0x80, 0xBF⟩
  else if n = 0xF0 then some ⟨0, 2, 0x90, 0xBF⟩
  else if 0xF1 ≤ n ∧ n ≤ 0xF3 then some ⟨n % 0x8, 2, 0x80, 0xBF⟩
  else if n = 0xF4 then some ⟨4, 2, 0x80, 0x8F⟩
  else none

/-- Whether a byte can follow. -/
def Pending.accepts (p : Pending) (b : UInt8) : Bool := p.low ≤ b && b ≤ p.high

/-- The bits with those of one more byte. -/
def Pending.extended (p : Pending) (b : UInt8) : Nat := p.bits * 0x40 + b.toNat % 0x40

/-- Reads a byte where no character is begun: what is pending after it, and what it settles. -/
def start (b : UInt8) : Option Pending × List (Option Char) :=
  if b < 0x80 then (none, [some (Char.ofNat b.toNat)])
  else
    match Pending.ofLead? b with
    | some p => (some p, [])
    | none => (none, [none])

/-- Reads one byte. A byte that cannot follow closes a gap and is read again as a first byte. -/
def step : Option Pending → UInt8 → Option Pending × List (Option Char)
  | none, b => start b
  | some p, b =>
    if p.accepts b then
      match p.after with
      | 0 => (none, [some (Char.ofNat (p.extended b))])
      | n + 1 => (some ⟨p.extended b, n, 0x80, 0xBF⟩, [])
    else ((start b).1, none :: (start b).2)

/-- The characters and gaps of a sequence of bytes, the beginning of a character being pending. -/
def scanFrom : Option Pending → Bytes → List (Option Char)
  | none, [] => []
  | some _, [] => [none]
  | p, b :: rest => (step p b).2 ++ scanFrom (step p b).1 rest

/-- The characters (`some`) and gaps (`none`) of a sequence of bytes. -/
def scan (bs : Bytes) : List (Option Char) := scanFrom none bs

/-- The replacement character, U+FFFD. -/
def replacement : Char := '\uFFFD'

/-- The text of a sequence of bytes, one replacement character for each gap. -/
def decodeLossy (bs : Bytes) : List Char := (scan bs).map (·.getD replacement)

/-- The text of a sequence of bytes, if it has no gap. -/
def decode? (bs : Bytes) : Option (List Char) := (scan bs).mapM id

end Assay.Text.Utf8
