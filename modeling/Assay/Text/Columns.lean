import Assay.Text.Columns.Ranges
import Assay.Text.Glyph

/-!
# Columns

How many columns of a terminal a text takes: none for controls, escape sequences and marks that
stand on the character before, two for wide characters, one for all others. A character that is a
word or a vowel written out takes what it stands for.
-/

namespace Assay.Text

/-- The number of columns of a character. -/
def columnsOf (c : Char) : Nat :=
  let n := c.toNat
  if n < 0x20 ∨ n = 0x7F then 0
  else if n < 0x80 then 1
  else if n < 0xA0 then 0
  else if n = 0x17A4 then 2
  else if n = 0x17D8 then 3
  else if Columns.zeroWidth.any fun (first, last) => first ≤ n && n ≤ last then 0
  else if Columns.wide.any fun (first, last) => first ≤ n && n ≤ last then 2
  else 1

/-- The number of columns of a glyph. -/
def Glyph.columns : Glyph → Nat
  | character c => columnsOf c
  | escape _ => 0

/-- The number of columns of a text. -/
def columns (s : List Char) : Nat := (Glyph.ofText s).foldl (fun n g => n + g.columns) 0

end Assay.Text
