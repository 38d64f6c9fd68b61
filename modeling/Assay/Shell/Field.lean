import Assay.Text.Octets

/-!
# Fields

A filled word is a sequence of chunks. What came from an unquoted place may be cut where a separator
stands; what stands for several arguments is cut between them; the rest stays together. `fieldsOf`
does the cutting.

A separator that is a blank counts once, however many follow each other, and not at all where a
field would begin; every other separator ends a field, also an empty one.
-/

namespace Assay.Shell

open Text (Octets)

/-- A piece of a filled word. A character that was quoted stands for itself in a pattern. -/
inductive Cell where
  | char (c : Char) (quoted : Bool)
  /-- A quotation mark: there is a field even if nothing else is in it. -/
  | mark
deriving DecidableEq, Repr

namespace Cell

/-- The character of a cell. -/
def char? : Cell → Option Char
  | char c _ => some c
  | mark => none

/-- The characters of cells. -/
def text (cells : List Cell) : Octets := cells.filterMap char?

/-- The cells of a text. -/
def ofText (quoted : Bool) (s : Octets) : List Cell := s.map (.char · quoted)

end Cell

/-- The character between the arguments that a chunk stands for. -/
def argumentEnd : Char := '\x00'

/-- Where a chunk may be cut. -/
inductive Cutting where
  | nowhere
  /-- At separators, and between arguments. -/
  | atSeparators
  /-- Between arguments only, so that each is a field. -/
  | betweenArguments
deriving DecidableEq, Repr

/-- A part of a filled word that came from one place. -/
structure Chunk where
  cells : List Cell
  cutting : Cutting
deriving DecidableEq, Repr

namespace Chunk

/-- The cells of chunks. -/
def cellsOf (chunks : List Chunk) : List Cell := chunks.flatMap (·.cells)

/-- The text of chunks that are not cut. -/
def textOf (chunks : List Chunk) : Octets := Cell.text (cellsOf chunks)

/-- Whether a cell is a newline. -/
def isNewline : Cell → Bool
  | .char '\n' _ => true
  | _ => false

/-- Chunks, the last one first, without the newlines at their end. -/
def trimNewlines : List Chunk → List Chunk
  | [] => []
  | c :: earlier =>
    let kept := (c.cells.reverse.dropWhile isNewline).reverse
    if kept.isEmpty then { c with cells := [] } :: trimNewlines earlier
    else { c with cells := kept } :: earlier

end Chunk

/-- Whether a separator is a blank. -/
def isBlankSeparator (c : Char) : Bool :=
  c == ' ' || c == '\t' || c == '\n' || c == argumentEnd

/-- Fields while they are cut. Lists are backwards. -/
structure Fields where
  done : List (List Cell)
  /-- The field at hand. -/
  field : List Cell
  /-- Whether the chunk before could be cut between arguments only. -/
  afterArguments : Bool

namespace Fields

/-- Ends the field at hand. -/
def close (f : Fields) : Fields := { f with done := f.field.reverse :: f.done, field := [] }

/-- Adds a cell to the field at hand. -/
def push (f : Fields) (c : Cell) : Fields := { f with field := c :: f.field }

/-- Takes the cells of a chunk that is cut at separators. `after` tells that a separator ended a
field and nothing came since: whether it was a blank, so that one more separator belongs to it. -/
def takeSeparated (isSeparator : Char → Bool) : List Cell → (after : Option Bool) → (start : Bool) →
    Fields → Fields
  | [], _, _, f => f
  | .mark :: cells, _, _, f => takeSeparated isSeparator cells none false (f.push .mark)
  | .char c quoted :: cells, after, start, f =>
    if !isSeparator c then
      takeSeparated isSeparator cells none false (f.push (.char c quoted))
    else
      let blank := isBlankSeparator c
      match after with
      | some wasBlank =>
        if blank then takeSeparated isSeparator cells after false f
        else if wasBlank then takeSeparated isSeparator cells (some false) false f
        else takeSeparated isSeparator cells (some false) false f.close
      | none =>
        if f.field.isEmpty && blank && !(start && f.afterArguments) then
          takeSeparated isSeparator cells none false f
        else takeSeparated isSeparator cells (some blank) false f.close

/-- Takes the cells of a chunk that is cut between arguments. -/
def takeArguments (f : Fields) (cells : List Cell) : Fields :=
  cells.foldl (fun f c =>
    if c.char? == some argumentEnd then f.close else f.push c) f

/-- Takes a chunk. -/
def take (isSeparator : Char → Bool) (f : Fields) (c : Chunk) : Fields :=
  match c.cutting with
  | .nowhere => c.cells.foldl push f
  | .atSeparators => { takeSeparated isSeparator c.cells none true f with afterArguments := false }
  | .betweenArguments => { f.takeArguments c.cells with afterArguments := true }

end Fields

/-- The fields of a filled word, given the separators. An empty field at the end counts only if it
is an argument. -/
def fieldsOf (separators : Octets) (chunks : List Chunk) : List (List Cell) :=
  let isSeparator (c : Char) : Bool := c == argumentEnd || separators.contains c
  let f := chunks.foldl (Fields.take isSeparator) ⟨[], [], false⟩
  let f := if f.field.isEmpty && !f.afterArguments then f else f.close
  f.done.reverse

end Assay.Shell
