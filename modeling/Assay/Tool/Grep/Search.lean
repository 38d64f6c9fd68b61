import Assay.Text.Decimal
import Assay.Text.Octets
import Assay.Text.Regex.Program

/-!
# Searching lines

A `Scan` goes through the lines of a file: it selects lines, shows them with the lines around them,
and remembers what has to be told at the end. A file that holds bytes 0 is no text; its lines are
not shown, nor are lines that are not well-formed.
-/

namespace Assay.Tool.Grep

open Text (Octets Sign)
open Text.Regex (Search)

/-! ### Lines and their parts -/

/-- The bytes of a line, sign by sign. At most so many are read. -/
def unitsFrom : Nat → Octets → List (Octets × Sign)
  | 0, _ => []
  | _, [] => []
  | n + 1, c :: s =>
    if c.toNat < 0x80 then ([c], some c) :: unitsFrom n s
    else
      let wide := [2, 3, 4].findSome? fun k =>
        match Text.Utf8.decode? (Text.Octets.toBytes ((c :: s).take k)) with
        | some [d] => some (k, d)
        | _ => none
      match wide with
      | some (k, d) => ((c :: s).take k, some d) :: unitsFrom n (s.drop (k - 1))
      | none => ([c], none) :: unitsFrom n s

/-- The bytes of a line, sign by sign. -/
def units (line : Octets) : List (Octets × Sign) := unitsFrom line.length line

/-! ### Going through a file -/

/-- What is shown. -/
inductive Shown where
  | lines
  | parts
  | count
  | nothing
deriving DecidableEq, Repr

/-- What is done with files that are no text. -/
inductive BinaryRule where
  | tell
  | asText
  | never
deriving DecidableEq, Repr

/-- How files are searched. -/
structure Plan where
  /-- What tells which lines match. -/
  query : Search
  /-- What tells which parts of a line match. -/
  partQuery : Search
  inverted : Bool
  /-- The number of lines to select. -/
  limit : Option Nat
  /-- The lines shown in front of those that are selected. -/
  before : Option Nat
  after : Option Nat
  shown : Shown
  /-- Whether one selected line is enough. -/
  oneIsEnough : Bool
  numbers : Bool
  offsets : Bool
  /-- Whether a tab comes in front of the text. -/
  tabs : Bool
  /-- What follows the name of a file, where a line does not. -/
  nameEnd : Option Char
  separator : Option Octets
  /-- Whether what matches is coloured, and what stands beside the lines. -/
  colors : Bool
  terminator : Char
  binary : BinaryRule

/-- What stands in front of the lines of a file. -/
structure Heading where
  name : Option Octets
  /-- The width of numbers. -/
  width : Nat

/-- A line of a file. -/
structure Line where
  number : Nat
  offset : Nat
  text : Octets
deriving Repr

/-- How far a file was searched. -/
structure Scan where
  /-- The lines gone through. -/
  count : Nat
  /-- The bytes gone through. -/
  offset : Nat
  selected : Nat
  /-- The bytes up to the end of the last line that was selected. -/
  selectedEnd : Nat
  /-- The lines in front that were not shown yet, the last one first. -/
  pending : List Line
  /-- The lines behind that are still to be shown. -/
  trailing : Nat
  /-- The last line that was shown. -/
  lastShown : Option Nat
  /-- Whether a line was selected or shown, of whatever file. -/
  begun : Bool
  /-- The lines that had been selected when a byte 0 was found. -/
  nulAfter : Option Nat
  /-- Whether a line that is not well-formed was kept back. -/
  keptBack : Bool
  /-- Whether nothing more is looked for. -/
  done : Bool
deriving Repr

/-- The beginning of a file. -/
def Scan.start (begun : Bool) : Scan := ⟨0, 0, 0, 0, [], 0, none, begun, none, false, false⟩

namespace Plan

/-- Whether lines are shown with others around them. -/
def hasContext (plan : Plan) : Bool := plan.before.isSome || plan.after.isSome

/-- A text in a color. -/
def paint (plan : Plan) (color : String) (text : Octets) : Octets :=
  if plan.colors then
    ("\x1b[" ++ color ++ "m\x1b[K").toList ++ text ++ "\x1b[m\x1b[K".toList
  else text

/-- A mark between what stands in front of a line. -/
def mark (plan : Plan) (c : Char) : Octets := plan.paint "36" [c]

/-- The name of a file in front of what is shown of it. -/
def fileName (plan : Plan) (name : Octets) (c : Char) : Octets :=
  plan.paint "35" name ++
    match plan.nameEnd with
    | some ending => [ending]
    | none => plan.mark c

/-- What comes in front of a line or a part of one. -/
def head (plan : Plan) (h : Heading) (c : Char) (number offset : Nat) (isBlank : Bool) : Octets :=
  let name := (h.name.map (plan.fileName · c)).getD []
  let counted (n : Nat) : Octets :=
    let digits := Text.digits n
    plan.paint "32" (List.replicate (h.width - digits.length) ' ' ++ digits) ++ plan.mark c
  let number := if plan.numbers then counted number else []
  let offset := if plan.offsets then counted offset else []
  let all := name ++ number ++ offset
  if plan.tabs && !all.isEmpty && !isBlank then all ++ ['\t'] else all

/-- The parts of a line that match, from one number of bytes to another. -/
def partsOf (plan : Plan) (text : Octets) : List (Nat × Nat) :=
  let all := units text
  let offsets := all.foldl (fun offsets (bytes, _) =>
    offsets.push (offsets.back?.getD 0 + bytes.length)) #[0]
  (plan.partQuery.parts (all.length + 1) (.first (all.map (·.2)))).map fun (b, e) =>
    (offsets.getD b 0, offsets.getD e 0)

/-- A text in which parts are coloured. -/
def paintParts (plan : Plan) (text : Octets) (parts : List (Nat × Nat)) : Octets :=
  let (shown, reached) := parts.foldl (fun (shown, reached) (b, e) =>
    (shown ++ (text.take b).drop reached ++ plan.paint "01;31" ((text.take e).drop b), e)) ([], 0)
  shown ++ text.drop reached

/-- A line as it is shown: selected, or beside one that is. -/
def lineText (plan : Plan) (h : Heading) (selected : Bool) (line : Line) : Octets :=
  let text := if plan.colors && selected != plan.inverted then
      plan.paintParts line.text (plan.partsOf line.text)
    else line.text
  plan.head h (if selected then ':' else '-') line.number line.offset line.text.isEmpty ++ text ++
    [plan.terminator]

/-- The parts of a line that match, as they are shown. -/
def partsText (plan : Plan) (h : Heading) (line : Line) : Octets :=
  (plan.partsOf line.text).flatMap fun (b, e) =>
    plan.head h (if plan.inverted then '-' else ':') line.number (line.offset + b) false ++
      plan.paint "01;31" ((line.text.take e).drop b) ++ [plan.terminator]

/-- Whether a line is kept back. -/
def keepsBack (plan : Plan) (line : Octets) : Bool :=
  plan.binary = .tell && line.any (0x80 ≤ ·.toNat) && (units line).any (·.2.isNone)

end Plan

namespace Scan

/-- Whether lines are shown. -/
def isShowing (plan : Plan) (s : Scan) : Bool :=
  (plan.shown = .lines || plan.shown = .parts) && s.nulAfter.isNone

/-- Shows one line. -/
def showLine (plan : Plan) (h : Heading) (selected : Bool) (s : Scan) (line : Line) :
    Scan × Octets :=
  let gap := plan.hasContext && s.begun &&
    (match s.lastShown with
      | some last => last + 1 < line.number
      | none => true)
  let head := if gap then
      (plan.separator.map fun text => plan.paint "36" text ++ ['\n']).getD []
    else []
  let s := { s with lastShown := some line.number, begun := true }
  if plan.shown = .parts then
    (s, if selected != plan.inverted then head ++ plan.partsText h line else head)
  else if plan.keepsBack line.text then ({ s with keptBack := true }, head)
  else (s, head ++ plan.lineText h selected line)

/-- Shows lines. -/
def showLines (plan : Plan) (h : Heading) (s : Scan) (lines : List (Bool × Line)) :
    Scan × Octets :=
  lines.foldl (fun (s, text) (selected, line) =>
    let (s, more) := s.showLine plan h selected line
    (s, text ++ more)) (s, [])

/-- Goes through one line. -/
def step (plan : Plan) (h : Heading) (s : Scan) (text : Octets) (length : Nat) :
    Scan × Octets :=
  let line : Line := ⟨s.count + 1, s.offset, text⟩
  let s := { s with count := s.count + 1, offset := s.offset + length }
  let full := plan.limit.any (· ≤ s.selected)
  if full then
    if s.trailing = 0 then ({ s with done := true }, [])
    else
      let (s, out) := s.showLine plan h false line
      ({ s with trailing := s.trailing - 1, done := s.trailing ≤ 1 }, out)
  else if plan.query.finds ((units text).map (·.2)) != plan.inverted then
    let s := { s with selected := s.selected + 1, selectedEnd := s.offset }
    let full := plan.limit.any (· ≤ s.selected)
    if !s.isShowing plan then
      let done := full || plan.oneIsEnough || s.nulAfter.isSome && plan.shown != .count
      ({ s with begun := true, done }, [])
    else
      let (s, out) := s.showLines plan h
        (s.pending.reverse.map (false, ·) ++ [(true, line)])
      let trailing := plan.after.getD 0
      ({ s with pending := [], trailing, done := full && trailing = 0 }, out)
  else if !s.isShowing plan then (s, [])
  else if 0 < s.trailing then
    let (s, out) := s.showLine plan h false line
    ({ s with trailing := s.trailing - 1 }, out)
  else ({ s with pending := (line :: s.pending).take (plan.before.getD 0) }, [])

/-- Goes through lines until nothing more is looked for. -/
def steps (plan : Plan) (h : Heading) (s : Scan) (lines : List Octets) :
    Scan × Octets :=
  let (s, pieces) := lines.foldl (fun (s, pieces) line =>
    if s.done then (s, pieces)
    else
      let (s, piece) := s.step plan h line (line.length + 1)
      (s, piece :: pieces)) (s, [])
  (s, pieces.reverse.flatten)

/-- Notes that a byte 0 was found. -/
def noteNul (s : Scan) : Scan := { s with nulAfter := s.nulAfter <|> some s.selected }

/-- Whether it has to be told that a file that is no text matches. -/
def tellsBinary (plan : Plan) (s : Scan) : Bool :=
  plan.binary = .tell && (plan.shown = .lines || plan.shown = .parts) &&
    (s.keptBack || s.nulAfter.any (· < s.selected))

end Scan

end Assay.Tool.Grep
