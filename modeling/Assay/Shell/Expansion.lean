import Assay.Shell.Glob
import Assay.Shell.Interpreter
import Assay.Shell.Sum

/-!
# Filling words

A word is filled part by part, from left to right, to a sequence of chunks. A part that is filled
from an unquoted place may be cut into fields afterwards; where no fields are wanted, as in an
assignment, the text of the chunks is taken as it is. Last of all, a field that is a pattern is
replaced by the paths that it matches.

How output is taken from commands is left open: `output` stands for it.
-/

namespace Assay.Shell

open Kernel (Request)
open Text (Octets)

open Run

/-- How a word is filled. -/
structure Manner where
  /-- Whether fields are wanted. -/
  splits : Bool
  /-- Whether it is an assignment, so that `~` counts after `=` and `:`. -/
  assigns : Bool
  /-- Whether the `=` of the assignment has come. -/
  pastEquals : Bool
  /-- Whether the text of the word itself is cut into fields too. -/
  cutsText : Bool

namespace Manner

/-- For the words of a command. -/
def fields : Manner := ⟨true, false, false, false⟩

/-- For a text. -/
def text : Manner := ⟨false, false, false, false⟩

/-- For an assignment. -/
def assignment : Manner := ⟨false, true, false, false⟩

end Manner

/-- A word while it is filled: the chunks so far, the last one first. -/
structure Filling where
  chunks : List Chunk
  manner : Manner

namespace Filling

/-- Adds a chunk. -/
def add (f : Filling) (cells : List Cell) (cutting : Cutting) : Filling :=
  { f with chunks := ⟨cells, cutting⟩ :: f.chunks }

/-- Adds text that stands in the word itself and was not quoted. -/
def addPlain (f : Filling) (s : Octets) : Filling :=
  if s.isEmpty then f
  else f.add (Cell.ofText false s) (if f.manner.cutsText then .atSeparators else .nowhere)

/-- Adds what filled a place. -/
def addFilled (f : Filling) (s : Octets) (quoted : Bool) : Filling :=
  f.add (Cell.ofText quoted s) (if quoted then .nowhere else .atSeparators)

end Filling

/-! ### Files that are looked into -/

/-- Reads what a descriptor gives. The parts are kept, the last one first. -/
def readParts (d : Kernel.Descriptor) : Nat → List Octets → Run (List Octets)
  | 0, parts => pure parts
  | n + 1, parts => do
    match ← ask (.read d 65536) with
    | .ok [] => pure parts
    | .ok data => readParts d n (Text.Octets.ofBytes data :: parts)
    | .error e => if e == .interrupted then readParts d n parts else pure parts

/-- The number of reads that a file may need. -/
def readLimit : Nat := 1000000000

/-- Reads all that a descriptor gives. -/
def readAll (d : Kernel.Descriptor) : Run Octets :=
  return (← readParts d readLimit []).reverse.flatten

/-- The home directory of a user, as the table of users has it. -/
def homeOf? (user : Octets) : Run (Option Octets) := do
  match ← ask (.open (octets "/etc/passwd") .reading 0) with
  | .error _ => pure none
  | .ok d =>
    let table ← readAll d
    let _ ← ask (.close d)
    pure <| (Text.split '\n' table).findSome? fun line =>
      match Text.split ':' line with
      | name :: _ :: _ :: _ :: _ :: home :: _ => if name == user then some home else none
      | _ => none

/-- The home directory that a name after `~` stands for. -/
def tildeHome? (name : Octets) : Run (Option Octets) :=
  if name.isEmpty then return (← get).value? "HOME".toList else homeOf? name

/-- Adds unquoted text of a word. `tilde` tells that a `~` counts at its beginning, `isLast` that
the word ends with it. -/
def fillPlain (isLast : Bool) : Nat → (tilde : Bool) → Octets → Filling → Run Filling
  | 0, _, _, f => pure f
  | n + 1, tilde, s, f => do
    let ends (c : Char) : Bool := c == '/' || (f.manner.assigns && c == ':')
    let name := (s.drop 1).takeWhile (!ends ·)
    let isWhole := name.length + 1 < s.length || isLast
    let home ← if tilde && s.head? == some '~' && isWhole then tildeHome? name else pure none
    match home with
    | some home =>
      fillPlain isLast n false (s.drop (name.length + 1)) (f.add (Cell.ofText true home) .nowhere)
    | none =>
      if !f.manner.assigns then return f.addPlain s
      let starts (c : Char) : Bool := c == ':' || (c == '=' && !f.manner.pastEquals)
      let before := s.takeWhile (!starts ·)
      match s.drop before.length with
      | [] => pure (f.addPlain s)
      | c :: rest =>
        let f := f.addPlain (before ++ [c])
        let pastEquals := f.manner.pastEquals || c == '='
        fillPlain isLast n true rest { f with manner := { f.manner with pastEquals } }

/-! ### Parameters -/

/-- The arguments as one text. Where fields are wanted they are kept apart. -/
def joined (s : Interpreter) (name : Octets) (splits quoted : Bool) : Octets :=
  let arguments := s.parameters.arguments
  let byFirst : Octets :=
    match s.value? "IFS".toList with
    | some [] => arguments.flatten
    | some (c :: _) => Text.join c arguments
    | none => Text.join ' ' arguments
  if splits && quoted && name == ['@'] then Text.join argumentEnd arguments
  else if splits && !quoted then
    if (s.value? "IFS".toList).isSome then Text.join argumentEnd arguments
    else Text.join ' ' arguments
  else byFirst

/-- The value of a parameter, if it is set. -/
def parameter? (s : Interpreter) (name : Octets) (splits quoted : Bool) : Option Octets :=
  match name with
  | ['$'] => some (Text.digits s.rootId)
  | ['?'] => some (Text.digits s.status)
  | ['#'] => some (Text.digits s.parameters.arguments.length)
  | ['!'] => s.lastJob.map Text.digits
  | ['-'] => some (Setting.letters s.settings)
  | ['@'] | ['*'] => some (joined s name splits quoted)
  | c :: _ =>
    if c.isDigit then
      let n := Numeral.ofDigits 10 name
      if n = 0 then some s.name else s.parameters.arguments[n - 1]?
    else s.value? name
  | [] => none

/-- How what a parameter is filled with may be cut. -/
def cuttingOf (s : Interpreter) (name : Octets) (quoted : Bool) : Cutting :=
  if !quoted then .atSeparators
  else if name == ['@'] && !s.parameters.arguments.isEmpty then .betweenArguments
  else .nowhere

/-- The value of a sum. -/
def reckonSum (text : Octets) : Run Octets := do
  let s ← get
  let (value, assigned) := Sum.reckon s.value? text
  assigned.forM fun (name, value) => assign name value
  match value with
  | .ok n => pure (Text.integer n).toList
  | .error (.noNumber value) => failNumber value
  | .error (.unreadable message) =>
    fail (octets "arithmetic expression: " ++ octets message ++ octets ": \"" ++ text ++ ['"'])
  | .error .trapped => do
    let _ ← ask (.send (← ask .ownId) Kernel.Signal.arithmetic)
    pure []

/-- Ends because a parameter is not set. -/
def failUnset {α : Type} (name message : Octets) : Run α := fail (name ++ octets ": " ++ message)

/-- Whether a quotation that was just opened holds nothing but all arguments: whether an empty value
counts as none, and what follows the quotation. -/
def quotedArguments? : Word → Option (Bool × Word)
  | .parameter name .plain orEmpty _ :: .mark :: rest =>
    if name == ['@'] then some (orEmpty, rest) else none
  | _ => none

variable (output : Option Command → Run Octets)

mutual

/-- Fills parts of a word. `tilde` tells that a `~` counts at the beginning, `inside` that a
quotation mark is open. -/
def fillParts : Nat → (tilde inside : Bool) → Word → Filling → Run Filling
  | 0, _, _, _, f => pure f
  | _, _, _, [], f => pure f
  | n + 1, tilde, inside, part :: rest, f => do
    match part with
    | .mark =>
      match if inside then none else quotedArguments? rest with
      | some (orEmpty, rest) =>
        let f ← fillParameter n ['@'] .plain orEmpty true f
        fillParts n false false rest f
      | none => fillParts n false (!inside) rest (f.add [.mark] .nowhere)
    | .text s quoted =>
      let f ← if quoted then pure (f.add (Cell.ofText true s) .nowhere)
        else fillPlain rest.isEmpty (s.length + 1) tilde s f
      fillParts n false inside rest f
    | .parameter name use orEmpty quoted =>
      let f ← fillParameter n name use orEmpty quoted f
      fillParts n false inside rest f
    | .output body quoted =>
      let text ← output body
      let filled := f.addFilled text quoted
      fillParts n false inside rest { filled with chunks := Chunk.trimNewlines filled.chunks }
    | .sum body quoted =>
      let text ← fillText n .text false body
      let value ← reckonSum text
      fillParts n false inside rest (f.addFilled value quoted)

/-- Fills the place of a parameter. -/
def fillParameter : Nat → Octets → Use → (orEmpty quoted : Bool) → Filling → Run Filling
  | 0, _, _, _, _, f => pure f
  | n + 1, name, use, orEmpty, quoted, f => do
    let s ← get
    let value := parameter? s name f.manner.splits quoted
    let isSet := value.any fun v => !(orEmpty && v.isEmpty)
    let filled (s : Interpreter) (value : Octets) : Filling :=
      f.add (Cell.ofText quoted value) (cuttingOf s name quoted)
    let usual : Run Filling := do
      let s ← get
      pure (filled s ((parameter? s name f.manner.splits quoted).getD []))
    let fillWord (word : Word) : Run Filling := do
      let within ← fillParts n true false word
        { f with manner := { f.manner with cutsText := !quoted } }
      pure { within with manner := { within.manner with cutsText := f.manner.cutsText } }
    let needed : Run Unit := do
      if value.isNone && (← isOn .nounset) then failUnset name (octets "parameter not set")
    match use with
    | .senseless _ => fail (octets "Bad substitution")
    | .plain =>
      needed
      usual
    | .length =>
      needed
      pure (f.addFilled (Text.digits (value.getD []).length) quoted)
    | .default word => if isSet then usual else fillWord word
    | .alternative word => if isSet then fillWord word else pure (filled s [])
    | .assign word =>
      if isSet then usual
      else
        let text ← fillText n .text true word
        assign name text
        usual
    | .require word =>
      if isSet then usual
      else if word.isEmpty then
        failUnset name (octets (if orEmpty then "parameter not set or null"
          else "parameter not set"))
      else
        let text ← fillText n .text true word
        failUnset name text
    | .withoutStart longest word =>
      needed
      match value with
      | none => pure f
      | some value =>
        let pattern ← fillPattern n word
        let cut := (matchingStart? longest pattern value).getD 0
        pure (filled (← get) (value.drop cut))
    | .withoutEnd longest word =>
      needed
      match value with
      | none => pure f
      | some value =>
        let pattern ← fillPattern n word
        let kept := (matchingEnd? longest pattern value).getD value.length
        pure (filled (← get) (value.take kept))

/-- The text of a word that is not cut into fields. -/
def fillText : Nat → Manner → (tilde : Bool) → Word → Run Octets
  | 0, _, _, _ => pure []
  | n + 1, manner, tilde, word => do
    let f ← fillParts n tilde false word ⟨[], manner⟩
    pure (Chunk.textOf f.chunks.reverse)

/-- The pattern of a word. -/
def fillPattern : Nat → Word → Run Text.Pattern
  | 0, _ => pure []
  | n + 1, word => do
    let f ← fillParts n true false word ⟨[], .text⟩
    pure (patternOf (Chunk.cellsOf f.chunks.reverse))

end

/-! ### Paths that match -/

/-- The paths that begin in a way and go on as pieces say. -/
def pathsFrom : Nat → (start : Octets) → List (List PatternChar) → Run (List Octets)
  | 0, _, _ => pure []
  | n + 1, start, pieces => do
    let plain := pieces.takeWhile (!isPattern ·)
    match pieces.drop plain.length with
    | [] =>
      if start.isEmpty then return []
      let path := start ++ Text.join '/' (plain.map literalText)
      pure (if (← ask (.status path false)).toBool then [path] else [])
    | piece :: rest =>
      let directory := start ++ plain.flatMap fun p => literalText p ++ ['/']
      let names ← ask (.entries (if directory.isEmpty then ['.'] else directory) false)
      let names := (names.map (['.'] :: ['.', '.'] :: ·)).toOption.getD []
      let pattern := patternFrom (piece.length + 1) piece
      let fits (name : Octets) : Bool :=
        (name.head? != some '.' || seesHidden piece) && pattern.accepts name
      let found := names.filter fits
      if rest.isEmpty then pure (found.map (directory ++ ·))
      else
        return (← found.mapM fun name => pathsFrom n (directory ++ name ++ ['/']) rest).flatten

/-- The words that a field comes to. -/
def wordsOf (field : List Cell) : Run (List Octets) := do
  let text := Cell.text field
  if ← isOn .noglob then return [text]
  let pieces := pathPieces (patternChars field)
  if !pieces.any isPattern then return [text]
  match ← pathsFrom (pieces.length + 1) [] pieces with
  | [] => pure [text]
  | paths => pure (paths.mergeSort Files.Tree.precedes)

/-- How deep words may be nested. -/
def fillDepth : Nat := 1000000000

/-- The words that a word of a command comes to. -/
def fillFields (word : Word) : Run (List Octets) := do
  let f ← fillParts output fillDepth true false word ⟨[], .fields⟩
  let fields := fieldsOf (← get).separators f.chunks.reverse
  return (← fields.mapM wordsOf).flatten

/-- The text of an assignment. -/
def fillAssignment (word : Word) : Run Octets := fillText output fillDepth .assignment false word

/-- The text of a word that is one field. -/
def fillOne (word : Word) : Run Octets := fillText output fillDepth .text true word

/-- The text of a document. -/
def fillDocument (word : Word) : Run Octets := fillText output fillDepth .text false word

/-- The pattern of a word. -/
def fillCase (word : Word) : Run Text.Pattern := fillPattern output fillDepth word

end Assay.Shell
