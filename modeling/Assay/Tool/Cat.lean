import Assay.Text.Decimal
import Assay.Tool.Work

/-!
# Showing files

`cat` shows files one after the other. Lines may be numbered, empty lines in a row be shown as one,
and what cannot be seen be made visible; lines go on from one file to the next.
-/

namespace Assay.Tool.Cat

open Kernel (Descriptor FileStatus)
open Text (Octets)

open Work

/-- Which lines are numbered. -/
inductive Numbered where
  | nothing
  | all
  | filled
deriving DecidableEq, Repr

/-- How files are shown. -/
structure Style where
  numbered : Numbered
  /-- Whether several empty lines are shown as one. -/
  squeezes : Bool
  showsEnds : Bool
  showsTabs : Bool
  showsHidden : Bool
deriving DecidableEq, Repr

/-- Files as they are. -/
def Style.asIs : Style := ⟨.nothing, false, false, false, false⟩

/-- How far the showing has come. -/
structure Progress where
  /-- The number of the last line. -/
  line : Nat
  /-- The empty lines that came last, if a line begins here. -/
  empties : Option Nat
  /-- Whether a carriage return came last that was not shown yet. -/
  returned : Bool
deriving DecidableEq, Repr

/-- Nothing was shown yet. -/
def Progress.start : Progress := ⟨0, some 0, false⟩

/-- The number in front of a line. -/
def number (n : Nat) : Octets :=
  let digits := Text.digits n
  List.replicate (6 - digits.length) ' ' ++ digits ++ ['\t']

/-- A byte made visible. -/
def visible (c : Char) : Octets :=
  let n := c.toNat
  let low (n : Nat) : Octets :=
    if n < 32 then ['^', Char.ofNat (n + 64)]
    else if n = 127 then ['^', '?']
    else [Char.ofNat n]
  if n < 128 then low n else 'M' :: '-' :: low (n - 128)

/-- A byte inside a line. -/
def shown (style : Style) (c : Char) : Octets :=
  if c = '\t' then (if style.showsTabs then ['^', 'I'] else ['\t'])
  else if style.showsHidden then visible c
  else [c]

/-- Shows one byte. -/
def step (style : Style) (p : Progress) (c : Char) : Progress × Octets :=
  let held := if p.returned && c != '\n' then ['\r'] else []
  if c = '\n' then
    let ending := (if p.returned then ['^', 'M'] else []) ++
      (if style.showsEnds then ['$'] else []) ++ ['\n']
    match p.empties with
    | none => (⟨p.line, some 0, false⟩, ending)
    | some n =>
      if 1 ≤ n && style.squeezes then (⟨p.line, some n, false⟩, [])
      else if style.numbered = .all then
        (⟨p.line + 1, some (n + 1), false⟩, number (p.line + 1) ++ ending)
      else (⟨p.line, some (n + 1), false⟩, ending)
  else
    let begins := p.empties.isSome && style.numbered != .nothing
    let line := if begins then p.line + 1 else p.line
    let head := held ++ if begins then number line else []
    if c = '\r' && style.showsEnds && !style.showsHidden then (⟨line, none, true⟩, head)
    else (⟨line, none, false⟩, head ++ shown style c)

/-- Shows bytes. -/
def render (style : Style) (p : Progress) (data : Octets) : Progress × Octets :=
  let (p, pieces) := data.foldl (fun (p, pieces) c =>
    let (p, piece) := step style p c
    (p, piece :: pieces)) (p, [])
  (p, pieces.reverse.flatten)

/-- What an option asks for. -/
inductive Wish where
  | numberFilled
  | numberAll
  | squeeze
  | hidden
  | ends
  | tabs
  | hiddenEnds
  | hiddenTabs
  | everything
  | nothing
  | help
deriving DecidableEq, Repr

/-- The options. -/
def choices : List (Choice Wish) :=
  [⟨.numberFilled, "b", ["number-nonblank"], .nothing⟩, ⟨.numberAll, "n", ["number"], .nothing⟩,
    ⟨.squeeze, "s", ["squeeze-blank"], .nothing⟩, ⟨.hidden, "v", ["show-nonprinting"], .nothing⟩,
    ⟨.ends, "E", ["show-ends"], .nothing⟩, ⟨.tabs, "T", ["show-tabs"], .nothing⟩,
    ⟨.everything, "A", ["show-all"], .nothing⟩, ⟨.hiddenEnds, "e", [], .nothing⟩,
    ⟨.hiddenTabs, "t", [], .nothing⟩, ⟨.nothing, "u", [], .nothing⟩,
    ⟨.help, "", ["help", "version"], .nothing⟩]

/-- The style with a wish fulfilled. -/
def Style.with (s : Style) : Wish → Style
  | .numberFilled => { s with numbered := .filled }
  | .numberAll => { s with numbered := if s.numbered = .filled then .filled else .all }
  | .squeeze => { s with squeezes := true }
  | .hidden => { s with showsHidden := true }
  | .ends => { s with showsEnds := true }
  | .tabs => { s with showsTabs := true }
  | .hiddenEnds => { s with showsHidden := true, showsEnds := true }
  | .hiddenTabs => { s with showsHidden := true, showsTabs := true }
  | .everything => { s with showsHidden := true, showsEnds := true, showsTabs := true }
  | .nothing | .help => s

/-- Whether a file is the one that is written to, and has something left to read. -/
def feedsItself (output input : FileStatus) (d : Descriptor) : Work Bool := do
  if output.kind = .regular && output.identity == input.identity then
    match ← ask (.position d) with
    | .ok offset => pure (offset < input.size)
    | .error _ => pure false
  else pure false

/-- Shows what a descriptor leads to; whether that was done. -/
def showFrom (style : Style) (output : FileStatus) (operand : Octets) (d : Descriptor)
    (p : Progress) : Work (Progress × Bool) := do
  match ← ask (.statusOf d) with
  | .error e =>
    complainOf (Name.plain operand) e
    pure (p, false)
  | .ok input =>
    if ← feedsItself output input d then
      complain (Name.plain operand ++ octets ": input file is output file")
      pure (p, false)
    else
      let (p, e) ← forEachPiece d (fun p data => do
        let (p, text) :=
          if style = .asIs then (p, Text.Octets.ofBytes data)
          else render style p (Text.Octets.ofBytes data)
        put 1 text
        pure (p, true)) pieceLimit p
      match e with
      | none => pure (p, true)
      | some e =>
        complainOf (Name.plain operand) e
        pure (p, false)

/-- Shows an operand; whether that was done. -/
def showOperand (style : Style) (output : FileStatus) (operand : Octets) (p : Progress) :
    Work (Progress × Bool) := do
  if operand = ['-'] then showFrom style output operand 0 p
  else
    match ← ask (.open operand .reading 0) with
    | .error e =>
      complainOf (Name.plain operand) e
      pure (p, false)
    | .ok d =>
      let result ← showFrom style output operand d p
      let _ ← ask (.close d)
      pure result

/-- Shows files. -/
def main (arguments : List Octets) : Work Nat := do
  let given := Given.ofArguments choices arguments
  let style ← given.foldlM (fun style given => do
    match given with
    | .wrong message => misuse message
    | .option .help _ _ => quit 0
    | .option wish _ _ => pure (Style.with style wish)
    | .operand _ => pure style) Style.asIs
  let operands := match given.filterMap Given.operand? with
    | [] => [['-']]
    | operands => operands
  match ← ask (.statusOf 1) with
  | .error e => failOf 1 (octets "standard output") e
  | .ok output =>
    let (p, good) ← operands.foldlM (fun (p, good) operand => do
      let (p, done) ← showOperand style output operand p
      pure (p, good && done)) (Progress.start, true)
    if p.returned then put 1 ['\r']
    if operands.contains ['-'] then
      match ← ask (.close 0) with
      | .ok () => pure ()
      | .error e => failOf 1 (octets "closing standard input") e
    pure (if good then 0 else 1)

end Assay.Tool.Cat
