import Assay.Shell.Token

/-!
# Reading characters and tokens

A `Reader` is what is left of a script, with the line that was reached and what the reading of
tokens has to keep in mind. An alias is put in front of what is left, and is not replaced again
while it is read. A token can be put back, a character too.
-/

namespace Assay.Shell

open Text (Octets)

/-- Text that is left to be read: the script's, or that of an alias. -/
structure Frame where
  rest : Octets
  /-- The alias that the text stands for. -/
  source : Option Octets
  /-- Whether the text ends in a blank, so that the word after the alias is looked up too. -/
  endsBlank : Bool
deriving DecidableEq, Repr

/-- What is looked out for at the next token. -/
structure Attention where
  newlines : Bool
  reserved : Bool
  aliases : Bool
  /-- The word is the mark of a document: nothing in it is filled. -/
  mark : Bool
deriving DecidableEq, Repr

namespace Attention

/-- Nothing special. -/
def none : Attention := ⟨false, false, false, false⟩

/-- A command may begin. -/
def command : Attention := ⟨false, true, true, false⟩

/-- A command may begin, perhaps after newlines. -/
def commandOnLines : Attention := ⟨true, true, true, false⟩

/-- A reserved word may stand, perhaps after newlines. -/
def reservedOnLines : Attention := ⟨true, true, false, false⟩

/-- Only an alias may stand. -/
def aliasOnly : Attention := ⟨false, false, true, false⟩

/-- The mark of a document. -/
def documentMark : Attention := ⟨false, false, false, true⟩

/-- What two occasions look out for. -/
def union (a b : Attention) : Attention :=
  ⟨a.newlines || b.newlines, a.reserved || b.reserved, a.aliases || b.aliases, a.mark || b.mark⟩

end Attention

/-- A document whose text is still to be read. -/
structure Awaited where
  number : Nat
  mark : Octets
  stripsTabs : Bool
  expands : Bool

/-- What a redirection does, as its operator tells. -/
inductive Operator where
  | read
  | write
  | clobber
  | append
  | readWrite
  | duplicate
  | document (stripsTabs : Bool)
deriving DecidableEq, Repr

/-- What is left of a script. -/
structure Reader where
  frames : List Frame
  /-- The aliases that ended with the last word. They still count as being read. -/
  ended : List Frame
  line : Nat
  aliases : List (Octets × Octets)
  attention : Attention
  /-- Whether the last token is to be read again. -/
  putBack : Bool
  last : Token
  /-- The symbols of the last word, and whether something in it was quoted. -/
  word : List Symbol
  quoted : Bool
  /-- The last redirection. -/
  operator : Nat × Operator
  awaited : List Awaited
  documents : Array Document

namespace Reader

/-- The beginning of a script. -/
def ofText (text : Octets) (line : Nat) : Reader where
  frames := [⟨text, none, false⟩]
  ended := []
  line := line
  aliases := []
  attention := .none
  putBack := false
  last := .endOfFile
  word := []
  quoted := false
  operator := (0, .read)
  awaited := []
  documents := #[]

/-- Whether an alias is being read. -/
def isReading (r : Reader) (name : Octets) : Bool :=
  (r.ended ++ r.frames).any (·.source == some name)

/-- The reader in front of the next character. At the end of an alias its frame goes. -/
def advance (r : Reader) : List Frame → Reader
  | [] => { r with frames := [] }
  | f :: others =>
    if f.rest.isEmpty && f.source.isSome then
      let r := { r with ended := r.ended ++ [f] }
      advance (if f.endsBlank then { r with attention := { r.attention with aliases := true } }
        else r) others
    else { r with frames := f :: others }

/-- Puts the text of an alias in front of what is left. -/
def enter (r : Reader) (name value : Octets) : Reader :=
  let endsBlank := value.getLast? == some ' ' || value.getLast? == some '\t'
  { r with frames := ⟨value, some name, endsBlank⟩ :: r.ended ++ r.frames, ended := [] }

end Reader

/-- A step of reading, which may fail. -/
abbrev Reading := ExceptT SyntaxError (StateM Reader)

namespace Reading

/-- Takes the next character; `none` is the end. -/
def take : Reading (Option Char) :=
  modifyGet fun r =>
    let r := r.advance r.frames
    match r.frames with
    | f :: others =>
      match f.rest with
      | c :: rest => (some c, { r with frames := { f with rest } :: others })
      | [] => (none, r)
    | [] => (none, r)

/-- Puts a character back. -/
def putBack (c : Option Char) : Reading Unit :=
  modify fun r =>
    match c, r.frames with
    | some c, f :: others => { r with frames := { f with rest := c :: f.rest } :: others }
    | _, _ => r

/-- Puts text in front of what is left. -/
def push (text : Octets) : Reading Unit :=
  modify fun r =>
    match r.frames with
    | f :: others => { r with frames := { f with rest := text ++ f.rest } :: others }
    | [] => r

/-- Goes to the next line. -/
def nextLine : Reading Unit := modify fun r => { r with line := r.line + 1 }

/-- The text after newlines that a backslash joins, and how many there are. -/
def afterJoined : Octets → Nat × Octets
  | '\\' :: '\n' :: rest =>
    let (n, rest) := afterJoined rest
    (n + 1, rest)
  | s => (0, s)

/-- Passes over newlines that a backslash joins. -/
def skipJoined : Reading Unit :=
  modify fun r =>
    match r.frames with
    | f :: others =>
      let (n, rest) := afterJoined f.rest
      if n = 0 then r
      else { r with frames := { f with rest } :: others, line := r.line + n }
    | [] => r

/-- Takes the next character after any lines that a backslash joins. The backslash may be the last
character of an alias. -/
def takeOn : Reading (Option Char) := do
  skipJoined
  match ← take with
  | some '\\' =>
    match ← take with
    | some '\n' =>
      nextLine
      skipJoined
      take
    | c =>
      putBack c
      pure (some '\\')
  | c => pure c

/-- Refuses the script. -/
def refuse {α : Type} (message : String) : Reading α := do
  throw ⟨(← get).line, "Syntax error: " ++ message⟩

/-- Refuses the last token; `expected` is what should have been there. -/
def refuseToken {α : Type} (expected : Option Token) : Reading α := do
  let found := (← get).last.shown ++ " unexpected"
  refuse (match expected with
    | some t => found ++ " (expecting " ++ t.shown ++ ")"
    | none => found)

/-- Lets the last token be read again. -/
def putBackToken : Reading Unit := modify fun r => { r with putBack := true }

/-- Looks out for something at the next token. -/
def attend (a : Attention) : Reading Unit := modify fun r => { r with attention := a }

end Reading

end Assay.Shell
