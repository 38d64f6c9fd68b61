import Assay.CommandLine.Stop

/-!
# Reading a command line

The first word chooses the command; the words after it are read from left to right. A word that
starts with a hyphen is a setting, or a cluster of one-letter ones, and every other word is a test;
after `--` all words are tests. The value of a setting stands in its word, after `=` or after the
letter, or is the next word.

A value that is a word of its own is checked only when the next word has shown that nothing else is
wrong with it: until then it is *pending*. So of two mistakes, an unknown word is reported before an
unsuitable value directly in front of it, and after every earlier mistake.

A flag that is unknown is compared with the known ones, for a tip.
-/

namespace Assay.CommandLine

/-! ### Words -/

/-- A word of a command line by its beginning. -/
inductive Word where
  /-- A word without a hyphen in front, or a hyphen alone. -/
  | plain
  /-- Two hyphens. -/
  | escape
  /-- A name after two hyphens, and what stands after the first `=`. -/
  | long (name : String) (value : Option String)
  /-- Letters after one hyphen. -/
  | short (first : Char) (rest : List Char)
deriving DecidableEq, Repr

/-- The parts of a text before and after the first `=`. -/
def cutAtEquals (s : List Char) : String × Option String :=
  match s.dropWhile (· != '=') with
  | [] => (String.ofList s, none)
  | _ :: value => (String.ofList (s.takeWhile (· != '=')), some (String.ofList value))

/-- Which kind of word a text is. -/
def Word.ofText (s : String) : Word :=
  match s.toList with
  | ['-', '-'] => .escape
  | '-' :: '-' :: rest =>
    let (name, value) := cutAtEquals rest
    .long name value
  | '-' :: first :: rest => .short first rest
  | _ => .plain

/-! ### The words of a command -/

/-- What has been read of a command's words. -/
structure Progress where
  mode : Mode
  tests : List String
  /-- The values accepted, in order. -/
  values : List (Setting × String)
  /-- The setting read last, and its value where that has been read but not yet accepted. -/
  pending : Option (Setting × Option String)
  /-- Whether all words to come are tests. -/
  escaped : Bool
deriving DecidableEq, Repr

namespace Progress

/-- Nothing has been read. -/
def start (m : Mode) : Progress := ⟨m, [], [], none, false⟩

/-- A mistake in the words of the command. -/
def stop (p : Progress) (what : Mistake) (tip : Option Tip := none) : Stop :=
  .mistake (.command p.mode) what tip

/-- Accepts a value. -/
def accept (o : Setting) (value : String) (p : Progress) : Except Stop Progress :=
  if !o.isRepeatable && p.values.any (fun (given, _) => given == o) then
    .error (p.stop (.repeated o))
  else if value = "" ∧ !o.isFree then .error (p.stop (.missingValue o))
  else .ok { p with values := p.values ++ [(o, value)] }

/-- Accepts the value that is pending. -/
def settle (p : Progress) : Except Stop Progress :=
  match p.pending with
  | none => .ok p
  | some (o, none) => .error (p.stop (.missingValue o))
  | some (o, some value) => { p with pending := none }.accept o value

/-- The setting that waits for its value. -/
def waiting (p : Progress) : Option Setting :=
  match p.pending with
  | some (o, none) => some o
  | _ => none

/-- Reads a test. -/
def addTest (word : String) (p : Progress) : Except Stop Progress := do
  let p ← p.settle
  pure { p with tests := p.tests ++ [word] }

/-- Reads a setting, with its value if that stands in the same word. -/
def addSetting (o : Setting) (value : Option String) (p : Progress) : Except Stop Progress := do
  let p ← p.settle
  match value with
  | some value => p.accept o value
  | none => pure { p with pending := some (o, none) }

/-- The help flag: what is pending is checked first. -/
def askHelp (p : Progress) : Except Stop Progress := do
  let _ ← p.settle
  throw (.help (.command p.mode))

/-- What was perhaps meant by a long name that is unknown: one that resembles it, or a test. -/
def tipFor (m : Mode) (name : String) : Tip :=
  match Likeness.among name m.longNames with
  | similar :: _ => .similarArgument ("--" ++ similar)
  | [] => .asValue ("--" ++ name)

/-- Reads a long name. -/
def addLong (name : String) (value : Option String) (p : Progress) : Except Stop Progress :=
  if name = helpName then
    match value with
    | none => p.askHelp
    | some value => .error (p.stop (.unwantedValue ("--" ++ helpName) value))
  else
    match p.mode.byLongName? name with
    | some o => p.addSetting o value
    | none => .error (p.stop (.unknownArgument ("--" ++ name)) (tipFor p.mode name))

/-- The value in a word of letters, after the letter of its setting and perhaps a `=`. -/
def attached : List Char → Option String
  | [] => none
  | '=' :: value => some (String.ofList value)
  | value => some (String.ofList value)

/-- Reads letters. -/
def addShort (first : Char) (rest : List Char) (p : Progress) : Except Stop Progress :=
  if first = 'h' then p.askHelp
  else
    match p.mode.byShortName? first with
    | some o => p.addSetting o (attached rest)
    | none =>
      let word := String.ofList ['-', first]
      .error (p.stop (.unknownArgument word) (some (.asValue word)))

/-- Reads a word that is no value of its own. -/
def readKind (word : String) (p : Progress) : Word → Except Stop Progress
  | .plain => p.addTest word
  | .escape => .ok { p with escaped := true }
  | .long name value => p.addLong name value
  | .short first rest => p.addShort first rest

/-- Reads a word. -/
def read (word : String) (p : Progress) : Except Stop Progress :=
  if p.escaped then p.addTest word
  else
    match p.waiting, Word.ofText word with
    | some o, .plain => .ok { p with pending := some (o, some word) }
    | some o, kind =>
      if o.isFree then .ok { p with pending := some (o, some word) }
      else p.readKind word kind
    | none, kind => p.readKind word kind

/-- Reads words in order. -/
def readAll : List String → Progress → Except Stop Progress
  | [], p => p.settle
  | word :: words, p => p.read word >>= readAll words

end Progress

/-- The command of the words after its name. -/
def parseCommand (m : Mode) (words : List String) : Except Stop Command := do
  let p ← (Progress.start m).readAll words
  pure (.ofValues m p.tests p.values)

/-! ### The first word -/

/-- A mistake in what is said to the whole program. -/
def stopAtOnce (what : Mistake) (tip : Option Tip := none) : Stop := .mistake .program what tip

/-- A word that is no command, with the commands that it resembles for a tip. -/
def noSuchCommand (word : String) : Stop :=
  match Likeness.among word commandNames with
  | [] => stopAtOnce (.unknownCommand word)
  | similar => stopAtOnce (.unknownCommand word) (some (.similarCommands similar))

/-- The help for the words after `help`. Only the whole program has commands, so a second word
names none. -/
def helpFor : List String → Stop
  | [] => .help .program
  | [word] =>
    if word = helpName then .help .help
    else
      match Mode.ofName? word with
      | some m => .help (.command m)
      | none => stopAtOnce (.unknownCommand word)
  | word :: next :: _ =>
    if commandNames.contains word then stopAtOnce (.unknownCommand next)
    else stopAtOnce (.unknownCommand word)

/-- What was perhaps meant by a long name in front of any command: a flag of the program that
resembles it, or a flag of the first command that follows. -/
def tipInFront (name : String) (later : List String) : Option Tip :=
  match Likeness.among name [helpName, versionName] with
  | similar :: _ => some (.similarArgument ("--" ++ similar))
  | [] =>
    later.findSome? fun word => do
      let m ← Mode.ofName? word
      let similar ← (Likeness.among name m.longNames).head?
      pure (.ofCommand m.name ("--" ++ similar))

/-- Why a word that stands in front of any command is none. -/
def stopAt (word : String) (later : List String) : Stop :=
  match Word.ofText word with
  | .long name value =>
    if name = helpName ∨ name = versionName then
      match value with
      | none => if name = helpName then .help .program else .version
      | some value => stopAtOnce (.unwantedValue ("--" ++ name) value)
    else stopAtOnce (.unknownArgument ("--" ++ name)) (tipInFront name later)
  | .short 'h' _ => .help .program
  | .short 'V' _ => .version
  | .short first _ => stopAtOnce (.unknownArgument (String.ofList ['-', first]))
  | .plain | .escape => noSuchCommand word

/-- Why the words after `--` are no command: a command may not stand there. -/
def stopAfterEscape : List String → Stop
  | [] => .noCommand
  | word :: _ =>
    if commandNames.contains word then
      stopAtOnce (.unknownArgument word) (some (.withoutEscape word))
    else noSuchCommand word

/-- Reads the words of a command line, the program's name left out. -/
def parse : List String → Except Stop Command
  | [] => .error .noCommand
  | word :: words =>
    match Mode.ofName? word with
    | some m => parseCommand m words
    | none =>
      if word = helpName then .error (helpFor words)
      else if word = "--" then .error (stopAfterEscape words)
      else .error (stopAt word words)

end Assay.CommandLine
