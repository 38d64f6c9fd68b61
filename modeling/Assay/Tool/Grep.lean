import Assay.Kernel.Request
import Assay.Text.Lines
import Assay.Tool.Alternative
import Assay.Tool.Grep.Exclusion
import Assay.Tool.Grep.Expression
import Assay.Tool.Grep.Perl
import Assay.Tool.Grep.Search
import Assay.Tool.Work

/-!
# Searching files

`grep` shows the lines of files that match one of several expressions. Its exit code tells whether
there are any: 0 if there are, 1 if there are none, 2 after an error; a quiet search that has found
a line is not concerned with errors.
-/

namespace Assay.Tool.Grep

open Kernel (Descriptor FileStatus Identity)
open Text (Alphabet CharClass Octets Regex)
open Text.Regex (Search)

open Work

/-! ### Options -/

/-- How expressions are written. -/
inductive Writing where
  | basic
  | extended
  | fixed
  | perl
deriving DecidableEq, Repr

/-- What is done with directories. -/
inductive DirectoryRule where
  | read
  | recurse
  | skip
deriving DecidableEq, Repr

/-- What an option asks for. -/
inductive Wish where
  | writing (w : Writing)
  | matcher
  | expression
  | expressionFile
  | ignoreCase
  | respectCase
  | words
  | lines
  | nulData
  | silent
  | invert
  | limit
  | offsets
  | numbers
  | withNames
  | withoutNames
  | label
  | onlyMatching
  | quiet
  | binaryFiles
  | asText
  | withoutBinary
  | directories
  | devices
  | recursive
  | recursiveThroughLinks
  | colors
  | rule (includes : Bool)
  | excludedDirectory
  | excludedFrom
  | listMatching
  | listOthers
  | count
  | tabs
  | nulNames
  | before
  | after
  | context
  | digit
  | separator
  | noSeparator
  | unixOffsets
  /-- Something that makes no difference here. -/
  | nothing
  | help
deriving DecidableEq, Repr

/-- The options. -/
def options : List (Choice Wish) :=
  [⟨.writing .basic, "G", ["basic-regexp"], .nothing⟩,
    ⟨.writing .extended, "E", ["extended-regexp"], .nothing⟩,
    ⟨.writing .fixed, "F", ["fixed-regexp", "fixed-strings"], .nothing⟩,
    ⟨.writing .perl, "P", ["perl-regexp"], .nothing⟩, ⟨.after, "A", ["after-context"], .value⟩,
    ⟨.before, "B", ["before-context"], .value⟩, ⟨.binaryFiles, "", ["binary-files"], .value⟩,
    ⟨.nothing, "U", ["binary"], .nothing⟩, ⟨.offsets, "b", ["byte-offset"], .nothing⟩,
    ⟨.context, "C", ["context"], .value⟩, ⟨.colors, "", ["color", "colour"], .perhaps⟩,
    ⟨.count, "c", ["count"], .nothing⟩, ⟨.devices, "D", ["devices"], .value⟩,
    ⟨.directories, "d", ["directories"], .value⟩,
    ⟨.rule false, "", ["exclude"], .value⟩, ⟨.excludedFrom, "", ["exclude-from"], .value⟩,
    ⟨.excludedDirectory, "", ["exclude-dir"], .value⟩,
    ⟨.expressionFile, "f", ["file"], .value⟩,
    ⟨.listMatching, "l", ["files-with-matches"], .nothing⟩,
    ⟨.listOthers, "L", ["files-without-match"], .nothing⟩,
    ⟨.separator, "", ["group-separator"], .value⟩, ⟨.help, "", ["help"], .nothing⟩,
    ⟨.rule true, "", ["include"], .value⟩, ⟨.ignoreCase, "iy", ["ignore-case"], .nothing⟩,
    ⟨.respectCase, "", ["no-ignore-case"], .nothing⟩, ⟨.tabs, "T", ["initial-tab"], .nothing⟩,
    ⟨.label, "", ["label"], .value⟩, ⟨.nothing, "", ["line-buffered"], .nothing⟩,
    ⟨.numbers, "n", ["line-number"], .nothing⟩, ⟨.lines, "x", ["line-regexp"], .nothing⟩,
    ⟨.limit, "m", ["max-count"], .value⟩, ⟨.withoutNames, "h", ["no-filename"], .nothing⟩,
    ⟨.noSeparator, "", ["no-group-separator"], .nothing⟩,
    ⟨.silent, "s", ["no-messages"], .nothing⟩, ⟨.nulNames, "Z", ["null"], .nothing⟩,
    ⟨.nulData, "z", ["null-data"], .nothing⟩,
    ⟨.onlyMatching, "o", ["only-matching"], .nothing⟩, ⟨.quiet, "q", ["quiet"], .nothing⟩,
    ⟨.recursive, "r", ["recursive"], .nothing⟩,
    ⟨.recursiveThroughLinks, "R", ["dereference-recursive"], .nothing⟩,
    ⟨.expression, "e", ["regexp"], .value⟩, ⟨.invert, "v", ["invert-match"], .nothing⟩,
    ⟨.quiet, "", ["silent"], .nothing⟩, ⟨.asText, "a", ["text"], .nothing⟩,
    ⟨.unixOffsets, "u", ["unix-byte-offsets"], .nothing⟩, ⟨.help, "V", ["version"], .nothing⟩,
    ⟨.withNames, "H", ["with-filename"], .nothing⟩, ⟨.words, "w", ["word-regexp"], .nothing⟩,
    ⟨.withoutBinary, "I", [], .nothing⟩, ⟨.matcher, "X", [], .value⟩,
    ⟨.digit, "0123456789", [], .nothing⟩]

/-- An expression, with the file and the line that it comes from. -/
structure Source where
  text : Octets
  file : Option (Octets × Nat)

/-- What was asked for. -/
structure Settings where
  writing : Option Writing
  sources : Option (List Source)
  fold : Bool
  words : Bool
  lines : Bool
  nulData : Bool
  silent : Bool
  invert : Bool
  limit : Option Nat
  offsets : Bool
  numbers : Bool
  names : Option Bool
  label : Octets
  onlyMatching : Bool
  quiet : Bool
  binary : BinaryRule
  directories : DirectoryRule
  followsLinks : Bool
  rules : List Rule
  directoryRules : List Rule
  colors : Bool
  listing : Option Bool
  counts : Bool
  tabs : Bool
  nulNames : Bool
  before : Option Nat
  after : Option Nat
  around : Option Nat
  separator : Option Octets
  /-- Whether only help is wanted. -/
  help : Bool

/-- Nothing was asked for. -/
def Settings.plain : Settings where
  writing := none
  sources := none
  fold := false
  words := false
  lines := false
  nulData := false
  silent := false
  invert := false
  limit := none
  offsets := false
  numbers := false
  names := none
  label := "(standard input)".toList
  onlyMatching := false
  quiet := false
  binary := .tell
  directories := .read
  followsLinks := false
  rules := []
  directoryRules := []
  colors := false
  listing := none
  counts := false
  tabs := false
  nulNames := false
  before := none
  after := none
  around := none
  separator := some ['-', '-']
  help := false

/-- Tells how the tool is called, and ends it. -/
def usage {α : Type} (code : Nat) : Work α := do
  let name := ((Text.split '/' (← read)).getLast?).getD []
  let _ ← write 2 (octets "Usage: " ++ name ++ octets " [OPTION]... PATTERNS [FILE]...\nTry '" ++
    name ++ octets " --help' for more information.\n")
  quit code

/-- The number that digits make, if they are digits. -/
def number? (s : Octets) : Option Nat :=
  if s.isEmpty || !s.all Char.isDigit then none
  else some (s.foldl (fun n c => min (n * 10 + (c.toNat - '0'.toNat)) 1000000000000) 0)

/-- A number of lines around others. -/
def contextOf (s : Octets) : Work Nat :=
  match number? s with
  | some n => pure n
  | none => fail 2 (s ++ octets ": invalid context length argument")

/-- What is done with directories, by its name, which may be cut short. -/
def directoryRule (name : Octets) : Work DirectoryRule :=
  Alternative.choose "--directories"
    [⟨["read"], .read⟩, ⟨["recurse"], .recurse⟩, ⟨["skip"], .skip⟩] (usage 1) name

/-- The lines of a text. A newline at its end begins no line. -/
def linesOf (text : Octets) : List Octets :=
  let lines := Text.split '\n' text
  if lines.getLast? == some [] then lines.dropLast else lines

/-- The lines of a file that an option names. -/
def readLines (path : Octets) : Work (List Octets) := do
  let lines (text : Bytes) : List Octets := linesOf (Text.Octets.ofBytes text)
  if path == ['-'] then
    let (text, _) ← readAll 0
    pure (lines text)
  else
    match ← ask (.open path .reading 0) with
    | .error e => failOf 2 path e
    | .ok d =>
      let (text, e) ← readAll d
      let _ ← ask (.close d)
      match e with
      | some e => failOf 2 path e
      | none => pure (lines text)

/-- The expressions that a file holds, one a line. -/
def readSources (path : Octets) : Work (List Source) := do
  pure (((← readLines path).zipIdx 1).map fun (line, n) => ⟨line, some (path, n)⟩)

/-- The text without characters of a kind at its end. -/
def trimEnd (isEnd : Char → Bool) (s : Octets) : Octets := (s.reverse.dropWhile isEnd).reverse

/-- The name of a directory without the slashes at its end. -/
def withoutSlashes (name : Octets) : Octets :=
  match trimEnd (· = '/') name with
  | [] => name.take 1
  | short => short

/-- Whether colors are asked for. -/
def wantsColors (value : Octets) : Work Bool := do
  let name := String.ofList (value.map Char.toLower)
  if ["always", "yes", "force"].contains name then pure true
  else if ["never", "no", "none", "auto", "tty", "if-tty", ""].contains name then pure false
  else quit 0

/-- Settings with a way of writing expressions. -/
def Settings.write (s : Settings) (w : Writing) : Work Settings := do
  match s.writing with
  | some other =>
    if other != w then fail 2 (octets "conflicting matchers specified") else pure s
  | none => pure { s with writing := some w }

/-- Settings with a wish fulfilled. -/
def Settings.with (s : Settings) (wish : Wish) (value argument : Octets) : Work Settings := do
  match wish with
  | .writing w => s.write w
  | .matcher =>
    match ["grep", "egrep", "fgrep", "perl"].find? (·.toList == value) with
    | some "grep" => s.write .basic
    | some "egrep" => s.write .extended
    | some "fgrep" => s.write .fixed
    | some _ => s.write .perl
    | none => fail 2 (octets "invalid matcher " ++ value)
  | .expression =>
    let more := (Text.split '\n' value).map (⟨·, none⟩)
    pure { s with sources := some (s.sources.getD [] ++ more) }
  | .expressionFile => do
    let more ← readSources value
    pure { s with sources := some (s.sources.getD [] ++ more) }
  | .ignoreCase => pure { s with fold := true }
  | .respectCase => pure { s with fold := false }
  | .words => pure { s with words := true }
  | .lines => pure { s with lines := true }
  | .nulData => pure { s with nulData := true }
  | .silent => pure { s with silent := true }
  | .invert => pure { s with invert := true }
  | .limit =>
    match value with
    | '-' :: digits =>
      if (number? digits).isSome then pure { s with limit := none }
      else fail 2 (octets "invalid max count")
    | value =>
      match number? value with
      | some n => pure { s with limit := some n }
      | none => fail 2 (octets "invalid max count")
  | .offsets => pure { s with offsets := true }
  | .numbers => pure { s with numbers := true }
  | .withNames => pure { s with names := some true }
  | .withoutNames => pure { s with names := some false }
  | .label => pure { s with label := value }
  | .onlyMatching => pure { s with onlyMatching := true }
  | .quiet => pure { s with quiet := true }
  | .binaryFiles =>
    match String.ofList value with
    | "binary" => pure { s with binary := .tell }
    | "text" => pure { s with binary := .asText }
    | "without-match" => pure { s with binary := .never }
    | _ => fail 2 (octets "unknown binary-files type")
  | .asText => pure { s with binary := .asText }
  | .withoutBinary => pure { s with binary := .never }
  | .directories => do
    pure { s with directories := ← directoryRule value }
  | .devices =>
    if value == "read".toList || value == "skip".toList then pure s
    else fail 2 (octets "unknown devices method")
  | .recursive => pure { s with directories := .recurse }
  | .recursiveThroughLinks => pure { s with directories := .recurse, followsLinks := true }
  | .colors => do
    pure { s with colors := ← wantsColors value }
  | .rule includes => pure { s with rules := s.rules ++ [.ofOctets includes value] }
  | .excludedDirectory =>
    let rule := Rule.ofOctets false (withoutSlashes value)
    pure { s with directoryRules := s.directoryRules ++ [rule] }
  | .excludedFrom => do
    let lines := (← readLines value).map (trimEnd fun c => c = ' ' || '\t' ≤ c && c ≤ '\r')
    let rules := (lines.filter (!·.isEmpty)).map (Rule.ofOctets false)
    pure { s with rules := s.rules ++ rules }
  | .listMatching => pure { s with listing := some true }
  | .listOthers => pure { s with listing := some false }
  | .count => pure { s with counts := true }
  | .tabs => pure { s with tabs := true }
  | .nulNames => pure { s with nulNames := true }
  | .before => do pure { s with before := some (← contextOf value) }
  | .after => do pure { s with after := some (← contextOf value) }
  | .context => do pure { s with around := some (← contextOf value) }
  | .digit => pure { s with around := number? (argument.filter Char.isDigit) }
  | .separator => pure { s with separator := some value }
  | .noSeparator => pure { s with separator := none }
  | .unixOffsets => do
    complain (octets "warning: --unix-byte-offsets (-u) is obsolete")
    pure s
  | .nothing => pure s
  | .help => pure { s with help := true }

/-! ### Files -/

/-- What a search has come to. -/
structure Progress where
  /-- Whether a line was selected. -/
  found : Bool
  failed : Bool
  /-- Whether a line was selected or shown. -/
  begun : Bool

/-- A search for lines in files. -/
structure Job where
  settings : Settings
  plan : Plan
  /-- The regular file that is written to. -/
  output : Option FileStatus

namespace Job

/-- Notes an error, and complains of it. -/
def failure (j : Job) (p : Progress) (message : Octets) : Work Progress := do
  unless j.settings.silent do complain message
  pure { p with failed := true }

/-- A name that stands alone on its line. -/
def nameLine (j : Job) (name : Octets) : Octets :=
  j.plan.paint "35" name ++ [j.plan.nameEnd.getD '\n']

/-- The width of numbers where the size of the input is not known. -/
def widthOfUnknown : Nat := 19

/-- Whether a file is passed over. -/
def passesOver (j : Job) (isOperand isDirectory : Bool) (name : Octets) : Bool :=
  if isDirectory then
    j.settings.directories = .skip || Rule.excludes j.settings.directoryRules isOperand name
  else Rule.excludes j.settings.rules isOperand name

/-- Goes through what a descriptor leads to. -/
def scan (j : Job) (heading : Heading) (d : Descriptor) (begun : Bool) :
    Work (Scan × Option IoError) := do
  let plan := j.plan
  let ((s, rest), e) ← forEachPiece d (fun ((s, rest) : Scan × Octets) data => do
    let data := Text.Octets.ofBytes data
    let hasNul := plan.terminator = '\n' && plan.binary != .asText && data.contains '\x00'
    let s := if hasNul then s.noteNul else s
    if s.nulAfter.isSome && plan.binary = .never then
      pure (({ s with selected := 0, done := true }, []), false)
    else
      let data := if s.nulAfter.isSome then data.map fun c => if c = '\x00' then '\n' else c
        else data
      let lines := Text.split plan.terminator (rest ++ data)
      let (s, out) := s.steps plan heading lines.dropLast
      put 2 out
      pure ((s, lines.getLast?.getD []), !s.done)) pieceLimit (Scan.start begun, [])
  if rest.isEmpty || s.done then pure (s, e)
  else
    let (s, out) := s.steps plan heading [rest]
    put 2 out
    pure (s, e)

/-- Goes on behind the last line that was selected, where others read on from the same place. -/
def leave (j : Job) (d : Descriptor) (s : Scan) : Work Unit := do
  if d = 0 && j.plan.limit.any (· ≤ s.selected) then
    let _ ← ask (.seek d s.selectedEnd)

/-- Searches what a descriptor leads to. -/
def search (j : Job) (named isOperand : Bool) (name : Octets) (d : Descriptor) (p : Progress) :
    Work Progress := do
  match ← ask (.statusOf d) with
  | .error e => j.failure p (name ++ octets (": " ++ e.reason))
  | .ok status =>
    if isOperand && j.passesOver true (status.kind = .directory) name then return p
    let feedsItself := (j.plan.shown = .lines || j.plan.shown = .parts) && j.plan.limit != some 1 &&
      j.output.any (·.identity == status.identity)
    if feedsItself then
      return ← j.failure p (name ++ octets ": input file is also the output")
    let width :=
      if !j.plan.tabs then 0
      else if status.kind = .regular then
        (Text.digits (if j.plan.numbers then status.size + 1 else status.size)).length
      else widthOfUnknown
    let heading : Heading := ⟨if named then some name else none, width⟩
    let (s, e) ← j.scan heading d p.begun
    j.leave d s
    let p ← match e with
      | none => pure p
      | some e => j.failure p (name ++ octets (": " ++ e.reason))
    let found : Bool := 0 < s.selected
    if j.settings.quiet && found then quit 0
    if j.plan.shown = .count then
      put 2 ((heading.name.map (j.plan.fileName · ':')).getD [] ++ Text.digits s.selected ++ ['\n'])
    else if j.settings.listing == some found && !j.settings.quiet then
      put 2 (j.nameLine name)
    else if s.tellsBinary j.plan then
      complain (name ++ octets ": binary file matches")
    pure { p with found := p.found || found, begun := s.begun }

/-- The name of a file in a directory. -/
def inside (directory name : Octets) : Octets :=
  if directory.getLast? == some '/' then directory ++ name else directory ++ '/' :: name

/-- Searches a file, which has a name in its directory. `isOperand` tells that it was given as an
operand; `above` are the directories that it is in. -/
def searchFile (j : Job) (named : Bool) : Nat → (isOperand : Bool) → (above : List Identity) →
    (path name : Octets) → Progress → Work Progress
  | 0, _, _, _, _, p => pure p
  | n + 1, isOperand, above, path, name, p => do
    let status := (← ask (.status path (isOperand || j.settings.followsLinks))).toOption
    let kind := status.map (·.kind)
    let isDirectory : Bool := kind == some .directory
    if !isOperand && j.passesOver false isDirectory name then pure p
    else if isDirectory && j.settings.directories = .recurse then
      if isOperand && j.passesOver true true path then return p
      let identities := (status.map (·.identity)).toList
      if identities.any above.contains then
        unless j.settings.silent do complain (path ++ octets ": warning: recursive directory loop")
        return p
      match ← ask (.entries path false) with
      | .error e => j.failure p (path ++ octets (": " ++ e.reason))
      | .ok names =>
        names.foldlM (fun p name =>
          searchFile j (j.settings.names.getD true) n false (identities ++ above)
            (inside path name) name p) p
    else if !isOperand && kind != some .regular && !(j.settings.followsLinks && kind.isNone) then
      pure p
    else
      match ← ask (.open path .reading 0) with
      | .error e => j.failure p (path ++ octets (": " ++ e.reason))
      | .ok d =>
        let p ← j.search named isOperand path d p
        let _ ← ask (.close d)
        pure p

/-- The depth of directories that is reached. -/
def depth : Nat := 4096

/-- Searches an operand. -/
def searchOperand (j : Job) (named : Bool) (p : Progress) (operand : Octets) : Work Progress :=
  if operand == ['-'] then j.search named false j.settings.label 0 p
  else j.searchFile named depth true [] operand operand p

/-- Searches the working directory. -/
def searchHere (j : Job) (p : Progress) : Work Progress := do
  let here := (← ask (.status ['.'] true)).toOption.map (·.identity)
  match ← ask (.entries ['.'] false) with
  | .error e => j.failure p (octets (".: " ++ e.reason))
  | .ok names =>
    names.foldlM (fun p name =>
      j.searchFile (j.settings.names.getD true) depth false here.toList name name p) p

end Job

/-! ### The whole -/

/-- The characters of an expression. -/
def Source.chars (s : Source) : List Char := Text.Utf8.decodeLossy (Text.Octets.toBytes s.text)

/-- What an expression has to be to match whole lines, or words. -/
def Settings.confine (s : Settings) (e : Regex) : Regex :=
  if s.lines then .cat (.anchor .start) (.cat e (.anchor .finish))
  else if s.words then .cat (.anchor .noWordBefore) (.cat e (.anchor .noWordAfter))
  else e

/-- What the expressions take characters to be. -/
def Manner.alphabet (m : Manner) : Alphabet where
  isWord c := CharClass.word.has c
  variants c := [m.letter c]
  alike c d := m.letter c == m.letter d

/-- What the expressions of the richer kind take characters to be. -/
def Settings.richAlphabet (s : Settings) : Alphabet where
  isWord c := c.isAlphanum || c = '_'
  variants c := [c]
  alike c d := if s.fold then (CharClass.counterparts c).contains d else c == d

/-- What tells which lines match, and which parts of them do. -/
structure Query where
  lines : Search
  parts : Search

/-- Reads the one expression of the richer kind. -/
def compileRich (s : Settings) (sources : List Source) : Work Query := do
  match sources with
  | _ :: _ :: _ => fail 2 (octets "the -P option only supports a single pattern")
  | sources =>
    match Perl.read s.fold (sources.flatMap Source.chars) with
    | .ok e =>
      let e := if sources.isEmpty then .never else e
      let search := Search.ofRegex s.richAlphabet false (s.confine e)
      pure ⟨search, search⟩
    | .error refusal => fail 2 (octets refusal.message)

/-- Reads the expressions, and warns of them. -/
def compile (s : Settings) (sources : List Source) : Work Query := do
  let manner : Manner := ⟨s.writing == some .extended, s.fold, true⟩
  let search (expressions : List Regex) : Search :=
    .ofRegex manner.alphabet true (s.confine (expressions.foldr .alt .never))
  match s.writing with
  | some .perl => compileRich s sources
  | some .fixed =>
    let search := search (sources.map fun source => literally manner source.chars)
    pure ⟨search, search⟩
  | _ =>
    let (expressions, good) ← sources.foldlM (fun (expressions, good) source => do
      match Expression.read manner source.chars with
      | .ok e => pure (e :: expressions, good)
      | .error refusal =>
        let place := match source.file with
          | some (file, line) => file ++ octets ":" ++ Text.digits line ++ octets ": "
          | none => []
        complain (place ++ octets refusal.message)
        pure (expressions, false)) (([] : List Expression), true)
    unless good do quit 2
    let expressions := expressions.reverse
    for e in expressions do
      for warning in e.warnings do
        complain (octets ("warning: " ++ warning))
      if e.bare then fail 2 (octets Refusal.bareClass.message)
    let parts := search (expressions.map (·.strict))
    if !s.words && expressions.all (isSimple ·.loose) then
      pure ⟨search (expressions.map (·.loose)), parts⟩
    else pure ⟨parts, parts⟩

/-- The plan of a search. -/
def planOf (s : Settings) (query : Query) : Plan where
  query := query.lines
  partQuery := query.parts
  inverted := s.invert
  limit := s.limit
  before := s.before <|> s.around
  after := s.after <|> s.around
  shown := if s.quiet || s.listing.isSome then .nothing
    else if s.counts then .count
    else if s.onlyMatching then .parts
    else .lines
  oneIsEnough := s.quiet || s.listing.isSome
  numbers := s.numbers
  offsets := s.offsets
  tabs := s.tabs
  nameEnd := if s.nulNames then some '\x00' else none
  separator := s.separator
  colors := s.colors
  terminator := if s.nulData then '\x00' else '\n'
  binary := s.binary

/-- Whether the expressions select no line at all, which is told without a look at any. -/
def Settings.selectsNothing (s : Settings) (sources : List Source) : Bool :=
  if sources.isEmpty then !s.invert
  else s.invert && !s.lines && !s.words && sources.all (·.text.isEmpty)

/-- Searches files. -/
def main (arguments : List Octets) : Work Nat := do
  let given := Given.ofArguments options arguments
  let settings ← given.foldlM (fun s given => do
    match given with
    | .wrong message =>
      complain message
      usage 2
    | .option wish value argument => Settings.with s wish (value.getD []) argument
    | .operand _ => pure s) Settings.plain
  if settings.help then quit 0
  let (sources, operands) ← match settings.sources, given.filterMap Given.operand? with
    | some sources, operands => pure (sources, operands)
    | none, text :: operands =>
      pure ((Text.split '\n' text).map fun line => (⟨line, none⟩ : Source), operands)
    | none, [] => usage 2
  if (settings.limit == some 0 || settings.selectsNothing sources) &&
      settings.listing != some false then quit 1
  let query ← compile settings sources
  let output := (← ask (.statusOf 1)).toOption.filter (·.kind == .regular)
  let job : Job := ⟨settings, planOf settings query, output⟩
  let start : Progress := ⟨false, false, false⟩
  let p ← match operands with
    | [] =>
      if settings.directories = .recurse then job.searchHere start
      else job.searchOperand (settings.names.getD false) start ['-']
    | operands =>
      operands.foldlM (job.searchOperand (settings.names.getD (1 < operands.length))) start
  pure (if p.failed then 2 else if p.found then 0 else 1)

end Assay.Tool.Grep
