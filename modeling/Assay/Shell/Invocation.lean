import Assay.Shell.Evaluation

/-!
# Starting a shell

A shell is started with options, then with a text to carry out (after `-c`), the name of a file, or
nothing, in which case its commands come from the standard input. What follows are the arguments of
the script; after a text the first of them is the shell's name.
-/

namespace Assay.Shell

open Kernel (Binding Request Task)
open Text (Octets)

open Run

/-- Where commands come from, as the options tell. -/
structure Origin where
  hasText : Bool
  fromInput : Bool

/-- Takes the letters of an option. -/
def startLetters (isOn : Bool) : Octets → List Octets → Origin → Run (List Octets × Origin)
  | [], rest, origin => pure (rest, origin)
  | 'c' :: letters, rest, origin => startLetters isOn letters rest { origin with hasText := true }
  | 'l' :: letters, rest, origin => startLetters isOn letters rest origin
  | 'o' :: letters, rest, origin => do
    let rest ← Builtin.turnLetters isOn ['o'] rest
    startLetters isOn letters rest origin
  | c :: letters, rest, origin => do
    match Setting.ofLetter? c with
    | none => fail (octets "Illegal option -" ++ [c])
    | some setting =>
      modify fun s => { s with settings := Setting.turn setting isOn s.settings }
      startLetters isOn letters rest
        (if setting = .stdin then { origin with fromInput := isOn } else origin)

/-- Takes the options, and gives the arguments after them. -/
def startOptions : Nat → List Octets → Origin → Run (List Octets × Origin)
  | 0, rest, origin => pure (rest, origin)
  | n + 1, arguments, origin => do
    match arguments with
    | ['-'] :: rest | ['-', '-'] :: rest => pure (rest, origin)
    | ('-' :: letters) :: rest => do
      let (rest, origin) ← startLetters true letters rest origin
      startOptions n rest origin
    | ('+' :: letters) :: rest => do
      let (rest, origin) ← startLetters false letters rest origin
      startOptions n rest origin
    | arguments => pure (arguments, origin)

/-- The contents of a script. -/
def readScript (path : Octets) : Run Octets := do
  match ← ask (.open path .reading 0) with
  | .error e => failOpen false path e
  | .ok d =>
    let text ← readAll d
    let _ ← ask (.close d)
    pure text

/-- Carries out what the shell is started for. -/
def start (arguments : List Octets) : Run Unit := do
  let directory ← ask .workingDirectory
  let physical ← match (← get).value? (octets "PWD") with
    | some named =>
      if named.head? != some '/' then pure directory
      else
        let a ← ask (.status named true)
        let b ← ask (.status ['.'] true)
        match a, b with
        | .ok a, .ok b => pure (if a.identity == b.identity then named else directory)
        | _, _ => pure directory
    | none => pure directory
  Builtin.noteDirectory physical false
  let (rest, origin) ← startOptions (arguments.length + 1) arguments ⟨false, false⟩
  if origin.hasText && rest.isEmpty then failPlain "-c requires an argument"
  let reads := origin.fromInput || (!origin.hasText && rest.isEmpty)
  if reads then
    modify fun s => { s with settings := Setting.turn .stdin true s.settings }
  let named (rest : List Octets) : Run Unit := modify fun s => { s with
    name := rest.head?.getD s.name, parameters := .of rest.tail }
  let script ← match origin.hasText, rest with
    | true, _ :: rest => do
      named rest
      pure []
    | false, path :: others =>
      if reads then
        modify fun s => { s with parameters := .of (path :: others) }
        pure []
      else
        let text ← readScript path
        named rest
        pure text
    | _, [] => pure []
  if origin.hasText then
    let _ ← runText carryDepth .plain (rest.head?.getD [])
  let script ← if reads then readAll 0 else pure script
  if reads || !origin.hasText then
    let _ ← runFile carryDepth script

/-- The variables of a shell. -/
def ownVariables (parent : Nat) : List (Octets × Variable) :=
  [(octets "IFS", .own Interpreter.usualSeparators), (octets "MAIL", ⟨none, false, false, true⟩),
    (octets "MAILPATH", ⟨none, false, false, true⟩), (octets "PATH", .own usualPath),
    (octets "PS1", .own (octets "# ")), (octets "PS2", .own (octets "> ")),
    (octets "PS4", .own (octets "+ ")), (octets "OPTIND", .own ['1']),
    (octets "PPID", ⟨some (Text.digits parent), false, false, false⟩)]

/-- The variables that come from outside. Those of the shell's own that a shell sets anew are not
among them. -/
def givenVariables (environment : List Binding) : List (Octets × Variable) :=
  environment.filterMap fun (name, value) =>
    if isName name && !(["IFS", "OPTIND", "PPID"].any (·.toList == name)) then
      some (name, ⟨some value, true, false, false⟩)
    else none

/-- A shell before it does anything. -/
def newborn (name : Octets) (environment : List Binding) (id parent : Nat) : Interpreter :=
  let own := ownVariables parent
  let given := givenVariables environment
  let lasting (name : Octets) : Bool := own.any (·.1 == name)
  let table := given.map (fun (name, v) => (name, { v with lasting := lasting name })) ++
    own.filter fun (name, _) => !given.any (·.1 == name)
  { name, table, functions := [], aliases := [], settings := [], parameters := .of []
    command := none, line := 0, readLine := 1, status := 0, outputStatus := 0, savedStatus := none
    skip := none, skipCount := 0, loops := 0, locals := [], saved := [], traps := [], pending := []
    jobs := [], lastJob := none, rootId := id, directory := [], found := [], traceTo := 2
    tracing := false, documents := #[], written := [], isCopy := false }

/-- The task of a shell. -/
def task (arguments : List Octets) (environment : List Binding) : Task :=
  .call .ownId fun id => .call .parentId fun parent =>
    let whole : Run Unit := do
      let result ← attempt (start arguments.tail)
      endShell carryDepth result
    whole (newborn (arguments.head?.getD (octets "sh")) environment id parent) fun _ => .exit 0

end Assay.Shell
