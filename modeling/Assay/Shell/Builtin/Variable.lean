import Assay.Files.Tree
import Assay.Shell.Builtin.Option

/-!
# Commands for variables, settings and arguments

`export`, `readonly`, `unset`, `local`, `set`, `shift` and `getopts`.
-/

namespace Assay.Shell.Builtin

open Text (Octets)

open Run

/-- Shows variables by name. -/
def showVariables (leading : Octets) (chosen : Variable → Bool) : Run Nat := do
  let table := (← get).table.filter fun (_, v) => chosen v
  let table := table.mergeSort fun a b => Files.Tree.precedes a.1 b.1
  table.forM fun (name, v) => do
    let value := match v.value with
      | some value => '=' :: quoted value
      | none => []
    let front := if leading.isEmpty then [] else leading ++ [' ']
    say (front ++ name ++ value ++ ['\n'])
  pure 0

/-- Marks variables, and sets those that are given a value. -/
def mark (command : String) (locks : Bool) (arguments : List Octets) : Run Nat := do
  let (given, names) ← options [('p', false)] arguments
  if given.isEmpty && !names.isEmpty then
    names.forM fun text => do
      let name := untilEquals text
      if name.length < text.length then
        setVariable text (some (text.drop (name.length + 1))) (!locks) locks
      else
        match (← get).known? name with
        | some v =>
          modify fun s => s.withVariable name
            (some { v with exported := v.exported || !locks, readOnly := v.readOnly || locks })
        | none => setVariable text none (!locks) locks
    pure 0
  else showVariables (octets command) fun v => if locks then v.readOnly else v.exported

/-- Forgets variables, or functions. -/
def unset (arguments : List Octets) : Run Nat := do
  let (given, names) ← options [('v', false), ('f', false)] arguments
  let functions := (given.getLast?.map (·.1)) == some 'f'
  names.forM fun name =>
    if functions then
      modify fun s => { s with functions := s.functions.filter (·.1 != name) }
    else setVariable name none false false
  pure 0

/-- Makes variables local. -/
def localize (arguments : List Octets) : Run Nat := do
  if (← get).locals.isEmpty then failPlain "not in a function"
  arguments.forM fun text => makeLocal text false
  pure 0

/-! ### Settings -/

/-- Turns a setting on or off. One for a terminal cannot be turned on. -/
def turn (setting : Setting) (isOn : Bool) : Run Unit := do
  if setting = .monitor && isOn then complain (octets "can't access tty; job control turned off")
  else modify fun s => { s with settings := Setting.turn setting isOn s.settings }

/-- Shows the settings: as a table, or as commands that set them again. -/
def showSettings (asCommands : Bool) : Run Unit := do
  let on := (← get).settings
  if !asCommands then say (octets "Current option settings\n")
  Setting.all.forM fun (setting, name, _) => do
    let isOn := on.contains setting
    if asCommands then say (octets ("set " ++ (if isOn then "-o " else "+o ") ++ name ++ "\n"))
    else
      let gap := List.replicate (16 - name.length) ' '
      say (octets name ++ gap ++ octets (if isOn then "on\n" else "off\n"))

/-- Sets the arguments. -/
def setArguments (arguments : List Octets) : Run Unit :=
  modify fun s => { s with parameters := .of arguments }

/-- Turns settings by their letters on or off; gives the arguments that are left, for `o` takes a
name. -/
def turnLetters (isOn : Bool) : Octets → List Octets → Run (List Octets)
  | [], rest => pure rest
  | 'o' :: letters, rest => do
    match rest with
    | [] => showSettings (!isOn)
    | name :: _ =>
      match Setting.ofName? name with
      | some setting => turn setting isOn
      | none => fail (octets "Illegal option -o " ++ name)
    turnLetters isOn letters rest.tail
  | c :: letters, rest => do
    match Setting.ofLetter? c with
    | some setting => turn setting isOn
    | none => fail (octets "Illegal option -" ++ [c])
    turnLetters isOn letters rest

/-- Sets settings, and then arguments. -/
def setFrom : Nat → List Octets → Run Unit
  | 0, _ => pure ()
  | n + 1, arguments => do
    match arguments with
    | [] => pure ()
    | ['-'] :: rest =>
      turn .xtrace false
      turn .verbose false
      unless rest.isEmpty do setArguments rest
    | ['-', '-'] :: rest => setArguments rest
    | ('-' :: letters) :: rest => setFrom n (← turnLetters true letters rest)
    | ('+' :: letters) :: rest => setFrom n (← turnLetters false letters rest)
    | arguments => setArguments arguments

/-- Sets settings and arguments, or shows the variables. -/
def setAll (arguments : List Octets) : Run Nat := do
  if arguments.isEmpty then showVariables [] (·.value.isSome)
  else
    setFrom (arguments.length + 1) arguments
    pure 0

/-! ### Arguments -/

/-- Drops arguments in front. -/
def shift (arguments : List Octets) : Run Nat := do
  let n ← match arguments with
    | [] => pure 1
    | text :: _ => number text
  let before := (← get).parameters.arguments
  if before.length < n then failPlain "can't shift that many"
  setArguments (before.drop n)
  pure 0

/-- Whether an option letter is known, and whether it takes a value. -/
def knownOption? (letters : Octets) (c : Char) : Option Bool :=
  match letters with
  | [] => none
  | d :: rest =>
    if d == c then some (rest.head? == some ':')
    else knownOption? (if rest.head? == some ':' then rest.tail else rest) c
termination_by letters.length
decreasing_by
  split
  · cases rest with
    | nil => simp
    | cons e later => exact Nat.lt_succ_of_le (Nat.le_succ later.length)
  · exact Nat.lt_succ_self rest.length

/-- What `getopts` found: the letter that is told, the letters left of its argument, the number of
the next argument, and whether the options are at an end. -/
structure Progress where
  letter : Char
  left : Option Octets
  next : Nat
  isOver : Bool

/-- Takes the value of an option: what is left of its argument, or the next argument. -/
def optionValue (letters : Octets) (arguments : List Octets) (c : Char) (left : Octets)
    (next : Nat) : Run Progress := do
  let nextArgument := arguments[next - 1]?
  match left, nextArgument with
  | [], none =>
    if letters.head? == some ':' then
      assign (octets "OPTARG") [c]
      pure ⟨':', some [], next, false⟩
    else
      let _ ← emit 2 (octets "No arg for -" ++ c :: octets " option\n")
      setVariable (octets "OPTARG") none false false
      pure ⟨'?', some [], next, false⟩
  | [], some value =>
    assign (octets "OPTARG") value
    pure ⟨c, none, next + 1, false⟩
  | left, _ =>
    assign (octets "OPTARG") left
    pure ⟨c, none, next, false⟩

/-- Takes the next letter of an argument. -/
def optionLetter (letters : Octets) (arguments : List Octets) (s : Octets) (next : Nat) :
    Run Progress := do
  match s with
  | [] => pure ⟨'?', none, next, true⟩
  | c :: left =>
    match knownOption? letters c with
    | none =>
      if letters.head? == some ':' then assign (octets "OPTARG") [c]
      else
        let _ ← emit 2 (octets "Illegal option -" ++ [c, '\n'])
        setVariable (octets "OPTARG") none false false
      pure ⟨'?', some left, next, false⟩
    | some false =>
      assign (octets "OPTARG") []
      pure ⟨c, some left, next, false⟩
    | some true => optionValue letters arguments c left next

/-- Finds the next option among arguments. -/
def nextOption (letters : Octets) (arguments : List Octets) : Run Progress := do
  let p := (← get).parameters
  let index := p.optionIndex.toNat
  let left : Octets :=
    match p.optionOffset with
    | none => []
    | some offset =>
      if index ≤ 1 then [] else ((arguments[index - 2]?).getD []).drop offset
  match left with
  | _ :: _ => optionLetter letters arguments left index
  | [] =>
    match arguments[index - 1]? with
    | some ['-', '-'] => pure ⟨'?', none, index + 1, true⟩
    | some ('-' :: c :: rest) => optionLetter letters arguments (c :: rest) (index + 1)
    | _ => pure ⟨'?', none, index, true⟩

/-- Finds the next option, and tells it by variables. -/
def getOption (arguments : List Octets) : Run Nat := do
  match ← operands arguments with
  | letters :: name :: given =>
    let own := (← get).parameters
    let arguments := if given.isEmpty then own.arguments else given
    if own.optionIndex < 0 || arguments.length + 1 < own.optionIndex then
      modify fun s => { s with
        parameters := { s.parameters with optionIndex := 1, optionOffset := none } }
    let p ← nextOption letters arguments
    modify fun s => s.withVariable (octets "OPTIND") <|
      some { (s.known? (octets "OPTIND")).getD (.own []) with value := some (Text.digits p.next) }
    assign name [p.letter]
    let spelled := ((arguments[p.next - 2]?).getD []).length
    modify fun s => { s with
      parameters := { s.parameters with
        optionIndex := p.next
        optionOffset := p.left.map fun left => spelled - left.length } }
    pure (if p.isOver then 1 else 0)
  | _ => failPlain "Usage: getopts optstring var [arg...]"

end Assay.Shell.Builtin
