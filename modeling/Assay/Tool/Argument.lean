import Assay.Text.Octets

/-!
# Arguments of tools

An argument that begins with `-` holds options: letters that may stand together, or after `--` one
name, which may be cut short as long as it stands for one option only. An option may take a value:
the rest of its argument, or the next argument. Options and operands may be mixed; after `--` alone
there are operands only, and `-` alone is one.

`Given.ofArguments` reads arguments up to the first mistake.
-/

namespace Assay.Tool

open Text (Octets)

/-- Whether an option takes a value. -/
inductive Takes where
  | nothing
  | value
  /-- A value that stands in the same argument, if there is one. -/
  | perhaps
deriving DecidableEq, Repr

/-- An option of a tool. It may have several letters and several names. -/
structure Choice (α : Type) where
  meaning : α
  letters : String
  names : List String
  takes : Takes

/-- What was given. -/
inductive Given (α : Type) where
  /-- An option, and the argument in which it stood. -/
  | option (meaning : α) (value : Option Octets) (argument : Octets)
  | operand (text : Octets)
  /-- A mistake. -/
  | wrong (message : Octets)

namespace Choice

variable {α : Type} [DecidableEq α]

/-- The option of a letter. -/
def ofLetter? (choices : List (Choice α)) (c : Char) : Option (Choice α) :=
  choices.find? (·.letters.toList.contains c)

/-- All names of options. -/
def named (choices : List (Choice α)) : List (String × Choice α) :=
  choices.flatMap fun c => c.names.map (·, c)

/-- The option of a name, which may be cut short, and its full name. `text` is all that stands after
`--`. -/
def ofName (choices : List (Choice α)) (name text : Octets) : Except Octets (String × Choice α) :=
  let all := named choices
  match all.find? (·.1.toList == name) with
  | some found => .ok found
  | none =>
    match all.filter (name.isPrefixOf ·.1.toList) with
    | [] => .error ("unrecognized option '--".toList ++ text ++ ['\''])
    | first :: others =>
      let conflicting := others.filter fun other =>
        other.2.meaning != first.2.meaning || other.2.takes != first.2.takes
      if conflicting.isEmpty then .ok first
      else
        .error ("option '--".toList ++ text ++ "' is ambiguous; possibilities:".toList ++
          (first :: conflicting).flatMap fun (name, _) => " '--".toList ++ name.toList ++ ['\''])

end Choice

namespace Given

variable {α : Type} [DecidableEq α]

/-- Reads letters that stand together, and gives the arguments that are left. -/
def ofLetters (choices : List (Choice α)) (argument : Octets) :
    Octets → List Octets → List (Given α) × List Octets
  | [], rest => ([], rest)
  | c :: letters, rest =>
    match Choice.ofLetter? choices c with
    | none => ([.wrong ("invalid option -- '".toList ++ [c, '\''])], [])
    | some choice =>
      match choice.takes with
      | .nothing =>
        let (given, rest) := ofLetters choices argument letters rest
        (.option choice.meaning none argument :: given, rest)
      | .perhaps =>
        ([.option choice.meaning (if letters.isEmpty then none else some letters) argument], rest)
      | .value =>
        match letters, rest with
        | _ :: _, rest => ([.option choice.meaning (some letters) argument], rest)
        | [], value :: rest => ([.option choice.meaning (some value) argument], rest)
        | [], [] => ([.wrong ("option requires an argument -- '".toList ++ [c, '\''])], [])

/-- Reads a name, and gives the arguments that are left. -/
def ofName (choices : List (Choice α)) (text : Octets) (rest : List Octets) :
    Given α × List Octets :=
  let name := text.takeWhile (· != '=')
  let value := (text.drop name.length).tail?
  match Choice.ofName choices name text with
  | .error message => (.wrong message, [])
  | .ok (full, choice) =>
    let argument := '-' :: '-' :: text
    match choice.takes, value, rest with
    | .nothing, some _, _ =>
      (.wrong ("option '--".toList ++ full.toList ++ "' doesn't allow an argument".toList), [])
    | .value, none, value :: rest => (.option choice.meaning (some value) argument, rest)
    | .value, none, [] =>
      (.wrong ("option '--".toList ++ full.toList ++ "' requires an argument".toList), [])
    | _, value, rest => (.option choice.meaning value argument, rest)

/-- Reads at most so many arguments. -/
def read (choices : List (Choice α)) : Nat → List Octets → List (Given α)
  | 0, _ => []
  | _, [] => []
  | n + 1, argument :: rest =>
    match argument with
    | ['-', '-'] => rest.map operand
    | '-' :: '-' :: text =>
      let (given, rest) := ofName choices text rest
      given :: read choices n rest
    | '-' :: c :: letters =>
      let (given, rest) := ofLetters choices argument (c :: letters) rest
      given ++ read choices n rest
    | text => operand text :: read choices n rest

/-- Reads arguments. -/
def ofArguments (choices : List (Choice α)) (arguments : List Octets) : List (Given α) :=
  read choices arguments.length arguments

/-- The operand, if it is one. -/
def operand? : Given α → Option Octets
  | operand text => some text
  | _ => none

end Given

end Assay.Tool
