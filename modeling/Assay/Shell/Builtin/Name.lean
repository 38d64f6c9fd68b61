import Assay.Shell.Builtin.Option
import Assay.Shell.Search

/-!
# Commands about names

`alias` and `unalias`, `hash`, `type` and the part of `command` that tells what a name stands for.
-/

namespace Assay.Shell.Builtin

open Text (Octets)

open Run

/-! ### Aliases -/

/-- The size of the table by which aliases are listed. -/
def aliasTable : Nat := 39

/-- Shows an alias. -/
def showAlias (name value : Octets) : Run Unit := say (name ++ '=' :: quoted value ++ ['\n'])

/-- Sets or shows one alias, and tells whether that went well. -/
def aliasOne (text : Octets) : Run Bool := do
  let name := text.take 1 ++ (text.drop 1).takeWhile (· != '=')
  let s ← get
  if name.length < text.length then
    let value := text.drop (name.length + 1)
    let aliases := if s.aliases.any (·.1 == name) then
        s.aliases.map fun (n, v) => if n == name then (n, value) else (n, v)
      else s.aliases ++ [(name, value)]
    set { s with aliases }
    pure true
  else
    match s.aliases.find? (·.1 == name) with
    | some (_, value) =>
      showAlias name value
      pure true
    | none =>
      let _ ← emit 2 (octets "alias: " ++ name ++ octets " not found\n")
      pure false

/-- Sets or shows aliases. -/
def setAliases (arguments : List Octets) : Run Nat := do
  if arguments.isEmpty then
    (listed aliasTable Prod.fst (← get).aliases).forM fun (name, value) => showAlias name value
    pure 0
  else
    let results ← arguments.mapM aliasOne
    pure (if results.all (·) then 0 else 1)

/-- Forgets aliases. -/
def unalias (arguments : List Octets) : Run Nat := do
  let (given, names) ← options [('a', false)] arguments
  if has given 'a' then
    modify fun s => { s with aliases := [] }
    pure 0
  else
    names.foldlM (fun status name => do
      let s ← get
      if s.aliases.any (·.1 == name) then
        set { s with aliases := s.aliases.filter (·.1 != name) }
        pure status
      else
        let _ ← emit 2 (octets "unalias: " ++ name ++ octets " not found\n")
        pure 1) 0

/-! ### Programs that were found -/

/-- The size of the table by which programs that were found are listed. -/
def foundTable : Nat := 31

/-- The path of a program at a place of a search path. -/
def pathAt (path : Octets) (index : Nat) (name : Octets) : Octets :=
  pathIn (((Text.split ':' path)[index]?).getD []) name

/-- Shows where programs were found, or looks for programs. -/
def hash (arguments : List Octets) : Run Nat := do
  let (given, names) ← options [('r', false)] arguments
  if has given 'r' then
    modify fun s => { s with found := [] }
    pure 0
  else if names.isEmpty then
    let s ← get
    (listed foundTable Prod.fst s.found).forM fun (name, f) =>
      say (pathAt s.searchPath f.index name ++ (if f.stale then ['*'] else []) ++ ['\n'])
    pure 0
  else
    names.foldlM (fun status name => do
      modify fun s => { s with found := s.found.filter (·.1 != name) }
      match ← locate ⟨true, true, true, false⟩ (← get).searchPath name with
      | .nothing => pure 1
      | _ => pure status) 0

/-! ### Descriptions -/

/-- Tells what a name stands for, in words or by what can be called. -/
def describe (path : Option Octets) (inWords : Bool) (name : Octets) : Run Nat := do
  let s ← get
  let shown (words brief : Octets) : Run Nat := do
    say ((if inWords then name ++ words else brief) ++ ['\n'])
    pure 0
  if Token.reserved.any (·.1.toList == name) then return ← shown (octets " is a shell keyword") name
  match s.aliases.find? (·.1 == name) with
  | some (_, value) =>
    shown (octets " is an alias for " ++ value)
      (octets "alias " ++ name ++ '=' :: quoted value)
  | none =>
    let used := path.getD s.searchPath
    let tracked := path.isNone && s.found.any (·.1 == name)
    let known ← match if tracked then s.found.find? (·.1 == name) else none with
      | some (_, f) => pure (.program (some f.index))
      | none => locate ⟨path.isNone, true, false, true⟩ used name
    match known with
    | .program index =>
      let found := (index.map (pathAt used · name)).getD name
      shown (octets (if tracked then " is a tracked alias for " else " is ") ++ found) found
    | .function _ => shown (octets " is a shell function") name
    | .own command =>
      let kind := if command.special then "special " else ""
      shown (octets (" is a " ++ kind ++ "shell builtin")) name
    | .nothing =>
      if inWords then say (name ++ octets ": not found\n")
      pure 127

/-- Tells in words what names stand for. -/
def type (arguments : List Octets) : Run Nat := do
  (← operands arguments).foldlM (fun status name => do
    let found ← describe none true name
    pure (status ||| found)) 0

/-- Tells what a name stands for, if that is asked for. -/
def commandName (arguments : List Octets) : Run Nat := do
  let (given, names) ← options [('p', false), ('v', false), ('V', false)] arguments
  let path := if has given 'p' then some usualPath else none
  match names with
  | [] => pure 0
  | name :: _ =>
    if has given 'V' || has given 'v' then
      describe path (has given 'V') name
    else pure 0

end Assay.Shell.Builtin
