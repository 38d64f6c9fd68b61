import Assay.Shell.Builtin.Option

/-!
# Commands for directories and permissions

`cd` and `pwd`, and `umask`. The shell keeps the name of its directory as it was reached, links
included; `-P` asks for the one without links.
-/

namespace Assay.Shell.Builtin

open Kernel (Request)
open Text (Octets)

open Run

/-- The name that a directory gets when a path is followed by name alone: `..` takes the last piece
away. -/
def followed (directory path : Octets) : Octets :=
  let start := if path.head? == some '/' then [] else Text.split '/' directory
  let start := start.filter (!·.isEmpty)
  let pieces := (Text.split '/' path).foldl (fun (sofar : List Octets) piece =>
    if piece == ['.', '.'] then sofar.dropLast
    else if piece.isEmpty || piece == ['.'] then sofar
    else sofar ++ [piece]) start
  let mark := match path with
    | '/' :: '/' :: c :: _ => if c == '/' then ['/'] else ['/', '/']
    | ['/', '/'] => ['/', '/']
    | _ => ['/']
  mark ++ Text.join '/' pieces

/-- Whether the options of `cd` and `pwd` ask for the name without links. -/
def wantsPhysical (given : List Given) : Bool := (given.getLast?.map (·.1)) == some 'P'

/-- Takes a directory as the one that is worked in. -/
def noteDirectory (directory : Octets) (keepsOld : Bool) : Run Unit := do
  if keepsOld then
    setVariable (octets "OLDPWD") (some (← get).directory) true false
  modify fun s => { s with
    directory
    found := s.found.map fun (name, f) => (name, { f with stale := true }) }
  setVariable (octets "PWD") (some directory) true false

/-- Changes the directory, and tells whether that went well. -/
def changeTo (physical : Bool) (path : Octets) : Run Bool := do
  let named := followed (← get).directory path
  let target := if physical then path else named
  if !(← ask (.changeDirectory target)).isOk then return false
  let reached ← ask .workingDirectory
  noteDirectory (if physical then reached else named) true
  pure true

/-- Whether the search path of `cd` is not used for a path: it is absolute, or begins with `.` or
`..`. -/
def isAnchored (path : Octets) : Bool :=
  path.head? == some '/' || (path.takeWhile (· != '/') == ['.']) ||
    (path.takeWhile (· != '/') == ['.', '.'])

/-- Changes the directory. -/
def changeDirectory (arguments : List Octets) : Run Nat := do
  let (given, operands) ← options [('L', false), ('P', false)] arguments
  let physical := wantsPhysical given
  let s ← get
  let back := operands.head? == some ['-']
  let path := match operands with
    | [] => (s.value? (octets "HOME")).getD []
    | path :: _ => if back then (s.value? (octets "OLDPWD")).getD [] else path
  let candidates : List (Octets × Bool) :=
    if isAnchored path then []
    else
      let path := if path.isEmpty then ['.'] else path
      match s.value? (octets "CDPATH") with
      | none => []
      | some dirs => (Text.split ':' dirs).map fun dir =>
        (if dir.isEmpty then path else dir ++ '/' :: path, !dir.isEmpty)
  let found ← candidates.findM? fun (candidate, _) => do
    match ← ask (.status candidate true) with
    | .ok status => pure (status.kind == .directory)
    | .error _ => pure false
  let (target, shows) := found.getD (path, false)
  if !(← changeTo physical target) then fail (octets "can't cd to " ++ path)
  if back || shows then say ((← get).directory ++ ['\n'])
  pure 0

/-- Shows the directory. -/
def printDirectory (arguments : List Octets) : Run Nat := do
  let (given, _) ← options [('L', false), ('P', false)] arguments
  let reached ← ask .workingDirectory
  let named := (← get).directory
  say ((if wantsPhysical given then reached else named) ++ ['\n'])
  pure 0

/-! ### Permissions -/

/-- A number in octal digits, at least so many of them. -/
def octal (width n : Nat) : Octets :=
  let digits := Nat.toDigits 8 n
  List.replicate (width - digits.length) '0' ++ digits

/-- The letters of three permissions. -/
def permissionLetters (n : Nat) : Octets :=
  (if n &&& 4 != 0 then ['r'] else []) ++ (if n &&& 2 != 0 then ['w'] else []) ++
    (if n &&& 1 != 0 then ['x'] else [])

/-- The permissions that letters name, given those there are. -/
def lettersValue (all : Nat) (letters : Octets) : Nat :=
  letters.foldl (fun n c => n ||| match c with
    | 'r' => 4
    | 'w' => 2
    | 'x' => 1
    | 'u' => all >>> 6
    | 'g' => all >>> 3
    | 'o' => all
    | 'X' => if all &&& 0o111 != 0 then 1 else 0
    | _ => 0) 0 &&& 7

/-- The permissions after clauses such as `u=rw,g-w`; `none` if they are no such clauses. -/
def symbolic? (all : Nat) : Nat → (sofar : Nat) → (who : Nat) → Octets → Option Nat
  | 0, _, _, _ => none
  | n + 1, sofar, who, s =>
    let named := s.takeWhile "augo".toList.contains
    let who := named.foldl (fun who c => who ||| match c with
      | 'a' => 0o111
      | 'u' => 0o100
      | 'g' => 0o010
      | _ => 0o001) who
    let who := if who = 0 then 0o111 else who
    match s.drop named.length with
    | [] => some sofar
    | op :: rest =>
      if !"=+-".toList.contains op then none
      else
        let letters := rest.takeWhile "rwxugoXs".toList.contains
        let value := lettersValue all letters * who
        let sofar := match op with
          | '-' => sofar - (sofar &&& value)
          | '+' => sofar ||| value
          | _ => (sofar - (sofar &&& (who * 7))) ||| value
        match rest.drop letters.length with
        | [] => some sofar
        | ',' :: rest => if rest.isEmpty then some sofar else symbolic? all n sofar 0 rest
        | c :: rest =>
          if "=+-".toList.contains c then symbolic? all n sofar who (c :: rest) else none

/-- Shows or sets the permissions that new files do not get. -/
def maskPermissions (arguments : List Octets) : Run Nat := do
  let (given, operands) ← options [('S', false)] arguments
  let mask ← ask (.setMask 0)
  let _ ← ask (.setMask mask)
  let all := 0o777 - (mask &&& 0o777)
  match operands with
  | [] =>
    if given.isEmpty then say (octal 4 mask ++ ['\n'])
    else
      say (octets "u=" ++ permissionLetters (all >>> 6) ++ octets ",g=" ++
        permissionLetters (all >>> 3) ++ octets ",o=" ++ permissionLetters all ++ ['\n'])
    pure 0
  | text :: _ =>
    if text.head?.any Char.isDigit then
      if !text.all (Numeral.isDigitIn 8) then failNumber text
      let _ ← ask (.setMask (Numeral.ofDigits 8 text % 0o1000))
    else
      match symbolic? all (text.length + 1) all 0 text with
      | none => fail (octets "Illegal mode: " ++ text)
      | some all =>
        let _ ← ask (.setMask (0o777 - all))
    pure 0

end Assay.Shell.Builtin
