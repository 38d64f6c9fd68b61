import Assay.Kernel.Request
import Assay.Tool.Mode
import Assay.Tool.Work

/-!
# Setting permissions

`chmod` changes the permissions of files, and of everything below directories where it is asked to.
A change that begins with `-` looks like an option; then it is told where the permissions that new
files do not get have kept something from being taken away.
-/

namespace Assay.Tool.Chmod

open Kernel (FileStatus)
open Text (Octets)

open Work

/-- What is told of files. -/
inductive Telling where
  | nothing
  | changes
  | everything
deriving DecidableEq, Repr

/-- What an option asks for. -/
inductive Wish where
  | recursive
  | changes
  | silent
  | verbose
  | reference
  /-- The option is a change itself. -/
  | change
  | nothing
  | help
deriving DecidableEq, Repr

/-- The options. -/
def choices : List (Choice Wish) :=
  [⟨.changes, "c", ["changes"], .nothing⟩, ⟨.recursive, "R", ["recursive"], .nothing⟩,
    ⟨.nothing, "", ["no-preserve-root", "preserve-root"], .nothing⟩,
    ⟨.silent, "f", ["quiet"], .nothing⟩, ⟨.reference, "", ["reference"], .value⟩,
    ⟨.silent, "", ["silent"], .nothing⟩, ⟨.verbose, "v", ["verbose"], .nothing⟩,
    ⟨.help, "", ["help", "version"], .nothing⟩, ⟨.change, "rwxXstugoa,+=01234567", [], .perhaps⟩]

/-- What is to be done. -/
structure Plan where
  change : ModeChange
  mask : Nat
  recursive : Bool
  silent : Bool
  telling : Telling
  /-- Whether it is told what was kept from being taken away. -/
  warns : Bool

namespace Plan

/-- Complains, unless nothing is to be said. -/
def complain (plan : Plan) (message : Octets) : Work Unit := do
  unless plan.silent do Work.complain message

/-- Tells of a file that was changed, or was not. -/
def tell (plan : Plan) (path : Octets) (old new : Nat) : Work Unit := do
  let shown (mode : Nat) : Octets :=
    ModeChange.digits mode ++ octets " (" ++ ModeChange.spelled mode ++ [')']
  let name := Name.quoted path
  if old != new && plan.telling != .nothing then
    put 1 (octets "mode of " ++ name ++ octets " changed from " ++ shown old ++ octets " to " ++
      shown new ++ ['\n'])
  else if plan.telling = .everything then
    put 1 (octets "mode of " ++ name ++ octets " retained as " ++ shown new ++ ['\n'])

/-- Changes one file; whether all went well. -/
def setOne (plan : Plan) (path : Octets) (status : FileStatus) : Work Bool := do
  let isDirectory := status.kind = .directory
  let old := status.mode
  let new := plan.change.apply isDirectory plan.mask old
  match ← ask (.setMode path new) with
  | .error e =>
    plan.complain (octets "changing permissions of " ++ Name.quoted path ++
      octets (": " ++ e.reason))
    pure false
  | .ok () =>
    plan.tell path old new
    let naive := plan.change.apply isDirectory 0 old
    if plan.warns && new &&& ModeChange.without naive != 0 then
      Work.complain (Name.plain path ++ octets ": new permissions are " ++
        ModeChange.spelled new ++ octets ", not " ++ ModeChange.spelled naive)
      pure false
    else pure true

/-- Changes what stands at a path, and what stands below it; whether all went well. -/
def setBelow (plan : Plan) : Nat → Octets → FileStatus → Work Bool
  | 0, _, _ => pure false
  | n + 1, path, status => do
    let done ← plan.setOne path status
    if !plan.recursive || status.kind != .directory then pure done
    else
      match ← ask (.entries path false) with
      | .error e =>
        plan.complain (octets "cannot read directory " ++ Name.quoted path ++
          octets (": " ++ e.reason))
        pure false
      | .ok names =>
        names.foldlM (fun good name => do
          let inner := if path.getLast? == some '/' then path ++ name else path ++ '/' :: name
          match ← ask (.status inner false) with
          | .error _ => pure false
          | .ok status =>
            if status.kind = .link then pure good
            else
              let done ← setBelow plan n inner status
              pure (good && done)) done

/-- The depth of directories that is reached. -/
def depth : Nat := 4096

/-- Changes an operand; whether all went well. -/
def setOperand (plan : Plan) (path : Octets) : Work Bool := do
  match ← ask (.status path true) with
  | .ok status => setBelow plan depth path status
  | .error e =>
    match e == .noEntry, ← ask (.status path false) with
    | true, .ok _ =>
      plan.complain (octets "cannot operate on dangling symlink " ++ Name.quoted path)
    | _, _ =>
      plan.complain (octets "cannot access " ++ Name.quoted path ++ octets (": " ++ e.reason))
    if plan.telling = .everything then
      put 1 (Name.quoted path ++ octets " could not be accessed\n")
    pure false

end Plan

/-- The change that makes the permissions of another file. -/
def changeLike (path : Octets) : Work ModeChange := do
  match ← ask (.status path true) with
  | .ok status => pure (ModeChange.exact status.mode true)
  | .error e => failOf 1 (octets "failed to get attributes of " ++ Name.quoted path) e

/-- Sets permissions. -/
def main (arguments : List Octets) : Work Nat := do
  let given := Given.ofArguments choices arguments
  let (wishes, operands, changes, reference) ← given.foldrM (fun given
      ((wishes, operands, changes, reference) :
        List Wish × List Octets × List Octets × Option Octets) => do
    match given with
    | .wrong message => misuse message
    | .option .help _ _ => quit 0
    | .option .change _ argument => pure (wishes, operands, argument :: changes, reference)
    | .option .reference value _ => pure (wishes, operands, changes, reference <|> value)
    | .option wish _ _ => pure (wish :: wishes, operands, changes, reference)
    | .operand text => pure (wishes, text :: operands, changes, reference))
    ([], [], [], none)
  let optional := Text.join ',' changes
  if reference.isSome && !changes.isEmpty then
    misuse (octets "cannot combine mode and --reference options")
  let (text, operands) := match reference, changes, operands with
    | none, [], text :: operands => (some text, operands)
    | none, [], [] => (none, [])
    | _, _, operands => (some optional, operands)
  if operands.isEmpty then
    match text, reference, changes with
    | some text, none, [] => misuse (octets "missing operand after " ++ Name.curved text)
    | _, _, _ => misuse (octets "missing operand")
  let change ← match reference, text.bind ModeChange.ofText? with
    | some path, _ => changeLike path
    | none, some change => pure change
    | none, none => misuse (octets "invalid mode: " ++ Name.curved (text.getD []))
  let mask ← if reference.isSome then pure 0 else ask (.setMask 0)
  let telling := (wishes.filterMap fun
    | .changes => some .changes
    | .verbose => some .everything
    | _ => none).getLast?.getD Telling.nothing
  let plan : Plan :=
    ⟨change, mask, wishes.contains .recursive, wishes.contains .silent, telling,
      !changes.isEmpty⟩
  let good ← operands.foldlM (fun good path => do
    let done ← plan.setOperand path
    pure (good && done)) true
  pure (if good then 0 else 1)

end Assay.Tool.Chmod
