import Assay.Shell.Expansion

/-!
# Redirections

Before a command is carried out its descriptors are changed, in the order in which the changes are
written. Where the command is part of the shell, every descriptor that is changed is saved first,
and led back afterwards.
-/

namespace Assay.Shell

open Kernel (Descriptor Request Opening)
open Text (Octets)

open Run

/-- A change of one descriptor, its words filled. -/
inductive Change where
  | opens (d : Descriptor) (path : Octets) (how : Opening)
  /-- Opens a file for writing, which must not lose anything where that is forbidden. -/
  | writes (d : Descriptor) (path : Octets)
  | duplicates (d source : Descriptor)
  | closes (d : Descriptor)
  | document (d : Descriptor) (number : Nat)

namespace Change

/-- The descriptor that is changed. -/
def descriptor : Change → Descriptor
  | opens d _ _ | writes d _ | duplicates d _ | closes d | document d _ => d

end Change

/-- The reason of an error, as messages tell it; `creates` tells that a file should be made. -/
def reasonOf (creates : Bool) (missing : String) (e : IoError) : String :=
  if e == .noEntry || e == .notDirectory then
    if creates then "Directory nonexistent" else missing
  else e.reason

/-- Ends because a file could not be opened. -/
def failOpen {α : Type} (creates : Bool) (path : Octets) (e : IoError) : Run α :=
  fail (octets (if creates then "cannot create " else "cannot open ") ++ path ++ octets ": " ++
    octets (reasonOf creates "No such file" e))

/-- Opens a file. -/
def openFor (path : Octets) (how : Opening) : Run Descriptor := do
  match ← ask (.open path how 0o666) with
  | .ok d => pure d
  | .error e => failOpen how.creates path e

/-- Opens a file for writing. Where nothing may be lost, it must not be a file with contents. -/
def openToWrite (path : Octets) : Run Descriptor := do
  if !(← isOn .noclobber) then return ← openFor path .writing
  match ← ask (.status path true) with
  | .error _ => openFor path .creating
  | .ok status =>
    if status.kind == .regular then failOpen true path .alreadyThere
    else openFor path ⟨false, true, false, false, false, false⟩

/-- Fills the words of redirections. -/
def fillChanges (output : Option Command → Run Octets) (rs : List Redirection) :
    Run (List Change) :=
  rs.mapM fun
    | .read d path => return .opens d (← fillOne output path) .reading
    | .write d path => return .writes d (← fillOne output path)
    | .clobber d path => return .opens d (← fillOne output path) .writing
    | .append d path => return .opens d (← fillOne output path) .appending
    | .readWrite d path => return .opens d (← fillOne output path) .both
    | .duplicate d source => pure (.duplicates d source)
    | .close d => pure (.closes d)
    | .document d number => pure (.document d number)
    | .duplicateWord d source => do
      match ← fillOne output source with
      | ['-'] => pure (.closes d)
      | [c] => if c.isDigit then pure (.duplicates d (c.toNat - '0'.toNat)) else refuseDescriptor
      | _ => refuseDescriptor
where
  /-- Refuses a word that is no descriptor, in the line up to which the script was read. -/
  refuseDescriptor : Run Change := do
    modify fun s => { s with line := s.readLine }
    failPlain "Syntax error: Bad fd number"

/-- The bytes of a document that are put into a pipe at once. -/
def documentLimit : Nat := 4096

/-- A descriptor from which a document is read. -/
def openDocument (output : Option Command → Run Octets) (number : Nat) : Run Descriptor := do
  match ← ask .makePipe with
  | .error _ => failPlain "Pipe call failed"
  | .ok (source, sink) =>
    let document := ((← get).documents[number]?).getD ⟨[], false⟩
    let text ← fillDocument output document.text
    let data := Text.Octets.toBytes text
    if text.length ≤ documentLimit then
      let _ ← ask (.write sink data)
    else
      let _ ← forkTask fun _ => Kernel.Act.task do
        let _ ← Kernel.Act.ask (.close source)
        let _ ← Kernel.Act.ask (.write sink data)
        pure 0
    let _ ← ask (.close sink)
    pure source

/-- Saves where a descriptor leads, unless that was done already, and shuts it. -/
def saveDescriptor (d : Descriptor) : Run Unit := do
  match (← get).saved with
  | [] => pure ()
  | changes :: others =>
    if changes.any (·.1 == d) then return
    let copy ← ask (.duplicateAbove d 10)
    match copy with
    | .error e =>
      if e != .badDescriptor then
        let _ ← ask (.close d)
        fail (Text.digits d ++ octets (": " ++ e.reason))
    | .ok _ =>
      let _ ← ask (.close d)
    modify fun s => { s with saved := ((d, copy.toOption) :: changes) :: others }

/-- Makes a change. `saves` tells that it will be undone. -/
def makeChange (output : Option Command → Run Octets) (saves : Bool) (c : Change) : Run Unit := do
  let d := c.descriptor
  let lead (source : Descriptor) : Run Unit := do
    if source != d then
      if saves then saveDescriptor d
      let done ← ask (.duplicate source d)
      let _ ← ask (.close source)
      if let .error e := done then
        fail (Text.digits source ++ octets (": " ++ e.reason))
    else if saves then
      modify fun s =>
        match s.saved with
        | changes :: others =>
          if changes.any (·.1 == d) then s else { s with saved := ((d, none) :: changes) :: others }
        | [] => s
  match c with
  | .opens _ path how => do lead (← openFor path how)
  | .writes _ path => do lead (← openToWrite path)
  | .document _ number => do lead (← openDocument output number)
  | .duplicates _ source =>
    if source = d then return
    if saves then saveDescriptor d
    match ← ask (.duplicate source d) with
    | .ok _ => pure ()
    | .error e => fail (Text.digits source ++ octets ": " ++ octets (reasonOf false "" e))
  | .closes _ =>
    if saves then saveDescriptor d
    let _ ← ask (.close d)

/-- Begins to save descriptors. -/
def beginSaving : Run Unit := modify fun s => { s with saved := [] :: s.saved }

/-- Leads descriptors back to where they led, or leaves them as they are. -/
def endSaving (keeps : Bool) : Run Unit := do
  match (← get).saved with
  | [] => pure ()
  | changes :: others =>
    modify fun s => { s with saved := others }
    (changes.mergeSort fun a b => a.1 ≤ b.1).forM fun (d, copy) => do
      match copy with
      | none =>
        unless keeps do
          let _ ← ask (.close d)
      | some copy =>
        unless keeps do
          let _ ← ask (.duplicate copy d)
        let _ ← ask (.close copy)

/-- Undoes changes until only so many sets of them are left. -/
def unwindSaving (left : Nat) : Nat → Run Unit
  | 0 => pure ()
  | n + 1 => do
    if left < (← get).saved.length then
      endSaving false
      unwindSaving left n

/-- Undoes the changes made since there were so many sets of them. -/
def unwindSavingTo (left : Nat) : Run Unit := do unwindSaving left (← get).saved.length

/-- Makes changes. A mistake gives the status 2. -/
def makeChanges (output : Option Command → Run Octets) (saves : Bool) (cs : List Change) :
    Run Nat :=
  tryCatch
    (do
      cs.forM (makeChange output saves)
      pure 0)
    fun
      | .mistake => pure 2
      | jump => throw jump

/-- Where the error output leads that was there before the changes. -/
def formerErrors : Run Descriptor := do
  match (← get).saved with
  | changes :: _ =>
    match changes.find? (·.1 == 2) with
    | some (_, some copy) => pure copy
    | _ => pure 2
  | [] => pure 2

end Assay.Shell
