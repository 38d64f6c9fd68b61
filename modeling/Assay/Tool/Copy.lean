import Assay.Tool.Copy.Plan

/-!
# Copying files

`cp` copies files: one to a path, or several into a directory under their own names. A directory is
copied with everything below it, where it is asked to be. A file that is there already is
overwritten in place and keeps its permissions, unless a backup of it is made; a new one gets those
of the file that is copied.
-/

namespace Assay.Tool.Copy

open Kernel (FileStatus Identity Opening)
open Text (Octets)

open Work

/-- A file, and the directory and the name under which it is. -/
structure Known where
  identity : Identity
  directory : Option Identity
  name : Octets
deriving DecidableEq, Repr

/-- What was copied so far, to notice what should not be copied. -/
structure Record where
  /-- Whether there are several operands. Nothing is noticed of a single one. -/
  several : Bool
  /-- The operands. -/
  sources : List Known
  /-- The files that were made for operands, and their paths. -/
  made : List (Identity × Octets)
  /-- The files that were copied, and the paths of their copies. -/
  copies : List (Identity × Octets)
  /-- Whether a directory was made for the operand. -/
  hasDirectory : Bool
deriving Repr

/-- Nothing was copied. -/
def Record.empty (several : Bool) : Record := ⟨several, [], [], [], false⟩

/-- A part of the work that keeps the record. -/
abbrev Copying := StateT Record Work

/-- Tells of what is copied. -/
def announce (plan : Plan) (source target : Octets) (backup : Option Octets) : Work Unit := do
  if plan.verbose then
    let kept := match backup with
      | some path => octets " (backup: " ++ Name.quoted path ++ [')']
      | none => []
    put 1 (Name.quoted source ++ octets " -> " ++ Name.quoted target ++ kept ++ ['\n'])

/-- Complains of a path; nothing was copied. -/
def refusePath (message : String) (path : Octets) : Work Bool := do
  complain (octets message ++ Name.quoted path)
  pure false

/-- Complains of a path and an error; nothing was copied. -/
def refuseOf (message : String) (path : Octets) (e : IoError) : Work Bool := do
  complainOf (octets message ++ Name.quoted path) e
  pure false

/-- Complains of two paths; nothing was copied. -/
def refuseBoth (message : String) (path : Octets) (between : String) (other : Octets)
    (ending : String) : Work Bool := do
  complain (octets message ++ Name.quoted path ++ octets between ++ Name.quoted other ++
    octets ending)
  pure false

/-! ### Names of files -/

/-- A path without the slashes at its end. -/
def withoutSlashes (path : Octets) : Octets :=
  let short := (path.reverse.dropWhile (· == '/')).reverse
  if short.isEmpty then path.take 1 else short

/-- The last name of a path. -/
def lastName (path : Octets) : Octets :=
  ((Text.split '/' path).filter (!·.isEmpty)).getLast?.getD []

/-- A path inside a directory. -/
def inside (directory name : Octets) : Octets :=
  let directory := withoutSlashes directory
  let name := name.dropWhile (· == '/')
  if directory.getLast? == some '/' then directory ++ name else directory ++ '/' :: name

/-- A file as it is known under a path. -/
def knownAs (path : Octets) (identity : Identity) : Work Known := do
  let (directory, name) := parted path
  let above ← ask (.status (if directory.isEmpty then ['.'] else directory) true)
  pure ⟨identity, above.toOption.map (·.identity), name⟩

/-- Whether two paths are the same name in the same directory. -/
def sameEntry (path other : Octets) : Work Bool := do
  let a ← knownAs path (.pipe 0)
  let b ← knownAs other (.pipe 0)
  pure (a.directory.isSome && a == b)

/-! ### Files that are there already -/

/-- Removes a file that is in the way. -/
def clear (plan : Plan) (path : Octets) : Work Bool := do
  match ← ask (.removeFile path) with
  | .ok () =>
    if plan.verbose then put 1 (octets "removed " ++ Name.quoted path ++ ['\n'])
    pure true
  | .error e => if e == .noEntry then pure true else refuseOf "cannot remove " path e

/-- What is to be done where a file may be copied onto itself. -/
inductive Sameness where
  | distinct
  /-- There is nothing to do. -/
  | settled
  | same
deriving DecidableEq, Repr

/-- Whether a source and a target, which are there, are the same file in a way that forbids to copy
one to the other. -/
def sameness (plan : Plan) (following : Following) (source target : Octets)
    (s t : FileStatus) : Work Sameness := do
  let same := s.identity == t.identity
  if same && plan.product = .hardLinks then return .settled
  let keepsLinks := following = .never
  if keepsLinks && s.kind = .link && t.kind = .link then
    if ← sameEntry source target then return .same
    return if same && plan.backup.isNone then .settled else .distinct
  if !keepsLinks && !same then return .distinct
  let (s, t) ←
    if keepsLinks then pure (s, t)
    else
      match ← ask (.status source false), ← ask (.status target false) with
      | .ok s, .ok t => pure (s, t)
      | _, _ => return .distinct
  let same := s.identity == t.identity
  let sourceIsLink : Bool := s.kind = .link
  let targetIsLink : Bool := t.kind = .link
  if !keepsLinks && sourceIsLink && targetIsLink && plan.removes then return .distinct
  if plan.backup.isSome then
    if same then return if ← sameEntry source target then .same else .distinct
    return if !keepsLinks && sourceIsLink && !targetIsLink then .same else .distinct
  if plan.removes then
    if targetIsLink then return .distinct
    if same && 1 < t.links then
      if !(← sameEntry source target) then return .distinct
  if !sourceIsLink && !targetIsLink then
    if !same then return .distinct
    if plan.product = .hardLinks then return .settled
  if targetIsLink && (plan.product != .copies || plan.removes) then return .distinct
  if keepsLinks then
    match ← ask (.status source true), ← ask (.status target true) with
    | .ok a, .ok b =>
      if a.identity != b.identity then return .distinct
      if plan.product = .hardLinks then
        return if targetIsLink then .distinct else .settled
    | _, _ => return .distinct
  return .same

/-- Whether a file may be overwritten. -/
def agrees (path : Octets) : Work Bool := do
  let _ ← write 2 ((← read) ++ octets ": overwrite " ++ Name.quoted path ++ octets "? ")
  let rec line : Nat → Octets → Work Octets
    | 0, s => pure s
    | n + 1, s => do
      match ← ask (.read 0 1) with
      | .ok [b] =>
        let c := Char.ofNat b.toNat
        if c = '\n' then pure s else line n (s ++ [c])
      | _ => pure s
  let answer ← line pieceLimit []
  pure (answer.head?.any fun c => c = 'y' || c = 'Y')

/-- What is there where a copy is to be made. -/
inductive Site where
  /-- Nothing, or something that may be overwritten: whether it is nothing, and where the backup of
  it is. -/
  | free (isNew : Bool) (backup : Option Octets)
  /-- Nothing is copied; whether that is well. -/
  | taken (good : Bool)

/-- Makes the backup of a file that is in the way. -/
def siteByBackup (plan : Plan) (backup : Backup) (source target : Octets) (s : FileStatus) :
    Work Site := do
  let (directory, name) := parted target
  if backup != .numbered && lastName source == name ++ plan.suffix then
    if let .ok kept ← ask (.status (directory ++ name ++ plan.suffix) true) then
      if kept.identity == s.identity then
        return .taken (← refuseBoth "backing up " target " might destroy source;  " source
          " not copied")
  let path ← backup.pathFor plan.suffix target
  match ← ask (.rename target path) with
  | .ok () => return .free true (some path)
  | .error e =>
    if e == .noEntry then return .free true none
    else return .taken (← refuseOf "cannot backup " target e)

/-- Whether an existing file stands in the way of a copy. -/
def siteOver (plan : Plan) (following : Following) (isOperand : Bool) (source target : Octets)
    (s t : FileStatus) : Copying Site := do
  let isDirectory : Bool := s.kind = .directory
  let ontoDirectory : Bool := t.kind = .directory
  let sameness ←
    if plan.overwriting = .never then pure Sameness.distinct
    else sameness plan following source target s t
  if sameness = .same then
    return .taken (← refuseBoth "" source " and " target " are the same file")
  if plan.updates && !isDirectory && s.modified ≤ t.modified then return .taken true
  if !isDirectory then
    if plan.overwriting = .never then return .taken true
    if plan.overwriting = .ifAgreed then
      unless ← agrees target do return .taken true
  if sameness = .settled then return .taken true
  if isDirectory && !ontoDirectory then
    return .taken (← refuseBoth "cannot overwrite non-directory " target " with directory " source
      "")
  if !ontoDirectory && isOperand && plan.backup != some .numbered then
    let record ← get
    if record.several && record.made.contains (t.identity, target) then
      return .taken (← refuseBoth "will not overwrite just-created " target " with " source "")
  if !isDirectory && ontoDirectory then
    complain (octets "cannot overwrite directory " ++ Name.quoted target ++
      octets " with non-directory")
    return .taken false
  if ontoDirectory then return .free false none
  match plan.backup with
  | some backup =>
    if [['.'], ['.', '.']].contains (lastName source) then return .free false none
    siteByBackup plan backup source target s
  | none =>
    let removes := plan.removes || plan.copiesData &&
      (plan.keepsLinks && 1 < t.links || following = .never && s.kind != .regular)
    if !removes then return .free false none
    if ← clear plan target then return .free true none else return .taken false

/-- The place of a copy. -/
def siteOf (plan : Plan) (following : Following) (isOperand : Bool) (source target : Octets)
    (s : FileStatus) : Copying Site := do
  let plainly := s.kind = .regular ||
    !plan.recursive && s.kind != .directory && s.kind != .link
  let follows := plainly && plan.product = .copies && plan.backup.isNone && !plan.removes
  match ← ask (.status target follows) with
  | .ok t => siteOver plan following isOperand source target s t
  | .error e =>
    if e == .noEntry then pure (.free true none)
    else if e == .linkLoop && plan.forces then pure (.free false none)
    else
      let _ ← refuseOf "cannot stat " target e
      pure (.taken false)

/-! ### Copying -/

/-- The permissions that new files do not get. -/
def mask : Work Nat := do
  let mask ← ask (.setMask 0)
  let _ ← ask (.setMask mask)
  pure mask

/-- Gives a copy the time and the permissions of its source, where they are kept. -/
def keep (plan : Plan) (path : Octets) (s : FileStatus) (isNew : Bool) : Work Unit := do
  if plan.keepsTimes then
    let _ ← ask (.setModified path s.modified)
  if plan.keepsModes then
    let _ ← ask (.setMode path s.mode)
  else if plan.dropsModes && isNew then
    let usual := if s.kind = .directory then 0o777 else 0o666
    let _ ← ask (.setMode path (usual &&& (0o777 ^^^ (← mask))))

/-- Opens the file that is written to. `isNew` tells that nothing is there. -/
def openTarget (plan : Plan) (target : Octets) (isNew : Bool) (mode : Nat) :
    Work (Option Nat) := do
  let fresh : Work (Option Nat) := do
    match ← ask (.open target .creating mode) with
    | .ok d => pure (some d)
    | .error e =>
      let isLink ← match ← ask (.readLink target) with
        | .ok _ => pure true
        | .error _ => pure false
      let _ ← if e == .alreadyThere && isLink then
          refusePath "not writing through dangling symlink " target
        else
          refuseOf "cannot create regular file " target
            (if e == .isDirectory && target.getLast? == some '/' then .notDirectory else e)
      pure none
  if isNew then fresh
  else
    let how : Opening :=
      if plan.copiesData then .overwriting else { Opening.overwriting with truncates := false }
    match ← ask (.open target how 0) with
    | .ok d => pure (some d)
    | .error e =>
      if e == .noEntry then fresh
      else if plan.forces then
        if ← clear plan target then fresh else pure none
      else
        let _ ← refuseOf "cannot create regular file " target e
        pure none

/-- Copies what a file holds. -/
def copyContents (plan : Plan) (source target : Octets) (s : FileStatus) (isNew : Bool) :
    Work Bool := do
  match ← ask (.open source .reading 0) with
  | .error e =>
    complain (octets "cannot open " ++ Name.quoted source ++ octets (" for reading: " ++ e.reason))
    pure false
  | .ok input =>
    let done ← match ← openTarget plan target isNew (s.mode &&& 0o777) with
      | none => pure false
      | some output =>
        let done ←
          if !plan.copiesData then pure true
          else if plan.clones then
            complainOf (octets "failed to clone " ++ Name.quoted target ++ octets " from " ++
              Name.quoted source) .notSupported
            if isNew then
              let _ ← ask (.removeFile target)
            pure false
          else
            let (failure, e) ← forEachPiece input (fun _ data => do
              match ← ask (.write output data) with
              | .ok () => pure (none, true)
              | .error e => pure (some e, false)) pieceLimit none
            match failure, e with
            | some e, _ => refuseOf "error writing " target e
            | none, some e => refuseOf "error reading " source e
            | none, none => pure true
        let _ ← ask (.close output)
        if done then keep plan target s isNew
        pure done
    let _ ← ask (.close input)
    pure done

/-- Makes a link, by a request. One that is there already may be replaced. -/
def replacing (target : Octets) (replaces : Bool) (make : Work (Except IoError Unit)) :
    Work (Option IoError) := do
  match ← make with
  | .ok () => pure none
  | .error e =>
    if replaces && e == .alreadyThere then
      let _ ← ask (.removeFile target)
      match ← make with
      | .ok () => pure none
      | .error e => pure (some e)
    else pure (some e)

/-- Lets a target stand for the same file as a source. -/
def makeHardLink (source target : Octets) (follows replaces : Bool) : Work Bool := do
  match ← replacing target replaces (ask (.shareFile source target follows)) with
  | none => pure true
  | some e =>
    complain (octets "cannot create hard link " ++ Name.quoted target ++ octets " to " ++
      Name.quoted source ++ octets (": " ++ e.reason))
    pure false

/-- Makes a link to a source. -/
def makeLinkTo (plan : Plan) (source target : Octets) : Work Bool := do
  let (directory, _) := parted target
  let isHere ← match ← ask (.status ['.'] true), ← ask (.status directory true) with
    | .ok here, .ok there => pure (here.identity == there.identity)
    | _, _ => pure true
  if source.head? != some '/' && !isHere then
    complain (Name.plain target ++
      octets ": can make relative symbolic links only in current directory")
    return false
  match ← replacing target plan.forces (ask (.makeLink source target)) with
  | none => pure true
  | some e =>
    complain (octets "cannot create symbolic link " ++ Name.quoted target ++
      octets " to " ++ Name.quoted source ++ octets (": " ++ e.reason))
    pure false

/-- Copies a link. -/
def copyLink (plan : Plan) (source target : Octets) : Work Bool := do
  match ← ask (.readLink source) with
  | .error e => refuseOf "cannot read symbolic link " source e
  | .ok leadsTo =>
    match ← replacing target plan.forces (ask (.makeLink leadsTo target)) with
    | none => pure true
    | some e => refuseOf "cannot create symbolic link " target e

/-- Copies or makes what is no directory. -/
def copyPlain (plan : Plan) (source target : Octets) (s : FileStatus) (follows isNew : Bool) :
    Work Bool :=
  match plan.product with
  | .links => makeLinkTo plan source target
  | .hardLinks =>
    makeHardLink source target follows (plan.forces || plan.overwriting = .ifAgreed)
  | .copies =>
    if s.kind = .link then copyLink plan source target
    else copyContents plan source target s isNew

/-- The path of an earlier copy of a file, if there is one. Otherwise this copy is remembered, where
copies of such files are. -/
def earlierCopy? (plan : Plan) (following : Following) (isOperand : Bool) (target : Octets)
    (s : FileStatus) : Copying (Option Octets) := do
  let record ← get
  let found := (record.copies.find? (·.1 == s.identity)).map (·.2)
  let remember : Copying (Option Octets) := do
    if found.isNone then
      set { record with copies := (s.identity, target) :: record.copies }
    pure found
  if s.kind = .directory && plan.recursive then
    if isOperand then remember else pure found
  else
    let comesAgain := 1 < s.links || following = .always || isOperand && following = .operands
    if plan.keepsLinks && plan.product != .hardLinks && comesAgain then remember else pure none

/-- What came of copying what stands at a path. -/
structure Outcome where
  good : Bool
  /-- Whether a directory was about to be copied into itself. -/
  intoItself : Bool

/-- Copies what stands at a path. `operand` is the operand that it belongs to, and where that is
copied to. -/
def copyPath (plan : Plan) (operand : Octets × Octets) :
    Nat → Following → (isOperand : Bool) → (ancestors : List Identity) →
    (source target : Octets) → Copying Outcome
  | 0, _, _, _, _, _ => pure ⟨false, false⟩
  | n + 1, following, isOperand, ancestors, source, target => do
    let plainly (good : Bool) : Copying Outcome := pure ⟨good, false⟩
    let follows := following = .always || following = .operands && isOperand
    let s ← match ← ask (.status source (following != .never)) with
      | .error e => return ⟨← refuseOf "cannot stat " source e, false⟩
      | .ok s => pure s
    let isDirectory : Bool := s.kind = .directory
    if isDirectory && !plan.recursive then
      return ⟨← refusePath "-r not specified; omitting directory " source, false⟩
    let notices := isOperand && (← get).several
    if notices then
      let known ← knownAs source s.identity
      if !isDirectory && plan.backup.isNone && (← get).sources.contains known then
        complain (octets "warning: source file " ++ Name.quoted source ++
          octets " specified more than once")
        return ⟨true, false⟩
      modify fun r => { r with sources := known :: r.sources }
    let (isNew, backup) ← match ← siteOf plan following isOperand source target s with
      | .taken good => return ⟨good, false⟩
      | .free isNew backup => pure (isNew, backup)
    if notices && plan.backup.isNone then
      if let .ok t ← ask (.status target false) then
        if t.kind = .link && (← get).made.contains (t.identity, target) then
          return ⟨← refuseBoth "will not copy " source " through just-created symlink " target "",
            false⟩
    if !isDirectory then announce plan source target backup
    let undo : Work Outcome := do
      if let some path := backup then
        match ← ask (.rename path target) with
        | .error e => complainOf (octets "cannot un-backup " ++ Name.quoted target) e
        | .ok () =>
          if plan.verbose then
            put 1 (Name.quoted path ++ octets " -> " ++ Name.quoted target ++
              octets " (unbackup)\n")
      pure ⟨false, false⟩
    match ← earlierCopy? plan following isOperand target s, isDirectory with
    | some earlier, false =>
      if ← makeHardLink earlier target false true then return ⟨true, false⟩ else return ← undo
    | some earlier, true =>
      if ← sameEntry source earlier then
        let _ ← refuseBoth "cannot copy a directory, " operand.1 ", into itself, " operand.2 ""
        return ⟨false, true⟩
      if ← sameEntry target earlier then
        complain (octets "warning: source directory " ++ Name.quoted operand.1 ++
          octets " specified more than once")
        return ⟨true, false⟩
      if !follows then
        return ⟨← refuseBoth "will not create hard link " target " to directory " earlier "",
          false⟩
    | none, _ => pure ()
    if !isDirectory then
      let done ← copyPlain plan source target s follows isNew
      if !done then
        modify fun r => { r with copies := r.copies.filter (·.1 != s.identity) }
        return ← undo
      if notices then
        if let .ok made ← ask (.status target false) then
          modify fun r => { r with made := (made.identity, target) :: r.made }
      return ⟨true, false⟩
    if ancestors.contains s.identity then
      return ⟨← refusePath "cannot copy cyclic symbolic link " source, false⟩
    if isNew then
      match ← ask (.makeDirectory target s.mode) with
      | .error e => return ⟨← refuseOf "cannot create directory " target e, false⟩
      | .ok () =>
        if !(← get).hasDirectory then
          if let .ok made ← ask (.status target true) then
            modify fun r => { r with
              copies := (made.identity, target) :: r.copies, hasDirectory := true }
        announce plan source target none
    match ← ask (.entries source true) with
    | .error e => plainly (← refuseOf "cannot access " source e)
    | .ok names =>
      let inner := if following = .operands then .never else following
      let outcome ← names.foldlM (fun (outcome : Outcome) name => do
        if outcome.intoItself then pure outcome
        else
          let one ← copyPath plan operand n inner false (s.identity :: ancestors)
            (inside source name) (inside target name)
          pure ⟨outcome.good && one.good, one.intoItself⟩) ⟨true, false⟩
      keep plan target s isNew
      pure outcome

/-- The depth of directories that is reached. -/
def depth : Nat := 4096

/-- Copies an operand; whether that was done. -/
def copyOperand (plan : Plan) (source target : Octets) : Copying Bool := do
  modify fun r => { r with hasDirectory := false }
  return (← copyPath plan (source, target) depth plan.following true [] source target).good

/-! ### Operands -/

/-- Makes the directories of an operand inside another directory, as far as they are missing. -/
def makeParents (plan : Plan) (directory : Octets) : (made source : Octets) → List Octets →
    Work Bool
  | _, _, [] | _, _, [_] => pure true
  | made, source, piece :: rest => do
    let path := inside (if made.isEmpty then directory else made) piece
    let source := if source.isEmpty then piece else source ++ '/' :: piece
    match ← ask (.status path true) with
    | .ok status =>
      if status.kind = .directory then makeParents plan directory path source rest
      else
        complain (Name.quoted path ++ octets " exists but is not a directory")
        pure false
    | .error _ =>
      let problem ← match ← ask (.status source true) with
        | .ok status => pure (if status.kind = .directory then none else some .notDirectory)
        | .error e => pure (some e)
      match problem with
      | some e => refuseOf "failed to get attributes of " source e
      | none =>
        match ← ask (.makeDirectory path 0o755) with
        | .error e => refuseOf "cannot make directory " path e
        | .ok () =>
          if plan.verbose then put 1 (source ++ octets " -> " ++ path ++ ['\n'])
          makeParents plan directory path source rest

/-- Copies several operands into a directory. -/
def copyInto (plan : Plan) (parents : Bool) (directory : Octets) (sources : List Octets) :
    Work Nat := do
  let copyAll : Copying Bool := sources.foldlM (fun good source => do
    let name := if parents then withoutSlashes source
      else
        let name := lastName source
        if name == ['.', '.'] then ['.'] else name
    let pieces := (Text.split '/' name).filter (!·.isEmpty)
    let start := if name.head? == some '/' then ['/'] else []
    let ready ← if parents then makeParents plan directory [] start pieces else pure true
    if !ready then pure false
    else
      let done ← copyOperand plan source (inside directory name)
      pure (good && done)) true
  let (good, _) ← copyAll.run (.empty (2 ≤ sources.length))
  pure (if good then 0 else 1)

/-- Whether a path leads to a directory, or why it does not. -/
def directoryError (path : Octets) : Work (Option IoError) := do
  match ← ask (.status path true) with
  | .error e => pure (some e)
  | .ok status => pure (if status.kind = .directory then none else some .notDirectory)

/-- Copies one file to a path. A file that is copied to itself is copied to its backup. -/
def copyTo (plan : Plan) (source target : Octets) : Work Nat := do
  let (plan, target) ← match plan.backup with
    | some backup =>
      match plan.forces && source == target, ← ask (.status target true) with
      | true, .ok status =>
        if status.kind = .regular then
          pure ({ plan with backup := none }, ← backup.pathFor plan.suffix target)
        else pure (plan, target)
      | _, _ => pure (plan, target)
    | none => pure (plan, target)
  let (done, _) ← (copyOperand plan source target).run (.empty false)
  pure (if done then 0 else 1)

/-- Copies files. -/
def main (arguments : List Octets) : Work Nat := do
  let given := Given.ofArguments choices arguments
  let settings ← given.foldlM (fun s given => do
    match given with
    | .wrong message => misuse message
    | .option wish value _ => Settings.with s wish value
    | .operand _ => pure s) Settings.plain
  let plan ← settings.toPlan
  let trim (path : Octets) : Octets := if settings.strips then withoutSlashes path else path
  let operands := given.filterMap Given.operand?
  match operands, settings.into with
  | [], _ => misuse (octets "missing file operand")
  | [source], none =>
    misuse (octets "missing destination file operand after " ++ Name.quoted source)
  | _, _ => pure ()
  if settings.asFile then
    if settings.into.isSome then
      fail 1 (octets
        "cannot combine --target-directory (-t) and --no-target-directory (-T)")
    if let some extra := operands[2]? then
      misuse (octets "extra operand " ++ Name.quoted extra)
  match settings.into with
  | some directory =>
    match ← directoryError directory with
    | some e => failOf 1 (octets "target directory " ++ Name.quoted directory) e
    | none => copyInto plan settings.parents directory (operands.map trim)
  | none =>
    let target := operands.getLast?.getD []
    let sources := operands.dropLast
    match settings.asFile, ← directoryError target with
    | false, none => copyInto plan settings.parents target (sources.map trim)
    | _, e =>
      match sources with
      | [source] =>
        if settings.parents then
          misuse (octets "with --parents, the destination must be a directory")
        copyTo plan source target
      | _ => failOf 1 (octets "target " ++ Name.quoted target) (e.getD .notDirectory)

end Assay.Tool.Copy
