import Assay.Tool.Work

/-!
# Backups

A file that is about to be overwritten may be kept under another name: its own name with something
behind it, which is the same every time or counts the files that were kept.
-/

namespace Assay.Tool.Copy

open Text (Octets)

open Work

/-- How the names of backups are made. -/
inductive Backup where
  | simple
  | numbered
  /-- Numbers where there are numbered ones already. -/
  | existing
deriving DecidableEq, Repr

/-- What stands behind the names of backups, if nothing else is asked for. -/
def usualSuffix : Octets := ['~']

/-- The directory of a path, and the name in it. -/
def parted (path : Octets) : Octets × Octets :=
  let trimmed := (path.reverse.dropWhile (· == '/')).reverse
  let name := (trimmed.reverse.takeWhile (· != '/')).reverse
  (path.take (trimmed.length - name.length), name)

/-- The number that the name of a backup has, if it is one of a file. -/
def backupNumber? (name candidate : Octets) : Option Nat :=
  if !name.isPrefixOf candidate then none
  else
    match candidate.drop name.length, candidate.getLast? with
    | '.' :: '~' :: c :: rest, some '~' =>
      let digits := (c :: rest).dropLast
      if digits.isEmpty || c == '0' || !digits.all Char.isDigit then none
      else some (digits.foldl (fun n d => 10 * n + (d.toNat - '0'.toNat)) 0)
    | _, _ => none

namespace Backup

/-- The path of the backup of a file. -/
def pathFor (b : Backup) (suffix path : Octets) : Work Octets := do
  let (directory, name) := parted path
  let plain := directory ++ name
  let names :=
    (← ask (.entries (if directory.isEmpty then ['.'] else directory) false)).toOption.getD []
  let last := (names.filterMap (backupNumber? name)).foldl max 0
  if b = .simple || b = .existing && last = 0 then pure (plain ++ suffix)
  else pure (plain ++ octets ".~" ++ Text.digits (last + 1) ++ ['~'])

end Backup

end Assay.Tool.Copy
