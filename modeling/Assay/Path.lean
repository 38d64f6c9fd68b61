import Assay.Text.Lines

/-!
# Paths

A path is kept exactly as it was written. Two questions are asked of it: which components it has,
and how to spell it when it is to be launched.

Components are the pieces between `/`s; empty pieces do not count, and a piece `.` counts only
where it is the first piece. A launch looks a name without `/` up on the search path, so a relative
path with one component is *anchored* in the working directory by `./` in front; every other path
already names a directory and is used as it stands.
-/

namespace Assay

/-- A path, as written. -/
structure Path where
  text : String
deriving DecidableEq, Repr, Inhabited

namespace Path

/-- Whether the path starts at the root. -/
def isAbsolute (p : Path) : Bool := p.text.toList.head? == some '/'

/-- The components of a list of pieces that does not begin a path: neither empty pieces nor `.`
count. -/
def componentsOfLater (pieces : List (List Char)) : List (List Char) :=
  pieces.filter fun piece => piece ≠ [] ∧ piece ≠ ['.']

/-- The components of a path. -/
def components (p : Path) : List (List Char) :=
  match Text.split '/' p.text.toList with
  | ['.'] :: later => ['.'] :: componentsOfLater later
  | pieces => componentsOfLater pieces

/-- Whether the path is relative and has exactly one component. The empty path has none. -/
def isBare (p : Path) : Bool := !p.isAbsolute && p.components.length == 1

/-- The spelling under which a program in the working directory is launched. -/
def anchored (p : Path) : Path := if p.isBare then ⟨"./" ++ p.text⟩ else p

/-- The path of `rest` inside a directory. An absolute `rest` stands for itself; otherwise the two
are put together with a `/` between them, unless the directory is empty or ends in one. -/
def join (dir rest : Path) : Path :=
  if rest.isAbsolute then rest
  else if dir.text.toList.getLast?.all (· == '/') then ⟨dir.text ++ rest.text⟩
  else ⟨dir.text ++ "/" ++ rest.text⟩

end Path

end Assay
