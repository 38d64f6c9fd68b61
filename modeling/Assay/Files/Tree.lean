import Assay.IoError
import Assay.Path
import Assay.Text.Octets

/-!
# File trees

A machine in memory keeps its files in a tree. The tree is held as a table from *places* to what
stands there: a place is the list of names that leads to it from the root, so a place has no `.`, no
`..` and no empty name. The root itself is always a directory. Names are sequences of bytes, as the
octets of text.

A path is turned into a place by walking along its pieces from a directory (`Tree.walk`). The walk
is where most errors of file operations come from: a piece may be missing, may be no directory
though more pieces follow, or may be longer than a name can be. A link on the way is replaced by
what it says.
-/

namespace Assay.Files

open Text (Octets)

/-- The way from the root to a file: the names of the directories, then its own. -/
abbrev Place := List Octets

/-- A file that is no place for data. -/
inductive Device where
  /-- Takes everything and is always empty. -/
  | null
  /-- Takes everything and gives bytes 0 without end. -/
  | zero
  /-- Takes nothing and gives bytes 0 without end. -/
  | full
  /-- The terminal, which is not there. -/
  | terminal
  /-- What a descriptor of the process that looks leads to. -/
  | descriptor (number : Nat)
deriving DecidableEq, Repr

/-- What stands at a place. -/
inductive Node where
  | directory (mode : Nat)
  /-- A regular file, with its permissions and the time of its last change. -/
  | file (contents : Array UInt8) (mode : Nat) (modified : Nat)
  | device (device : Device)
  /-- Stands for what another path leads to. -/
  | link (target : Octets)
deriving DecidableEq, Repr

namespace Node

/-- The permissions of a directory that is made. -/
def directoryMode : Nat := 0o755

/-- The permissions of a file that is made: it may be executed or not. -/
def fileMode (executable : Bool) : Nat := if executable then 0o755 else 0o644

/-- A regular file as it is made. -/
def ofBytes (contents : Bytes) (executable : Bool) (modified : Nat) : Node :=
  .file contents.toArray (fileMode executable) modified

/-- Whether a node is a directory. -/
def isDirectory : Node → Bool
  | directory _ => true
  | _ => false

/-- Whether some permission to execute is among permissions. -/
def anyExecute (mode : Nat) : Bool := mode &&& 0o111 != 0

/-- What the file of a program begins with. The name of the program follows, and bytes 0. -/
def programMark : Bytes := [0x7F, 0x45, 0x4C, 0x46, 0x02, 0x01, 0x01, 0x00, 0xFF]

/-- The number of bytes 0 in the file of a program. -/
def programPadding : Nat := 32768

/-- The file of a program of the machine itself. -/
def ofProgram (name : String) : Node :=
  let head := programMark ++ Text.Octets.toBytes name.toList
  .file (head.toArray ++ Array.replicate programPadding 0) (fileMode true) 0

/-- The program whose file this is, by the head of the file. -/
def programOf? (head : Bytes) : Option String :=
  if programMark.isPrefixOf head then
    let name := (head.drop programMark.length).takeWhile (· != 0)
    some (String.ofList (Text.Octets.ofBytes name))
  else none

end Node

/-- A tree of files. Of two entries for a place, the first counts. -/
structure Tree where
  entries : List (Place × Node)
  /-- The places at which one and the same file stands, where there are several. -/
  shared : List (List Place)
deriving DecidableEq, Repr

namespace Tree

/-- The tree that holds nothing but the root. -/
def empty : Tree := ⟨[], []⟩

/-- What stands at a place, if anything does. -/
def node? (tree : Tree) (place : Place) : Option Node :=
  if place = [] then some (.directory Node.directoryMode)
  else (tree.entries.find? fun (key, _) => key == place).map (·.2)

/-- The places at which the same file stands as at a place, in a fixed order. -/
def group (tree : Tree) (place : Place) : List Place :=
  (tree.shared.find? (·.contains place)).getD [place]

/-- The places at which the same file stands as at a place: this one, then the others. -/
def sharing (tree : Tree) (place : Place) : List Place :=
  place :: (tree.group place).filter (· != place)

/-- Puts something at a place, instead of what stood there and wherever the same file stood. What
is new comes first. -/
def set (tree : Tree) (place : Place) (node : Node) : Tree :=
  let places := tree.sharing place
  let entries := tree.entries.map fun (key, old) => (key, if places.contains key then node else old)
  if tree.entries.any (·.1 == place) then { tree with entries }
  else { tree with entries := (place, node) :: entries }

/-- Takes away what stands at a place, and everything below it. -/
def erase (tree : Tree) (place : Place) : Tree where
  entries := tree.entries.filter fun (key, _) => !place.isPrefixOf key
  shared := (tree.shared.map (·.filter (!place.isPrefixOf ·))).filter (1 < ·.length)

/-- Lets the file that stands at one place stand at another one too. -/
def share (tree : Tree) (place other : Place) (node : Node) : Tree where
  entries := (other, node) :: tree.entries.filter fun (key, _) => key != other
  shared := (tree.group place ++ [other]) :: tree.shared.filter (!·.contains place)

/-- A place after what stands at one was moved to another one. -/
def moved (origin target place : Place) : Place :=
  if origin.isPrefixOf place then target ++ place.drop origin.length else place

/-- Moves what stands at a place, and everything below it, to another place. -/
def move (tree : Tree) (origin target : Place) : Tree :=
  let tree := tree.erase target
  ⟨tree.entries.map fun (key, node) => (moved origin target key, node),
    tree.shared.map (·.map (moved origin target))⟩

/-- Whether a place is a directory. -/
def isDirectory (tree : Tree) (place : Place) : Bool := (tree.node? place).any (·.isDirectory)

/-- Whether a name stands before another one, or is the same. The first byte that differs decides,
and a name stands before those that it begins. -/
def precedes : Octets → Octets → Bool
  | [], _ => true
  | _ :: _, [] => false
  | a :: as, b :: bs => a.toNat < b.toNat || (a == b && precedes as bs)

/-- The names in a directory, the oldest first. -/
def namesByAge (tree : Tree) (place : Place) : List Octets :=
  (tree.entries.reverse.filterMap fun (key, _) =>
    match key.reverse with
    | name :: above => if above.reverse = place then some name else none
    | [] => none).eraseDups

/-- The names in a directory, in order. -/
def names (tree : Tree) (place : Place) : List Octets :=
  (tree.namesByAge place).mergeSort precedes

/-! ### Walking -/

/-- The bytes that a name may have. -/
def nameLimit : Nat := 255

/-- The bytes that a path may have. -/
def pathLimit : Nat := 4095

/-- The links that may stand on the way. -/
def linkLimit : Nat := 40

/-- One step of a walk from a place that must be a directory. -/
def walkStep (tree : Tree) (place : Place) (piece : Octets) : Except IoError Place :=
  match tree.node? place with
  | none => .error .noEntry
  | some (.directory _) =>
    if piece = [] ∨ piece = ['.'] then .ok place
    else if piece = ['.', '.'] then .ok place.dropLast
    else if nameLimit < piece.length then .error .nameTooLong
    else .ok (place ++ [piece])
  | some _ => .error .notDirectory

/-- A walk along pieces, at most so many steps long. A link is followed where more pieces come after
it, and at the end if `follows` says so; `links` counts those that still may. -/
def walkFrom (tree : Tree) (follows : Bool) :
    (steps : Nat) → (links : Nat) → Place → List Octets → Except IoError Place
  | 0, _, _, _ => .error .linkLoop
  | _, _, place, [] => .ok place
  | n + 1, links, place, piece :: pieces => do
    let reached ← tree.walkStep place piece
    match tree.node? reached with
    | some (.link target) =>
      if !pieces.isEmpty || follows then
        match links with
        | 0 => throw .linkLoop
        | links + 1 =>
          let start := if target.head? == some '/' then [] else place
          walkFrom tree follows n links start (Text.split '/' target ++ pieces)
      else pure reached
    | _ => walkFrom tree follows n links reached pieces

/-- The steps that a walk may take: the pieces of a path, and those of all links on the way. -/
def stepLimit : Nat := (linkLimit + 1) * (pathLimit + 1)

/-- The place that a path leads to from a directory. The place may be empty; a path that ends in `/`
leads to it only where it is no file. -/
def walkOctets (tree : Tree) (directory : Place) (follows : Bool) (path : Octets) :
    Except IoError Place :=
  if path = [] then .error .noEntry
  else if pathLimit < path.length then .error .nameTooLong
  else
    tree.walkFrom follows stepLimit linkLimit (if path.head? == some '/' then [] else directory)
      (Text.split '/' path)

/-- What a path leads to. -/
def lookupOctets (tree : Tree) (directory : Place) (follows : Bool) (path : Octets) :
    Except IoError (Place × Node) := do
  let place ← tree.walkOctets directory follows path
  match tree.node? place with
  | some node => pure (place, node)
  | none => throw .noEntry

/-- The place that a path leads to, links followed. -/
def walk (tree : Tree) (directory : Place) (path : Path) : Except IoError Place :=
  tree.walkOctets directory true (Text.Octets.ofString path.text)

/-- What a path leads to, links followed. -/
def lookup (tree : Tree) (directory : Place) (path : Path) : Except IoError (Place × Node) :=
  tree.lookupOctets directory true (Text.Octets.ofString path.text)

end Tree

end Assay.Files
