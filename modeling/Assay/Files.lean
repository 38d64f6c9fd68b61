import Assay.Files.Tree

/-!
# Files

Files are seen from a working directory: relative paths start there. What a harness does with files
is to read them; what is done to them from outside is a `Change`: to write a file, make a directory
or delete a file.

An operation that fails changes nothing.
-/

namespace Assay

/-- A file tree seen from a working directory. -/
structure Files where
  tree : Files.Tree
  directory : Files.Place
deriving DecidableEq, Repr

namespace Files

open Text (Octets)

/-- The name under which a path holds a byte 0. -/
def nulInPath : IoError := .custom .invalidInput "file name contained an unexpected NUL byte"

/-- Where the walk along a path begins. -/
def start (files : Files) (path : Path) : Place := if path.isAbsolute then [] else files.directory

/-- What stands at a path. -/
def lookup (files : Files) (path : Path) : Except IoError (Place × Node) :=
  if '\x00' ∈ path.text.toList then .error nulInPath
  else files.tree.lookup files.directory path

/-- What is read from a device from outside. -/
def Device.contents : Device → Except IoError Bytes
  | .null => .ok []
  | .terminal => .error .noDevice
  | _ => .error .noEntry

/-- The contents of a file. -/
def read (files : Files) (path : Path) : Except IoError Bytes := do
  match (← files.lookup path).2 with
  | .directory _ => throw .isDirectory
  | .file contents _ _ => pure contents.toList
  | .device device => device.contents
  | .link _ => throw .linkLoop

/-- Whether a path leads to anything. -/
def exists? (files : Files) (path : Path) : Bool := (files.lookup path).toBool

/-! ### Changes -/

/-- A change that is made to files from outside. -/
inductive Change where
  /-- Writes a file; its directories are made where they are missing. -/
  | write (path : Path) (contents : Bytes) (executable : Bool)
  /-- Makes a directory and those above it. -/
  | makeDirectory (path : Path)
  /-- Deletes a file. -/
  | remove (path : Path)
deriving DecidableEq, Repr

/-- A tree in which a place is a directory, if nothing stood there. -/
def withDirectory (tree : Tree) (place : Place) : Tree :=
  match tree.node? place with
  | some _ => tree
  | none => tree.set place (.directory Node.directoryMode)

/-- Walks along pieces, making every directory that is missing on the way. -/
def reach (tree : Tree) (start : Place) (pieces : List Octets) :
    Except IoError (Tree × Place) :=
  pieces.foldlM (fun (tree, place) piece => do
    let tree := withDirectory tree place
    let reached ← tree.walkFrom true Tree.stepLimit Tree.linkLimit place [piece]
    pure (tree, reached)) (tree, start)

/-- The pieces of a path. -/
def piecesOf (path : Path) : List Octets := Text.split '/' (Text.Octets.ofString path.text)

/-- Carries out a change. -/
def apply (files : Files) : Change → Except IoError Files
  | .write path contents executable => do
    let (tree, place) ← reach files.tree (files.start path) (piecesOf path)
    pure { files with tree := tree.set place (.ofBytes contents executable 0) }
  | .makeDirectory path => do
    let (tree, place) ← reach files.tree (files.start path) (piecesOf path)
    pure { files with tree := withDirectory tree place }
  | .remove path => do
    match ← files.lookup path with
    | (_, .directory _) => throw .isDirectory
    | (place, _) => pure { files with tree := files.tree.erase place }

/-- Carries out changes in order. One that fails changes nothing. -/
def applyAll (files : Files) (changes : List Change) : Files :=
  changes.foldl (fun files change => (files.apply change).toOption.getD files) files

/-- The path of a place: as it is seen from the working directory where the place is below it, from
the root otherwise. -/
def pathTo (files : Files) (place : Place) : Path :=
  let spell (names : Place) := "/".intercalate (names.map Text.Octets.toString)
  if files.directory.isPrefixOf place then ⟨"./" ++ spell (place.drop files.directory.length)⟩
  else ⟨"/" ++ spell place⟩

/-- The changes that lead from earlier files to these: what is gone is deleted, what is new or has
other contents is written. -/
def changesSince (files earlier : Files) : List Change :=
  let gone := earlier.tree.entries.filterMap fun (place, node) =>
    match node, files.tree.node? place with
    | .file .., none => some (.remove (files.pathTo place))
    | _, _ => none
  let new := files.tree.entries.reverse.filterMap fun (place, node) =>
    if earlier.tree.node? place = some node then none
    else
      match node with
      | .file contents mode _ =>
        some (.write (files.pathTo place) contents.toList (Node.anyExecute mode))
      | .directory _ => some (.makeDirectory (files.pathTo place))
      | _ => none
  gone ++ new

end Files

end Assay
