import Assay.Manifest

/-!
# Selections

A command names its tests directly and by list files. The tests named directly come first, as they
are written; then those of each list, in the order of the lists. Nothing is sorted or dropped, and
one list that cannot be read makes the whole selection fail.
-/

namespace Assay

/-- Where the tests of a command come from. -/
structure Selection where
  tests : List String
  lists : List Path
deriving DecidableEq, Repr

namespace Selection

variable {σ : Type}

/-- Reads lists in order, up to the first that cannot be read. -/
def loadAll (host : Host σ) : List Path → Session σ → Except ManifestError (List Test) × Session σ
  | [], s => (.ok [], s)
  | path :: paths, s =>
    match Manifest.load host path s with
    | (.error e, s) => (.error e, s)
    | (.ok tests, s) =>
      match loadAll host paths s with
      | (.error e, s) => (.error e, s)
      | (.ok later, s) => (.ok (tests ++ later), s)

/-- The tests of a selection. -/
def collect (host : Host σ) (selection : Selection) (s : Session σ) :
    Except ManifestError (List Test) × Session σ :=
  match loadAll host selection.lists s with
  | (.error e, s) => (.error e, s)
  | (.ok listed, s) =>
    let tests := selection.tests.map Test.mk ++ listed
    (.ok tests, s.tell [] (.testsCollected tests.length))

end Selection

end Assay
