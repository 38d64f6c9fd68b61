import Assay.Path

/-!
# Tests

A test is a name, and the name is used as it is: as the source handed to the compiler, as the
beginning of the fixture's path, as the executable of a smoke test, and in every report line.
-/

namespace Assay

/-- A named test. -/
structure Test where
  id : String
deriving DecidableEq, Repr, Inhabited

namespace Test

/-- The ending that turns a test's name into the path of its fixture. -/
def fixtureSuffix : String := ".expected"

/-- The source file of a test is its name. -/
def source (t : Test) : Path := ⟨t.id⟩

/-- The file that holds the exact expected output: the name with a suffix, whatever extension the
name has. -/
def fixture (t : Test) : Path := ⟨t.id ++ fixtureSuffix⟩

/-- The executable of a smoke test inside a directory. -/
def executableIn (dir : Path) (t : Test) : Path := dir.join ⟨t.id⟩

end Test

end Assay
