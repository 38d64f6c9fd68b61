import Assay.Diagnostic
import Assay.Session
import Assay.Text.Blank

/-!
# Test lists

A test list is a text with one test per line. Blanks around a name do not belong to it; a line
without a name is skipped, and so is a comment, a line whose first character that is no blank is a
`#`. A carriage return is a blank, so lists with either kind of line ending read the same.

A list file that cannot be read, or is not UTF-8, is a `ManifestError`.
-/

namespace Assay

namespace Manifest

/-- The marker of a comment line. -/
def commentMark : Char := '#'

/-- Whether a trimmed line is a test's name. -/
def isEntry (line : List Char) : Bool :=
  match line with
  | [] => false
  | c :: _ => c != commentMark

/-- The names in a list, in order. -/
def entries (text : List Char) : List (List Char) :=
  ((Text.split '\n' text).map Text.trim).filter isEntry

/-- The tests of a list, in order. -/
def parse (text : String) : List Test :=
  (entries text.toList).map fun name => ⟨String.ofList name⟩

end Manifest

/-- A test list could not be read. -/
structure ManifestError where
  path : Path
  cause : IoError
deriving DecidableEq, Repr

namespace ManifestError

/-- The text of the error. -/
def message (e : ManifestError) : String :=
  "cannot read test list '" ++ e.path.text ++ "': " ++ e.cause.message

/-- What is shown of the error. -/
def diagnostic (e : ManifestError) : Diagnostic :=
  ⟨"harness::manifest::read", e.message, e.cause.chain,
    some "a test list holds one test per line; '#' starts a comment line"⟩

end ManifestError

namespace Manifest

variable {σ : Type}

/-- The error of a list that is not text. -/
def notText : IoError := .custom .invalidData "stream did not contain valid UTF-8"

/-- The tests of a list file's contents. -/
def ofBytes (contents : Bytes) : Except IoError (List Test) :=
  match Text.Utf8.decode? contents with
  | some text => .ok (parse (String.ofList text))
  | none => .error notText

/-- The tests of a list file. -/
def read (host : Host σ) (path : Path) (world : σ) : Except ManifestError (List Test) :=
  match host.readFile path world with
  | .error cause => .error ⟨path, cause⟩
  | .ok contents => (ofBytes contents).mapError (⟨path, ·⟩)

/-- Reads a list file and tells how many tests it holds. -/
def load (host : Host σ) (path : Path) (s : Session σ) :
    Except ManifestError (List Test) × Session σ :=
  match read host path s.world with
  | .error e => (.error e, s)
  | .ok tests => (.ok tests, s.tell [] (.listLoaded path tests.length))

end Manifest

end Assay
