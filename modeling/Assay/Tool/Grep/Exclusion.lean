import Assay.Text.Octets
import Assay.Text.Pattern
import Assay.Text.Utf8

/-!
# Files that are passed over

Rules tell which files are searched: each takes files in or leaves them out, by a pattern for their
names. The last rule whose pattern matches decides. Where none does, files are left out if the first
rule was one that takes files in.
-/

namespace Assay.Tool.Grep

open Text (Octets Pattern)

/-- A rule about files. -/
structure Rule where
  /-- Whether files are taken in. -/
  includes : Bool
  pattern : Pattern

namespace Rule

/-- The characters of a name. -/
def chars (name : Octets) : List Char := Text.Utf8.decodeLossy (Text.Octets.toBytes name)

/-- The rule that a pattern writes. -/
def ofOctets (includes : Bool) (pattern : Octets) : Rule := ⟨includes, .ofWildcards (chars pattern)⟩

/-- The parts of a name that begin behind a slash. -/
def tails : List Char → List (List Char)
  | [] => []
  | c :: rest => if c = '/' && rest.head? != some '/' then rest :: tails rest else tails rest

/-- Whether a rule is about a file. The name of an operand counts from each of its parts on. -/
def covers (r : Rule) (isOperand : Bool) (name : List Char) : Bool :=
  r.pattern.accepts name || isOperand && (tails name).any r.pattern.accepts

/-- Whether rules leave a file out. -/
def excludes (rules : List Rule) (isOperand : Bool) (name : Octets) : Bool :=
  match rules.reverse.find? (·.covers isOperand (chars name)), rules with
  | some r, _ => !r.includes
  | none, first :: _ => first.includes
  | none, [] => false

end Rule

end Assay.Tool.Grep
