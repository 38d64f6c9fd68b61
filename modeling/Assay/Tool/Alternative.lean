import Assay.Tool.Work

/-!
# Alternatives

The value of an option may be a name, one of several. A name may be cut short as long as all names
that it begins mean the same.
-/

namespace Assay.Tool

open Text (Octets)

open Work

/-- Something to choose, under one of its names. -/
structure Alternative (α : Type) where
  names : List String
  meaning : α

namespace Alternative

variable {α : Type} [DecidableEq α]

/-- What a name means. If it is none, `none` if nothing begins with it, and the first meaning if it
may mean several things. -/
def ofName (all : List (Alternative α)) (name : Octets) : Except (Option α) α :=
  let named := all.flatMap fun a => a.names.map (·, a.meaning)
  match named.find? (·.1.toList == name), named.filter (name.isPrefixOf ·.1.toList) with
  | some (_, meaning), _ => .ok meaning
  | none, [] => .error none
  | none, (_, first) :: others =>
    if others.all (·.2 == first) then .ok first else .error (some first)

/-- The list of all names. Those of one alternative stand in one line. -/
def listing (all : List (Alternative α)) : Octets :=
  octets "Valid arguments are:\n" ++ all.flatMap fun a =>
    octets "  - " ++ (octets ", ").intercalate (a.names.map fun n => Name.curved (octets n)) ++
      ['\n']

/-- What a name means as the value of an option. A name that means nothing is told, and `refuse`
ends the tool. -/
def choose (context : String) (all : List (Alternative α)) (refuse : Work α) (name : Octets) :
    Work α := do
  match ofName all name with
  | .ok meaning => pure meaning
  | .error found =>
    complain (octets (if found.isSome then "ambiguous" else "invalid") ++ octets " argument " ++
      Name.curved name ++ octets " for " ++ Name.curved (octets context))
    let _ ← write 2 (listing all)
    refuse

end Alternative

end Assay.Tool
