import Assay.Tool.Alternative
import Assay.Tool.Argument
import Assay.Tool.Copy.Backup

/-!
# How files are copied

The options of `cp`, and the plan that they make.
-/

namespace Assay.Tool.Copy

open Text (Octets)

open Work

/-- Which links are followed. -/
inductive Following where
  | always
  | operands
  | never
deriving DecidableEq, Repr

/-- What is made. -/
inductive Product where
  | copies
  /-- Other places for the same files. -/
  | hardLinks
  | links
deriving DecidableEq, Repr

/-- When a file that is there already is overwritten. -/
inductive Overwriting where
  | always
  | ifAgreed
  | never
deriving DecidableEq, Repr

/-- How files are copied. -/
structure Plan where
  recursive : Bool
  following : Following
  product : Product
  overwriting : Overwriting
  /-- Whether only what is newer is copied. -/
  updates : Bool
  /-- Whether a file that cannot be opened is removed first. -/
  forces : Bool
  /-- Whether a file is removed in any case. -/
  removes : Bool
  backup : Option Backup
  suffix : Octets
  keepsTimes : Bool
  keepsModes : Bool
  /-- Whether new files get the permissions that are usual. -/
  dropsModes : Bool
  /-- Whether files that are one are one after copying, too. -/
  keepsLinks : Bool
  /-- Whether what files hold is copied. -/
  copiesData : Bool
  /-- Whether what files hold must be shared with the copies. -/
  clones : Bool
  verbose : Bool

/-- What an option asks for. -/
inductive Wish where
  | archive
  | dataless
  | backup
  | copyContents
  | followAlways
  | followOperands
  | followNever
  | keepLinks
  | keep
  | drop
  | force
  | ask
  | never
  | recursive
  | hardLinks
  | links
  | into
  | asFile
  | update
  | verbose
  | remove
  | strip
  | parents
  | sparse
  | clone
  | suffix
  | securityContext
  | oneFileSystem
  | help
deriving DecidableEq, Repr

/-- The options. -/
def choices : List (Choice Wish) :=
  [⟨.archive, "a", ["archive"], .nothing⟩, ⟨.dataless, "", ["attributes-only"], .nothing⟩,
    ⟨.backup, "", ["backup"], .perhaps⟩, ⟨.backup, "b", [], .nothing⟩,
    ⟨.copyContents, "", ["copy-contents"], .nothing⟩,
    ⟨.followAlways, "L", ["dereference"], .nothing⟩, ⟨.force, "f", ["force"], .nothing⟩,
    ⟨.ask, "i", ["interactive"], .nothing⟩, ⟨.hardLinks, "l", ["link"], .nothing⟩,
    ⟨.never, "n", ["no-clobber"], .nothing⟩, ⟨.followNever, "P", ["no-dereference"], .nothing⟩,
    ⟨.drop, "", ["no-preserve"], .value⟩, ⟨.asFile, "T", ["no-target-directory"], .nothing⟩,
    ⟨.oneFileSystem, "x", ["one-file-system"], .nothing⟩,
    ⟨.parents, "", ["parents", "path"], .nothing⟩, ⟨.keep, "", ["preserve"], .perhaps⟩,
    ⟨.recursive, "rR", ["recursive"], .nothing⟩,
    ⟨.remove, "", ["remove-destination"], .nothing⟩, ⟨.sparse, "", ["sparse"], .value⟩,
    ⟨.clone, "", ["reflink"], .perhaps⟩,
    ⟨.strip, "", ["strip-trailing-slashes"], .nothing⟩, ⟨.suffix, "S", ["suffix"], .value⟩,
    ⟨.links, "s", ["symbolic-link"], .nothing⟩, ⟨.into, "t", ["target-directory"], .value⟩,
    ⟨.update, "u", ["update"], .nothing⟩, ⟨.verbose, "v", ["verbose"], .nothing⟩,
    ⟨.securityContext, "", ["context"], .perhaps⟩, ⟨.securityContext, "Z", [], .nothing⟩,
    ⟨.help, "", ["help", "version"], .nothing⟩, ⟨.keep, "p", [], .nothing⟩,
    ⟨.keepLinks, "d", [], .nothing⟩, ⟨.followOperands, "H", [], .nothing⟩]

/-- Something of a file that can be kept. -/
inductive Attribute where
  | mode
  | timestamps
  | ownership
  | links
  | context
  | extended
  | all
deriving DecidableEq, Repr

/-- The attributes that can be kept. -/
def attributes : List (Alternative Attribute) :=
  [⟨["mode"], .mode⟩, ⟨["timestamps"], .timestamps⟩, ⟨["ownership"], .ownership⟩,
    ⟨["links"], .links⟩, ⟨["context"], .context⟩, ⟨["xattr"], .extended⟩, ⟨["all"], .all⟩]

/-- When something is done. -/
inductive Occasion where
  | auto
  | always
  | never
deriving DecidableEq, Repr

/-- The ways to make backups. -/
def backups : List (Alternative (Option Backup)) :=
  [⟨["none", "off"], none⟩, ⟨["simple", "never"], some .simple⟩,
    ⟨["existing", "nil"], some .existing⟩, ⟨["numbered", "t"], some .numbered⟩]

/-- What was asked for. -/
structure Settings where
  plan : Plan
  /-- Whether links are followed, if that was said. -/
  following : Option Following
  /-- Whether backups are made, and how. -/
  backup : Option Octets
  suffix : Option Octets
  into : Option Octets
  asFile : Bool
  strips : Bool
  parents : Bool
  sparse : Occasion
  hardLinks : Bool
  links : Bool
  needsContext : Bool

/-- Nothing was asked for. -/
def Settings.plain : Settings where
  plan :=
    { recursive := false, following := .always, product := .copies, overwriting := .always
      updates := false, forces := false, removes := false, backup := none, suffix := usualSuffix
      keepsTimes := false, keepsModes := false, dropsModes := false, keepsLinks := false
      copiesData := true, clones := false, verbose := false }
  following := none
  backup := none
  suffix := none
  into := none
  asFile := false
  strips := false
  parents := false
  sparse := .auto
  hardLinks := false
  links := false
  needsContext := false

/-- Tells where to read about the tool, and ends it. -/
def refuse {α : Type} : Work α := do
  hint
  quit 1

/-- Settings in which attributes are kept or not. -/
def Settings.keep (s : Settings) (keeps : Bool) (names : Option Octets) : Work Settings := do
  let some names := names
    | return { s with plan := { s.plan with
        keepsModes := true, keepsTimes := true, dropsModes := false } }
  (Text.split ',' names).foldlM (fun s name => do
    let context := if keeps then "--preserve" else "--no-preserve"
    let p := s.plan
    match ← Alternative.choose context attributes refuse name with
    | .mode => pure { s with plan := { p with keepsModes := keeps, dropsModes := !keeps } }
    | .timestamps => pure { s with plan := { p with keepsTimes := keeps } }
    | .links => pure { s with plan := { p with keepsLinks := keeps } }
    | .context => pure { s with needsContext := keeps }
    | .all =>
      pure { s with plan := { p with
        keepsModes := keeps, dropsModes := !keeps, keepsTimes := keeps, keepsLinks := keeps } }
    | .ownership | .extended => pure s) s

/-- Settings with a wish fulfilled. -/
def Settings.with (s : Settings) (wish : Wish) (value : Option Octets) : Work Settings := do
  let p := s.plan
  match wish with
  | .archive =>
    pure { s with
      following := some .never
      plan := { p with
        recursive := true, keepsLinks := true, keepsModes := true, keepsTimes := true } }
  | .dataless => pure { s with plan := { p with copiesData := false } }
  | .backup => pure { s with backup := value <|> s.backup <|> some [] }
  | .suffix => pure { s with backup := s.backup <|> some [], suffix := value }
  | .followAlways => pure { s with following := some .always }
  | .followOperands => pure { s with following := some .operands }
  | .followNever => pure { s with following := some .never }
  | .keepLinks => pure { s with following := some .never, plan := { p with keepsLinks := true } }
  | .keep => s.keep true value
  | .drop => s.keep false value
  | .force => pure { s with plan := { p with forces := true } }
  | .ask => pure { s with plan := { p with overwriting := .ifAgreed } }
  | .never => pure { s with plan := { p with overwriting := .never } }
  | .recursive => pure { s with plan := { p with recursive := true } }
  | .hardLinks => pure { s with hardLinks := true }
  | .links => pure { s with links := true }
  | .into =>
    if s.into.isSome then fail 1 (octets "multiple target directories specified")
    pure { s with into := value }
  | .asFile => pure { s with asFile := true }
  | .update => pure { s with plan := { p with updates := true } }
  | .verbose => pure { s with plan := { p with verbose := true } }
  | .remove => pure { s with plan := { p with removes := true } }
  | .strip => pure { s with strips := true }
  | .parents => pure { s with parents := true }
  | .sparse => do
    let occasion ← Alternative.choose "--sparse"
      [⟨["never"], .never⟩, ⟨["auto"], .auto⟩, ⟨["always"], Occasion.always⟩] refuse
      (value.getD [])
    pure { s with sparse := occasion }
  | .clone => do
    let occasion ← match value with
      | none => pure Occasion.always
      | some value =>
        Alternative.choose "--reflink"
          [⟨["auto"], .auto⟩, ⟨["always"], .always⟩, ⟨["never"], Occasion.never⟩] refuse value
    pure { s with plan := { p with clones := occasion = .always } }
  | .securityContext => do
    if value.isSome then
      complain (octets ("warning: ignoring --context; " ++
        "it requires an SELinux-enabled kernel"))
    pure s
  | .copyContents | .oneFileSystem => pure s
  | .help => quit 0

/-- The plan of what was asked for. Some wishes go against each other. -/
def Settings.toPlan (s : Settings) : Work Plan := do
  if s.hardLinks && s.links then misuse (octets "cannot make both hard and symbolic links")
  if s.backup.isSome && s.plan.overwriting = .never then
    misuse (octets "options --backup and --no-clobber are mutually exclusive")
  if s.plan.clones && s.sparse != .auto then
    misuse (octets "--reflink can be used only with --sparse=auto")
  let backup ← match s.backup with
    | none => pure none
    | some [] => pure (some Backup.existing)
    | some name => Alternative.choose "backup type" backups refuse name
  if s.needsContext then
    fail 1 (octets "cannot preserve security context without an SELinux-enabled kernel")
  pure { s.plan with
    following := s.following.getD
      (if s.plan.recursive && !s.hardLinks then .never else .always)
    product := if s.hardLinks then .hardLinks else if s.links then .links else .copies
    updates := s.plan.updates && s.plan.overwriting != .never
    backup
    suffix := (s.suffix.filter fun t => !t.isEmpty && !t.contains '/').getD usualSuffix }

end Assay.Tool.Copy
