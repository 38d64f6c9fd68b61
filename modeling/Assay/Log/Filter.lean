import Assay.Log.Directive

/-!
# Which events are shown

The user chooses by a comma-separated list of directives.

A directive that says nothing of a span's name or of a value decides by itself: of all such
directives that cover an event, the one with the longest target decides, and of several the last. An
event that none of them covers is not shown. The others show what happens within the spans that they
cover: the level of a span is the highest that a directive for it has, and an event is shown if a
span around it has its level.

An empty list shows errors; a list with a mistake in it counts as none, and then warnings and errors
are shown.
-/

namespace Assay.Log

/-- A filter of events. -/
abbrev Filter := List Directive

namespace Filter

/-- The filter with one threshold for all events. -/
def upTo (threshold : Threshold) : Filter := [⟨none, none, none, threshold⟩]

/-- The filter that shows nothing. -/
def off : Filter := upTo 0

/-- The filter where the user chose none. -/
def default : Filter := upTo Level.warn.rank

/-- The list of directives that a text is, if it has no mistake. -/
def parse? (s : List Char) : Option Filter :=
  match (Text.split ',' s).filter (· ≠ []) with
  | [] => some (upTo Level.error.rank)
  | directives => directives.mapM fun whole => Directive.Written.directive? ⟨whole⟩

/-- The filter for what the user chose. -/
def ofChoice (choice : Option String) : Filter :=
  (choice.bind fun text => parse? text.toList).getD default

/-! ### Which spans count -/

/-- The directives for spans. Of several with the same scope, the last counts. -/
def forSpans (filter : Filter) : List Directive :=
  (filter.filter (·.isForSpans)).foldl (fun kept d => kept.filter (!d.sameScope ·) ++ [d]) []

/-- The directives that decide by themselves. Those with a field come last. -/
def deciding (filter : Filter) : List Directive :=
  let (last, first) := (filter.filter (·.decides)).partition (·.isForSpans)
  first ++ last

/-- The highest threshold of some directives. -/
def highest (directives : List Directive) : Threshold :=
  directives.foldl (fun n d => max n d.threshold) 0

/-- The level that a span has for what happens in it, if there is a directive for it. -/
def levelOf? (filter : Filter) (span : Span) : Option Threshold :=
  let directives := filter.forSpans.filter (·.isFor span)
  if directives.isEmpty then none else some (highest (directives.filter (·.acceptsValue span)))

/-- The rank up to which anything is looked at. Where values are asked for, that is everything. -/
def limit (filter : Filter) : Threshold :=
  if filter.any fun d => d.field.any (·.value.isSome) then Directive.everything
  else max (highest filter.deciding) (highest filter.forSpans)

/-! ### Which events are shown -/

/-- The better of two directives: the more exact one, of equally exact ones that with the field
that comes later in order, and of two with the same scope the later one. -/
def better (best : Option Directive) (d : Directive) : Option Directive :=
  match best with
  | none => some d
  | some b =>
    if d.weight < b.weight || (d.weight == b.weight && Directive.fieldAfter b d) then some b
    else some d

/-- Whether the best of some directives shows a rank. -/
def decide? (directives : List Directive) (rank : Nat) : Bool :=
  match directives.foldl better none with
  | some d => rank ≤ d.threshold
  | none => false

/-- Whether something is shown because of a span around it. -/
def byScope (filter : Filter) (scope : List Threshold) (rank : Nat) : Bool :=
  rank ≤ highest filter.forSpans && scope.any (rank ≤ ·)

/-- Whether a span counts among those around an event, given the levels of the spans around it. -/
def entersSpan (filter : Filter) (scope : List Threshold) (span : Span) : Bool :=
  Span.level.rank ≤ filter.limit &&
    ((filter.levelOf? span).isSome || filter.byScope scope Span.level.rank ||
      decide? (filter.deciding.filter (·.coversOrigin span.origin)) Span.level.rank)

/-- Of the spans around an event those that count, and the levels that they have. -/
def enter (filter : Filter) (within : List Span) : List Span × List Threshold :=
  within.foldl (fun (spans, scope) span =>
    if filter.entersSpan scope span then
      (spans ++ [span], scope ++ (filter.levelOf? span).toList)
    else (spans, scope)) ([], [])

/-- Whether an event is shown, given the levels of the spans around it. -/
def showsEvent (filter : Filter) (scope : List Threshold) (event : Event) : Bool :=
  event.level.rank ≤ filter.limit &&
    (decide? (filter.deciding.filter (·.coversEvent event)) event.level.rank ||
      filter.byScope scope event.level.rank)

/-- The text of an entry, if it is shown. -/
def text? (filter : Filter) (entry : Entry) : Option String :=
  let (spans, scope) := filter.enter entry.within
  if filter.showsEvent scope entry.event then some (entry.text spans) else none

end Filter

end Assay.Log
