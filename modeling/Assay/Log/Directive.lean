import Assay.Log
import Assay.Log.ValuePattern
import Assay.Text.Alphanumeric
import Assay.Text.Blank

/-!
# Directives of a log filter

A directive is a level (`info`), or a scope, or a scope and a level (`golden_harness=debug`); a
level is named, in letters of either case, or numbered from 0 (`off`) to 5 (`trace`). A scope is a
target, or a span in brackets, or both (`golden_harness::cli`, `[run_case]`, `golden_harness[run]`).
A target covers everything whose origin begins with it. In brackets stand the name of a span, or a
field in braces, or both; a field may be tied to a value.
-/

namespace Assay.Log

open Text (Regex)

/-- How much is shown: events whose rank is at most the threshold. -/
abbrev Threshold := Nat

/-- What is asked of the value of a field. -/
inductive ValueTest where
  /-- A number. Only fields that are numbers have it. -/
  | number (n : Nat)
  /-- A truth value or another number, which no field has. -/
  | foreign (written : List Char)
  /-- A text that a pattern matches. Only fields that are texts have it. -/
  | pattern (written : List Char) (e : Regex)
deriving DecidableEq, Repr

/-- What is asked of a field: that there is one of its name, and perhaps its value. -/
structure FieldTest where
  name : List Char
  value : Option ValueTest
deriving DecidableEq, Repr

/-- A directive of a filter. -/
structure Directive where
  /-- What the origin of an event or a span must begin with. -/
  target : Option (List Char)
  /-- The name of a span. -/
  span : Option (List Char)
  field : Option FieldTest
  threshold : Threshold
deriving DecidableEq, Repr

/-- Whether a value passes a test. -/
def ValueTest.accepts : ValueTest → FieldValue → Bool
  | .number n, .number m => n == m
  | .pattern _ e, .text s => ValuePattern.accepts e s.toList
  | _, _ => false

namespace Directive

/-- The threshold that shows everything. -/
def everything : Threshold := 5

/-! ### Reading levels -/

/-- The threshold of a level's name. -/
def thresholdOfName (name : List Char) : Option Threshold :=
  match String.ofList (name.map Char.toLower) with
  | "" | "error" => some 1
  | "warn" => some 2
  | "info" => some 3
  | "debug" => some 4
  | "trace" => some everything
  | "off" => some 0
  | _ => none

/-- The number of a sequence of digits, which a plus sign may begin. -/
def number? (s : List Char) : Option Nat :=
  let digits := if s.head? == some '+' then s.tail else s
  if digits = [] ∨ digits.any (!·.isDigit) then none
  else some (digits.foldl (fun n c => 10 * n + (c.toNat - '0'.toNat)) 0)

/-- The threshold that a text names or numbers. -/
def threshold? (s : List Char) : Option Threshold :=
  match number? s with
  | some n => if n ≤ everything then some n else none
  | none => thresholdOfName s

/-- The threshold that is written after a scope. Nothing shows everything. -/
def written? (s : List Char) : Option Threshold :=
  if s = [] then some everything else threshold? s

/-! ### Reading fields -/

/-- The least number that is not the value of a field. -/
def numberLimit : Nat := 18446744073709551616

/-- The text after digits, and whether there were any. -/
def afterDigits (s : List Char) : Bool × List Char :=
  (s.head?.any Char.isDigit, s.dropWhile Char.isDigit)

/-- Whether a text is nothing or an exponent. -/
def isExponent : List Char → Bool
  | [] => true
  | e :: rest =>
    let digits := match rest with
      | '+' :: rest => rest
      | '-' :: rest => rest
      | rest => rest
    (e == 'e' || e == 'E') && afterDigits digits == (true, [])

/-- Whether a text is a number with a sign, a fraction or an exponent, or names what is no finite
number. -/
def isFraction (s : List Char) : Bool :=
  let body := match s with
    | '+' :: rest => rest
    | '-' :: rest => rest
    | s => s
  let (whole, rest) := afterDigits body
  let (part, rest) := match rest with
    | '.' :: rest => afterDigits rest
    | rest => (false, rest)
  ["inf", "infinity", "nan"].contains (String.ofList (body.map Char.toLower)) ||
    ((whole || part) && isExponent rest)

/-- What a text asks of a value: a truth value and a number are taken as what they are, and every
other text as a pattern. -/
def valueTest? (s : List Char) : Option ValueTest :=
  if s = "true".toList ∨ s = "false".toList then some (.foreign s)
  else
    match number? s with
    | some n => some (if n < numberLimit then .number n else .foreign s)
    | none =>
      if isFraction s then some (.foreign s)
      else (ValuePattern.read? s).map (.pattern s)

/-- What a text between braces asks of a field: its name and, after `=`, its value. What a second
`=` begins is passed over. -/
def fieldTest? (s : List Char) : Option FieldTest :=
  if s = [] then none
  else
    match Text.split '=' s with
    | name :: value :: _ => (valueTest? value).map fun v => ⟨name, some v⟩
    | _ => some ⟨s, none⟩

/-! ### Reading directives -/

/-- Whether a directive may begin with a character. -/
def mayBegin (c : Char) : Bool := ['-', ':', '_', '['].contains c || Text.isAlphanumeric c

/-- A directive as it is written. Its parts are found in the text without the blanks around it, but
counted off from the beginning of the whole: blanks in front move every part towards the front, and
blanks behind belong to the last part. -/
structure Written where
  whole : List Char
deriving DecidableEq, Repr

namespace Written

/-- The part between two positions. -/
def part (w : Written) (first last : Nat) : List Char := (w.whole.drop first).take (last - first)

/-- The last part, from a position on. -/
def lastPart (w : Written) (first : Nat) : List Char := w.whole.drop first

/-- Ends a directive whose scope ends at a position: nothing follows, or `=` and a level. -/
def withLevel? (w : Written) (d : Directive) (position : Nat) : List Char → Option Directive
  | [] => some d
  | '=' :: _ => (written? (w.lastPart (position + 1))).map fun threshold => { d with threshold }
  | _ => none

/-- Reads what follows the opening bracket, which stands in front of a position. -/
def spanDirective? (w : Written) (target : Option (List Char)) (position : Nat) (s : List Char) :
    Option Directive :=
  let nameEnd := position + (s.takeWhile fun c => c != ']' && c != '\x7b').length
  let name := w.part position nameEnd
  match s.drop (nameEnd - position) with
  | ']' :: rest => w.withLevel? ⟨target, some name, none, everything⟩ (nameEnd + 1) rest
  | '\x7b' :: rest => do
    let fieldEnd := nameEnd + 1 + (rest.takeWhile (· != '\x7d')).length
    let field ← fieldTest? (w.part (nameEnd + 1) fieldEnd)
    match rest.drop (fieldEnd - nameEnd - 1) with
    | '\x7d' :: ']' :: rest =>
      let span := if name = [] then none else some name
      w.withLevel? ⟨target, span, some field, everything⟩ (fieldEnd + 2) rest
    | _ => none
  | _ => none

/-- The directive, if it has no mistake. A text alone is a level, or else a target that shows
everything. -/
def directive? (w : Written) : Option Directive :=
  let s := Text.trim w.whole
  if !(s.head?.any mayBegin) then none
  else
    let targetEnd := (s.takeWhile fun c => c != '=' && c != '[').length
    let target := w.part 0 targetEnd
    match s.drop targetEnd with
    | '[' :: rest =>
      w.spanDirective? (if targetEnd = 0 then none else some target) (targetEnd + 1) rest
    | [] =>
      match threshold? w.whole with
      | some threshold => some ⟨none, none, none, threshold⟩
      | none => some ⟨some w.whole, none, none, everything⟩
    | rest => w.withLevel? ⟨some target, none, none, everything⟩ targetEnd rest

end Written

/-! ### What a directive covers -/

/-- Whether a text begins with what a directive asks of it. -/
def coversOrigin (d : Directive) (origin : String) : Bool :=
  d.target.all (·.isPrefixOf origin.toList)

/-- Whether a directive is one for spans. -/
def isForSpans (d : Directive) : Bool := d.span.isSome || d.field.isSome

/-- Whether a directive decides by itself. -/
def decides (d : Directive) : Bool :=
  d.span.isNone && d.field.all (·.value.isNone)

/-- Whether a directive is for a span, its value aside. -/
def isFor (d : Directive) (span : Span) : Bool :=
  d.isForSpans && d.coversOrigin span.origin && d.span.all (· == span.name.toList) &&
    d.field.all fun f => span.fields.any (·.1.toList == f.name)

/-- Whether a span has the value that a directive for it asks for. -/
def acceptsValue (d : Directive) (span : Span) : Bool :=
  d.field.all fun f => f.value.all fun test =>
    span.fields.any fun (name, value) => name.toList == f.name && test.accepts value

/-- Whether two directives have the same scope. -/
def sameScope (a b : Directive) : Bool :=
  a.target == b.target && a.span == b.span && a.field == b.field

/-- How exact a directive is: whether it has a target and how long that is, and whether it has a
field. -/
def weight (d : Directive) : Nat :=
  2 * (match d.target with
    | some target => target.length + 1
    | none => 0) + if d.field.isSome then 1 else 0

/-- Whether a directive's field stands behind that of another one in order. -/
def fieldAfter (a b : Directive) : Bool :=
  let nameOf (d : Directive) : String := String.ofList ((d.field.map (·.name)).getD [])
  decide (nameOf b < nameOf a)

/-- The name of the field that holds an event's message. -/
def messageField : String := "message"

/-- Whether an event has the field that a directive asks for. -/
def coversEvent (d : Directive) (event : Event) : Bool :=
  d.coversOrigin event.origin &&
    d.field.all fun f => (messageField :: event.fields.map (·.1)).any (·.toList == f.name)

end Directive

end Assay.Log
