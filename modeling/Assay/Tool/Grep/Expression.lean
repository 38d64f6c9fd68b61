import Assay.Text.Regex

/-!
# Expressions for searching

An expression is written in one of two ways. In the basic one, `\(`, `\)`, `\{`, `\}`, `\|`, `\+`
and `\?` group, repeat and choose, and the bare characters stand for themselves; in the
extended one it is the other way round. In a basic expression `^` and `$` tie the match to the ends
of a line only where the expression or a group begins or ends.

What a repetition repeats where nothing stands in front of it can be said in two manners. In the
strict one an anchor cannot be repeated. A sign that has nothing to repeat stands for itself in a
basic expression, and is passed over in an extended one. In the loose manner an anchor can be
repeated, unless only anchors stand in front of it; then a basic sign stands for itself, and an
extended one repeats what there is, which is warned of.

`Expression.read` reads in both manners: the loose one tells which lines match, where the expression
is simple enough, and the strict one tells which parts of them do.
-/

namespace Assay.Tool.Grep

open Text (Anchor CharClass CharSet Regex)

/-- Why an expression is refused. -/
inductive Refusal where
  | incomplete
  | collation
  | characterClass
  | trailingBackslash
  | backReference
  | openBracket
  | openGroup
  | openInterval
  | interval
  | rangeEnd
  | tooBig
  /-- The interval makes no sense in the loose manner. -/
  | looseInterval
  /-- The number is too great in the loose manner. -/
  | looseTooBig
  | closedGroup
  | bareClass
deriving DecidableEq, Repr

/-- The text of a refusal. -/
def Refusal.message : Refusal → String
  | incomplete => "Invalid regular expression"
  | collation => "Invalid collation character"
  | characterClass => "Invalid character class name"
  | trailingBackslash => "Trailing backslash"
  | backReference => "Invalid back reference"
  | openBracket => "Unmatched [, [^, [:, [., or [="
  | openGroup => "Unmatched ( or \\("
  | openInterval => "Unmatched \\\x7b"
  | interval => "Invalid content of \\\x7b\\\x7d"
  | rangeEnd => "Invalid range end"
  | tooBig => "Regular expression too big"
  | looseInterval => "invalid content of \\\x7b\\\x7d"
  | looseTooBig => "regular expression too big"
  | closedGroup => "Unmatched ) or \\)"
  | bareClass => "character class syntax is [[:space:]], not [:space:]"

/-- How expressions are written and read. -/
structure Manner where
  /-- Whether the bare characters group, repeat and choose. -/
  extended : Bool
  /-- Whether small and capital letters are the same. -/
  fold : Bool
  /-- Whether an anchor cannot be repeated. -/
  strict : Bool

namespace Manner

/-- What a character stands for: where the case does not matter, its capital letter. -/
def letter (m : Manner) (c : Char) : Char := if m.fold then CharClass.capital c else c

/-- What a named class stands for. -/
def classOf (m : Manner) (k : CharClass) : CharClass :=
  if m.fold && (k == .upper || k == .lower) then .alpha else k

end Manner

/-! ### Sets of characters -/

/-- A member of a set: a character, which may begin a range, a character that may not, or a
class. -/
inductive Member where
  | char (c : Char)
  | alone (c : Char)
  | named (k : CharClass)

/-- The name between two marks, after the opening one, and what follows the closing one. -/
def delimited (mark : Char) : List Char → Except Refusal (List Char × List Char)
  | [] | [_] => .error .openBracket
  | c :: d :: rest =>
    if c = mark && d = ']' then .ok ([], rest)
    else do
      let (name, rest) ← delimited mark (d :: rest)
      pure (c :: name, rest)

/-- Reads a member. `first` tells that nothing came before it, `ends` that it ends a range. -/
def member (m : Manner) (first ends : Bool) : List Char → Except Refusal (Member × List Char)
  | [] => .error .openBracket
  | '[' :: mark :: rest =>
    if mark = ':' then do
      let (name, rest) ← delimited mark rest
      match CharClass.ofName? name with
      | some k => pure (.named (m.classOf k), rest)
      | none => throw .characterClass
    else if mark = '.' || mark = '=' then do
      let (name, rest) ← delimited mark rest
      match name with
      | [c] =>
        if 0x80 ≤ c.toNat then throw .collation
        else pure (if mark = '=' then .alone (m.letter c) else .char (m.letter c), rest)
      | _ => throw .collation
    else pure (.char '[', mark :: rest)
  | '-' :: rest =>
    if first || ends || rest.head? == some ']' then .ok (.char '-', rest) else .error .rangeEnd
  | c :: rest => .ok (.char (m.letter c), rest)

/-- What was read of a set. -/
structure Members where
  ranges : List (Char × Char)
  classes : List CharClass

namespace Members

/-- The members with one more range. -/
def range (s : Members) (low high : Char) : Members := { s with ranges := (low, high) :: s.ranges }

end Members

/-- Reads the members of a set up to the closing bracket. -/
def members (m : Manner) :
    Nat → (first : Bool) → Members → List Char → Except Refusal (Members × List Char)
  | 0, _, _, _ => .error .openBracket
  | _, _, _, [] => .error .openBracket
  | n + 1, first, s, c :: rest => do
    if c = ']' && !first then return (s, rest)
    let (start, after) ← member m first false (c :: rest)
    match start, after with
    | .named k, after => members m n false { s with classes := k :: s.classes } after
    | .alone c, after => members m n false (s.range c c) after
    | .char _, [] => throw .openBracket
    | .char _, ['-'] => throw .openBracket
    | .char low, '-' :: d :: after =>
      if d = ']' then members m n false (s.range low low) ('-' :: d :: after)
      else
        match ← member m false true (d :: after) with
        | (.char high, after) =>
          if 0x80 ≤ low.toNat || 0x80 ≤ high.toNat then throw .collation
          if high < low then throw .rangeEnd
          members m n false (s.range low high) after
        | _ => throw .rangeEnd
    | .char c, after => members m n false (s.range c c) after

/-- Whether what stands between brackets looks like a class without its own brackets. -/
def isBareClass (body : List Char) : Bool :=
  match body, body.reverse with
  | ':' :: middle, ':' :: _ => 2 ≤ middle.length && !middle.contains '[' &&
      !(middle.dropLast.drop 1).contains '-'
  | _, _ => false

/-- Reads a set, after the opening bracket. -/
def set (m : Manner) (s : List Char) : Except Refusal (CharSet × Bool × List Char) := do
  let (negated, body) := match s with
    | '^' :: rest => (true, rest)
    | s => (false, s)
  if body.isEmpty then throw .incomplete
  let (found, after) ← members m (body.length + 1) true ⟨[], []⟩ body
  let text := body.take (body.length - after.length - 1)
  pure (.oneOf negated found.ranges found.classes, isBareClass text, after)

/-! ### Intervals -/

/-- The greatest number of repetitions. -/
def repetitionLimit : Nat := 32767

/-- A number in an interval. -/
inductive Bound where
  | missing
  | wrong
  | number (n : Nat)
deriving DecidableEq, Repr

/-- The end of a bound. -/
inductive BoundEnd where
  | comma
  | close
  | never
deriving DecidableEq, Repr

/-- Reads a bound of an interval. -/
def bound (extended : Bool) : Bound → List Char → Bound × BoundEnd × List Char
  | _, [] => (.wrong, .never, [])
  | b, ',' :: rest => (b, .comma, rest)
  | b, c :: rest =>
    if extended && c = '\x7d' then (b, .close, rest)
    else if !extended && c = '\\' && rest.head? == some '\x7d' then (b, .close, rest.tail)
    else
      let b := match b with
        | .wrong => .wrong
        | .missing => if c.isDigit then .number (c.toNat - '0'.toNat) else .wrong
        | .number n =>
          if c.isDigit then .number (min (n * 10 + (c.toNat - '0'.toNat)) (repetitionLimit + 1))
          else .wrong
      bound extended b rest

/-- Reads an interval, after what opens it. An extended one that makes no sense is none. -/
def interval (extended : Bool) (s : List Char) :
    Except Refusal (Option (Nat × Option Nat × List Char)) := do
  let (low, lowEnd, rest) := bound extended .missing s
  let least ← match low, lowEnd with
    | .missing, .comma => pure (some 0)
    | .missing, _ => throw Refusal.interval
    | .wrong, _ => pure none
    | .number n, _ => pure (some n)
  let (high, highEnd, rest) := match lowEnd with
    | .close => (low, lowEnd, rest)
    | _ => bound extended .missing rest
  match least, high with
  | none, _ | _, .wrong =>
    if extended then pure none
    else throw (if lowEnd = .never || highEnd = .never then .openInterval else .interval)
  | some least, high =>
    let most := match high with
      | .number n => some n
      | _ => none
    if most.any (· < least) || highEnd != .close then throw .interval
    if repetitionLimit < most.getD least then throw .tooBig
    pure (some (least, most, rest))

/-- Reads an interval in a manner. -/
def Manner.interval (m : Manner) (s : List Char) :
    Except Refusal (Option (Nat × Option Nat × List Char)) :=
  match Grep.interval m.extended s with
  | .error .tooBig => .error (if m.strict then .tooBig else .looseTooBig)
  | .error e =>
    if m.strict then .error e else if m.extended then .ok none else .error .looseInterval
  | found => found

/-! ### Expressions -/

/-- How far an expression was read. -/
structure Reading where
  rest : List Char
  /-- The groups that were opened. -/
  opened : Nat
  /-- The groups that were closed. -/
  closed : List Nat
  warnings : List String
  /-- Whether a class stands without its own brackets. -/
  bare : Bool

/-- A part of an expression. -/
inductive Lexeme where
  | literal (c : Char)
  | set (s : CharSet)
  | anchor (kind : Anchor)
  | openGroup
  | closeGroup
  | choice
  | repetition (least : Nat) (most : Option Nat) (sign : String)
  /-- The sign of a repetition that is passed over. -/
  | idle
  | reference (n : Nat)

/-- What a backslash makes of a character, in either way of writing. -/
def escaped (c : Char) : Lexeme :=
  match c with
  | 'w' => .set (.oneOf false [] [.word])
  | 'W' => .set (.oneOf true [] [.word])
  | 's' => .set (.oneOf false [] [.space])
  | 'S' => .set (.oneOf true [] [.space])
  | '<' => .anchor .wordStart
  | '>' => .anchor .wordEnd
  | 'b' => .anchor .boundary
  | 'B' => .anchor .noBoundary
  | '\x60' => .anchor .start
  | '\'' => .anchor .finish
  | c => if '1' ≤ c && c ≤ '9' then .reference (c.toNat - '0'.toNat) else .literal c

/-- A character that groups or chooses, after its backslash if it has one. -/
def grouping? (c : Char) : Option Lexeme :=
  match c with
  | '(' => some .openGroup
  | ')' => some .closeGroup
  | '|' => some .choice
  | _ => none

/-- What an interval is called in a warning. -/
def intervalSign : String := "\x7b...\x7d"

/-- A character that repeats, after its backslash if it has one. -/
def repetition? (m : Manner) (c : Char) (rest : List Char) :
    Except Refusal (Option (Lexeme × List Char)) := do
  match c with
  | '+' => pure (some (.repetition 1 none "+", rest))
  | '?' => pure (some (.repetition 0 (some 1) "?", rest))
  | '\x7b' =>
    match ← m.interval rest with
    | some (least, most, rest) => pure (some (.repetition least most intervalSign, rest))
    | none => pure none
  | _ => pure none

/-- Whether a character repeats, after its backslash if it has one. -/
def repeats (c : Char) : Bool := c = '+' || c = '?' || c = '\x7b'

/-- A character that groups, repeats or chooses, after its backslash if it has one. `nothing` tells
that there is nothing yet that could be repeated. -/
def operator (m : Manner) (nothing : Bool) (c : Char) (rest : List Char) :
    Except Refusal (Option (Lexeme × List Char)) :=
  if nothing && repeats c && !m.extended then .ok (some (.literal c, rest))
  else if nothing && repeats c && m.strict then .ok (some (.idle, rest))
  else
    match grouping? c with
    | some l => .ok (some (l, rest))
    | none => repetition? m c rest

/-- Whether a `$` in front of this ends a basic expression, a group or a choice. -/
def endsBasic : List Char → Bool
  | [] => true
  | '\\' :: c :: _ => c = ')' || c = '|'
  | _ => false

/-- Reads one lexeme. `first` tells that `^` is an anchor here in a basic expression, `nothing` that
there is nothing yet that could be repeated. -/
def lexeme (m : Manner) (first nothing : Bool) (r : Reading) :
    Except Refusal (Option (Lexeme × Reading)) := do
  let reached (rest : List Char) (l : Lexeme) : Option (Lexeme × Reading) :=
    some (l, { r with rest })
  match r.rest with
  | [] => pure none
  | ['\\'] => throw .trailingBackslash
  | '\\' :: c :: rest =>
    if m.extended then pure (reached rest (escaped c))
    else
      match ← operator m nothing c rest with
      | some (l, rest) => pure (reached rest l)
      | none => pure (reached rest (escaped c))
  | '[' :: rest =>
    let (found, bare, after) ← set m rest
    pure (some (.set found, { r with rest := after, bare := r.bare || bare }))
  | '.' :: rest => pure (reached rest (.set .any))
  | '*' :: rest =>
    if nothing && !m.extended then pure (reached rest (.literal '*'))
    else if nothing && m.strict then pure (reached rest .idle)
    else pure (reached rest (.repetition 0 none "*"))
  | '^' :: rest =>
    pure (reached rest (if m.extended || first then .anchor .start else .literal '^'))
  | '$' :: rest =>
    pure (reached rest (if m.extended || endsBasic rest then .anchor .finish else .literal '$'))
  | c :: rest =>
    if m.extended then
      match ← operator m nothing c rest with
      | some (l, rest) => pure (reached rest l)
      | none => pure (reached rest (.literal c))
    else pure (reached rest (.literal c))

/-- Where the reading of a choice stands: what came before in it. -/
structure Branch where
  /-- The parts in front of the last one, the last of them first. -/
  parts : List Regex
  last : Option Regex
  /-- Whether `^` is an anchor here in a basic expression. -/
  first : Bool
  /-- Whether there is nothing yet that could be repeated. -/
  nothing : Bool
  /-- Whether a sign was just passed over, so that an expression has to follow. -/
  idle : Bool

namespace Branch

/-- Nothing was read. -/
def empty : Branch := ⟨[], none, true, true, false⟩

/-- The branch with one more part. -/
def add (b : Branch) (e : Regex) : Branch := ⟨b.last.toList ++ b.parts, some e, false, false, false⟩

/-- The branch with one more anchor. -/
def anchored (b : Branch) (m : Manner) (kind : Anchor) : Branch :=
  { b.add (.anchor kind) with first := m.strict, nothing := m.strict || b.nothing }

/-- The expression of a branch. -/
def whole (b : Branch) : Regex :=
  match b.last with
  | none => .sequence b.parts.reverse
  | some last => .sequence (last :: b.parts).reverse

end Branch

/-- Reads choices up to the end of the expression or of the group that is at this depth. -/
def choices (m : Manner) :
    Nat → (depth : Nat) → Branch → Reading → Except Refusal (Regex × Reading)
  | 0, _, _, _ => .error .tooBig
  | n + 1, depth, b, r => do
    match ← lexeme m b.first b.nothing r with
    | none => if depth = 0 then pure (b.whole, r) else throw .openGroup
    | some (.choice, r) =>
      let (e, r) ← choices m n depth .empty r
      pure (.alt b.whole e, r)
    | some (.closeGroup, after) =>
      if 0 < depth && !b.idle then pure (b.whole, after)
      else if m.extended then choices m n depth (b.add (.one (.char ')'))) after
      else throw .closedGroup
    | some (.openGroup, r) =>
      let number := r.opened + 1
      let (e, r) ← choices m n (depth + 1) .empty { r with opened := number }
      let r := { r with closed := number :: r.closed }
      choices m n depth (b.add (.group number e)) r
    | some (.literal c, r) => choices m n depth (b.add (.one (.char (m.letter c)))) r
    | some (.set s, r) => choices m n depth (b.add (.one s)) r
    | some (.anchor kind, r) => choices m n depth (b.anchored m kind) r
    | some (.reference number, r) =>
      if r.closed.contains number then choices m n depth (b.add (.again number)) r
      else throw .backReference
    | some (.idle, r) => choices m n depth { b with idle := true } r
    | some (.repetition least most sign, r) =>
      let warnings := if b.nothing then [sign ++ " at start of expression"] else []
      let body := b.last.getD .empty
      choices m n depth
        { b with
          last := some (.many body least most true)
          first := false
          nothing := b.nothing && sign != intervalSign }
        { r with warnings := r.warnings ++ warnings }

/-! ### What decides about a line -/

/-- Whether a set is given by its characters: a range of others than digits, a class or a negation
is not. -/
def isEnumerated : CharSet → Bool
  | .char _ | .any => true
  | .oneOf negated ranges classes =>
    !negated && classes.isEmpty &&
      ranges.all fun (low, high) => low == high || low.isDigit && high.isDigit

/-- Whether an expression is simple enough for the loose manner to decide: it has no words, no
groups that are referred to, and only sets that are given by their characters. -/
def isSimple : Regex → Bool
  | .one s => isEnumerated s
  | .anchor kind => kind = .start || kind = .finish
  | .cat first second | .alt first second => isSimple first && isSimple second
  | .many _ _ (some 0) _ => true
  | .many body _ _ _ | .group _ body => isSimple body
  | .again _ => false
  | _ => true

/-- What an expression was read as. -/
structure Expression where
  strict : Regex
  loose : Regex
  warnings : List String
  bare : Bool

/-- Reads an expression. -/
def Expression.read (m : Manner) (s : List Char) : Except Refusal Expression := do
  let whole (strict : Bool) : Except Refusal (Regex × Reading) :=
    choices { m with strict } (s.length + 1) 0 .empty ⟨s, 0, [], [], false⟩
  let (strict, _) ← whole true
  let (loose, r) ← whole false
  pure ⟨strict, loose, r.warnings, r.bare⟩

/-- The expression that matches one text. -/
def literally (m : Manner) (s : List Char) : Regex :=
  .sequence (s.map fun c => .one (.char (m.letter c)))

end Assay.Tool.Grep
