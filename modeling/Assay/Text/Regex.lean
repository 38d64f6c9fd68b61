import Assay.Text.CharSet

/-!
# Regular expressions

An expression is matched against a sequence of signs; a sign is a character or a byte that is part
of none, which no set of characters takes. `ends` gives every place where a match that begins at a
given place can end, the preferred one first: an alternative that is written earlier is preferred,
and a repetition goes on or stops first as it is told. Whoever wants the longest match takes the
last place of all, whoever wants the preferred match takes the first.

Nothing is given twice: two ways to match that end in the same place with the same groups count
once, and a repetition visits each place once, so it always ends.
-/

namespace Assay.Text

/-- A character, or a byte that is part of none. -/
abbrev Sign := Option Char

/-- What an expression takes characters to be. -/
structure Alphabet where
  /-- Whether a character belongs to a word. -/
  isWord : Char → Bool
  /-- The characters that count as a character, the character itself first. -/
  variants : Char → List Char
  /-- Whether a character may stand where the text of a group has another one. -/
  alike : Char → Char → Bool

/-- What is asked of a place, without a look at more than its neighbours. -/
inductive Anchor where
  /-- The beginning of the text. -/
  | start
  /-- The end of the text. -/
  | finish
  /-- The end of the text, or the newline at its end. -/
  | lastLine
  /-- The beginning of a line; the flag tells that a return ends lines too. -/
  | lineStart (returns : Bool)
  /-- The end of a line. -/
  | lineFinish (returns : Bool)
  | wordStart
  | wordEnd
  /-- The start or the end of a word. -/
  | boundary
  /-- Neither the start nor the end of a word. -/
  | noBoundary
  /-- No sign of a word in front. -/
  | noWordBefore
  /-- No sign of a word behind. -/
  | noWordAfter
deriving DecidableEq, Repr

/-- A regular expression. -/
inductive Regex where
  /-- Matches the empty text. -/
  | empty
  /-- Matches nothing. -/
  | never
  | one (set : CharSet)
  | anchor (kind : Anchor)
  | cat (first second : Regex)
  | alt (first second : Regex)
  /-- At least `least` times, and at most `most` times if there is a limit. -/
  | many (body : Regex) (least : Nat) (most : Option Nat) (greedy : Bool)
  /-- Remembers what it matches. -/
  | group (number : Nat) (body : Regex)
  /-- What a group matched last. -/
  | again (number : Nat)
  /-- Asks whether what follows matches. -/
  | ahead (negated : Bool) (body : Regex)
  /-- Asks whether what is in front matches. -/
  | behind (negated : Bool) (body : Regex)
  /-- Matches in the preferred way only. -/
  | atomic (body : Regex)
  /-- Lets the match begin here. -/
  | keep
deriving DecidableEq, Repr

/-- A place in a text. -/
structure Spot where
  position : Nat
  /-- The signs in front, the nearest first. -/
  passed : List Sign
  rest : List Sign
  /-- What the groups matched. -/
  groups : List (Nat × List Sign)
  /-- Where the match was made to begin. -/
  kept : Option Nat
deriving DecidableEq, Repr

namespace Spot

/-- The beginning of a text. -/
def first (text : List Sign) : Spot := ⟨0, [], text, [], none⟩

/-- The place one sign further on. -/
def next (s : Spot) : Spot :=
  match s.rest with
  | c :: rest => { s with position := s.position + 1, passed := c :: s.passed, rest }
  | [] => s

/-- The place a number of signs further on. -/
def skip : Nat → Spot → Spot
  | 0, s => s
  | n + 1, s => skip n s.next

/-- The place one sign back. -/
def previous (s : Spot) : Spot :=
  match s.passed with
  | c :: passed => { s with position := s.position - 1, passed, rest := c :: s.rest }
  | [] => s

/-- The places in front, this one first. -/
def back : Nat → Spot → List Spot
  | 0, s => [s]
  | n + 1, s => s :: back n s.previous

/-- The place without what was remembered on the way. -/
def bare (s : Spot) : Spot := { s with groups := [], kept := none }

/-- Whether two places are one, with the same groups. -/
def same (a b : Spot) : Bool :=
  a.position == b.position && a.groups == b.groups && a.kept == b.kept

end Spot

namespace Alphabet

/-- Whether a sign belongs to a word. -/
def isWordSign (a : Alphabet) (c : Sign) : Bool := c.any a.isWord

/-- Whether a sign belongs to a set. -/
def takes (a : Alphabet) (set : CharSet) : Sign → Bool
  | none => false
  | some c => set.hasOne (a.variants c)

/-- Whether two signs are the same. -/
def sameSign (a : Alphabet) : Sign → Sign → Bool
  | some c, some d => a.alike c d
  | c, d => c == d

/-- Whether a text begins with another one. -/
def beginsWith (a : Alphabet) : (beginning text : List Sign) → Bool
  | [], _ => true
  | _ :: _, [] => false
  | c :: cs, d :: ds => a.sameSign c d && beginsWith a cs ds

/-- Whether a place is what is asked of it. -/
def holdsAt (a : Alphabet) (kind : Anchor) (s : Spot) : Bool :=
  let before := s.passed.head?
  let after := s.rest.head?
  let wordBefore := before.any a.isWordSign
  let wordAfter := after.any a.isWordSign
  let newline : Option Sign := some (some '\n')
  let carriage : Option Sign := some (some '\r')
  match kind with
  | .start => before.isNone
  | .finish => after.isNone
  | .lastLine => after.isNone || s.rest == [some '\n']
  | .lineStart false => before.isNone || before == newline
  | .lineStart true =>
    before.isNone || before == newline || before == carriage && after != newline
  | .lineFinish false => after.isNone || after == newline
  | .lineFinish true =>
    after.isNone || after == carriage || after == newline && before != carriage
  | .wordStart => !wordBefore && wordAfter
  | .wordEnd => wordBefore && !wordAfter
  | .boundary => wordBefore != wordAfter
  | .noBoundary => wordBefore == wordAfter
  | .noWordBefore => !wordBefore
  | .noWordAfter => !wordAfter

end Alphabet

namespace Regex

/-- Every place once. -/
def distinct : List Spot → List Spot
  | [] => []
  | [s] => [s]
  | spots => (spots.foldl (fun kept s => if kept.any s.same then kept else s :: kept) []).reverse

/-- The places that a step reaches in at most so many turns. Those that were seen already, with as
many turns left, are passed over. -/
def upTo (step : Spot → List Spot) (greedy : Bool) :
    Nat → Spot → List (Nat × Spot) × List Spot → List (Nat × Spot) × List Spot
  | 0, s, (seen, found) => (seen, s :: found)
  | n + 1, s, (seen, found) =>
    if seen.any fun (m, t) => m == n && t.same s then (seen, found)
    else
      let onward := (step s).filter (!s.same ·)
      let found := if greedy then found else s :: found
      let (seen, found) :=
        onward.foldl (fun acc t => upTo step greedy n t acc) ((n, s) :: seen, found)
      (seen, if greedy then s :: found else found)

/-- The places that a step reaches in exactly so many turns. -/
def exactly (step : Spot → List Spot) : Nat → List Spot → List Spot
  | 0, spots => spots
  | n + 1, spots =>
    if spots.isEmpty then [] else exactly step n (distinct (spots.flatMap step))

/-- The places that a step reaches in any number of turns, each of which gets further on. Those
seen already are passed over. -/
def explore (step : Spot → List Spot) (greedy : Bool) :
    Nat → Spot → List Spot × List Spot → List Spot × List Spot
  | 0, s, (seen, found) => (seen, s :: found)
  | n + 1, s, (seen, found) =>
    if seen.any s.same then (seen, found)
    else
      let onward := (step s).filter (s.position < ·.position)
      let found := if greedy then found else s :: found
      let (seen, found) :=
        onward.foldl (fun acc t => explore step greedy n t acc) (s :: seen, found)
      (seen, if greedy then s :: found else found)

/-- The places that runs of signs in a set lead to, the furthest first. -/
def run (a : Alphabet) (set : CharSet) : Nat → Spot → List Spot → List Spot
  | 0, s, found => s :: found
  | n + 1, s, found =>
    match s.rest with
    | c :: _ => if a.takes set c then run a set n s.next (s :: found) else s :: found
    | [] => s :: found

/-- Where the matches that begin at a place end. -/
def ends (a : Alphabet) : Regex → Spot → List Spot
  | .empty, s => [s]
  | .never, _ => []
  | .one set, s =>
    match s.rest with
    | c :: _ => if a.takes set c then [s.next] else []
    | [] => []
  | .anchor kind, s => if a.holdsAt kind s then [s] else []
  | .cat first second, s => distinct ((ends a first s).flatMap (ends a second))
  | .alt first second, s => distinct (ends a first s ++ ends a second s)
  | .many (.one set) 0 none true, s => run a set s.rest.length s []
  | .many body least most greedy, s =>
    let spots := exactly (ends a body) least [s]
    match most with
    | some most =>
      let reached := spots.foldl
        (fun acc t => upTo (ends a body) greedy (most - least) t acc) ([], [])
      distinct reached.2.reverse
    | none =>
      let explored := spots.foldl
        (fun acc t => explore (ends a body) greedy (t.rest.length + 1) t acc) ([], [])
      explored.2.reverse
  | .group number body, s =>
    (ends a body s).map fun e =>
      { e with groups :=
          (number, s.rest.take (e.position - s.position)) :: e.groups.filter (·.1 != number) }
  | .again number, s =>
    match s.groups.find? (·.1 == number) with
    | some (_, text) => if a.beginsWith text s.rest then [s.skip text.length] else []
    | none => []
  | .ahead negated body, s =>
    match (ends a body s).head? with
    | some e => if negated then [] else [{ s with groups := e.groups }]
    | none => if negated then [s] else []
  | .behind negated body, s =>
    let reaches := (s.back s.position).any fun b => (ends a body b).any (·.position == s.position)
    if reaches != negated then [s] else []
  | .atomic body, s => (ends a body s).take 1
  | .keep, s => [{ s with kept := some s.position }]

/-- A sequence of expressions. -/
def sequence (parts : List Regex) : Regex := parts.foldr cat empty

/-- The expression without the marks of groups. -/
def withoutGroups : Regex → Regex
  | .group _ e => withoutGroups e
  | .cat a b => .cat (withoutGroups a) (withoutGroups b)
  | .alt a b => .alt (withoutGroups a) (withoutGroups b)
  | .many e least most greedy => .many (withoutGroups e) least most greedy
  | .ahead negated e => .ahead negated (withoutGroups e)
  | .behind negated e => .behind negated (withoutGroups e)
  | .atomic e => .atomic (withoutGroups e)
  | e => e

/-- Whether what a group matched is asked for. -/
def refers : Regex → Bool
  | .again _ => true
  | .cat a b | .alt a b => refers a || refers b
  | .many e _ _ _ | .group _ e | .ahead _ e | .behind _ e | .atomic e => refers e
  | _ => false

/-- Whether the empty text may match. -/
def isNullable : Regex → Bool
  | .empty | .anchor _ | .again _ | .ahead _ _ | .behind _ _ | .keep => true
  | .never | .one _ => false
  | .cat a b => isNullable a && isNullable b
  | .alt a b => isNullable a || isNullable b
  | .many e least _ _ => least = 0 || isNullable e
  | .group _ e | .atomic e => isNullable e

end Regex

end Assay.Text
