import Assay.Text.Alphanumeric
import Assay.Text.Ranges
import Assay.Text.Regex.Program

/-!
# Patterns of field values

A filter may ask that the text of a field matches a pattern. A pattern is a regular expression:
`|` separates alternatives, `*`, `+` and `?` repeat (the shortest way where another `?` follows),
brackets hold sets, which may be nested and combined by `&&`, `--` and `~~`, parentheses group, and
`(?flags)` changes how what follows is read. Characters are matched by number only, so letters of
either case are told apart, and the sets that depend on the language of a text (`\w`, `\d`, `\b`)
can be used only where the flag `u` is off and they mean their part of ASCII. Where it is off, a set
holds nothing but ASCII.

There are no counted repetitions: the brace that would end one ends the field before.
-/

namespace Assay.Log.ValuePattern

open Text (Anchor Ranges Regex)

/-! ### Sets of characters -/

/-- What combines two sets. -/
inductive Combination where
  | both
  | firstOnly
  | oneOnly
deriving DecidableEq, Repr

/-- The combination of two sets. -/
def Combination.apply : Combination → Ranges → Ranges → Ranges
  | both, a, b => a.intersection b
  | firstOnly, a, b => a.difference b
  | oneOnly, a, b => a.difference b ++ b.difference a

/-! ### Reading -/

/-- How a pattern is read. -/
structure Mode where
  ignoresCase : Bool
  /-- Whether `.` takes a newline too. -/
  dotsNewline : Bool
  /-- Whether repetitions are short unless they are told otherwise. -/
  short : Bool
  /-- Whether blanks and comments may stand between the parts. -/
  spaced : Bool
  /-- Whether sets mean their part of ASCII. -/
  ascii : Bool
  /-- Whether `^` and `$` stand for the ends of lines. -/
  lines : Bool
  /-- Whether a return ends a line too. -/
  returns : Bool
deriving DecidableEq, Repr

/-- How a pattern is read at its beginning. -/
def Mode.usual : Mode := ⟨false, false, false, false, false, false, false⟩

/-- What a backslash and what follows it stand for. -/
inductive Escape where
  | char (c : Char)
  | set (ranges : Ranges)
  | place (kind : Anchor)

/-- The character of a number that is written in so many hexadecimal digits. -/
def hexChar? (count : Nat) (s : List Char) : Option Char := do
  let digits := s.take count
  let value (c : Char) : Option Nat :=
    if c.isDigit then some (c.toNat - 48)
    else if 'a' ≤ c.toLower ∧ c.toLower ≤ 'f' then some (c.toLower.toNat - 87) else none
  let values ← digits.mapM value
  let n := values.foldl (fun n d => 16 * n + d) 0
  if values.length = count ∧ n.isValidChar then some (Char.ofNat n) else none

/-- What stands after a backslash, and the rest. -/
def escape? (mode : Mode) : List Char → Option (Escape × List Char)
  | [] => none
  | c :: rest =>
    let charOf (d : Char) : Option (Escape × List Char) := some (.char d, rest)
    let setOf (name : String) : Option (Escape × List Char) :=
      if mode.ascii then (Ranges.ofName? name).map fun s => (.set s, rest) else none
    let placeOf (kind : Anchor) : Option (Escape × List Char) := some (.place kind, rest)
    let asciiPlaceOf (kind : Anchor) : Option (Escape × List Char) :=
      if mode.ascii then placeOf kind else none
    let hexOf (count : Nat) : Option (Escape × List Char) :=
      (hexChar? count rest).map fun d => (.char d, rest.drop count)
    match c with
    | 'a' => charOf '\x07'
    | 'f' => charOf '\x0c'
    | 'n' => charOf '\n'
    | 'r' => charOf '\r'
    | 't' => charOf '\t'
    | 'v' => charOf '\x0b'
    | 'x' =>
      match hexOf 2 with
      | some (.char d, rest) => if mode.ascii && 127 < d.toNat then none else some (.char d, rest)
      | _ => none
    | 'u' => hexOf 4
    | 'U' => hexOf 8
    | 'd' => setOf "digit"
    | 's' => setOf "space"
    | 'w' => setOf "word"
    | 'A' => placeOf .start
    | 'z' => placeOf .finish
    | 'b' => asciiPlaceOf .boundary
    | 'B' => asciiPlaceOf .noBoundary
    | '<' => asciiPlaceOf .wordStart
    | '>' => asciiPlaceOf .wordEnd
    | c => if c.toNat < 128 && !c.isAlphanum then charOf c else none

/-- Whether a character may stand between parts where blanks are allowed. -/
def isSpace (c : Char) : Bool := c == ' ' || ('\t' ≤ c && c ≤ '\r')

/-- The text after blanks and comments, where they are allowed. -/
def skipSpace (mode : Mode) : Nat → List Char → List Char
  | 0, s => s
  | n + 1, s =>
    if !mode.spaced then s
    else
      match s with
      | '#' :: rest => skipSpace mode n (rest.dropWhile (· != '\n'))
      | c :: rest => if isSpace c then skipSpace mode n rest else s
      | [] => []

/-- One element of a set in brackets: a character, or a set that an escape names. -/
def setElement? (mode : Mode) (s : List Char) : Option ((Char ⊕ Ranges) × List Char) :=
  let charOf (c : Char) (rest : List Char) : Option ((Char ⊕ Ranges) × List Char) :=
    if mode.ascii && 127 < c.toNat then none else some (.inl c, rest)
  match s with
  | [] => none
  | '\\' :: rest =>
    match escape? mode rest with
    | some (.char c, rest) => charOf c rest
    | some (.set s, rest) => some (.inr s, rest)
    | _ => none
  | c :: rest => charOf c rest

/-- A set that is named in brackets (`[:alpha:]`), after the first bracket. -/
def named? (mode : Mode) : List Char → Option (Ranges × List Char)
  | ':' :: rest =>
    let (negated, rest) := match rest with
      | '^' :: rest => (true, rest)
      | rest => (false, rest)
    let name := rest.takeWhile (· != ':')
    match rest.drop name.length with
    | ':' :: ']' :: rest =>
      if mode.ascii && negated then none
      else
        (Ranges.ofName? (String.ofList name)).map fun s =>
          (if negated then s.complement else s, rest)
    | _ => none
  | _ => none

/-- A set in which the case does not matter, if the mode says so. Beyond ASCII no letter has another
case, so there such a set must be empty. -/
def folded? (mode : Mode) (s : Ranges) : Option Ranges :=
  if !mode.ignoresCase || s.isEmpty then some s
  else if mode.ascii then some (s.flatMap Ranges.withOtherCase)
  else none

/-- The set so far: the sets that wait for a combination, combined from the left. -/
def combine? (mode : Mode) (waiting : Option (Ranges × Combination)) (s : Ranges) :
    Option Ranges :=
  match waiting with
  | some (first, how) => do return how.apply (← folded? mode first) (← folded? mode s)
  | none => some s

/-- A whole set, which may be turned around. -/
def finished? (mode : Mode) (negated : Bool) (s : Ranges) : Option Ranges :=
  if mode.ascii && negated then none
  else (folded? mode s).map fun s => if negated then s.complement else s

/-- How a set in brackets begins: whether it is turned around, and the characters that stand for
themselves at this place only. -/
def setStart (s : List Char) : Bool × Ranges × List Char :=
  let (negated, s) := match s with
    | '^' :: rest => (true, rest)
    | s => (false, s)
  let hyphens := s.takeWhile (· == '-')
  match hyphens, s.drop hyphens.length with
  | [], ']' :: rest => (negated, [(93, 93)], rest)
  | [], rest => (negated, [], rest)
  | _, rest => (negated, [(45, 45)], rest)

/-- The elements of a set up to the closing bracket, and the rest. -/
def setElements? (mode : Mode) :
    Nat → Option (Ranges × Combination) → Ranges → List Char → Option (Ranges × List Char)
  | 0, _, _, _ => none
  | n + 1, waiting, found, s =>
    match skipSpace mode s.length s with
    | [] => none
    | ']' :: rest => (combine? mode waiting found).map (·, rest)
    | '&' :: '&' :: rest => do
      setElements? mode n (some (← combine? mode waiting found, .both)) [] rest
    | '-' :: '-' :: rest => do
      setElements? mode n (some (← combine? mode waiting found, .firstOnly)) [] rest
    | '~' :: '~' :: rest => do
      setElements? mode n (some (← combine? mode waiting found, .oneOnly)) [] rest
    | '[' :: rest =>
      match named? mode rest with
      | some (s, rest) => setElements? mode n waiting (found ++ s) rest
      | none => do
        let (negated, first, rest) := setStart rest
        let (s, rest) ← setElements? mode n none first rest
        setElements? mode n waiting (found ++ (← finished? mode negated s)) rest
    | s => do
      let (element, rest) ← setElement? mode s
      match element, rest with
      | .inl low, '-' :: next :: after =>
        if next == ']' || next == '-' then
          setElements? mode n waiting (found ++ [(low.toNat, low.toNat)]) ('-' :: next :: after)
        else
          match ← setElement? mode (next :: after) with
          | (.inl high, rest) =>
            if high < low then none
            else setElements? mode n waiting (found ++ [(low.toNat, high.toNat)]) rest
          | (.inr _, _) => none
      | .inl c, rest => setElements? mode n waiting (found ++ [(c.toNat, c.toNat)]) rest
      | .inr s, rest => setElements? mode n waiting (found ++ s) rest

/-- A set in brackets, after the opening one: its ranges and the rest. -/
def set? (mode : Mode) (s : List Char) : Option (Ranges × List Char) :=
  let (negated, first, rest) := setStart s
  (setElements? mode (s.length + 1) none first rest).bind fun (found, rest) =>
    (finished? mode negated found).map (·, rest)

/-- The mode after flags; `on` tells whether flags are set or taken back. -/
def flags? (on : Bool) (mode : Mode) : List Char → Option Mode
  | [] => some mode
  | '-' :: rest => if on && !rest.isEmpty then flags? false mode rest else none
  | c :: rest =>
    match c with
    | 'i' => flags? on { mode with ignoresCase := on } rest
    | 's' => flags? on { mode with dotsNewline := on } rest
    | 'U' => flags? on { mode with short := on } rest
    | 'x' => flags? on { mode with spaced := on } rest
    | 'u' => flags? on { mode with ascii := !on } rest
    | 'm' => flags? on { mode with lines := on } rest
    | 'R' => flags? on { mode with returns := on } rest
    | _ => none

/-- A character as it stands. Without its part of ASCII, a letter has no other case. -/
def literal? (mode : Mode) (c : Char) : Option Regex :=
  if !mode.ignoresCase then some (.one (.char c))
  else if mode.ascii && c.toNat < 128 then
    some (.one (.oneOf false [(c.toLower, c.toLower), (c.toUpper, c.toUpper)] []))
  else none

/-- What `.` stands for. -/
def dot? (mode : Mode) : Option Regex :=
  if mode.ascii then none
  else if mode.dotsNewline then some (.one .any)
  else
    some (.one (.oneOf true (('\n', '\n') :: if mode.returns then [('\r', '\r')] else []) []))

/-- What `^` stands for. -/
def Mode.front (mode : Mode) : Anchor := if mode.lines then .lineStart mode.returns else .start

/-- What `$` stands for. -/
def Mode.back (mode : Mode) : Anchor := if mode.lines then .lineFinish mode.returns else .finish

/-- What was read of a group: the finished alternatives, and the parts of the last one, the last
part first. -/
structure Progress where
  mode : Mode
  alternatives : List Regex
  parts : List Regex
  /-- Whether the last part may be repeated. -/
  repeatable : Bool

namespace Progress

/-- Adds a part. -/
def push (p : Progress) (e : Regex) : Progress :=
  { p with parts := e :: p.parts, repeatable := true }

/-- Ends an alternative. -/
def close (p : Progress) : Progress :=
  { p with alternatives := p.alternatives ++ [Regex.sequence p.parts.reverse], parts := []
           repeatable := false }

/-- The expression of the whole group. -/
def result (p : Progress) : Regex :=
  match p.close.alternatives.reverse with
  | [] => .empty
  | last :: others => others.foldl (fun e first => .alt first e) last

/-- Repeats the last part. -/
def again (p : Progress) (least : Nat) (most : Option Nat) (short : Bool) : Option Progress :=
  match p.repeatable, p.parts with
  | true, e :: parts =>
    some { p with parts := .many e least most (short == p.mode.short) :: parts }
  | _, _ => none

end Progress

/-- What opens a group, after its parenthesis and question mark: `inl` holds the mode of what
follows, `inr` that of a group. -/
def opening? (mode : Mode) (s : List Char) : Option ((Mode ⊕ Mode) × List Char) :=
  let nameOf (s : List Char) : Option ((Mode ⊕ Mode) × List Char) :=
    let name := s.takeWhile (· != '>')
    match name, s.drop name.length with
    | c :: _, _ :: rest =>
      if c.isDigit || !name.all (fun c => Text.isAlphanumeric c || "_.[]".toList.contains c) then
        none
      else some (.inr mode, rest)
    | _, _ => none
  match s with
  | 'P' :: '<' :: rest => nameOf rest
  | '<' :: rest => nameOf rest
  | s =>
    let letters := s.takeWhile fun c => c != ')' && c != ':'
    let flags := letters.filter (· != '-')
    match if flags.eraseDups == flags then flags? true mode letters else none,
      s.drop letters.length with
    | some mode, ':' :: rest => some (.inr mode, rest)
    | some changed, ')' :: rest => if letters.isEmpty then none else some (.inl changed, rest)
    | _, _ => none

/-- Reads a group up to its end: the expression and the rest, which begins with a closing
parenthesis or is empty. -/
def group? : Nat → Progress → List Char → Option (Regex × List Char)
  | 0, _, _ => none
  | n + 1, p, s =>
    let counted (least : Nat) (most : Option Nat) (rest : List Char) :
        Option (Regex × List Char) := do
      let (short, rest) := match rest with
        | '?' :: rest => (true, rest)
        | rest => (false, rest)
      group? n (← p.again least most short) rest
    match skipSpace p.mode s.length s with
    | [] => some (p.result, [])
    | ')' :: rest => some (p.result, ')' :: rest)
    | '|' :: rest => group? n p.close rest
    | '*' :: rest => counted 0 none rest
    | '+' :: rest => counted 1 none rest
    | '?' :: rest => counted 0 (some 1) rest
    | '\x7b' :: _ => none
    | '(' :: rest => do
      let (start, rest) ← match rest with
        | '?' :: rest => opening? p.mode rest
        | rest => some (.inr p.mode, rest)
      match start with
      | .inl mode => group? n { p with mode, repeatable := false } rest
      | .inr mode =>
        match ← group? n ⟨mode, [], [], false⟩ rest with
        | (e, ')' :: rest) => group? n (p.push e) rest
        | _ => none
    | '[' :: rest => do
      let (s, rest) ← set? p.mode rest
      group? n (p.push (.one s.toSet)) rest
    | '.' :: rest => do group? n (p.push (← dot? p.mode)) rest
    | '^' :: rest => group? n (p.push (.anchor p.mode.front)) rest
    | '$' :: rest => group? n (p.push (.anchor p.mode.back)) rest
    | '\\' :: rest => do
      match ← escape? p.mode rest with
      | (.char c, rest) => group? n (p.push (← literal? p.mode c)) rest
      | (.set s, rest) => group? n (p.push (.one s.toSet)) rest
      | (.place kind, rest) => group? n (p.push (.anchor kind)) rest
    | c :: rest => do group? n (p.push (← literal? p.mode c)) rest

/-- The expression that a pattern stands for. -/
def read? (s : List Char) : Option Regex :=
  match group? (s.length + 1) ⟨.usual, [], [], false⟩ s with
  | some (e, []) => some e
  | _ => none

/-- Words are of ASCII, and every character counts as itself alone. -/
def alphabet : Text.Alphabet := ⟨fun c => c.isAlphanum || c == '_', fun c => [c], fun c d => c == d⟩

/-- Whether a text matches: whether the first match in it, the preferred one, reaches its end. -/
def accepts (e : Regex) (s : List Char) : Bool :=
  (Regex.Search.ofRegex alphabet false e).findsEnd (s.map some)

end Assay.Log.ValuePattern
