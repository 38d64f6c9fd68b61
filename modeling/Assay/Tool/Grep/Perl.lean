import Assay.Text.Ranges
import Assay.Text.Regex

/-!
# Expressions of the richer kind

Beside what the other expressions have, these know repetitions that stop as soon as they can or that
never give back what they took, groups with names, looks at what follows and at what is in front,
flags, and quoted parts. What is matched is the preferred way to match, not the longest.

Words, digits and spaces are of ASCII.
-/

namespace Assay.Tool.Grep.Perl

open Text (Anchor CharClass CharSet Ranges Regex)

/-- Why an expression is refused. -/
inductive Refusal where
  | backslashAtEnd
  | controlAtEnd
  | unknownEscape
  | foreignEscape
  | numbersOutOfOrder
  | numberTooBig
  | openClass
  | rangeOutOfOrder
  | nothingToRepeat
  | unknownFlag
  | posixOutsideClass
  | collating
  | openGroup
  | noSuchGroup
  | closedGroup
  | lookBehindLength
  | unknownPosix
  | characterTooLarge
  | notHexadecimal
  | notOctal
  | rangeInClass
  | escapeInClass
  | newlineInClass
  | openComment
  | nameMissing
  | nameUnfinished
  | nameRepeated
  | nameDigit
  | referenceName
  | referenceNumber
  | property
  | unknownProperty
  | verb
deriving DecidableEq, Repr

/-- The text of a refusal. -/
def Refusal.message : Refusal → String
  | backslashAtEnd => "\\ at end of pattern"
  | controlAtEnd => "\\c at end of pattern"
  | unknownEscape => "unrecognized character follows \\"
  | foreignEscape => "PCRE2 does not support \\F, \\L, \\l, \\N\x7bname\x7d, \\U, or \\u"
  | numbersOutOfOrder => "numbers out of order in \x7b\x7d quantifier"
  | numberTooBig => "number too big in \x7b\x7d quantifier"
  | openClass => "missing terminating ] for character class"
  | rangeOutOfOrder => "range out of order in character class"
  | nothingToRepeat => "quantifier does not follow a repeatable item"
  | unknownFlag => "unrecognized character after (? or (?-"
  | posixOutsideClass => "POSIX named classes are supported only within a class"
  | collating => "POSIX collating elements are not supported"
  | openGroup => "missing closing parenthesis"
  | noSuchGroup => "reference to non-existent subpattern"
  | closedGroup => "unmatched closing parenthesis"
  | lookBehindLength => "lookbehind assertion is not fixed length"
  | unknownPosix => "unknown POSIX class name"
  | characterTooLarge => "character code point value in \\x\x7b\x7d or \\o\x7b\x7d is too large"
  | notHexadecimal => "non-hex character in \\x\x7b\x7d (closing brace missing?)"
  | notOctal => "non-octal character in \\o\x7b\x7d (closing brace missing?)"
  | rangeInClass => "invalid range in character class"
  | escapeInClass => "escape sequence is invalid in character class"
  | newlineInClass => "\\N is not supported in a class"
  | openComment => "missing ) after (?# comment"
  | nameMissing => "subpattern name expected"
  | nameUnfinished => "syntax error in subpattern name (missing terminator?)"
  | nameRepeated => "two named subpatterns have the same name (PCRE2_DUPNAMES not set)"
  | nameDigit => "subpattern name must start with a non-digit"
  | referenceName => "\\k is not followed by a braced, angle-bracketed, or quoted name"
  | referenceNumber => "\\g is not followed by a braced, angle-bracketed, or quoted name/number " ++
      "or by a plain number"
  | property => "malformed \\P or \\p sequence"
  | unknownProperty => "unknown property after \\P or \\p"
  | verb => "(*VERB) not recognized or malformed"

/-! ### Sets -/

/-- The characters that end lines. -/
def verticalRanges : Ranges := [(0x0A, 0x0D), (0x85, 0x85), (0x2028, 0x2029)]

/-- The blanks. -/
def horizontalRanges : Ranges :=
  [(9, 9), (32, 32), (0xA0, 0xA0), (0x1680, 0x1680), (0x180E, 0x180E), (0x2000, 0x200A),
    (0x202F, 0x202F), (0x205F, 0x205F), (0x3000, 0x3000)]

/-- The set that a letter behind a backslash names. -/
def namedSet? (c : Char) : Option Ranges :=
  let known (name : String) : Ranges := (Ranges.ofName? name).getD []
  match c with
  | 'd' => some (known "digit")
  | 'D' => some (known "digit").complement
  | 'w' => some (known "word")
  | 'W' => some (known "word").complement
  | 's' => some (known "space")
  | 'S' => some (known "space").complement
  | 'h' => some horizontalRanges
  | 'H' => some horizontalRanges.complement
  | 'v' => some verticalRanges
  | 'V' => some verticalRanges.complement
  | _ => none

/-- The ranges of a table of runs. -/
def rangesOfRuns (runs : Array CharClass.Run) : Ranges :=
  runs.toList.flatMap fun r =>
    if r.step = 1 then [(r.first, r.last)]
    else (List.range ((r.last - r.first) / r.step + 1)).map fun k =>
      (r.first + r.step * k, r.first + r.step * k)

/-- The characters of a property: a general category or a script. -/
def property? (name : List Char) : Option Ranges :=
  let known (name : String) : Ranges := (Ranges.ofName? name).getD []
  let letters := known "alpha" ++ CharClass.letters.toList
  match String.ofList name with
  | "Any" => some [(0, Ranges.lastNumber)]
  | "L" | "L&" | "Alpha" | "Alphabetic" => some letters
  | "Lu" | "Uppercase" | "Upper" => some (known "upper" ++ rangesOfRuns CharClass.capitals)
  | "Ll" | "Lowercase" | "Lower" => some (known "lower" ++ rangesOfRuns CharClass.smalls)
  | "Xan" => some (known "alnum" ++ CharClass.letters.toList)
  | "Xwd" => some (known "word" ++ CharClass.letters.toList)
  | "N" | "Nd" => some (known "digit")
  | "P" => some ([(33, 35), (37, 42), (44, 47), (58, 59), (63, 64), (91, 93), (95, 95), (123, 123),
      (125, 125), (0xA1, 0xA1), (0xA7, 0xA7), (0xAB, 0xAB), (0xB6, 0xB7), (0xBB, 0xBB),
      (0xBF, 0xBF), (0x2010, 0x2027), (0x2030, 0x205E), (0x3001, 0x3003), (0x3008, 0x3011)])
  | "S" => some ([(36, 36), (43, 43), (60, 62), (94, 94), (96, 96), (124, 124), (126, 126),
      (0xA2, 0xA6), (0xA8, 0xA9), (0xAC, 0xAC), (0xAE, 0xB1), (0xB4, 0xB4), (0xB8, 0xB8),
      (0xD7, 0xD7), (0xF7, 0xF7), (0x20A0, 0x20C0), (0x2190, 0x2307), (0x1F300, 0x1FAFF)])
  | "Z" | "Zs" => some [(32, 32), (0xA0, 0xA0), (0x1680, 0x1680), (0x2000, 0x200A),
      (0x202F, 0x202F), (0x205F, 0x205F), (0x3000, 0x3000)]
  | "Xsp" | "Xps" => some (known "space" ++ horizontalRanges ++ verticalRanges)
  | "C" | "Cc" => some [(0, 31), (127, 159)]
  | "M" | "Mn" => some [(0x300, 0x36F), (0x483, 0x489), (0x1AB0, 0x1ACE), (0x1DC0, 0x1DFF),
      (0x20D0, 0x20F0), (0xFE00, 0xFE0F), (0xFE20, 0xFE2F)]
  | "Latin" => some (known "alpha" ++ [(0xAA, 0xAA), (0xBA, 0xBA), (0xC0, 0xD6), (0xD8, 0xF6),
      (0xF8, 0x2B8), (0x1E00, 0x1EFF), (0x212A, 0x212B), (0x2C60, 0x2C7F), (0xA722, 0xA787),
      (0xFF21, 0xFF3A), (0xFF41, 0xFF5A)])
  | "Greek" => some [(0x370, 0x373), (0x375, 0x377), (0x37A, 0x37D), (0x37F, 0x37F),
      (0x384, 0x384), (0x386, 0x386), (0x388, 0x3E1), (0x3F0, 0x3FF), (0x1F00, 0x1FFE),
      (0x2126, 0x2126)]
  | "Cyrillic" => some [(0x400, 0x484), (0x487, 0x52F), (0x1C80, 0x1C88), (0x2DE0, 0x2DFF),
      (0xA640, 0xA69F)]
  | "Han" => some [(0x2E80, 0x2FD5), (0x3005, 0x3005), (0x3007, 0x3007), (0x3021, 0x3029),
      (0x3038, 0x303B), (0x3400, 0x4DBF), (0x4E00, 0x9FFF), (0xF900, 0xFAD9), (0x20000, 0x3134A)]
  | "Hiragana" => some [(0x3041, 0x3096), (0x309D, 0x309F)]
  | "Katakana" => some [(0x30A1, 0x30FA), (0x30FD, 0x30FF), (0x31F0, 0x31FF), (0xFF66, 0xFF9D)]
  | "Hangul" => some [(0x1100, 0x11FF), (0x3131, 0x318E), (0xAC00, 0xD7A3)]
  | "Arabic" => some [(0x600, 0x604), (0x606, 0x60B), (0x60D, 0x61A), (0x620, 0x63F),
      (0x641, 0x64A), (0x656, 0x66F), (0x671, 0x6DC), (0x6DE, 0x6FF)]
  | "Hebrew" => some [(0x591, 0x5C7), (0x5D0, 0x5EA), (0x5EF, 0x5F4)]
  | _ => none

/-! ### Reading -/

/-- How what follows is read. -/
structure Mode where
  ignoresCase : Bool
  /-- Whether `^` and `$` stand for the ends of lines. -/
  lines : Bool
  dotsNewline : Bool
  /-- Whether blanks and comments may stand between the parts. -/
  spaced : Bool
  /-- Whether repetitions are short unless they are told otherwise. -/
  short : Bool
  /-- Whether plain parentheses remember nothing. -/
  silent : Bool
deriving DecidableEq, Repr

/-- How far an expression was read. -/
structure Reading where
  rest : List Char
  /-- The groups that were opened. -/
  opened : Nat
  /-- The names of groups. -/
  names : List (List Char × Nat)
  /-- The names that the whole expression has. -/
  known : List (List Char × Nat)
  /-- The greatest number of a group that is referred to. -/
  referred : Nat
  /-- Whether a name that is referred to is missing. -/
  missing : Bool

/-- A part of an expression. -/
inductive Part where
  | regex (e : Regex)
  /-- A part that cannot be repeated. -/
  | place (e : Regex)
  /-- Nothing at all. -/
  | nothing

/-- The digits in front, at most so many, and the rest. -/
def digits (isDigit : Char → Bool) (most : Nat) (s : List Char) : List Char × List Char :=
  let found := (s.take most).takeWhile isDigit
  (found, s.drop found.length)

/-- The value of digits. -/
def valueIn (base : Nat) (ds : List Char) : Nat :=
  ds.foldl (fun n c =>
    min (n * base + if c.isDigit then c.toNat - 48 else c.toLower.toNat - 87) 0x1000000) 0

/-- Whether a character is a hexadecimal digit. -/
def isHex (c : Char) : Bool := CharClass.xdigit.has c

/-- Whether a character is an octal digit. -/
def isOctal (c : Char) : Bool := '0' ≤ c && c ≤ '7'

/-- The character of a number. -/
def charOf (n : Nat) : Except Refusal Char :=
  if Ranges.lastNumber < n then .error .characterTooLarge else .ok (Char.ofNat n)

/-- The character of digits between braces, and the rest. -/
def braced (isDigit : Char → Bool) (base : Nat) (wrong : Refusal) (s : List Char) :
    Except Refusal (Char × List Char) := do
  let ds := s.takeWhile isDigit
  match ds, s.drop ds.length with
  | _ :: _, '\x7d' :: rest => return (← charOf (valueIn base ds), rest)
  | _, _ => throw wrong

/-- What a backslash makes of a character, in a set or outside: a character or a set. -/
def escaped? (c : Char) (rest : List Char) :
    Except Refusal (Option ((Char ⊕ Ranges) × List Char)) := do
  let char (d : Char) : Option ((Char ⊕ Ranges) × List Char) := some (.inl d, rest)
  match namedSet? c with
  | some s => pure (some (.inr s, rest))
  | none =>
    match c with
    | 'a' => pure (char '\x07')
    | 'e' => pure (char '\x1b')
    | 'f' => pure (char '\x0c')
    | 'n' => pure (char '\n')
    | 'r' => pure (char '\r')
    | 't' => pure (char '\t')
    | '0' =>
      let (ds, rest) := digits isOctal 2 rest
      pure (some (.inl (Char.ofNat (valueIn 8 ds)), rest))
    | 'o' =>
      match rest with
      | '\x7b' :: rest =>
        let (d, rest) ← braced isOctal 8 .notOctal rest
        pure (some (.inl d, rest))
      | _ => throw .notOctal
    | 'x' =>
      match rest with
      | '\x7b' :: rest =>
        let (d, rest) ← braced isHex 16 .notHexadecimal rest
        pure (some (.inl d, rest))
      | _ =>
        let (ds, rest) := digits isHex 2 rest
        pure (some (.inl (Char.ofNat (valueIn 16 ds)), rest))
    | 'c' =>
      match rest with
      | [] => throw .controlAtEnd
      | d :: rest => pure (some (.inl (Char.ofNat (Nat.xor d.toUpper.toNat 64)), rest))
    | 'p' | 'P' =>
      let (name, rest) ← match rest with
        | '\x7b' :: rest =>
          let name := rest.takeWhile (· != '\x7d')
          if (rest.drop name.length).isEmpty then throw .property
          pure (name, rest.drop (name.length + 1))
        | d :: rest => pure ([d], rest)
        | [] => throw .property
      let (negated, name) := match name with
        | '^' :: name => (true, name)
        | name => (false, name)
      match property? name with
      | some s => pure (some (.inr (if negated != (c == 'P') then s.complement else s), rest))
      | none => throw .unknownProperty
    | 'L' | 'l' | 'U' | 'u' | 'F' => throw .foreignEscape
    | c => if c.isAlphanum then pure none else pure (char c)

/-- The characters of a set that count where the case does not matter. -/
def folded (m : Mode) (s : Ranges) : Ranges :=
  if !m.ignoresCase then s
  else
    s.flatMap fun (first, last) =>
      let others := if last - first < 1000 && 0x80 ≤ last then
          ((List.range (last + 1 - first)).flatMap fun k =>
            (CharClass.counterparts (Char.ofNat (first + k))).map fun c => (c.toNat, c.toNat))
        else []
      Ranges.withOtherCase (first, last) ++ others

/-- One character, as it is read. -/
def literal (m : Mode) (c : Char) : Regex :=
  if m.ignoresCase then
    .one (.oneOf false ((CharClass.counterparts c).map fun c => (c, c)) [])
  else .one (.char c)

/-- A class of a set that is named between colons, after the first bracket and colon: the rest of
the set. `none` if it is no class. -/
def posix? (m : Mode) (s : List Char) : Except Refusal (Option (Ranges × List Char)) := do
  let body := s.takeWhile fun c => c != ':' && c != ']' && c != '[' && c != '\\'
  match s.drop body.length with
  | ':' :: ']' :: rest =>
    let (negated, name) := match body with
      | '^' :: name => (true, name)
      | name => (false, name)
    let name := String.ofList name
    let name := if m.ignoresCase && (name == "upper" || name == "lower") then "alpha" else name
    match Ranges.ofName? name with
    | some s => pure (some (if negated then s.complement else s, rest))
    | none => throw .unknownPosix
  | _ => pure none

/-- One element of a set: a character or a set. -/
def element (m : Mode) (s : List Char) : Except Refusal ((Char ⊕ Ranges) × List Char) := do
  match s with
  | [] => throw .openClass
  | '[' :: ':' :: rest =>
    match ← posix? m rest with
    | some (s, rest) => pure (.inr s, rest)
    | none => pure (.inl '[', ':' :: rest)
  | '[' :: mark :: rest =>
    let body := rest.takeWhile fun c => c != mark && c != ']'
    if (mark == '.' || mark == '=') && (rest.drop body.length).take 2 == [mark, ']'] then
      throw .collating
    else pure (.inl '[', mark :: rest)
  | ['\\'] => throw .backslashAtEnd
  | '\\' :: c :: rest =>
    match c with
    | 'b' => pure (.inl '\x08', rest)
    | 'N' => throw .newlineInClass
    | 'R' | 'X' | 'B' => throw .escapeInClass
    | c =>
      if '1' ≤ c && c ≤ '7' then
        let (ds, rest) := digits isOctal 3 (c :: rest)
        pure (.inl (Char.ofNat (valueIn 8 ds)), rest)
      else
        match ← escaped? c rest with
        | some found => pure found
        | none => throw .unknownEscape
  | c :: rest => pure (.inl c, rest)

/-- The elements of a set up to the closing bracket, and the rest. -/
def elements (m : Mode) : Nat → (first : Bool) → Ranges → List Char →
    Except Refusal (Ranges × List Char)
  | 0, _, _, _ => .error .openClass
  | n + 1, first, found, s => do
    match s with
    | [] => throw .openClass
    | '\\' :: 'E' :: rest => elements m n first found rest
    | ']' :: rest =>
      if first then elements m n false (found ++ [(93, 93)]) rest else pure (found, rest)
    | s =>
      let (low, rest) ← element m s
      match rest with
      | '-' :: next :: after =>
        if next == ']' then
          let found := found ++ match low with
            | .inl c => [(c.toNat, c.toNat)]
            | .inr s => s
          elements m n false (found ++ [(45, 45)]) (next :: after)
        else
          match low, ← element m (next :: after) with
          | .inl low, (.inl high, rest) =>
            if high < low then throw .rangeOutOfOrder
            elements m n false (found ++ [(low.toNat, high.toNat)]) rest
          | _, _ => throw .rangeInClass
      | rest =>
        match low with
        | .inl c => elements m n false (found ++ [(c.toNat, c.toNat)]) rest
        | .inr s => elements m n false (found ++ s) rest

/-- A set, after the opening bracket, and the rest. -/
def set (m : Mode) (s : List Char) : Except Refusal (Regex × List Char) := do
  let (negated, body) := match s with
    | '^' :: rest => (true, rest)
    | s => (false, s)
  let (found, rest) ← elements m (body.length + 1) true [] body
  let found := folded m found
  pure (.one (if negated then found.complement else found).toSet, rest)

/-- What repeats a part, and the rest. -/
def quantifier? (s : List Char) : Except Refusal (Option (Nat × Option Nat × List Char)) := do
  match s with
  | '*' :: rest => pure (some (0, none, rest))
  | '+' :: rest => pure (some (1, none, rest))
  | '?' :: rest => pure (some (0, some 1, rest))
  | '\x7b' :: rest =>
    let low := rest.takeWhile Char.isDigit
    let checked (n : Nat) : Except Refusal Nat :=
      if 65535 < n then throw .numberTooBig else pure n
    match low, rest.drop low.length with
    | [], _ => pure none
    | _, '\x7d' :: rest =>
      let n ← checked (valueIn 10 low)
      pure (some (n, some n, rest))
    | _, ',' :: rest =>
      let high := rest.takeWhile Char.isDigit
      match high, rest.drop high.length with
      | [], '\x7d' :: rest => return some (← checked (valueIn 10 low), none, rest)
      | _ :: _, '\x7d' :: rest =>
        let least ← checked (valueIn 10 low)
        let most ← checked (valueIn 10 high)
        if most < least then throw .numbersOutOfOrder
        pure (some (least, some most, rest))
      | _, _ => pure none
    | _, _ => pure none
  | _ => pure none

/-- A part, repeated as what stands behind the quantifier says. -/
def repeated (m : Mode) (e : Regex) (least : Nat) (most : Option Nat) (s : List Char) :
    Regex × List Char :=
  match s with
  | '?' :: rest => (.many e least most m.short, rest)
  | '+' :: rest => (.atomic (.many e least most true), rest)
  | rest => (.many e least most !m.short, rest)

/-- The flags up to a colon or a parenthesis, and the rest. -/
def flags : (on : Bool) → Mode → List Char → Except Refusal (Mode × List Char)
  | _, _, [] => .error .openGroup
  | on, m, c :: rest =>
    match c with
    | ')' | ':' => .ok (m, c :: rest)
    | '-' => if on then flags false m rest else .error .unknownFlag
    | '^' => flags on ⟨false, false, false, false, m.short, false⟩ rest
    | 'i' => flags on { m with ignoresCase := on } rest
    | 'm' => flags on { m with lines := on } rest
    | 's' => flags on { m with dotsNewline := on } rest
    | 'x' => flags on { m with spaced := on } rest
    | 'U' => flags on { m with short := on } rest
    | 'n' => flags on { m with silent := on } rest
    | 'J' => flags on m rest
    | _ => .error .unknownFlag

/-- The name of a group up to its closing mark, and the rest. -/
def groupName (close : Char) (s : List Char) : Except Refusal (List Char × List Char) := do
  let name := s.takeWhile fun c => c == '_' || CharClass.alnum.has c
  match name, s.drop name.length with
  | [], _ => throw .nameMissing
  | c :: _, rest =>
    if c.isDigit then throw .nameDigit
    match rest with
    | d :: rest => if d == close then pure (name, rest) else throw .nameUnfinished
    | [] => throw .nameUnfinished

/-- The number of signs that an expression matches, if it is always the same. -/
def fixedLength? : Regex → Option Nat
  | .empty | .anchor _ | .ahead _ _ | .behind _ _ | .keep => some 0
  | .never => some 0
  | .one _ => some 1
  | .cat a b => do return (← fixedLength? a) + (← fixedLength? b)
  | .alt a b => do
    let n ← fixedLength? a
    let m ← fixedLength? b
    if n = m then some n else none
  | .many e least most _ => if most == some least then (fixedLength? e).map (· * least) else none
  | .group _ e | .atomic e => fixedLength? e
  | .again _ => none

/-- Whether each alternative of an expression has its length. -/
def hasLengths : Regex → Bool
  | .alt a b => (fixedLength? a).isSome && hasLengths b
  | e => (fixedLength? e).isSome

/-- The end of a line, however it is written. -/
def lineEnd : Regex :=
  .atomic (.alt (.cat (.one (.char '\r')) (.one (.char '\n'))) (.one verticalRanges.toSet))

/-- A reference to a group by its name. -/
def referTo (r : Reading) (name : List Char) : Regex × Reading :=
  match r.known.find? (·.1 == name) with
  | some (_, number) => (.again number, r)
  | none => (.never, { r with missing := true })

/-- A reference to a group by its number. -/
def referToNumber (r : Reading) (number : Nat) : Regex × Reading :=
  (.again number, { r with referred := max r.referred number })

/-- What stands behind a backslash outside a set. -/
def escape (m : Mode) (c : Char) (rest : List Char) (r : Reading) :
    Except Refusal (Part × Reading) := do
  let reached (rest : List Char) (p : Part) : Part × Reading := (p, { r with rest })
  let found := reached rest
  let named (close : Char) (rest : List Char) : Except Refusal (Part × Reading) := do
    let (name, rest) ← groupName close rest
    let (e, r) := referTo { r with rest } name
    pure (.regex e, r)
  match c with
  | 'A' | 'G' => pure (found (.place (.anchor .start)))
  | 'z' => pure (found (.place (.anchor .finish)))
  | 'Z' => pure (found (.place (.anchor .lastLine)))
  | 'b' => pure (found (.place (.anchor .boundary)))
  | 'B' => pure (found (.place (.anchor .noBoundary)))
  | 'K' => pure (found (.place .keep))
  | 'N' =>
    if rest.head? == some '\x7b' then throw .foreignEscape
    pure (found (.regex (.one (.oneOf true [('\n', '\n')] []))))
  | 'R' => pure (found (.regex lineEnd))
  | 'X' | 'C' => pure (found (.regex (.one .any)))
  | 'E' => pure (found .nothing)
  | 'k' =>
    match rest with
    | '<' :: rest => named '>' rest
    | '\'' :: rest => named '\'' rest
    | '\x7b' :: rest => named '\x7d' rest
    | _ => throw .referenceName
  | 'g' =>
    let (close, body) := match rest with
      | '\x7b' :: rest => (some '\x7d', rest)
      | '<' :: rest => (some '>', rest)
      | '\'' :: rest => (some '\'', rest)
      | rest => (none, rest)
    let (sign, number) := match body with
      | '-' :: rest => (some '-', rest)
      | '+' :: rest => (some '+', rest)
      | rest => (none, rest)
    let ds := number.takeWhile Char.isDigit
    match ds, close with
    | [], none => throw .referenceNumber
    | [], some close => named close body
    | ds, close =>
      let after := number.drop ds.length
      let rest ← match close, after with
        | none, after => pure after
        | some close, d :: after => if d == close then pure after else throw .referenceNumber
        | some _, [] => throw .referenceNumber
      let n := valueIn 10 ds
      let n := match sign with
        | some '-' => r.opened + 1 - n
        | some _ => r.opened + n
        | none => n
      if n = 0 then throw .noSuchGroup
      let (e, r) := referToNumber { r with rest } n
      pure (.regex e, r)
  | c =>
    if '1' ≤ c && c ≤ '9' then
      let ds := (c :: rest).takeWhile Char.isDigit
      let n := valueIn 10 ds
      if n < 10 || c == '8' || c == '9' || n ≤ r.opened then
        let (e, r) := referToNumber { r with rest := (c :: rest).drop ds.length } n
        pure (.regex e, r)
      else
        let (ds, rest) := digits isOctal 3 (c :: rest)
        pure (reached rest (.regex (literal m (Char.ofNat (valueIn 8 ds)))))
    else
      match ← escaped? c rest with
      | some (.inl d, rest) => pure (reached rest (.regex (literal m d)))
      | some (.inr s, rest) => pure (reached rest (.regex (.one s.toSet)))
      | none => throw .unknownEscape

/-- How a group begins. -/
inductive Opening where
  | plain
  /-- Remembers, perhaps under a name. -/
  | numbered (name : Option (List Char))
  | ahead (negated : Bool)
  | behind (negated : Bool)
  | atomic
  /-- Numbers the groups of each alternative alike. -/
  | branches
  | flags (m : Mode)
  /-- A reference by a name. -/
  | reference (name : List Char)
  | comment

/-- What opens a group, after its parenthesis: the mode of its body, and the rest. -/
def opening (m : Mode) (s : List Char) : Except Refusal (Opening × Mode × List Char) := do
  match s with
  | '*' :: _ => throw .verb
  | '?' :: rest =>
    match rest with
    | '#' :: rest =>
      let body := rest.takeWhile (· != ')')
      if (rest.drop body.length).isEmpty then throw .openComment
      pure (.comment, m, rest.drop (body.length + 1))
    | '=' :: rest => pure (.ahead false, m, rest)
    | '!' :: rest => pure (.ahead true, m, rest)
    | '>' :: rest => pure (.atomic, m, rest)
    | '|' :: rest => pure (.branches, m, rest)
    | '<' :: '=' :: rest => pure (.behind false, m, rest)
    | '<' :: '!' :: rest => pure (.behind true, m, rest)
    | '<' :: rest | 'P' :: '<' :: rest =>
      let (name, rest) ← groupName '>' rest
      pure (.numbered (some name), m, rest)
    | '\'' :: rest =>
      let (name, rest) ← groupName '\'' rest
      pure (.numbered (some name), m, rest)
    | 'P' :: '=' :: rest =>
      let (name, rest) ← groupName ')' rest
      pure (.reference name, m, rest)
    | rest =>
      match ← flags true m rest with
      | (m, ':' :: rest) => pure (.plain, m, rest)
      | (changed, rest) => pure (.flags changed, m, rest.tail)
  | rest => pure (if m.silent then .plain else .numbered none, m, rest)

/-- The text after blanks and comments, where they are allowed. -/
def skipSpace (m : Mode) : Nat → List Char → List Char
  | 0, s => s
  | n + 1, s =>
    if !m.spaced then s
    else
      match s with
      | '#' :: rest => skipSpace m n (rest.dropWhile (· != '\n'))
      | c :: rest => if c == ' ' || '\t' ≤ c && c ≤ '\r' then skipSpace m n rest else s
      | [] => []

/-- What was read of a group: the finished alternatives, and the parts of the last one, the last
part first. -/
structure Group where
  mode : Mode
  alternatives : List Regex
  parts : List Regex
  /-- The part that may be repeated. -/
  last : Option Regex

namespace Group

/-- The group with one more part. -/
def push (g : Group) (p : Part) : Group :=
  match p with
  | .regex e => { g with parts := g.last.toList ++ g.parts, last := some e }
  | .place e => { g with parts := e :: (g.last.toList ++ g.parts), last := none }
  | .nothing => g

/-- Ends an alternative. -/
def close (g : Group) : Group :=
  { g with
    alternatives := g.alternatives ++ [.sequence (g.last.toList ++ g.parts).reverse]
    parts := [], last := none }

/-- The expression of the whole group. -/
def whole (g : Group) : Regex :=
  match g.close.alternatives.reverse with
  | [] => .empty
  | last :: others => others.foldl (fun e first => .alt first e) last

end Group

/-- Reads a group up to its end. In a group of branches, each of them begins to number its groups
where the group began. -/
def group : Nat → (depth : Nat) → (branches : Option Nat) → (most : Nat) → Group → Reading →
    Except Refusal (Regex × Reading)
  | 0, _, _, _, _, _ => .error .openGroup
  | n + 1, depth, branches, most, g, r => do
    let go (p : Part) (r : Reading) : Except Refusal (Regex × Reading) :=
      group n depth branches most (g.push p) r
    let rest := skipSpace g.mode r.rest.length r.rest
    match ← quantifier? rest with
    | some (least, limit, rest) =>
      match g.last with
      | none => throw .nothingToRepeat
      | some e =>
        let (e, rest) := repeated g.mode e least limit rest
        group n depth branches most { g with parts := e :: g.parts, last := none } { r with rest }
    | none =>
      match rest with
      | [] => if depth = 0 then pure (g.whole, { r with rest }) else throw .openGroup
      | ')' :: rest =>
        if depth = 0 then throw .closedGroup
        else
          let opened := if branches.isSome then max most r.opened else r.opened
          pure (g.whole, { r with rest, opened })
      | '|' :: rest =>
        let most := max most r.opened
        group n depth branches most g.close { r with rest, opened := branches.getD r.opened }
      | '(' :: rest =>
        let (opening, mode, rest) ← opening g.mode rest
        let r := { r with rest }
        let inside (r : Reading) (branches : Option Nat) : Except Refusal (Regex × Reading) :=
          group n (depth + 1) branches r.opened ⟨mode, [], [], none⟩ r
        match opening with
        | .comment => go .nothing r
        | .flags mode => group n depth branches most { g with mode } r
        | .reference name =>
          let (e, r) := referTo r name
          go (.regex e) r
        | .plain =>
          let (e, r) ← inside r none
          go (.regex e) r
        | .branches =>
          let (e, r) ← inside r (some r.opened)
          go (.regex e) r
        | .atomic =>
          let (e, r) ← inside r none
          go (.regex (.atomic e)) r
        | .ahead negated =>
          let (e, r) ← inside r none
          go (.regex (.ahead negated e)) r
        | .behind negated =>
          let (e, r) ← inside r none
          if !hasLengths e then throw .lookBehindLength
          go (.regex (.behind negated e)) r
        | .numbered name =>
          let number := r.opened + 1
          if name.any fun name => r.names.any (·.1 == name) then throw .nameRepeated
          let names := name.toList.map (·, number) ++ r.names
          let (e, r) ← inside { r with opened := number, names } none
          go (.regex (.group number e)) r
      | '[' :: ':' :: rest =>
        let body := rest.takeWhile fun c => c != ':' && c != ']'
        if (rest.drop body.length).take 2 == [':', ']'] then throw .posixOutsideClass
        let (e, rest) ← set g.mode (':' :: rest)
        go (.regex e) { r with rest }
      | '[' :: rest =>
        let (e, rest) ← set g.mode rest
        go (.regex e) { r with rest }
      | '.' :: rest =>
        let set := if g.mode.dotsNewline then .any else CharSet.oneOf true [('\n', '\n')] []
        go (.regex (.one set)) { r with rest }
      | '^' :: rest =>
        go (.place (.anchor (if g.mode.lines then .lineStart false else .start))) { r with rest }
      | '$' :: rest =>
        go (.place (.anchor (if g.mode.lines then .lineFinish false else .finish))) { r with rest }
      | ['\\'] => throw .backslashAtEnd
      | '\\' :: 'Q' :: rest =>
        let (quoted, rest) := untilQuoteEnd rest
        match quoted.getLast? with
        | none => go .nothing { r with rest }
        | some last =>
          let parts := (quoted.dropLast.map (literal g.mode)).reverse
          let g := { g with parts := parts ++ (g.last.toList ++ g.parts), last := none }
          group n depth branches most (g.push (.regex (literal g.mode last))) { r with rest }
      | '\\' :: c :: rest =>
        let (p, r) ← escape g.mode c rest r
        go p r
      | c :: rest => go (.regex (literal g.mode c)) { r with rest }
where
  /-- A text up to `\E`, and what follows. -/
  untilQuoteEnd : List Char → List Char × List Char
    | '\\' :: 'E' :: rest => ([], rest)
    | c :: rest =>
      let (quoted, after) := untilQuoteEnd rest
      (c :: quoted, after)
    | [] => ([], [])

/-- Reads an expression. Names may be referred to before they are given. -/
def read (ignoresCase : Bool) (s : List Char) : Except Refusal Regex := do
  let mode : Mode := ⟨ignoresCase, false, false, false, false, false⟩
  let start (known : List (List Char × Nat)) : Except Refusal (Regex × Reading) :=
    group (s.length + 1) 0 none 0 ⟨mode, [], [], none⟩ ⟨s, 0, [], known, 0, false⟩
  let (_, first) ← start []
  let (e, r) ← start first.names
  if r.missing || r.opened < r.referred then throw .noSuchGroup
  pure e

end Assay.Tool.Grep.Perl
