import Assay.Text.Glyph
import Assay.Text.LineBreak.Ranges

/-!
# Where a line may be broken

The rules of the Unicode line breaking algorithm. What decides about a break before a character is
its own class and a `Context`: the class of the last character that counts, whether spaces follow
it, and three facts that reach further back. Spaces never start a line, and a combining mark
belongs to the character it stands on.

Two consequences are seen in reports: a path may be broken after a `/` but never before one, not
even where a space stands between; and an opening bracket stays with what it opens.

`segments` cuts a text at every place where a break may be. It cuts and changes nothing
(`flatten_segments`).
-/

namespace Assay.Text.LineBreak

open BreakClass

/-- The class of an ASCII character. -/
def asciiClass (c : Char) : BreakClass :=
  if c.isAlpha then al
  else if c.isDigit then nu
  else
    match c with
    | '\t' | '|' => ba
    | '\n' => lf
    | '\x0b' | '\x0c' => bk
    | '\r' => cr
    | ' ' => sp
    | '!' | '?' => ex
    | '"' | '\'' => qu
    | '$' | '+' | '\\' => pr
    | '%' => po
    | '(' | '[' | '\x7b' => op
    | ')' | ']' => cp
    | '\x7d' => cl
    | ',' | '.' | ':' | ';' => infixSep
    | '-' => hy
    | '/' => sy
    | '#' | '&' | '*' | '<' | '=' | '>' | '@' | '^' | '_' | '\x60' | '~' => al
    | _ => cm

/-- The class of a Hangul syllable, by whether it has a final. -/
def hangulClass (n : Nat) : BreakClass := if (n - 0xAC00) % 28 = 0 then h2 else h3

/-- The class of a character. -/
def classOf (c : Char) : BreakClass :=
  let n := c.toNat
  if n < 0x80 then asciiClass c
  else if 0xAC00 ≤ n ∧ n ≤ 0xD7A3 then hangulClass n
  else
    match ranges.find? fun (first, last, _) => first ≤ n && n ≤ last with
    | some (_, _, found) => found
    | none => al

/-- Whether a code point is set aside for a pictograph that does not exist yet. -/
def isReservedPictograph (n : Nat) : Bool :=
  [(0x1F02C, 0x1F02F), (0x1F094, 0x1F09F), (0x1F0AF, 0x1F0B0), (0x1F0C0, 0x1F0C0),
    (0x1F0D0, 0x1F0D0), (0x1F0F6, 0x1F0FF), (0x1F1AE, 0x1F1E5), (0x1F203, 0x1F20F),
    (0x1F23C, 0x1F23F), (0x1F249, 0x1F24F), (0x1F252, 0x1F25F), (0x1F266, 0x1F2FF),
    (0x1F6D8, 0x1F6DB), (0x1F6ED, 0x1F6EF), (0x1F6FD, 0x1F6FF), (0x1F777, 0x1F77A),
    (0x1F7DA, 0x1F7DF), (0x1F7EC, 0x1F7EF), (0x1F7F1, 0x1F7FF), (0x1F80C, 0x1F80F),
    (0x1F848, 0x1F84F), (0x1F85A, 0x1F85F), (0x1F888, 0x1F88F), (0x1F8AE, 0x1F8AF),
    (0x1F8B2, 0x1F8FF), (0x1FA54, 0x1FA5F), (0x1FA6E, 0x1FA6F), (0x1FA7D, 0x1FA7F),
    (0x1FA89, 0x1FA8F), (0x1FABE, 0x1FABE), (0x1FAC6, 0x1FACD), (0x1FADC, 0x1FADF),
    (0x1FAE9, 0x1FAEF), (0x1FAF9, 0x1FAFF), (0x1FC00, 0x1FFFD)].any
    fun (first, last) => first ≤ n && n ≤ last

/-- What stands before a place in a text. -/
structure Context where
  /-- The class of the last character that is neither a mark on another one nor a space after
  one. -/
  left : BreakClass
  /-- Whether spaces stand after it. -/
  spaced : Bool
  /-- Whether the character directly before is a zero width joiner. -/
  joined : Bool
  /-- Whether `left` is a hyphen or the like directly after a Hebrew letter. -/
  hebrewHyphen : Bool
  /-- Whether `left` is a half of a flag whose other half is missing. -/
  halfFlag : Bool
  /-- Whether `left` is a pictograph that does not exist yet. -/
  reserved : Bool
deriving DecidableEq, Repr

namespace Context

/-- The context after a character that counts by itself. -/
def after (before : Option Context) (c : Char) (cls : BreakClass) : Context where
  left := cls
  spaced := cls == sp
  joined := c.toNat == 0x200D
  hebrewHyphen :=
    (cls == hy || cls == ba) && before.any fun ctx => ctx.left == hl && !ctx.spaced
  halfFlag := cls == ri && !(before.any fun ctx => ctx.halfFlag && !ctx.spaced)
  reserved := isReservedPictograph c.toNat

/-- Whether a mark that follows stands on the character before. -/
def carries (ctx : Context) : Bool := !ctx.spaced && !([bk, cr, lf, nl, sp, zw].contains ctx.left)

end Context

/-- Whether a letter, for the rules that treat Hebrew like other scripts. -/
def isLetter (k : BreakClass) : Bool := k == al || k == hl

/-- Whether an ideograph or an emoji. -/
def isPictorial (k : BreakClass) : Bool := k == ideographic || k == emojiBase || k == emojiModifier

/-- Whether a part of Hangul. -/
def isHangul (k : BreakClass) : Bool := [jl, jv, jt, h2, h3].contains k

/-- The pairs that keep a number with its signs and separators together. -/
def inNumber : BreakClass → BreakClass → Bool
  | cl, po | cp, po | cl, pr | cp, pr | nu, po | nu, pr | po, op | pr, op | po, nu | pr, nu
  | hy, nu | infixSep, nu | nu, nu | sy, nu => true
  | _, _ => false

/-- The pairs that keep a Hangul syllable together. -/
def inSyllable : BreakClass → BreakClass → Bool
  | jl, jl | jl, jv | jl, h2 | jl, h3 | jv, jv | jv, jt | h2, jv | h2, jt | jt, jt | h3, jt => true
  | _, _ => false

/-- Whether two characters that stand side by side, neither a space nor an ending or beginning of a
line, are kept together. -/
def keeps (ctx : Context) (next : BreakClass) : Bool :=
  let left := ctx.left
  if next == qu || left == qu then true
  else if next == cb || left == cb then false
  else
    next == ba || next == hy || next == ns || left == bb || ctx.hebrewHyphen ||
      (left == sy && next == hl) || next == inseparable ||
      (isLetter left && next == nu) || (left == nu && isLetter next) ||
      (left == pr && isPictorial next) || (isPictorial left && next == po) ||
      ((left == pr || left == po) && isLetter next) ||
      (isLetter left && (next == pr || next == po)) ||
      inNumber left next || inSyllable left next ||
      (isHangul left && next == po) || (left == pr && isHangul next) ||
      (isLetter left && isLetter next) || (left == infixSep && isLetter next) ||
      ((isLetter left || left == nu) && next == op) ||
      (left == cp && (isLetter next || next == nu)) ||
      (ctx.halfFlag && next == ri) || ((left == emojiBase || ctx.reserved) && next == emojiModifier)

/-- Whether a line may be broken before a character of class `next` that is no mark on the one
before. The cases stand in the order in which the algorithm's rules take precedence. -/
def mayBreak (ctx : Context) (next : BreakClass) : Bool :=
  let left := ctx.left
  let adjacent := !ctx.spaced
  if adjacent && left == bk then true
  else if adjacent && left == cr && next == lf then false
  else if adjacent && (left == cr || left == lf || left == nl) then true
  else if next == bk || next == cr || next == lf || next == nl then false
  else if next == sp || next == zw then false
  else if left == zw then true
  else if adjacent && ctx.joined then false
  else if next == wj || (adjacent && left == wj) then false
  else if adjacent && left == gl then false
  else if adjacent && next == gl && left != ba && left != hy then false
  else if next == cl || next == cp || next == ex || next == infixSep || next == sy then false
  else if left == op then false
  else if left == qu && next == op then false
  else if (left == cl || left == cp) && next == ns then false
  else if left == b2 && next == b2 then false
  else if ctx.spaced then true
  else !keeps ctx next

/-- Reads a character: whether a line may be broken before it, and the context after it. -/
def advance (before : Option Context) (c : Char) : Bool × Context :=
  let cls := classOf c
  match before with
  | none => (false, .after none c (if cls == cm || cls == zwj then al else cls))
  | some ctx =>
    if cls == cm || cls == zwj then
      if ctx.carries then (false, { ctx with joined := cls == zwj })
      else (mayBreak ctx al, .after before c al)
    else if cls == sp && !([bk, cr, lf, nl].contains ctx.left && !ctx.spaced) then
      (false, { ctx with spaced := true, joined := false })
    else (mayBreak ctx cls, .after before c cls)

/-- Puts an escape sequence in front of segments. Where a line may be broken before the first of
their characters, it may be broken before the escape sequence. -/
def withEscape (sequence : List Char) : List (List Char) → List (List Char)
  | [] => [sequence]
  | [] :: second :: later => [] :: (sequence ++ second) :: later
  | first :: later => (sequence ++ first) :: later

/-- The segments of glyphs in a context; the first one goes on with what was read before. -/
def segmentsFrom : Option Context → List Glyph → List (List Char)
  | _, [] => [[]]
  | before, .escape sequence :: rest => withEscape sequence (segmentsFrom before rest)
  | before, .character c :: rest =>
    let (breaks, ctx) := advance before c
    match segmentsFrom (some ctx) rest with
    | [] => [[c]]
    | first :: later => if breaks then [] :: (c :: first) :: later else (c :: first) :: later

/-- The pieces of a text between the places where a line may be broken. -/
def segments (s : List Char) : List (List Char) := segmentsFrom none (Glyph.ofText s)

/-- An escape sequence stands in front of all of the segments. -/
theorem flatten_withEscape (sequence : List Char) (pieces : List (List Char)) :
    (withEscape sequence pieces).flatten = sequence ++ pieces.flatten := by
  fun_cases withEscape sequence pieces with
  | case1 => rw [List.flatten_singleton, List.flatten_nil, List.append_nil]
  | case2 second later => simp only [List.flatten_cons, List.nil_append, List.append_assoc]
  | case3 first later => rw [List.flatten_cons, List.flatten_cons, List.append_assoc]

/-- Whatever the context is, the segments of glyphs are their texts in a row. -/
theorem flatten_segmentsFrom (before : Option Context) (glyphs : List Glyph) :
    (segmentsFrom before glyphs).flatten = glyphs.flatMap Glyph.text := by
  fun_induction segmentsFrom before glyphs with
  | case1 => rfl
  | case2 before sequence rest ih => rw [flatten_withEscape, ih, List.flatMap_cons, Glyph.text]
  | case3 before c rest breaks ctx hadvance hrest ih =>
    rw [hrest, List.flatten_nil] at ih
    rw [List.flatMap_cons, ← ih, List.append_nil]
    rfl
  -- a line may be broken in front of the character, or not: it stands in front of the others
  | case4 before c rest ctx first later hrest hadvance ih
  | case5 before c rest breaks ctx hadvance first later hrest hbreaks ih =>
    rw [hrest, List.flatten_cons] at ih
    rw [List.flatMap_cons, ← ih]
    rfl

/-- Nothing is lost or changed by cutting. -/
theorem flatten_segments (s : List Char) : (segments s).flatten = s := by
  rw [segments, flatten_segmentsFrom, Glyph.flatMap_text_ofText]

end Assay.Text.LineBreak
