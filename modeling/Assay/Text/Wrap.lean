import Assay.Text.Alphanumeric
import Assay.Text.Columns
import Assay.Text.LineBreak
import Assay.Text.Lines

/-!
# Wrapping

A text is laid out in lines of bounded width, each with an indentation: one for the first line, one
for all others. Each line of the text is a paragraph and starts a new line. A paragraph is cut into
words where the line breaking rules allow, words with inner hyphens after these, and what is still
too wide for a line wherever it is full; then each line takes as many words as fit. Spaces at the
end of a line are dropped.

A word keeps its letters and its spaces apart, and each cut keeps every character: the texts of the
words of a paragraph, spaces included, make up the paragraph (`flatten_words`).
-/

namespace Assay.Text.Wrap

/-- A piece of text that stays on one line, and the number of spaces after it. -/
structure Word where
  letters : List Char
  spaces : Nat
deriving DecidableEq, Repr

namespace Word

/-- The text of a word with its spaces. -/
def text (w : Word) : List Char := w.letters ++ List.replicate w.spaces ' '

/-- The columns of a word without its spaces. -/
def width (w : Word) : Nat := columns w.letters

/-- The word of a text: the spaces at its end are set apart. -/
def ofText (s : List Char) : Word :=
  ⟨(s.reverse.dropWhile (· == ' ')).reverse, (s.reverse.takeWhile (· == ' ')).length⟩

end Word

/-! ### Words -/

/-- Puts segments together again where the first of them ends in a hyphen or a soft hyphen: whether
a word is divided there is decided by what stands on both sides. -/
def rejoin : List (List Char) → List (List Char)
  | [] => []
  | first :: later =>
    match rejoin later with
    | [] => [first]
    | second :: others =>
      match first.getLast? with
      | some '-' | some '\u00ad' => (first ++ second) :: others
      | _ => first :: second :: others

/-- Whether the last character of glyphs is a hyphen or a soft hyphen. -/
def endsInHyphen (glyphs : List Glyph) : Bool :=
  match (glyphs.filterMap Glyph.character?).getLast? with
  | some c => c == '-' || c == '\u00ad'
  | none => false

/-- Puts the last two segments together. -/
def joinLast : List (List Char) → List (List Char)
  | [] => []
  | [last] => [last]
  | [first, last] => [first ++ last]
  | first :: later => first :: joinLast later

/-- The segments of a paragraph before words are divided. A paragraph that ends in a hyphen keeps
its last two segments together: it is not known there whether a letter follows. -/
def joined (paragraph : List Char) : List (List Char) :=
  let pieces := rejoin (LineBreak.segments paragraph)
  if endsInHyphen (Glyph.ofText paragraph) then joinLast pieces else pieces

/-- Cuts the letters of a word after each hyphen between two letters or digits. -/
def divide : List Char → List (List Char)
  | a :: '-' :: b :: rest =>
    if isAlphanumeric a && isAlphanumeric b then [a, '-'] :: divide (b :: rest)
    else
      match divide ('-' :: b :: rest) with
      | [] => [[a]]
      | first :: later => (a :: first) :: later
  | a :: rest =>
    match divide rest with
    | [] => [[a]]
    | first :: later => (a :: first) :: later
  | [] => []

/-- Cuts glyphs into pieces of at most `limit` columns; `used` columns of the first piece are taken
already. -/
def chop (limit : Nat) : Nat → List Glyph → List (List Char)
  | _, [] => [[]]
  | used, .escape sequence :: rest =>
    match chop limit used rest with
    | [] => [sequence]
    | first :: later => (sequence ++ first) :: later
  | used, .character c :: rest =>
    let full := 0 < used ∧ limit < used + columnsOf c
    match chop limit (if full then columnsOf c else used + columnsOf c) rest with
    | [] => [[c]]
    | first :: later => if full then [] :: (c :: first) :: later else (c :: first) :: later

/-- The words of pieces of one word: its spaces stay with the last. -/
def withSpaces (spaces : Nat) : List (List Char) → List Word
  | [] => [⟨[], spaces⟩]
  | [last] => [⟨last, spaces⟩]
  | piece :: pieces => ⟨piece, 0⟩ :: withSpaces spaces pieces

/-- A word cut at its hyphens. -/
def hyphenated (w : Word) : List Word := withSpaces w.spaces (divide w.letters)

/-- A word cut to pieces that fit in a line. -/
def fitted (limit : Nat) (w : Word) : List Word :=
  if limit < w.width then withSpaces w.spaces (chop limit 0 (Glyph.ofText w.letters)) else [w]

/-- The words of a paragraph. -/
def words (limit : Nat) (paragraph : List Char) : List Word :=
  (((joined paragraph).map Word.ofText).flatMap hyphenated).flatMap (fitted limit)

/-! ### Lines -/

/-- Lays words out in lines. `limit` tells how many columns each line has, by its number; `line` is
the line begun and `used` its columns, spaces included. -/
def fill (limit : Nat → Nat) : Nat → List Word → Nat → List Word → List (List Word)
  | _, line, _, [] => [line]
  | n, line, used, w :: rest =>
    if line ≠ [] ∧ limit n < used + w.width then
      line :: fill limit (n + 1) [w] (w.width + w.spaces) rest
    else fill limit n (line ++ [w]) (used + w.width + w.spaces) rest

/-- The text of a line: the spaces after the last word are dropped. -/
def lineText : List Word → List Char
  | [] => []
  | [w] => w.letters
  | w :: rest => w.text ++ lineText rest

/-- The shape of a layout: how wide it is, and what stands before the first line and before all
others. -/
structure Layout where
  width : Nat
  firstIndent : List Char
  indent : List Char
deriving DecidableEq, Repr

namespace Layout

/-- The columns left for the text of a line of a paragraph. -/
def room (l : Layout) (line : Nat) : Nat :=
  l.width - columns (if line = 0 then l.firstIndent else l.indent)

/-- The lines of a paragraph, without indentation. An empty word comes first, so that an empty
paragraph has a line, and the first line of a paragraph stays empty where nothing fits in it. -/
def paragraphLines (l : Layout) (paragraph : List Char) : List (List Char) :=
  (fill l.room 0 [] 0 (⟨[], 0⟩ :: words (l.room 1) paragraph)).map lineText

/-- The lines of a text, without indentation. -/
def textLines (l : Layout) (s : List Char) : List (List Char) :=
  (split '\n' s).flatMap l.paragraphLines

/-- Puts the indentation before each line. -/
def indented (l : Layout) : List (List Char) → List (List Char)
  | [] => []
  | first :: later => (l.firstIndent ++ first) :: later.map (l.indent ++ ·)

/-- A text laid out. -/
def layOut (l : Layout) (s : List Char) : List Char := join '\n' (l.indented (l.textLines s))

end Layout

/-! ### No character is lost -/

/-- The spaces that were set apart are put back. -/
theorem text_ofText (s : List Char) : (Word.ofText s).text = s := by
  have hspaces (r : List Char) :
      List.replicate (r.takeWhile (· == ' ')).length ' ' = (r.takeWhile (· == ' ')).reverse := by
    induction r with
    | nil => rfl
    | cons c r ih =>
      by_cases hc : c = ' '
      · simp [hc, List.replicate_succ', ih]
      · simp [hc]
  rw [Word.ofText, Word.text, hspaces, ← List.reverse_append, List.takeWhile_append_dropWhile,
    List.reverse_reverse]

/-- Putting segments together keeps the text they make up. -/
theorem flatten_rejoin (pieces : List (List Char)) : (rejoin pieces).flatten = pieces.flatten := by
  induction pieces with
  | nil => rfl
  | cons first later ih =>
    simp only [rejoin]
    split
    · next hnil =>
      rw [hnil] at ih
      rw [List.flatten_cons, List.flatten_cons, ih]
    · next second others hcons =>
      rw [hcons, List.flatten_cons] at ih
      rw [List.flatten_cons, ← ih]
      split <;> simp only [List.flatten_cons, List.append_assoc]

/-- Putting the last two segments together keeps the text. -/
theorem flatten_joinLast (pieces : List (List Char)) :
    (joinLast pieces).flatten = pieces.flatten := by
  fun_induction joinLast pieces with
  | case1 => rfl
  | case2 last => rfl
  | case3 first last =>
    rw [List.flatten_singleton, List.flatten_cons, List.flatten_singleton]
  | case4 first later hnil hlast ih => rw [List.flatten_cons, ih, List.flatten_cons]

/-- The segments of a paragraph make up the paragraph. -/
theorem flatten_joined (paragraph : List Char) : (joined paragraph).flatten = paragraph := by
  have hrejoin : (rejoin (LineBreak.segments paragraph)).flatten = paragraph := by
    rw [flatten_rejoin, LineBreak.flatten_segments]
  unfold joined
  split
  · rw [flatten_joinLast, hrejoin]
  · exact hrejoin

/-- The pieces of a word that was divided at its hyphens make up the word. -/
theorem flatten_divide (s : List Char) : (divide s).flatten = s := by
  fun_induction divide s with
  | case1 a b rest hboth ih =>
    rw [List.flatten_cons, ih]
    rfl
  | case2 a b rest hnot hnil ih =>
    -- a text that is not empty has a piece
    rw [hnil] at ih
    exact absurd ih.symm (List.cons_ne_nil _ _)
  | case3 a b rest hnot first later hcons ih =>
    rw [hcons, List.flatten_cons] at ih
    rw [List.flatten_cons, List.cons_append, ih]
  | case4 a rest hother hnil ih =>
    rw [hnil, List.flatten_nil] at ih
    rw [← ih, List.flatten_singleton]
  | case5 a rest hother first later hcons ih =>
    rw [hcons, List.flatten_cons] at ih
    rw [List.flatten_cons, List.cons_append, ih]
  | case6 => rfl

/-- The pieces that fit in lines make up the text of the glyphs. -/
theorem flatten_chop (limit used : Nat) (glyphs : List Glyph) :
    (chop limit used glyphs).flatten = glyphs.flatMap Glyph.text := by
  fun_induction chop limit used glyphs with
  | case1 used => rfl
  | case2 used sequence rest hnil ih =>
    rw [hnil, List.flatten_nil] at ih
    rw [List.flatten_singleton, List.flatMap_cons, Glyph.text, ← ih, List.append_nil]
  | case3 used sequence rest first later hcons ih =>
    rw [hcons, List.flatten_cons] at ih
    rw [List.flatten_cons, List.flatMap_cons, Glyph.text, ← ih, List.append_assoc]
  | case4 used c rest full hnil ih =>
    rw [hnil, List.flatten_nil] at ih
    rw [List.flatten_singleton, List.flatMap_cons, Glyph.text, ← ih, List.append_nil]
  | case5 used c rest full first later hcons hfull ih =>
    -- the line is full: the character begins a piece of its own
    rw [hcons, List.flatten_cons] at ih
    rw [List.flatten_cons, List.nil_append, List.flatten_cons, List.flatMap_cons, Glyph.text,
      ← ih, List.cons_append, List.singleton_append]
  | case6 used c rest full first later hcons hroom ih =>
    rw [hcons, List.flatten_cons] at ih
    rw [List.flatten_cons, List.flatMap_cons, Glyph.text, ← ih, List.cons_append,
      List.singleton_append]

/-- The words of pieces make up the pieces, with the spaces behind them. -/
theorem flatMap_text_withSpaces (spaces : Nat) (pieces : List (List Char)) :
    (withSpaces spaces pieces).flatMap Word.text =
      pieces.flatten ++ List.replicate spaces ' ' := by
  fun_induction withSpaces spaces pieces with
  | case1 => rw [List.flatMap_singleton, Word.text, List.flatten_nil]
  | case2 last => rw [List.flatMap_singleton, Word.text, List.flatten_singleton]
  | case3 piece pieces hmore ih =>
    rw [List.flatMap_cons, ih, Word.text, List.replicate_zero, List.append_nil, List.flatten_cons,
      List.append_assoc]

/-- Dividing a word at its hyphens keeps its text. -/
theorem flatMap_text_hyphenated (w : Word) : (hyphenated w).flatMap Word.text = w.text := by
  rw [hyphenated, flatMap_text_withSpaces, flatten_divide, Word.text]

/-- Cutting a word so that it fits in lines keeps its text. -/
theorem flatMap_text_fitted (limit : Nat) (w : Word) :
    (fitted limit w).flatMap Word.text = w.text := by
  unfold fitted
  split
  · rw [flatMap_text_withSpaces, flatten_chop, Glyph.flatMap_text_ofText, Word.text]
  · exact List.flatMap_singleton _ w

/-- The words of a paragraph make up the paragraph. -/
theorem flatten_words (limit : Nat) (paragraph : List Char) :
    (words limit paragraph).flatMap Word.text = paragraph := by
  simp only [words, List.flatMap_assoc]
  have h : (fun w : Word => (hyphenated w).flatMap fun v => (fitted limit v).flatMap Word.text) =
      Word.text := by
    funext w
    simp only [flatMap_text_fitted]
    exact flatMap_text_hyphenated w
  rw [h, List.flatMap_map]
  have h' : (fun s => (Word.ofText s).text) = fun s : List Char => s := funext text_ofText
  rw [h', List.flatMap_id', flatten_joined]

end Assay.Text.Wrap
