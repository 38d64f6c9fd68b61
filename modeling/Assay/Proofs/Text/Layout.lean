import Assay.Text.Wrap

/-!
# What a layout keeps

A layout cuts a text into lines and puts an indentation before each. Whatever the widths are and
wherever the cuts fall, inside a word that is too long included, it takes nothing away but spaces
and line ends, and puts nothing in but line ends and the indentation. So a choice of characters that
passes over spaces and line ends finds in a text that was laid out what it finds in the text.

* `flatten_fill` — every word is put in one line, and the words keep their order.
* `Disregards keep` — the choice `keep` passes over spaces and line ends.
* `Disregards.filter_textLines` — the lines of a text hold its characters, none left out and none
  twice.
* `Disregards.filter_layOut` — what is found in a text that was laid out: the indentation of its
  first line and the text.
-/

namespace Assay.Text

variable {keep : Char → Bool}

/-- Where the same is found in each of two parts, the same is found in the whole. -/
theorem filter_flatMap_congr {α : Type} {f g : α → List Char}
    (h : ∀ x, (f x).filter keep = (g x).filter keep) (xs : List α) :
    (xs.flatMap f).filter keep = (xs.flatMap g).filter keep := by
  rw [List.filter_flatMap, List.filter_flatMap, funext h]

/-- A choice that passes over the separator finds the same in pieces, joined or not. -/
theorem filter_join {sep : Char} (h : keep sep = false) (pieces : List (List Char)) :
    (join sep pieces).filter keep = pieces.flatten.filter keep := by
  have hsep : ¬keep sep = true := ne_true_of_eq_false h
  induction pieces with
  | nil => rfl
  | cons piece pieces ih =>
    rw [List.flatten_cons, List.filter_append, ← ih]
    by_cases hnil : pieces = []
    · rw [hnil, join, join, List.filter_nil, List.append_nil]
    · rw [join_cons hnil, List.filter_append, List.filter_cons_of_neg hsep]

namespace Wrap

/-! ### Words in lines -/

/-- Every word is put in one line, behind those of the line begun, and the words keep their
order. -/
theorem flatten_fill (limit : Nat → Nat) (n : Nat) (line : List Word) (used : Nat)
    (words : List Word) : (fill limit n line used words).flatten = line ++ words := by
  fun_induction fill limit n line used words with
  | case1 n line used => rw [List.flatten_singleton, List.append_nil]
  | case2 n line used w rest hfull ih => rw [List.flatten_cons, ih, List.singleton_append]
  | case3 n line used w rest hroom ih => rw [ih, List.append_assoc, List.singleton_append]

/-- There is a line, whether or not there are words. -/
theorem fill_ne_nil (limit : Nat → Nat) (n : Nat) (line : List Word) (used : Nat)
    (words : List Word) : fill limit n line used words ≠ [] := by
  fun_induction fill limit n line used words with
  | case1 n line used => exact List.cons_ne_nil _ _
  | case2 n line used w rest hfull ih => exact List.cons_ne_nil _ _
  | case3 n line used w rest hroom ih => exact ih

/-- A text has a line, the empty one too. -/
theorem Layout.textLines_ne_nil (l : Layout) (s : List Char) : l.textLines s ≠ [] := by
  obtain ⟨paragraph, paragraphs, hsplit⟩ := List.exists_cons_of_ne_nil (split_ne_nil '\n' s)
  rw [textLines, hsplit, List.flatMap_cons]
  apply List.append_ne_nil_of_left_ne_nil
  rw [paragraphLines, Ne, List.map_eq_nil_iff]
  exact fill_ne_nil _ _ _ _ _

/-! ### What is found in lines -/

/-- A choice of characters that passes over spaces and line ends. -/
structure Disregards (keep : Char → Bool) : Prop where
  space : keep ' ' = false
  newline : keep '\n' = false

namespace Disregards

/-- What is found in a word is in its letters. -/
theorem filter_text (h : Disregards keep) (w : Word) :
    w.text.filter keep = w.letters.filter keep := by
  have hspace : ¬keep ' ' = true := ne_true_of_eq_false h.space
  rw [Word.text, List.filter_append, List.filter_replicate_of_neg hspace, List.append_nil]

/-- What is found in a line is found in its words, in spite of the spaces that are dropped. -/
theorem filter_lineText (h : Disregards keep) (line : List Word) :
    (lineText line).filter keep = (line.flatMap Word.text).filter keep := by
  fun_induction lineText line with
  | case1 => rfl
  | case2 w => rw [List.flatMap_singleton, h.filter_text]
  | case3 w rest hrest ih => rw [List.filter_append, ih, ← List.filter_append, List.flatMap_cons]

/-- What is found in lines is found in the words they are made of. -/
theorem filter_lineTexts (h : Disregards keep) (lines : List (List Word)) :
    (lines.map lineText).flatten.filter keep = (lines.flatten.flatMap Word.text).filter keep := by
  calc (lines.map lineText).flatten.filter keep
      = (lines.flatMap lineText).filter keep := by rw [List.flatMap_def]
    _ = (lines.flatMap (List.flatMap Word.text)).filter keep :=
        filter_flatMap_congr h.filter_lineText lines
    _ = (lines.flatten.flatMap Word.text).filter keep := by
        rw [List.flatten_eq_flatMap, List.flatMap_assoc]
        rfl

/-- The lines of a paragraph hold its characters, wherever it was cut. -/
theorem filter_paragraphLines (h : Disregards keep) (l : Layout) (paragraph : List Char) :
    (l.paragraphLines paragraph).flatten.filter keep = paragraph.filter keep := by
  -- the empty word in front has no characters
  have hwords : (⟨[], 0⟩ :: words (l.room 1) paragraph).flatMap Word.text = paragraph := by
    rw [List.flatMap_cons, flatten_words]
    rfl
  rw [Layout.paragraphLines, h.filter_lineTexts, flatten_fill, List.nil_append, hwords]

/-- **The lines of a text hold its characters**, in order, none left out and none twice. -/
theorem filter_textLines (h : Disregards keep) (l : Layout) (s : List Char) :
    (l.textLines s).flatten.filter keep = s.filter keep := by
  calc (l.textLines s).flatten.filter keep
      = ((split '\n' s).flatMap fun p => (l.paragraphLines p).flatten).filter keep := by
        simp only [Layout.textLines, List.flatten_eq_flatMap, List.flatMap_assoc]
    _ = ((split '\n' s).flatMap fun p => p).filter keep :=
        filter_flatMap_congr (h.filter_paragraphLines l) _
    _ = (join '\n' (split '\n' s)).filter keep := by
        rw [List.flatMap_id', filter_join h.newline]
    _ = s.filter keep := by rw [join_split]

/-- Indentations in which nothing is found are put in, but for that of the first line. -/
theorem filter_indented {l : Layout} (hindent : l.indent.filter keep = [])
    {lines : List (List Char)} (hlines : lines ≠ []) :
    (l.indented lines).flatten.filter keep =
      l.firstIndent.filter keep ++ lines.flatten.filter keep := by
  obtain ⟨first, later, rfl⟩ := List.exists_cons_of_ne_nil hlines
  have hindented (line : List Char) : (l.indent ++ line).filter keep = line.filter keep := by
    rw [List.filter_append, hindent, List.nil_append]
  have hlater : (later.map (l.indent ++ ·)).flatten.filter keep = later.flatten.filter keep := by
    rw [← List.flatMap_def, filter_flatMap_congr hindented, List.flatMap_id']
  rw [Layout.indented, List.flatten_cons, List.filter_append, List.filter_append, hlater,
    List.flatten_cons, List.filter_append, List.append_assoc]

/-- **A layout keeps its text**: what is found in a text that was laid out is what is found in the
indentation of the first line and in the text. -/
theorem filter_layOut (h : Disregards keep) {l : Layout} (hindent : l.indent.filter keep = [])
    (s : List Char) :
    (l.layOut s).filter keep = l.firstIndent.filter keep ++ s.filter keep := by
  rw [Layout.layOut, filter_join h.newline, filter_indented hindent (l.textLines_ne_nil s),
    h.filter_textLines]

end Disregards

end Wrap

end Assay.Text
