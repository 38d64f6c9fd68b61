/-!
# Lines

A text is cut at its newlines. `split` keeps every piece, the empty ones and the last one included,
so the pieces joined by the separator give the text back (`join_split`) and no piece holds the
separator (`not_mem_of_mem_split`). What stands on the two sides of a separator is cut apart from
each other (`split_append_cons`). A text in which every line ends with the separator is cut into
these lines and an empty last piece (`split_eq_append_nil_iff`). Paths are cut at `/` by the same
rule.
-/

namespace Assay.Text

/-- The pieces of a text between the occurrences of a separator; a text without it is one piece. -/
def split (sep : Char) : List Char → List (List Char)
  | [] => [[]]
  | c :: rest =>
    if c = sep then [] :: split sep rest
    else
      match split sep rest with
      | [] => [[c]]
      | piece :: pieces => (c :: piece) :: pieces

/-- The pieces with a separator between each and the next. -/
def join (sep : Char) : List (List Char) → List Char
  | [] => []
  | [piece] => piece
  | piece :: pieces => piece ++ sep :: join sep pieces

/-- There is always a piece, if only an empty one. -/
theorem split_ne_nil (sep : Char) (s : List Char) : split sep s ≠ [] := by
  cases s with
  | nil => simp [split]
  | cons c rest =>
    unfold split
    split
    · simp
    · split <;> simp

/-- A separator stands behind every piece but the last. -/
theorem join_cons {sep : Char} {piece : List Char} {pieces : List (List Char)} (h : pieces ≠ []) :
    join sep (piece :: pieces) = piece ++ sep :: join sep pieces := by
  cases pieces with
  | nil => exact absurd rfl h
  | cons => rfl

/-- The first character of the first piece is the first of the text. -/
theorem join_cons_cons (sep c : Char) (piece : List Char) (pieces : List (List Char)) :
    join sep ((c :: piece) :: pieces) = c :: join sep (piece :: pieces) := by
  cases pieces <;> simp [join]

/-- Joining is the library's intercalation of the separator. -/
theorem join_eq_intercalate (sep : Char) (pieces : List (List Char)) :
    join sep pieces = [sep].intercalate pieces := by
  induction pieces with
  | nil => rfl
  | cons piece pieces ih =>
    cases pieces with
    | nil => exact List.intercalate_singleton.symm
    | cons =>
      rw [join_cons (List.cons_ne_nil _ _), ih, List.intercalate_cons_cons, List.append_assoc,
        List.singleton_append]

/-- Nothing is lost by cutting. -/
theorem join_split (sep : Char) (s : List Char) : join sep (split sep s) = s := by
  induction s with
  | nil => rfl
  | cons c rest ih =>
    unfold split
    split
    · next h => rw [join_cons (split_ne_nil sep rest), ih, h]; rfl
    · split
      · next h => exact absurd h (split_ne_nil sep rest)
      · next piece pieces h => rw [join_cons_cons, ← h, ih]

/-- No piece holds the separator. -/
theorem not_mem_of_mem_split {sep : Char} {s piece : List Char} (h : piece ∈ split sep s) :
    sep ∉ piece := by
  induction s generalizing piece with
  | nil =>
    rw [List.mem_singleton.mp h]
    exact List.not_mem_nil
  | cons c rest ih =>
    unfold split at h
    split at h
    · rcases List.mem_cons.1 h with rfl | h
      · simp
      · exact ih h
    · next hc =>
      split at h
      · next hnil => exact absurd hnil (split_ne_nil sep rest)
      · next first pieces hs =>
        rw [hs] at ih
        rcases List.mem_cons.1 h with rfl | h
        · have := ih (List.mem_cons_self ..)
          simp only [List.mem_cons, not_or]
          exact ⟨fun e => hc e.symm, this⟩
        · exact ih (List.mem_cons_of_mem _ h)

/-- A text without the separator is one piece. -/
theorem split_of_not_mem {sep : Char} {s : List Char} (h : sep ∉ s) : split sep s = [s] := by
  induction s with
  | nil => rfl
  | cons c rest ih =>
    rw [List.mem_cons, not_or] at h
    rw [split, if_neg (Ne.symm h.1), ih h.2]

/-- A piece and the separator behind it are cut off the rest. -/
theorem split_append {sep : Char} {piece : List Char} (h : sep ∉ piece) (rest : List Char) :
    split sep (piece ++ sep :: rest) = piece :: split sep rest := by
  induction piece with
  | nil => exact if_pos rfl
  | cons c piece ih =>
    rw [List.mem_cons, not_or] at h
    rw [List.cons_append, split, if_neg (Ne.symm h.1), ih h.2]

/-- A text has one first piece, and one rest behind it. -/
theorem append_cons_inj {sep : Char} {piece piece' rest rest' : List Char} (h : sep ∉ piece)
    (h' : sep ∉ piece') (heq : piece ++ sep :: rest = piece' ++ sep :: rest') :
    piece = piece' ∧ rest = rest' := by
  have hsplit := congrArg (split sep) heq
  rw [split_append h, split_append h'] at hsplit
  obtain rfl : piece = piece' := (List.cons.inj hsplit).1
  exact ⟨rfl, (List.cons.inj (List.append_cancel_left heq)).2⟩

/-- A text is one piece, or a piece, a separator and a text. -/
@[elab_as_elim]
theorem induction_on_pieces (sep : Char) {motive : List Char → Prop} (s : List Char)
    (last : ∀ piece, sep ∉ piece → motive piece)
    (more : ∀ piece rest, sep ∉ piece → motive rest → motive (piece ++ sep :: rest)) :
    motive s := by
  have joined (pieces : List (List Char)) (h : ∀ piece ∈ pieces, sep ∉ piece) :
      motive (join sep pieces) := by
    induction pieces with
    | nil => exact last [] List.not_mem_nil
    | cons piece pieces ih =>
      obtain ⟨hpiece, hpieces⟩ := List.forall_mem_cons.mp h
      by_cases hnil : pieces = []
      · rw [hnil]
        exact last piece hpiece
      · rw [join_cons hnil]
        exact more piece _ hpiece (ih hpieces)
  rw [← join_split sep s]
  exact joined _ fun _ => not_mem_of_mem_split

/-- A separator anywhere cuts a text in two that are cut apart from each other. -/
theorem split_append_cons (sep : Char) (s t : List Char) :
    split sep (s ++ sep :: t) = split sep s ++ split sep t := by
  induction s using induction_on_pieces sep with
  | last piece h => rw [split_append h, split_of_not_mem h, List.singleton_append]
  | more piece rest h ih =>
    rw [List.append_assoc, List.cons_append, split_append h, ih, split_append h, List.cons_append]

/-- With an empty piece at the end, a separator stands behind each of the others. -/
theorem join_append_nil (sep : Char) (lines : List (List Char)) :
    join sep (lines ++ [[]]) = lines.flatMap (· ++ [sep]) := by
  induction lines with
  | nil => rfl
  | cons line lines ih =>
    have hmore : lines ++ [[]] ≠ [] := List.append_ne_nil_of_right_ne_nil _ (List.cons_ne_nil _ _)
    rw [List.cons_append, join_cons hmore, ih, List.flatMap_cons, List.append_assoc]
    rfl

/-- A text is cut into lines, and nothing behind the last one, iff it is these lines, with a
separator behind each. -/
theorem split_eq_append_nil_iff {sep : Char} {s : List Char} {lines : List (List Char)} :
    split sep s = lines ++ [[]] ↔
      s = lines.flatMap (· ++ [sep]) ∧ ∀ line ∈ lines, sep ∉ line := by
  constructor
  · intro h
    refine ⟨?_, ?_⟩
    · rw [← join_split sep s, h, join_append_nil]
    · intro line hline
      apply not_mem_of_mem_split (s := s)
      rw [h]
      exact List.mem_append_left _ hline
  · rintro ⟨rfl, hlines⟩
    induction lines with
    | nil => rfl
    | cons line lines ih =>
      obtain ⟨hline, hrest⟩ := List.forall_mem_cons.mp hlines
      rw [List.flatMap_cons, List.append_assoc, List.singleton_append, split_append hline, ih hrest,
        List.cons_append]

end Assay.Text
