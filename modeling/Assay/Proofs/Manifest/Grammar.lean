import Mathlib.Data.List.Basic
import Assay.Manifest

/-!
# The grammar of test lists

A line of a test list holds a name with blanks around it, or nothing but blanks, or a comment. A
text is a *layout* of names if its lines hold these names, in order, with any number of the other
lines among them; its last line may end with a newline or not.

* `IsName` — what can stand in a list as a name. A `#` or a blank inside a name is part of it.
* `Line`, `Layout` — the grammar, of a line and of a text.
* `line_iff` — every line without a newline is of the grammar, with the name that is read off it.
* `entries_eq_iff` — every text is a layout of the names that are read off it, and of no others.
* `parse_undoes_every_layout` — both for lists of tests, and that a list written anew from what was
  read is read as the same.
-/

namespace Assay.Manifest

open Text

/-- What may stand around a name, and in a line without one: blanks, and no newline. -/
def IsPadding (s : List Char) : Prop := ∀ c ∈ s, isBlank c = true ∧ c ≠ '\n'

/-- A text that can stand in a list as a name. -/
structure IsName (name : List Char) : Prop where
  ne_nil : name ≠ []
  no_newline : '\n' ∉ name
  first : ∀ c ∈ name.head?, isBlank c = false
  last : ∀ c ∈ name.getLast?, isBlank c = false
  no_mark : name.head? ≠ some '#'

/-- A line of a list, and the name that it holds, if it holds one. -/
inductive Line : List Char → Option (List Char) → Prop
  | entry {before name after : List Char} (left : IsPadding before) (isName : IsName name)
      (right : IsPadding after) : Line (before ++ name ++ after) (some name)
  | blank {line : List Char} (all : IsPadding line) : Line line none
  | comment {before rest : List Char} (left : IsPadding before) (no_newline : '\n' ∉ rest) :
      Line (before ++ '#' :: rest) none

/-- A text whose lines hold names, in order. There may be no line at all, and there may be no
newline behind the last one. -/
inductive Layout : List Char → List (List Char) → Prop
  | empty : Layout [] []
  | last {line : List Char} {held : Option (List Char)} (isLine : Line line held) :
      Layout line held.toList
  | more {line text : List Char} {held : Option (List Char)} {names : List (List Char)}
      (isLine : Line line held) (later : Layout text names) :
      Layout (line ++ '\n' :: text) (held.toList ++ names)

/-! ### Names -/

/-- What counts as an entry: any text but an empty one and one that begins with the mark. -/
theorem isEntry_iff {line : List Char} :
    isEntry line = true ↔ line ≠ [] ∧ line.head? ≠ some '#' := by
  cases line with
  | nil => simp [isEntry]
  | cons c rest => simp [isEntry, commentMark]

/-- Padding is made of blanks. -/
theorem IsPadding.blank {s : List Char} (h : IsPadding s) : ∀ c ∈ s, isBlank c = true :=
  fun c hc => (h c hc).1

/-- Padding stays on its line. -/
theorem IsPadding.no_newline {s : List Char} (h : IsPadding s) : '\n' ∉ s :=
  fun hs => (h _ hs).2 rfl

/-- Blanks on one line are padding. -/
theorem isPadding_of_blank {s : List Char} (h : ∀ c ∈ s, isBlank c = true) (hno : '\n' ∉ s) :
    IsPadding s := by
  intro c hc
  refine ⟨h c hc, ?_⟩
  rintro rfl
  exact hno hc

/-- A name counts as an entry. -/
theorem IsName.isEntry {name : List Char} (h : IsName name) : isEntry name = true :=
  isEntry_iff.mpr ⟨h.ne_nil, h.no_mark⟩

/-- A name is what is left of it with padding around it. -/
theorem IsName.trim_padded {before name after : List Char} (h : IsName name)
    (left : IsPadding before) (right : IsPadding after) :
    trim (before ++ name ++ after) = name := by
  rw [trim_append_right right.blank, trim_append_left left.blank, trim_eq_self h.first h.last]

/-- What trimming leaves of a line is a name, if it is an entry. -/
theorem isName_trim {line : List Char} (hno : '\n' ∉ line) (h : isEntry (trim line) = true) :
    IsName (trim line) where
  ne_nil := (isEntry_iff.mp h).1
  no_newline := fun hc => hno (mem_of_mem_trim hc)
  first _ := not_isBlank_of_mem_head?_trim
  last _ := not_isBlank_of_mem_getLast?_trim
  no_mark := (isEntry_iff.mp h).2

/-! ### Lines -/

/-- The name that is read off a line. -/
def nameOn? (line : List Char) : Option (List Char) :=
  if isEntry (trim line) then some (trim line) else none

/-- Names are the texts that are read as they are. -/
theorem isName_iff {name : List Char} :
    IsName name ↔ '\n' ∉ name ∧ nameOn? name = some name := by
  constructor
  · intro h
    refine ⟨h.no_newline, ?_⟩
    rw [nameOn?, trim_eq_self h.first h.last, if_pos h.isEntry]
  · rintro ⟨hno, hon⟩
    obtain ⟨hentry, htrim⟩ := Option.ite_none_right_eq_some.mp hon
    have h := isName_trim hno hentry
    rwa [Option.some.inj htrim] at h

/-- Blanks behind a line make no difference. -/
theorem nameOn?_append {after : List Char} (h : ∀ c ∈ after, isBlank c = true) (line : List Char) :
    nameOn? (line ++ after) = nameOn? line := by
  unfold nameOn?
  rw [trim_append_right h]

/-- A comment is no entry, wherever it ends. -/
theorem isEntry_trim_comment {before : List Char} (left : IsPadding before) (rest : List Char) :
    isEntry (trim (before ++ '#' :: rest)) = false := by
  rw [trim_append_left left.blank, Bool.eq_false_iff, Ne, isEntry_iff, not_and_not_right]
  intro hne
  obtain ⟨_ | ⟨c, between⟩, after, hbefore, -, hs⟩ := exists_trim ('#' :: rest)
  · obtain ⟨c, kept, hkept⟩ := List.exists_cons_of_ne_nil hne
    rw [hkept] at hs ⊢
    rw [(List.cons.inj hs).1, List.head?_cons]
  · -- a mark is no blank, so it is not taken off
    obtain rfl : '#' = c := (List.cons.inj hs).1
    exact absurd (hbefore '#' List.mem_cons_self) (by decide)

/-- The lines of the grammar are the texts without a newline, each with the name read off it. -/
theorem line_iff {line : List Char} {held : Option (List Char)} :
    Line line held ↔ '\n' ∉ line ∧ nameOn? line = held := by
  constructor
  · rintro (⟨left, isName, right⟩ | ⟨all⟩ | ⟨left, hrest⟩)
    · refine ⟨?_, ?_⟩
      · simp only [List.mem_append, not_or]
        exact ⟨⟨left.no_newline, isName.no_newline⟩, right.no_newline⟩
      · rw [nameOn?, isName.trim_padded left right, if_pos isName.isEntry]
    · refine ⟨all.no_newline, ?_⟩
      rw [nameOn?, trim_eq_nil_iff.mpr all.blank]
      rfl
    · refine ⟨?_, ?_⟩
      · simp only [List.mem_append, List.mem_cons, not_or]
        exact ⟨left.no_newline, by decide, hrest⟩
      · rw [nameOn?, isEntry_trim_comment left]
        rfl
  · rintro ⟨hno, rfl⟩
    obtain ⟨before, after, hbefore, hafter, hline⟩ := exists_trim line
    have hparts := hno
    rw [hline] at hparts
    simp only [List.mem_append, not_or] at hparts
    have left := isPadding_of_blank hbefore hparts.1.1
    have right := isPadding_of_blank hafter hparts.2
    unfold nameOn?
    split
    · next hentry =>
      have := Line.entry left (isName_trim hno hentry) right
      rwa [← hline] at this
    · next hentry =>
      rw [isEntry_iff, not_and_not_right] at hentry
      by_cases hnil : trim line = []
      · exact .blank (isPadding_of_blank (trim_eq_nil_iff.mp hnil) hno)
      · obtain ⟨c, rest, hrest⟩ := List.exists_cons_of_ne_nil hnil
        have hmark := hentry hnil
        rw [hrest] at hmark hline hparts
        obtain rfl : c = '#' := Option.some.inj hmark
        rw [hline, List.append_assoc]
        refine .comment left fun hmem => ?_
        rcases List.mem_append.mp hmem with h | h
        · exact hparts.1.2 (List.mem_cons_of_mem _ h)
        · exact hparts.2 h

/-! ### Texts -/

/-- The names in a list are those on the pieces between its newlines. -/
theorem entries_eq_filterMap (text : List Char) :
    entries text = (split '\n' text).filterMap nameOn? := by
  unfold entries
  induction split '\n' text with
  | nil => rfl
  | cons piece pieces ih =>
    rw [List.map_cons, List.filter_cons, List.filterMap_cons, nameOn?]
    split
    · exact congrArg _ ih
    · exact ih

/-- **Lists are read line by line.** What stands on the two sides of a newline is read apart. -/
theorem entries_append_cons (s t : List Char) :
    entries (s ++ '\n' :: t) = entries s ++ entries t := by
  simp only [entries_eq_filterMap, split_append_cons, List.filterMap_append]

/-- A text of one line holds the name on that line, if there is one. -/
theorem entries_of_not_mem {line : List Char} (h : '\n' ∉ line) :
    entries line = (nameOn? line).toList := by
  rw [entries_eq_filterMap, split_of_not_mem h, List.filterMap_cons]
  rcases nameOn? line with _ | name <;> rfl

/-- Texts with newlines between them are read one after the other. -/
theorem entries_join (texts : List (List Char)) :
    entries (join '\n' texts) = texts.flatMap entries := by
  induction texts with
  | nil => rfl
  | cons text texts ih =>
    by_cases hnil : texts = []
    · rw [hnil, List.flatMap_cons, List.flatMap_nil, List.append_nil]
      rfl
    · rw [join_cons hnil, entries_append_cons, ih, List.flatMap_cons]

/-- Texts with a newline behind each are read one after the other. -/
theorem entries_flatMap_newline (texts : List (List Char)) :
    entries (texts.flatMap (· ++ ['\n'])) = texts.flatMap entries := by
  have hlast : entries [] = [] := rfl
  rw [← join_append_nil, entries_join, List.flatMap_append, List.flatMap_singleton, hlast,
    List.append_nil]

/-- A text is a layout of the names that are read off it. -/
theorem layout_entries (text : List Char) : Layout text (entries text) := by
  induction text using induction_on_pieces '\n' with
  | last line hline =>
    rw [entries_of_not_mem hline]
    exact .last (line_iff.mpr ⟨hline, rfl⟩)
  | more line text hline ih =>
    rw [entries_append_cons, entries_of_not_mem hline]
    exact .more (line_iff.mpr ⟨hline, rfl⟩) ih

/-- A text is a layout of names iff these are read off it. -/
theorem entries_eq_iff {text : List Char} {names : List (List Char)} :
    entries text = names ↔ Layout text names := by
  constructor
  · rintro rfl
    exact layout_entries text
  · intro h
    induction h with
    | empty => rfl
    | last isLine =>
      obtain ⟨hno, hname⟩ := line_iff.mp isLine
      rw [entries_of_not_mem hno, hname]
    | more isLine _ ih =>
      obtain ⟨hno, hname⟩ := line_iff.mp isLine
      rw [entries_append_cons, entries_of_not_mem hno, hname, ih]

/-- Whatever a text is a layout of are names. -/
theorem Layout.isName {text : List Char} {names : List (List Char)} (h : Layout text names) :
    ∀ name ∈ names, IsName name := by
  have held_isName {line : List Char} {held : Option (List Char)} (isLine : Line line held) :
      ∀ name ∈ held.toList, IsName name := by
    intro name hname
    cases isLine with
    | entry left isName right =>
      rw [Option.toList_some, List.mem_singleton] at hname
      rwa [hname]
    | blank all => cases hname
    | comment left hrest => cases hname
  induction h with
  | empty => exact fun name hname => absurd hname List.not_mem_nil
  | last isLine => exact held_isName isLine
  | more isLine _ ih => exact List.forall_mem_append.mpr ⟨held_isName isLine, ih⟩

/-- Names on lines of their own are read as they are. -/
theorem flatMap_entries_of_isName {names : List (List Char)} (h : ∀ name ∈ names, IsName name) :
    names.flatMap entries = names := by
  induction names with
  | nil => rfl
  | cons name names ih =>
    obtain ⟨hname, hnames⟩ := List.forall_mem_cons.mp h
    obtain ⟨hno, hon⟩ := isName_iff.mp hname
    rw [List.flatMap_cons, ih hnames, entries_of_not_mem hno, hon]
    rfl

/-! ### Lists of tests -/

/-- The tests read off a text have the names that it holds. -/
theorem toList_id_parse (text : String) :
    (parse text).map (fun test => test.id.toList) = entries text.toList := by
  simp only [parse, List.map_map, Function.comp_def, String.toList_ofList, List.map_id']

/-- Tests are read off a text iff it is a layout of their names. -/
theorem parse_eq_iff {text : String} {tests : List Test} :
    parse text = tests ↔ Layout text.toList (tests.map fun test => test.id.toList) := by
  rw [← entries_eq_iff, ← toList_id_parse]
  refine ⟨fun h => by rw [h], fun h => ?_⟩
  refine (List.map_injective_iff.mpr ?_) h
  intro test test' hid
  obtain ⟨id⟩ := test
  obtain ⟨id'⟩ := test'
  exact congrArg Test.mk (String.toList_injective hid)

/-- Whatever is read off a text are names. -/
theorem isName_of_mem_parse {text : String} {test : Test} (h : test ∈ parse text) :
    IsName test.id.toList :=
  (parse_eq_iff.mp rfl).isName _ (List.mem_map_of_mem h)

/-- What a text is read as depends only on its names. -/
theorem parse_congr {text text' : String} (h : entries text.toList = entries text'.toList) :
    parse text = parse text' := by
  rw [parse, h, parse]

/-- **A list gives back the names that are laid out in it, and nothing but names.**

- The tests that are read off a text are those whose names it is a layout of. So names come back as
  they are, none lost, added or moved, whatever blanks stand around them and whatever lines without
  a name stand among theirs; and every text is such a layout.
- Every test that is read off a text has a name of this kind.
- What was read and is written anew, with a newline behind each name or only between them, is read
  as the same. -/
theorem parse_undoes_every_layout :
    (∀ (text : String) (tests : List Test),
      parse text = tests ↔ Layout text.toList (tests.map fun test => test.id.toList)) ∧
    (∀ text : String, ∀ test ∈ parse text, IsName test.id.toList) ∧
    ∀ text : String,
      parse (String.join ((parse text).map fun test => test.id ++ "\n")) = parse text ∧
        parse ("\n".intercalate ((parse text).map Test.id)) = parse text := by
  have hnewline : "\n".toList = ['\n'] := by decide
  refine ⟨fun text tests => parse_eq_iff, fun text test => isName_of_mem_parse, fun text => ?_⟩
  -- written anew, the names stand on lines of their own
  have hnames : (entries text.toList).flatMap entries = entries text.toList :=
    flatMap_entries_of_isName (layout_entries text.toList).isName
  refine ⟨parse_congr ?_, parse_congr ?_⟩
  · have hwritten : (String.join ((parse text).map fun test => test.id ++ "\n")).toList =
        (entries text.toList).flatMap (· ++ ['\n']) := by
      rw [String.toList_join, ← toList_id_parse, List.flatMap_map, List.flatMap_map]
      simp only [String.toList_append, hnewline]
    rw [hwritten, entries_flatMap_newline, hnames]
  · have hwritten : ("\n".intercalate ((parse text).map Test.id)).toList =
        join '\n' (entries text.toList) := by
      rw [String.toList_intercalate, hnewline, ← join_eq_intercalate, ← toList_id_parse,
        List.map_map]
      rfl
    rw [hwritten, entries_join, hnames]

/-- Comments behind odd blanks, a line of blanks, carriage returns, and a last line without a
newline: what is left are two names, one with a mark and one with a carriage return inside. -/
theorem odd_layout_is_undone :
    parse "\u00A0# x\r\n\u2003a #b\u0085\r\n\t\r\nc\rd" = [⟨"a #b"⟩, ⟨"c\rd"⟩] ∧
      IsName "c\rd".toList := by
  have padding (s : List Char) (h : s.all isBlank = true) (hno : '\n' ∉ s) : IsPadding s :=
    isPadding_of_blank (List.all_eq_true.mp h) hno
  have hcomment : Line "\u00A0# x\r".toList none :=
    @Line.comment ['\u00A0'] " x\r".toList (padding _ rfl (by decide)) (by decide)
  have hfirst : Line "\u2003a #b\u0085\r".toList (some "a #b".toList) :=
    @Line.entry ['\u2003'] "a #b".toList ['\u0085', '\r'] (padding _ rfl (by decide))
      (isName_iff.mpr (by decide)) (padding _ rfl (by decide))
  have hblank : Line "\t\r".toList none := .blank (padding _ rfl (by decide))
  have hsecond : Line "c\rd".toList (some "c\rd".toList) :=
    @Line.entry [] "c\rd".toList [] (padding _ rfl (by decide)) (isName_iff.mpr (by decide))
      (padding _ rfl (by decide))
  have hlayout : Layout "\u00A0# x\r\n\u2003a #b\u0085\r\n\t\r\nc\rd".toList
      ["a #b".toList, "c\rd".toList] :=
    .more hcomment (.more hfirst (.more hblank (.last hsecond)))
  have hparse := (parse_undoes_every_layout.1 _ [⟨"a #b"⟩, ⟨"c\rd"⟩]).mpr hlayout
  have hmem : ⟨"c\rd"⟩ ∈ parse "\u00A0# x\r\n\u2003a #b\u0085\r\n\t\r\nc\rd" := by
    rw [hparse]
    exact List.mem_cons_of_mem _ List.mem_cons_self
  exact ⟨hparse, parse_undoes_every_layout.2.1 _ _ hmem⟩

end Assay.Manifest
