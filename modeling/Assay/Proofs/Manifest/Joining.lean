import Assay.Proofs.Collection
import Assay.Proofs.Manifest.Grammar

/-!
# Test lists that are put together

A list is read line by line, and a line is read on its own. So it makes no difference how lines end,
whether the last one ends at all, or how the lines are spread over files.

* `Text.lines` — the lines of a text, where a line may end with a newline, with a carriage return
  and a newline or, as the last one, with nothing; `entries_eq_filterMap_lines` says that the names
  in a list can be read off these as well.
* `entries_addReturns` — carriage returns in front of the newlines change nothing.
* `lists_can_be_joined` — the laws for lists of tests, and for the tests that a command collects.
-/

namespace Assay

namespace Text

/-- A line without the carriage return that belongs to its end. -/
def dropReturn (line : List Char) : List Char :=
  if line.getLast? = some '\r' then line.dropLast else line

/-- The lines of a text without their ends. Nothing behind the last newline is no line, and a
carriage return belongs to the end of a line only in front of a newline. -/
def lines (s : List Char) : List (List Char) :=
  ((split '\n' s).dropLast.map dropReturn) ++ (split '\n' s).getLast?.toList.filter (· ≠ [])

/-- A text with a carriage return in front of every newline. -/
def addReturns (s : List Char) : List Char :=
  s.flatMap fun c => if c = '\n' then ['\r', '\n'] else [c]

/-- What belongs to the end of a line is blank. -/
theorem exists_dropReturn (line : List Char) :
    ∃ after, (∀ c ∈ after, isBlank c = true) ∧ line = dropReturn line ++ after := by
  unfold dropReturn
  split
  · next h =>
    obtain ⟨front, rfl⟩ := List.getLast?_eq_some_iff.mp h
    refine ⟨['\r'], List.forall_mem_singleton.mpr (by decide), ?_⟩
    rw [List.dropLast_concat]
  · exact ⟨[], fun c hc => absurd hc List.not_mem_nil, (List.append_nil line).symm⟩

/-- A single line gets no carriage return. -/
theorem addReturns_of_not_mem {line : List Char} (h : '\n' ∉ line) : addReturns line = line := by
  unfold addReturns
  induction line with
  | nil => rfl
  | cons c line ih =>
    rw [List.mem_cons, not_or] at h
    rw [List.flatMap_cons, if_neg (Ne.symm h.1), ih h.2, List.singleton_append]

/-- The first line gets its carriage return, and the lines behind it get theirs. -/
theorem addReturns_append_cons {line : List Char} (h : '\n' ∉ line) (s : List Char) :
    addReturns (line ++ '\n' :: s) = (line ++ ['\r']) ++ '\n' :: addReturns s := by
  have hline := addReturns_of_not_mem h
  unfold addReturns at hline ⊢
  rw [List.flatMap_append, hline, List.flatMap_cons, if_pos rfl]
  simp

end Text

namespace Manifest

open Text

/-! ### Line ends -/

/-- The names in a list are those on its lines, whichever way these end. -/
theorem entries_eq_filterMap_lines (text : List Char) :
    entries text = (lines text).filterMap nameOn? := by
  have hinner : nameOn? ∘ dropReturn = nameOn? := by
    funext line
    obtain ⟨after, hblank, hline⟩ := exists_dropReturn line
    calc nameOn? (dropReturn line) = nameOn? (dropReturn line ++ after) :=
          (nameOn?_append hblank _).symm
      _ = nameOn? line := by rw [← hline]
  have hlast (line : List Char) :
      ([line].filter (· ≠ [])).filterMap nameOn? = [line].filterMap nameOn? := by
    cases line <;> rfl
  obtain ⟨front, last, hsplit⟩ : ∃ front last, split '\n' text = front ++ [last] :=
    ⟨_, _, (List.dropLast_concat_getLast (split_ne_nil '\n' text)).symm⟩
  rw [entries_eq_filterMap, lines, hsplit, List.dropLast_concat, List.getLast?_concat,
    Option.toList_some, List.filterMap_append, List.filterMap_append, List.filterMap_map, hinner,
    hlast]

/-- Carriage returns in front of the newlines change nothing. -/
theorem entries_addReturns (text : List Char) : entries (addReturns text) = entries text := by
  have hblank : ∀ c ∈ ['\r'], isBlank c = true := List.forall_mem_singleton.mpr (by decide)
  have hno : '\n' ∉ ['\r'] := by decide
  induction text using induction_on_pieces '\n' with
  | last line hline => rw [addReturns_of_not_mem hline]
  | more line text hline ih =>
    have hreturn : '\n' ∉ line ++ ['\r'] := by
      rw [List.mem_append, not_or]
      exact ⟨hline, hno⟩
    rw [addReturns_append_cons hline, entries_append_cons, entries_append_cons, ih,
      entries_of_not_mem hreturn, entries_of_not_mem hline, nameOn?_append hblank]

/-! ### Lists of tests -/

/-- Lists with a newline between them are parsed one after the other. -/
theorem parse_append (s t : String) : parse (s ++ "\n" ++ t) = parse s ++ parse t := by
  have hnewline : "\n".toList = ['\n'] := by decide
  have htext : (s ++ "\n" ++ t).toList = s.toList ++ '\n' :: t.toList := by
    rw [String.toList_append, String.toList_append, hnewline, List.append_assoc,
      List.singleton_append]
  rw [parse, htext, entries_append_cons, List.map_append, parse, parse]

/-- Any number of lists with newlines between them are parsed one after the other. -/
theorem parse_intercalate (texts : List String) :
    parse ("\n".intercalate texts) = texts.flatMap parse := by
  have hnewline : "\n".toList = ['\n'] := by decide
  unfold parse
  rw [String.toList_intercalate, hnewline, ← join_eq_intercalate, entries_join, List.flatMap_map,
    List.map_flatMap]

end Manifest

namespace Execution

variable {σ τ : Type}

/-- What is collected from files that hold texts. -/
theorem collect_of_texts {host : Host σ} {s : Session σ} {paths : List Path} {texts : List String}
    (named : List String)
    (h : List.Forall₂ (fun path text => host.readFile path s.world = .ok (bytesOf text)) paths
      texts) :
    (collect host ⟨named, paths⟩ s).1 =
      .ok (named.map Test.mk ++ texts.flatMap Manifest.parse) := by
  have hhold : List.Forall₂ (Manifest.Holds host s.world) paths (texts.map Manifest.parse) :=
    List.forall₂_map_right_iff.mpr (h.imp fun _ text hread => ⟨text, hread, rfl⟩)
  have hcollect : collect host ⟨named, paths⟩ s = _ := collect_of_hold hhold
  rw [hcollect, List.flatMap_def]

end Execution

namespace Manifest

open Text

variable {σ τ : Type}

/-- **Lists can be put together and taken apart at any newline.**

- Two texts with a newline between them are read as the one and then the other, whatever they are:
  the first may end inside a line or a comment, either may be empty or blank.
- Carriage returns in front of all newlines, or a newline at the end, change nothing.
- The tests that a command collects from files are those it collects, in whatever world, from one
  file with all their texts, newlines between them; and these are the tests named directly and
  those of each text, in order. -/
theorem lists_can_be_joined (host : Host σ) (host' : Host τ) (s : Session σ) (s' : Session τ) :
    (∀ text text' : String, parse (text ++ "\n" ++ text') = parse text ++ parse text') ∧
    (∀ text : String, parse (String.ofList (addReturns text.toList)) = parse text ∧
      parse (text ++ "\n") = parse text) ∧
    ∀ (named : List String) (paths : List Path) (texts : List String) (path : Path),
      List.Forall₂ (fun path text => host.readFile path s.world = .ok (bytesOf text)) paths texts →
      host'.readFile path s'.world = .ok (bytesOf ("\n".intercalate texts)) →
      (Execution.collect host ⟨named, paths⟩ s).1 =
          .ok (named.map Test.mk ++ texts.flatMap parse) ∧
        (Execution.collect host' ⟨named, [path]⟩ s').1 =
          (Execution.collect host ⟨named, paths⟩ s).1 := by
  refine ⟨parse_append, fun text => ⟨?_, ?_⟩, ?_⟩
  · apply parse_congr
    rw [String.toList_ofList, entries_addReturns]
  · have hempty : parse "" = [] := rfl
    rw [← String.append_empty (s := text ++ "\n"), parse_append, hempty, List.append_nil]
  · intro named paths texts path hreads hread
    have hmany := Execution.collect_of_texts named hreads
    have hone := Execution.collect_of_texts named (.cons hread .nil)
    refine ⟨hmany, ?_⟩
    rw [hmany, hone, List.flatMap_singleton, parse_intercalate]

/-- A host with two lists and a third in which they are put together. The first ends inside a
comment, the second with a carriage return that ends no line. -/
def drawer : Host Unit where
  launch _ world := (.ok ⟨[], [], 0⟩, world)
  readFile path _ :=
    if path = ⟨"first"⟩ then .ok (bytesOf "x\n# c")
    else if path = ⟨"second"⟩ then .ok (bytesOf "y\r\n\r")
    else .ok (bytesOf "x\n# c\ny\r\n\r")
  logsExits := false

/-- The two lists together hold what the third holds. -/
theorem drawer_lists_are_joined :
    (Execution.collect drawer ⟨["p"], [⟨"first"⟩, ⟨"second"⟩]⟩ (.start () .unlimited)).1 =
        .ok [⟨"p"⟩, ⟨"x"⟩, ⟨"y"⟩] ∧
      (Execution.collect drawer ⟨["p"], [⟨"both"⟩]⟩ (.start () .unlimited)).1 =
        .ok [⟨"p"⟩, ⟨"x"⟩, ⟨"y"⟩] := by
  obtain ⟨hmany, hone⟩ := (lists_can_be_joined drawer drawer (.start () .unlimited)
    (.start () .unlimited)).2.2 ["p"] [⟨"first"⟩, ⟨"second"⟩] ["x\n# c", "y\r\n\r"] ⟨"both"⟩
    (.cons rfl (.cons rfl .nil)) rfl
  exact ⟨hmany, hone.trans hmany⟩

end Manifest

end Assay
