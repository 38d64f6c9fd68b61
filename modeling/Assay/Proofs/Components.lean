import Mathlib.Data.List.DropRight
import Assay.Files.Tree

/-!
# Components and anchoring

Whether a path is anchored is settled by its components, and the result keeps the text as it was:
nothing is normalized. Everything follows from the first piece of a path, the one in front of its
first `/`: it is empty where the path is absolute or empty, and otherwise it is the first component,
be it `.` or not.

* `Path.parent?` — the path without its last component; the other way to see that there is only one.
* `Path.trail` — the components apart from a leading `.`, which says where to begin and leads
  nowhere.
* `Path.isBare_iff`, `Path.components_dotted` — when a path is bare, and what `./` in front does to
  the components.
* `Files.Tree.walkFrom_dot` — a walk that begins with `.` goes where it goes without.
* `Path.one_component_is_anchored` — which paths are anchored, what their components are then, and
  that doing it again changes nothing unless there is only `.`.
-/

namespace Assay

namespace Path

/-! ### Definitions -/

/-- A piece is no component, unless it is the first one of a path and is not empty. -/
def isVoid (piece : List Char) : Bool := piece = [] ∨ piece = ['.']

/-- A path without its last component, spelled as it is up to the one before. The root and the empty
path have no last component. -/
def parent? (p : Path) : Option Path :=
  match Text.split '/' p.text.toList with
  | [] => none
  | first :: later =>
    match later.rdropWhile isVoid with
    | [] => if first = [] then none else some ⟨""⟩
    | kept =>
      match first, kept.dropLast.rdropWhile isVoid with
      | [], [] => some ⟨"/"⟩
      | first, above => some ⟨String.ofList (Text.join '/' (first :: above))⟩

/-- The components of a path apart from a leading `.`. -/
def trail (p : Path) : List (List Char) :=
  match p.components with
  | ['.'] :: later => later
  | components => components

/-! ### The first piece -/

section pieces

variable {p : Path} {first : List Char} {later : List (List Char)}

/-- The first piece is empty iff the path is empty or absolute. -/
theorem first_eq_nil_iff (h : Text.split '/' p.text.toList = first :: later) :
    first = [] ↔ p.text = "" ∨ p.isAbsolute = true := by
  obtain ⟨text⟩ := p
  simp only [isAbsolute] at h ⊢
  rw [← String.toList_eq_nil_iff]
  rcases hs : text.toList with _ | ⟨c, rest⟩
  · rw [hs] at h
    cases h
    simp
  · rw [hs, Text.split] at h
    by_cases hc : c = '/'
    · rw [if_pos hc] at h
      cases h
      simp [hc]
    · rw [if_neg hc] at h
      split at h <;> cases h <;> simp [hc]

/-- A first piece that is not empty is the first component. -/
theorem components_eq_cons (h : Text.split '/' p.text.toList = first :: later)
    (hfirst : first ≠ []) : p.components = first :: componentsOfLater later := by
  unfold components
  rw [h]
  split
  · next heq =>
    cases heq
    rfl
  · next hne =>
    have hdot : first ≠ ['.'] := fun hdot => hne later (by rw [hdot])
    exact List.filter_cons_of_pos (by simp [hfirst, hdot])

/-- An empty first piece is no component. -/
theorem components_eq_of_nil (h : Text.split '/' p.text.toList = [] :: later) :
    p.components = componentsOfLater later := by
  unfold components
  rw [h]
  rfl

/-- A path is bare iff its first piece is a component and no other piece is. -/
theorem isBare_iff (h : Text.split '/' p.text.toList = first :: later) :
    p.isBare = true ↔ first ≠ [] ∧ componentsOfLater later = [] := by
  unfold isBare
  rw [Bool.and_eq_true, Bool.not_eq_true', beq_iff_eq]
  by_cases hfirst : first = []
  · refine iff_of_false ?_ fun hbare => hbare.1 hfirst
    rintro ⟨hrelative, hlength⟩
    rcases (first_eq_nil_iff h).mp hfirst with hempty | habsolute
    · have hsplit : Text.split '/' p.text.toList = [[]] := by
        rw [hempty]
        rfl
      rw [components_eq_of_nil hsplit] at hlength
      cases hlength
    · rw [habsolute] at hrelative
      cases hrelative
  · have hrelative : p.isAbsolute = false := by
      rw [← Bool.not_eq_true]
      exact fun habsolute => hfirst ((first_eq_nil_iff h).mpr (.inr habsolute))
    rw [components_eq_cons h hfirst, List.length_cons, Nat.add_eq_right, List.length_eq_zero_iff]
    exact ⟨fun hlater => ⟨hfirst, hlater.2⟩, fun hlater => ⟨hrelative, hlater.2⟩⟩

/-- A path is bare iff it is not empty, does not begin with `/` and has exactly one component. -/
theorem isBare_iff_components (p : Path) :
    p.isBare = true ↔
      p.text ≠ "" ∧ p.text.toList.head? ≠ some '/' ∧ p.components.length = 1 := by
  unfold isBare isAbsolute
  rw [Bool.and_eq_true, Bool.not_eq_true', beq_eq_false_iff_ne, beq_iff_eq]
  refine ⟨fun hbare => ⟨fun hempty => ?_, hbare⟩, fun hone => hone.2⟩
  have hnone : p.components = [] := by
    unfold components
    rw [hempty]
    rfl
  rw [hnone] at hbare
  cases hbare.2

/-- Void pieces alone make no component. -/
theorem componentsOfLater_eq_nil_iff (pieces : List (List Char)) :
    componentsOfLater pieces = [] ↔ pieces.rdropWhile isVoid = [] := by
  rw [componentsOfLater, List.filter_eq_nil_iff, List.rdropWhile_eq_nil_iff]
  refine forall₂_congr fun piece _ => ?_
  simp only [isVoid, decide_eq_true_eq]
  tauto

/-- No component but the first is `.`. -/
theorem dot_not_mem_componentsOfLater (pieces : List (List Char)) :
    ['.'] ∉ componentsOfLater pieces := by
  simp [componentsOfLater]

/-- A path is bare iff it is relative, not empty, and its parent, if it has one, is empty. -/
theorem isBare_iff_parent (p : Path) :
    p.isBare = true ↔
      p.isAbsolute = false ∧ (∀ dir ∈ p.parent?, dir.text = "") ∧ p.text ≠ "" := by
  obtain ⟨first, later, h⟩ := List.exists_cons_of_ne_nil (Text.split_ne_nil '/' p.text.toList)
  rw [isBare_iff h, componentsOfLater_eq_nil_iff]
  rcases first with _ | ⟨c, cs⟩
  · refine iff_of_false (fun hbare => hbare.1 rfl) ?_
    rintro ⟨hrelative, -, hempty⟩
    rcases (first_eq_nil_iff h).mp rfl with htext | habsolute
    · exact hempty htext
    · rw [hrelative] at habsolute
      cases habsolute
  · have hfirst := mt (first_eq_nil_iff h).mpr (List.cons_ne_nil c cs)
    rw [not_or, Bool.not_eq_true] at hfirst
    have hparent : (∀ dir ∈ p.parent?, dir.text = "") ↔ later.rdropWhile isVoid = [] := by
      unfold parent?
      rw [h]
      dsimp only
      rcases later.rdropWhile isVoid with _ | ⟨piece, kept⟩
      · simp
      · -- the parent begins with the first piece
        simp [Text.join_cons_cons]
    rw [hparent]
    exact ⟨fun hbare => ⟨hfirst.2, hbare.2, hfirst.1⟩, fun h => ⟨List.cons_ne_nil c cs, h.2.1⟩⟩

end pieces

/-! ### Anchoring -/

/-- In the working directory, a relative path has `./` in front. -/
theorem dot_join {p : Path} (h : p.isAbsolute = false) : join ⟨"."⟩ p = ⟨"./" ++ p.text⟩ := by
  unfold join
  rw [h]
  rfl

/-- Apart from a leading `.`, the components are the pieces that are components anywhere. -/
theorem trail_eq (p : Path) : p.trail = componentsOfLater (Text.split '/' p.text.toList) := by
  unfold trail components
  split
  · next later hdot =>
    split at hdot
    · next hsplit =>
      rw [hsplit]
      cases hdot
      rfl
    · -- a piece `.` that is not the first is no component
      refine absurd ?_ (dot_not_mem_componentsOfLater (Text.split '/' p.text.toList))
      rw [hdot]
      exact List.mem_cons_self ..
  · next hdot =>
    split
    · next later hsplit =>
      rw [hsplit] at hdot
      exact absurd rfl (hdot (componentsOfLater later))
    · rfl

/-- With `./` in front, the pieces between the separators are `.` and those of the path. -/
theorem split_dotted (p : Path) :
    Text.split '/' ("./" ++ p.text).toList = ['.'] :: Text.split '/' p.text.toList := by
  have hlead : ("./" ++ p.text).toList = ['.'] ++ '/' :: p.text.toList := by
    rw [String.toList_append]
    rfl
  rw [hlead]
  exact Text.split_append (by decide) _

/-- With `./` in front, the components of a path are `.` and its own apart from a leading `.`. -/
theorem components_dotted (p : Path) : components ⟨"./" ++ p.text⟩ = ['.'] :: p.trail := by
  rw [components_eq_cons (p.split_dotted) (List.cons_ne_nil _ _), trail_eq]

/-- A bare path is anchored by `./` in front. -/
theorem anchored_of_isBare {p : Path} (h : p.isBare = true) : p.anchored = ⟨"./" ++ p.text⟩ :=
  if_pos h

/-- Any path but a bare one is anchored as it is. -/
theorem anchored_of_not_isBare {p : Path} (h : ¬ p.isBare = true) : p.anchored = p := if_neg h

/-- Anchoring keeps the components apart from a leading `.`. -/
theorem trail_anchored (p : Path) : p.anchored.trail = p.trail := by
  by_cases h : p.isBare = true
  · rw [anchored_of_isBare h, trail, components_dotted]
    rfl
  · rw [anchored_of_not_isBare h]

/-- Anchoring makes no path absolute, and none relative. -/
theorem isAbsolute_anchored (p : Path) : p.anchored.isAbsolute = p.isAbsolute := by
  by_cases h : p.isBare = true
  · have hrelative := ((isBare_iff_parent p).mp h).1
    rw [anchored_of_isBare h, hrelative, isAbsolute, String.toList_append]
    rfl
  · rw [anchored_of_not_isBare h]

/-- Where `.` is all there is, a path is bare and leads nowhere. -/
theorem components_eq_dot_iff (p : Path) :
    p.components = [['.']] ↔ p.isBare = true ∧ p.trail = [] := by
  obtain ⟨first, later, h⟩ := List.exists_cons_of_ne_nil (Text.split_ne_nil '/' p.text.toList)
  rw [isBare_iff h, trail_eq, h]
  by_cases hfirst : first = []
  · subst hfirst
    rw [components_eq_of_nil h]
    refine iff_of_false (fun hdot => ?_) fun hbare => hbare.1.1 rfl
    exact dot_not_mem_componentsOfLater later (by rw [hdot]; exact List.mem_singleton_self _)
  · rw [components_eq_cons h hfirst]
    by_cases hdot : first = ['.']
    · simp [componentsOfLater, hdot]
    · simp [componentsOfLater, hfirst, hdot]

/-- An anchored path is bare again iff `.` was its only component. -/
theorem isBare_anchored_iff (p : Path) : p.anchored.isBare = true ↔ p.components = [['.']] := by
  rw [components_eq_dot_iff]
  by_cases h : p.isBare = true
  · rw [anchored_of_isBare h, isBare_iff p.split_dotted, ← trail_eq]
    exact ⟨fun hbare => ⟨h, hbare.2⟩, fun hdot => ⟨List.cons_ne_nil _ _, hdot.2⟩⟩
  · rw [anchored_of_not_isBare h]
    exact iff_of_false h fun hdot => h hdot.1

/-- Anchoring changes exactly the bare paths. -/
theorem anchored_ne_iff (p : Path) : p.anchored ≠ p ↔ p.isBare = true := by
  by_cases h : p.isBare = true
  · refine iff_of_true (fun hsame => ?_) h
    rw [anchored_of_isBare h] at hsame
    have hlength := congrArg (fun q : Path => q.text.length) hsame
    simp only [String.length_append] at hlength
    have hlead : "./".length = 2 := rfl
    omega
  · rw [anchored_of_not_isBare h]
    exact iff_of_false (fun hne => hne rfl) h

end Path

/-! ### Walking -/

namespace Files.Tree

/-- A directory stands where there is said to be one. -/
theorem exists_node?_of_isDirectory {tree : Tree} {place : Place}
    (h : tree.isDirectory place = true) : ∃ mode, tree.node? place = some (.directory mode) := by
  unfold isDirectory at h
  rcases hnode : tree.node? place with _ | node
  · rw [hnode] at h
    cases h
  · rw [hnode] at h
    cases node with
    | directory mode => exact ⟨mode, rfl⟩
    | file | device | link => cases h

/-- From what is no directory, every step fails in the same way. -/
theorem walkStep_of_not_isDirectory {tree : Tree} {place : Place}
    (h : tree.isDirectory place = false) :
    ∃ e, ∀ piece, tree.walkStep place piece = .error e := by
  unfold isDirectory at h
  unfold walkStep
  rcases hnode : tree.node? place with _ | node
  · exact ⟨_, fun _ => rfl⟩
  · rw [hnode] at h
    cases node with
    | directory mode => cases h
    | file | device | link => exact ⟨_, fun _ => rfl⟩

/-- A walk that begins with `.` goes where it goes without it, in one step more. -/
theorem walkFrom_dot (tree : Tree) (follows : Bool) (steps links : Nat) (place : Place)
    {pieces : List Text.Octets} (h : pieces ≠ []) :
    tree.walkFrom follows (steps + 2) links place (['.'] :: pieces) =
      tree.walkFrom follows (steps + 1) links place pieces := by
  obtain ⟨piece, pieces, rfl⟩ := List.exists_cons_of_ne_nil h
  rcases hdirectory : tree.isDirectory place with _ | _
  · -- both walks fail at their first step
    obtain ⟨e, hstep⟩ := walkStep_of_not_isDirectory hdirectory
    rw [walkFrom, walkFrom, hstep, hstep]
    rfl
  · obtain ⟨mode, hnode⟩ := exists_node?_of_isDirectory hdirectory
    have hstep : tree.walkStep place ['.'] = .ok place := by
      rw [walkStep, hnode]
      rfl
    rw [walkFrom, hstep]
    simp only [bind, Except.bind, hnode]

end Files.Tree

/-! ### Which paths are anchored -/

namespace Path

/-- The bytes of a path with `./` in front are cut into `.` and the pieces of the path. -/
theorem split_ofString_dotted (text : String) :
    Text.split '/' (Text.Octets.ofString ("./" ++ text)) =
      ['.'] :: Text.split '/' (Text.Octets.ofString text) := by
  have hbytes : Text.Octets.ofString ("./" ++ text) =
      ['.'] ++ '/' :: Text.Octets.ofString text := by
    unfold Text.Octets.ofString Text.Octets.ofString.encodeText Text.Utf8.encode Text.Octets.ofBytes
    rw [String.toList_append, List.flatMap_append, List.map_append]
    rfl
  rw [hbytes]
  exact Text.split_append (by decide) _

/-- **Exactly the relative paths with one component are anchored, and they lead where they led.**

- A path is anchored iff it is not empty, does not begin with `/` and has exactly one component, or,
  what comes to the same, iff it is relative and not empty and has no parent but the empty one. Then
  it is put into the directory `.`: its text has `./` in front and is otherwise as it was. Every
  other path is left as it is.
- Apart from a leading `.`, the components stay the same, and so does where the path begins; a walk
  along the result from any place ends as a walk along the path does, one step later if at all.
- To anchor twice is the same as to anchor once for every path with a component other than `.`. It
  makes a difference exactly where `.` is the only component. -/
theorem one_component_is_anchored (p : Path) :
    (p.anchored =
      if p.text ≠ "" ∧ p.text.toList.head? ≠ some '/' ∧ p.components.length = 1 then
        ⟨"./" ++ p.text⟩
      else p) ∧
    (p.anchored =
      if p.isAbsolute = false ∧ (∀ dir ∈ p.parent?, dir.text = "") ∧ p.text ≠ "" then
        join ⟨"."⟩ p
      else p) ∧
    p.anchored.trail = p.trail ∧ p.anchored.isAbsolute = p.isAbsolute ∧
    (∃ more ∈ [0, 1], ∀ (tree : Files.Tree) (follows : Bool) (steps links : Nat)
      (place : Files.Place),
        tree.walkFrom follows (steps + 1 + more) links place
            (Text.split '/' (Text.Octets.ofString p.anchored.text)) =
          tree.walkFrom follows (steps + 1) links place
            (Text.split '/' (Text.Octets.ofString p.text))) ∧
    ((∃ component ∈ p.components, component ≠ ['.']) → p.anchored.anchored = p.anchored) ∧
    (p.anchored.anchored ≠ p.anchored ↔ p.components = [['.']]) := by
  have htwice : p.anchored.anchored ≠ p.anchored ↔ p.components = [['.']] :=
    (anchored_ne_iff p.anchored).trans (isBare_anchored_iff p)
  refine ⟨?_, ?_, p.trail_anchored, p.isAbsolute_anchored, ?_, ?_, htwice⟩
  · exact if_congr p.isBare_iff_components rfl rfl
  · by_cases h : p.isBare = true
    · have hparent := p.isBare_iff_parent.mp h
      rw [if_pos hparent, anchored_of_isBare h, dot_join hparent.1]
    · rw [if_neg (mt p.isBare_iff_parent.mpr h), anchored_of_not_isBare h]
  · by_cases h : p.isBare = true
    · refine ⟨1, by decide, fun tree follows steps links place => ?_⟩
      rw [anchored_of_isBare h, split_ofString_dotted]
      exact tree.walkFrom_dot follows steps links place (Text.split_ne_nil _ _)
    · refine ⟨0, by decide, fun tree follows steps links place => ?_⟩
      rw [anchored_of_not_isBare h]
  · rintro ⟨component, hmem, hdot⟩
    refine Decidable.of_not_not fun hne => hdot ?_
    rw [htwice.mp hne] at hmem
    exact List.mem_singleton.mp hmem

/-- Separators and dots at the end of a name make no second component, and they are kept. Only where
`.` is all there is does it make a difference to anchor twice. -/
theorem odd_spellings_are_anchored :
    anchored ⟨"main//"⟩ = ⟨"./main//"⟩ ∧ anchored ⟨"main/."⟩ = ⟨"./main/."⟩ ∧
      anchored ⟨".."⟩ = ⟨"./.."⟩ ∧ anchored ⟨"a/../b"⟩ = ⟨"a/../b"⟩ ∧
      (∃ component ∈ components ⟨"main/."⟩, component ≠ ['.']) ∧
      anchored (anchored ⟨"main/."⟩) = anchored ⟨"main/."⟩ ∧
      anchored (anchored ⟨".//"⟩) ≠ anchored ⟨".//"⟩ := by
  have hmain : ∃ component ∈ components ⟨"main/."⟩, component ≠ ['.'] :=
    ⟨"main".toList, by decide, by decide⟩
  refine ⟨?_, ?_, ?_, ?_, hmain, ?_, ?_⟩
  · exact (one_component_is_anchored ⟨"main//"⟩).1.trans (if_pos (by decide))
  · exact (one_component_is_anchored ⟨"main/."⟩).1.trans (if_pos (by decide))
  · exact (one_component_is_anchored ⟨".."⟩).1.trans (if_pos (by decide))
  · exact (one_component_is_anchored ⟨"a/../b"⟩).1.trans (if_neg (by decide))
  · exact (one_component_is_anchored ⟨"main/."⟩).2.2.2.2.2.1 hmain
  · exact (one_component_is_anchored ⟨".//"⟩).2.2.2.2.2.2.mpr (by decide)

end Path

end Assay
