import Assay.Machine
import Assay.Proofs.Golden.Chronicle
import Assay.Proofs.Smoke.Chronicle
import Assay.Proofs.Text.Utf8

/-!
# Programs under test are not searched for

Only a name without `/` is looked up on the search path. A program under test is launched under a
name that holds one: a path with a directory in front keeps its spelling, and a bare name gets `./`.
The one exception is the empty name, which is no name of a program at all.

* `Path.empty_or_mem_anchored` — an anchored path holds a `/` unless it is empty.
* `Path.text_join` and its companions — how the path of an executable in a directory is spelled.
* `Golden.calls_of_run`, `Smoke.calls_of_run` — which calls a run makes, on any sink.
* `Machine.find_environment` — on a machine, the search path has no say in what such a name finds.
* `tested_programs_are_not_searched` — all of this, for the programs of a run.
-/

namespace Assay

variable {σ : Type}

/-! ### Spellings -/

namespace Path

variable {p dir rest : Path}

/-- Without a `/`, a path that is not empty is bare, also where its one component is `.`. -/
theorem isBare_of_not_mem (hp : p.text ≠ "") (h : '/' ∉ p.text.toList) : p.isBare = true := by
  obtain ⟨text⟩ := p
  have hpieces : Text.split '/' text.toList = [text.toList] := Text.split_of_not_mem h
  have hrelative : isAbsolute ⟨text⟩ = false := by
    unfold isAbsolute
    rw [beq_eq_false_iff_ne]
    intro habsolute
    exact h (List.mem_of_head? habsolute)
  have hone : (components ⟨text⟩).length = 1 := by
    unfold components
    by_cases hdot : text.toList = ['.']
    · rw [hpieces, hdot]
      rfl
    · have hnil : text.toList ≠ [] := fun hnil => hp (String.toList_eq_nil_iff.mp hnil)
      rw [hpieces]
      simp [componentsOfLater, hdot, hnil]
  simp [isBare, hrelative, hone]

/-- An anchored path is spelled as before, or with `./` in front. -/
theorem text_anchored (p : Path) : ∃ lead ∈ ["", "./"], p.anchored.text = lead ++ p.text := by
  unfold anchored
  by_cases h : p.isBare = true
  · rw [if_pos h]
    exact ⟨"./", by simp, rfl⟩
  · rw [if_neg h]
    exact ⟨"", by simp, (String.empty_append).symm⟩

/-- An absolute path is anchored as it is. -/
theorem anchored_of_isAbsolute (h : p.isAbsolute = true) : p.anchored = p := by
  unfold anchored isBare
  rw [h]
  rfl

/-- An anchored path holds a `/`, unless it is empty; and then it was empty before. -/
theorem empty_or_mem_anchored (p : Path) :
    (p.anchored.text = "" ∧ p.text = "") ∨ '/' ∈ p.anchored.text.toList := by
  by_cases hp : p.text = ""
  · obtain ⟨text⟩ := p
    obtain rfl : text = "" := hp
    exact .inl ⟨rfl, rfl⟩
  · right
    by_cases h : '/' ∈ p.text.toList
    · obtain ⟨lead, -, hlead⟩ := p.text_anchored
      rw [hlead, String.toList_append]
      exact List.mem_append_right _ h
    · unfold anchored
      rw [if_pos (isBare_of_not_mem hp h), String.toList_append]
      exact List.mem_append_left _ (by decide)

/-- An absolute path stands for itself, whatever the directory. -/
theorem join_of_isAbsolute (h : rest.isAbsolute = true) : dir.join rest = rest := by
  unfold join
  rw [if_pos h]

/-- A relative path in a directory: the directory, a `/` unless it ends in one, and the path. -/
theorem text_join (hdir : dir.text ≠ "") (h : rest.isAbsolute = false) :
    (dir.join rest).text =
      dir.text ++ (if dir.text.toList.getLast? = some '/' then "" else "/") ++ rest.text := by
  have hnil : dir.text.toList ≠ [] := fun hnil => hdir (String.toList_eq_nil_iff.mp hnil)
  have hlast := List.getLast?_eq_some_getLast hnil
  unfold join
  rw [h, hlast]
  by_cases hslash : dir.text.toList.getLast hnil = '/'
  · simp [hslash]
  · simp [hslash]

/-- In the empty directory, a relative path is as it was. -/
theorem join_of_empty (hdir : dir.text = "") (h : rest.isAbsolute = false) :
    dir.join rest = rest := by
  unfold join
  simp [h, hdir]

/-- Only nothing in nothing is nothing. -/
theorem eq_empty_of_join (h : (dir.join rest).text = "") : dir.text = "" ∧ rest.text = "" := by
  rcases habsolute : rest.isAbsolute with _ | _
  · by_cases hdir : dir.text = ""
    · rw [join_of_empty hdir habsolute] at h
      exact ⟨hdir, h⟩
    · rw [text_join hdir habsolute, String.append_eq_empty_iff, String.append_eq_empty_iff] at h
      exact absurd h.1.1 hdir
  · rw [join_of_isAbsolute habsolute] at h
    simp [isAbsolute, h] at habsolute

end Path

/-! ### The calls of a run -/

/-- Every call of a golden run compiles one of its tests or runs the artifact, on any sink. -/
theorem Golden.calls_of_run (host : Host σ) (config : Config) (tests : List Test) (s : Session σ) :
    ∃ made, (run host config tests s).2.calls = s.calls ++ made ∧
      ∀ call ∈ made, call = execution config ∨ ∃ test ∈ tests, call = compilation config test := by
  obtain ⟨n, exchanges, own, verdicts, hstory⟩ := run_story host config tests s
  refine ⟨exchanges.map Prod.fst, hstory.calls, ?_⟩
  intro call hcall
  by_cases hexecution : call = execution config
  · exact .inl hexecution
  · have hbuild : call ∈ (exchanges.map Prod.fst).filter (· ≠ execution config) :=
      List.mem_filter.mpr ⟨hcall, decide_eq_true hexecution⟩
    rw [hstory.compilations] at hbuild
    obtain ⟨test, htest, rfl⟩ := List.mem_map.mp hbuild
    exact .inr ⟨test, List.mem_of_mem_take htest, rfl⟩

/-- The calls of a smoke run launch the executables of its first tests, on any sink. -/
theorem Smoke.calls_of_run (host : Host σ) (config : Config) (tests : List Test) (s : Session σ) :
    ∃ made, (run host config tests s).2.calls = s.calls ++ made ∧
      ∀ (i : Nat) (call : Call), made[i]? = some call →
        ∃ test, tests[i]? = some test ∧ call = ⟨executable config test, []⟩ := by
  obtain ⟨exchanges, own, outcomes, hstory⟩ := run_story host config tests s
  refine ⟨exchanges.map Prod.fst, hstory.calls, ?_⟩
  intro i call hcall
  obtain ⟨later, hlater⟩ := hstory.launches
  have hscheduled : (schedule config tests)[i]? = some call := by
    obtain ⟨hlt, -⟩ := List.getElem?_eq_some_iff.mp hcall
    rw [← hlater, List.getElem?_append_left hlt, hcall]
  rw [schedule, List.getElem?_map, Option.map_eq_some_iff] at hscheduled
  obtain ⟨test, htest, rfl⟩ := hscheduled
  exact ⟨test, htest, rfl⟩

/-! ### What a name finds -/

/-- A text that holds a `/` holds it as a byte too. -/
theorem mem_ofString_of_mem {text : String} (h : '/' ∈ text.toList) :
    '/' ∈ Text.Octets.ofString text := by
  unfold Text.Octets.ofString Text.Octets.ofString.encodeText Text.Utf8.encode Text.Octets.ofBytes
  rw [List.map_flatMap]
  refine List.mem_flatMap.mpr ⟨'/', h, ?_⟩
  decide

/-- The search path has no say in what an empty name or a name with a `/` finds. -/
theorem Machine.find_environment (dir : Option Path) (call : Call) (m : Machine)
    (environment : List (String × String))
    (h : call.program.text = "" ∨ '/' ∈ call.program.text.toList) :
    find dir call { m with environment } = find dir call m := by
  unfold find Kernel.Image.find
  rcases h with hempty | hslash
  · have hnil : Text.Octets.ofString call.program.text = [] := by
      rw [hempty]
      rfl
    simp only [hnil, if_pos]
    rfl
  · have hcontains : (Text.Octets.ofString call.program.text).contains '/' = true :=
      List.contains_iff_mem.mpr (mem_ofString_of_mem hslash)
    simp only [hcontains, if_pos]
    rfl

/-- **A program under test is never looked up on the search path.** For any host, any tests, and any
session and sink to begin with:

- Each call of a golden run is the compiler's for one of its tests, or it launches the artifact; and
  then its program holds a `/`, unless it is empty, and so is the artifact of the configuration.
- The `i`-th call of a smoke run launches the executable of the `i`-th test, and its program holds a
  `/`, unless it is empty, and so are the directory and the test's name.
- The executable of a smoke test is spelled as its directory, a `/` unless that ends in one, and the
  name, with or without `./` in front. An absolute name stands for itself, and in the empty
  directory a relative one for itself with or without `./` in front.
- Such a program finds the same on a machine whatever the search path is. -/
theorem tested_programs_are_not_searched (host : Host σ) (tests : List Test) (s : Session σ) :
    (∀ config : Golden.Config, ∃ made,
      (Golden.run host config tests s).2.calls = s.calls ++ made ∧
      ∀ call ∈ made,
        (∃ test ∈ tests, call = ⟨config.compiler, config.buildArgs test.source⟩) ∨
        (call = ⟨config.artifact.anchored, []⟩ ∧
          ((call.program.text = "" ∧ config.artifact.text = "") ∨
            '/' ∈ call.program.text.toList))) ∧
    (∀ config : Smoke.Config, ∃ made,
      (Smoke.run host config tests s).2.calls = s.calls ++ made ∧
      ∀ (i : Nat) (call : Call), made[i]? = some call →
        ∃ test, tests[i]? = some test ∧ call = ⟨Smoke.executable config test, []⟩ ∧
          ((call.program.text = "" ∧ config.dir.text = "" ∧ test.id = "") ∨
            '/' ∈ call.program.text.toList)) ∧
    (∀ (dir : Path) (test : Test),
      (test.id.toList.head? ≠ some '/' → dir.text ≠ "" →
        ∃ lead ∈ ["", "./"], (Smoke.executable ⟨dir⟩ test).text =
          lead ++ (dir.text ++ (if dir.text.toList.getLast? = some '/' then "" else "/") ++
            test.id)) ∧
      (test.id.toList.head? = some '/' → (Smoke.executable ⟨dir⟩ test).text = test.id) ∧
      (test.id.toList.head? ≠ some '/' → dir.text = "" →
        ∃ lead ∈ ["", "./"], (Smoke.executable ⟨dir⟩ test).text = lead ++ test.id)) ∧
    ∀ (dir : Option Path) (call : Call) (m : Machine) (environment : List (String × String)),
      (call.program.text = "" ∨ '/' ∈ call.program.text.toList) →
        Machine.find dir call { m with environment } = Machine.find dir call m := by
  refine ⟨?_, ?_, ?_, Machine.find_environment⟩
  · intro config
    obtain ⟨made, hcalls, hmade⟩ := Golden.calls_of_run host config tests s
    refine ⟨made, hcalls, ?_⟩
    intro call hcall
    rcases hmade call hcall with rfl | hbuild
    · exact .inr ⟨rfl, config.artifact.empty_or_mem_anchored⟩
    · exact .inl hbuild
  · intro config
    obtain ⟨made, hcalls, hmade⟩ := Smoke.calls_of_run host config tests s
    refine ⟨made, hcalls, ?_⟩
    intro i call hcall
    obtain ⟨test, htest, rfl⟩ := hmade i call hcall
    refine ⟨test, htest, rfl, ?_⟩
    rcases (test.executableIn config.dir).empty_or_mem_anchored with ⟨hempty, hjoin⟩ | hslash
    · exact .inl ⟨hempty, Path.eq_empty_of_join hjoin⟩
    · exact .inr hslash
  · intro dir test
    obtain ⟨lead, hlead, hspelled⟩ := (test.executableIn dir).text_anchored
    refine ⟨?_, ?_, ?_⟩
    · intro hrelative hdir
      refine ⟨lead, hlead, hspelled.trans (congrArg (lead ++ ·) ?_)⟩
      exact Path.text_join hdir (beq_eq_false_iff_ne.mpr hrelative)
    · intro habsolute
      have hjoin : test.executableIn dir = ⟨test.id⟩ :=
        Path.join_of_isAbsolute (beq_iff_eq.mpr habsolute)
      unfold Smoke.executable
      rw [hjoin, Path.anchored_of_isAbsolute (beq_iff_eq.mpr habsolute)]
    · intro hrelative hdir
      refine ⟨lead, hlead, hspelled.trans (congrArg (lead ++ ·) ?_)⟩
      exact congrArg Path.text (Path.join_of_empty hdir (beq_eq_false_iff_ne.mpr hrelative))

/-- Names that a component-wise look could take for a directory, or for nothing, are launched with
`./` in front; so no search path makes a difference to them. -/
theorem odd_names_are_not_searched :
    (".".toList.head? ≠ some '/' ∧ ".//" ≠ "" ∧ ∃ lead ∈ ["", "./"],
      (Smoke.executable ⟨⟨".//"⟩⟩ ⟨"."⟩).text = lead ++ ".//.") ∧
    ("/x".toList.head? = some '/' ∧ (Smoke.executable ⟨⟨"bin"⟩⟩ ⟨"/x"⟩).text = "/x") ∧
    ("..".toList.head? ≠ some '/' ∧ ∃ lead ∈ ["", "./"],
      (Smoke.executable ⟨⟨""⟩⟩ ⟨".."⟩).text = lead ++ "..") ∧
    ∃ call,
      (Smoke.run Golden.killer ⟨⟨"bin"⟩⟩ [⟨""⟩] (.start 0 .unlimited)).2.calls[0]? = some call ∧
      '/' ∈ call.program.text.toList ∧
      ∀ m : Machine, Machine.find none call { m with environment := [] } = m.find none call := by
  obtain ⟨-, hsmoke, hspelled, hfind⟩ :=
    tested_programs_are_not_searched Golden.killer [⟨""⟩] (.start 0 .unlimited)
  obtain ⟨hrelative, -, -⟩ := hspelled ⟨".//"⟩ ⟨"."⟩
  obtain ⟨-, habsolute, -⟩ := hspelled ⟨"bin"⟩ ⟨"/x"⟩
  obtain ⟨-, -, hworking⟩ := hspelled ⟨""⟩ ⟨".."⟩
  obtain ⟨made, hcalls, hmade⟩ := hsmoke ⟨⟨"bin"⟩⟩
  have hfirst : made[0]? = some ⟨⟨"./bin/"⟩, []⟩ := by
    have hmade : made = [⟨⟨"./bin/"⟩, []⟩] := hcalls.symm
    rw [hmade]
    rfl
  obtain ⟨test, -, -, ⟨hempty, -⟩ | hslash⟩ := hmade 0 _ hfirst
  · exact absurd hempty (by decide)
  · refine ⟨⟨by decide, by decide, hrelative (by decide) (by decide)⟩,
      ⟨by decide, habsolute (by decide)⟩, ⟨by decide, hworking (by decide) rfl⟩, _, ?_, hslash, ?_⟩
    · rw [hcalls]
      exact hfirst
    · intro m
      exact hfind none _ m [] (.inr hslash)

end Assay
