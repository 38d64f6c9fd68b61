import Mathlib.Data.List.Basic
import Assay.Proofs.Chronicle
import Assay.Proofs.Smoke.Course

/-!
# The chronicle of a smoke run

Every test of a smoke run is launched once, and its outcome is told and reported. So what a run
tells and what it prints are the same outcomes, up to a report that the console does not take.

* `episode` — what launching a test leaves behind (`work_leaves`).
* `Story` — that the calls, the log, the console and the result of a run tell the same.
* `run_story` — they do, on every sink.
-/

namespace Assay.Smoke

variable {σ : Type}

/-- The entry that tells of a test's outcome. -/
def outcomeEntry (config : Config) (test : Test) (o : Outcome) : Log.Entry :=
  ⟨event (executable config test) o, [.smokeTest test]⟩

/-- What launching a test leaves behind. -/
def episode (host : Host σ) (config : Config) (test : Test) (world : σ) : Episode Outcome where
  test := test
  result := .ok (.ofLaunch (host.launch ⟨executable config test, []⟩ world).1)
  exchanges := [(⟨executable config test, []⟩,
    (host.launch ⟨executable config test, []⟩ world).1)]
  entries := [outcomeEntry config test
    (.ofLaunch (host.launch ⟨executable config test, []⟩ world).1)]

/-- The world after the launch of a test. -/
def next (host : Host σ) (config : Config) (test : Test) (world : σ) : σ :=
  (host.launch ⟨executable config test, []⟩ world).2

section work

variable (host : Host σ) (config : Config) (test : Test)

/-- Outcomes are told by the program itself. -/
theorem isOwn_outcomeEntry (o : Outcome) : (outcomeEntry config test o).isOwn = true := by
  cases o <;> rfl

/-- Launching a test tells its outcome. -/
theorem observe_told (s : Session σ) :
    (observe host config test s).2.told =
      s.told ++ [outcomeEntry config test (observe host config test s).1] := by
  have hlaunch := Session.launch_told host [.smokeTest test] ⟨executable config test, []⟩ s
  unfold observe
  simp only
  rw [Session.tell_told (isOwn_outcomeEntry config test _), hlaunch]
  rfl

/-- Launching leaves these episodes behind. -/
theorem work_leaves :
    Session.Leaves host (episode host config) (next host config) (work host config) where
  silent := work_silent host config
  test _ _ := rfl
  result test s := by
    rcases ho : observe host config test s with ⟨o, s₁⟩
    rw [work_of_observe ho, (observe_spec ho).1]
    rfl
  calls test s := by
    rcases ho : observe host config test s with ⟨o, s₁⟩
    rw [work_of_observe ho]
    exact (observe_spec ho).2.2
  told test s := by
    have htold := observe_told host config test s
    rcases ho : observe host config test s with ⟨o, s₁⟩
    rw [ho, (observe_spec ho).1] at htold
    rw [work_of_observe ho]
    exact htold
  replies _ _ := rfl
  next {test s o} _ := by
    rcases ho : observe host config test s with ⟨o', s₁⟩
    rw [work_of_observe ho]
    exact ⟨(observe_spec ho).2.1, rfl⟩

end work

/-- The calls, the log, the console and the result of a run that was begun in a session tell the
same story: of the calls with their replies, of what was told and of the outcomes. -/
structure Story (host : Host σ) (config : Config) (tests : List Test) (s : Session σ)
    (run : Except RunError (List Outcome) × Session σ)
    (exchanges : List (Call × Except LaunchError Output)) (own : List Log.Entry)
    (outcomes : List Outcome) : Prop where
  calls : run.2.calls = s.calls ++ exchanges.map Prod.fst
  replies : host.replies (exchanges.map Prod.fst) s.world = exchanges.map Prod.snd
  told : run.2.told = s.told ++ own
  /-- The calls are the launches of the first tests. -/
  launches : exchanges.map Prod.fst <+: schedule config tests
  /-- Every reply has an outcome … -/
  observed : outcomes = exchanges.map fun exchange => .ofLaunch exchange.2
  /-- … and every outcome is told, in order. -/
  entries : own = List.zipWith (outcomeEntry config) tests outcomes
  /-- A complete run gives the outcomes of all tests. -/
  result : ∀ os, run.1 = .ok os → os = outcomes ∧ outcomes.length = tests.length
  /-- What is told is printed … -/
  written : (∀ cause, run.1 ≠ .error (.report cause)) →
    run.2.console.written = s.console.written ++ (outcomes.map outcomeText).flatten
  /-- … but for the last outcome of a run that is stopped by its report. -/
  cut : ∀ cause, run.1 = .error (.report cause) → ∃ reported o line,
    outcomes = reported ++ [o] ∧ Unreported (outcomeText o) cause line ∧
    run.2.console.written =
      s.console.written ++ (reported.map outcomeText).flatten ++ line

/-- Every run has a story, on any sink. -/
theorem run_story (host : Host σ) (config : Config) (tests : List Test) (s : Session σ) :
    ∃ exchanges own outcomes,
      Story host config tests s (run host config tests s) exchanges own outcomes := by
  obtain ⟨outcomes, exchanges, entries, written, h⟩ := Session.series_chronicle
    (work_leaves host config) (fun _ o => o.pieces) tests s
  have htests := (work_leaves host config).map_test tests s.world
  have hmem : ∀ x ∈ Session.episodes (episode host config) (next host config) tests s.world,
      ∃ test world, x = episode host config test world := fun x hx => Session.mem_episodes hx
  generalize Session.episodes (episode host config) (next host config) tests s.world = xs
    at h htests hmem
  obtain ⟨n, -, hexchanges, hfound⟩ := h.chronicle.reached
  have hends := run_ends host config tests s
  refine ⟨exchanges, entries, outcomes, ?_⟩
  exact
    { calls := hends.calls.trans h.calls
      replies := h.replies
      told := by
        rw [run_eq_course]
        exact h.told
      launches := by
        have hlaunch : ∀ x ∈ xs.take n,
            x.exchanges.map Prod.fst = [⟨executable config x.test, []⟩] := by
          intro x hx
          obtain ⟨test, world, rfl⟩ := hmem x (List.mem_of_mem_take hx)
          rfl
        rw [hexchanges, List.map_flatMap, List.flatMap_congr hlaunch, ← List.map_eq_flatMap,
          schedule, ← htests, List.map_map, List.map_take]
        exact List.take_prefix _ _
      observed := by
        rw [hexchanges, hfound, List.map_flatMap]
        refine List.flatMap_congr fun x hx => ?_
        obtain ⟨test, world, rfl⟩ := hmem x (List.mem_of_mem_take hx)
        rfl
      entries := by
        rw [← htests, ← h.chronicle.filter_entries (fun _ => true) (outcomeEntry config) ?_]
        · exact (List.filter_true _).symm
        · intro x hx
          obtain ⟨test, world, rfl⟩ := hmem x hx
          rfl
      result := by
        intro os hos
        obtain ⟨hlength, rfl⟩ := h.of_ok hends hos
        rw [← List.length_map Episode.test, htests] at hlength
        exact ⟨rfl, hlength⟩
      written := by
        intro hreport
        have hwritten := h.of_not_report hends hreport
        have hlength := h.chronicle.length_found_le
        rw [← List.length_map Episode.test, htests] at hlength
        rw [htests, Session.texts_of_results _ hlength] at hwritten
        simpa only [text_outcome_pieces] using hwritten
      cut := by
        intro cause hcause
        have hwork : ∀ x ∈ xs, ∀ cause, x.result ≠ .error (.report cause) := by
          intro x hx cause hresult
          obtain ⟨test, world, rfl⟩ := hmem x hx
          cases hresult
        obtain ⟨reported, o, test, line, houtcomes, htest, htext, hwritten⟩ :=
          h.of_report hends hwork hcause
        rw [htests] at htest hwritten
        obtain ⟨hlt, -⟩ := List.getElem?_eq_some_iff.mp htest
        rw [text_outcome_pieces] at htext
        rw [Session.texts_of_results _ (Nat.le_of_lt hlt)] at hwritten
        simp only [text_outcome_pieces] at hwritten
        exact ⟨reported, o, line, houtcomes, htext, hwritten⟩ }

end Assay.Smoke
