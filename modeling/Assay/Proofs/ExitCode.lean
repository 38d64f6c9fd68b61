import Assay.Proofs.Collection
import Assay.Proofs.Indifference

/-!
# Exit codes

A command whose lists can be used ends with exit code 0 or 1. Which of them it is depends on whether
its tests can be judged and not on the verdicts, and a smoke command always ends with 0.

* `Execution.golden_of_collect`, `Execution.smoke_of_collect` — a command that knows its tests ends
  as its run does.
* `Golden.Trial.Sound` — a trial that can be judged, whatever the verdict.
* `Execution.exit_code_ignores_verdicts` — the exit code of every command with usable lists, and
  that two golden commands which differ in what is compared make the same calls, end alike and print
  equally many lines.
-/

namespace Assay

variable {σ τ : Type}

namespace Golden

variable {host : Host σ} {config : Config} {tests : List Test} {s : Session σ}

/-- The compiler was started and exited with 0, the artifact was started, and the fixture can be
read. -/
structure Trial.Sound (host : Host σ) (x : Trial σ) : Prop where
  built : ∃ output, x.built = .ok output ∧ output.exitCode = 0
  ran : ∃ artifact, x.ran = .ok artifact
  read : ∃ expected, host.readFile x.test.fixture x.world = .ok expected

/-- The sound trials are those that are judged. -/
theorem Trial.sound_iff {x : Trial σ} : x.Sound host ↔ ∃ v, x.Decides host v := by
  constructor
  · rintro ⟨⟨output, built, status⟩, ⟨artifact, ran⟩, expected, read⟩
    exact ⟨_, built, status, ran, read, Verdict.compare_eq_pass_iff⟩
  · rintro ⟨v, ⟨built, status, ran, read, -⟩⟩
    exact ⟨⟨_, built, status⟩, ⟨_, ran⟩, _, read⟩

/-- A course is completed iff every test can be judged. -/
theorem Follows.completed_iff {c : Course Verdict} {s' : Session σ}
    (h : Follows host config tests s c s') :
    c.stop = none ↔
      ∀ k < tests.length, ∃ x, TrialAt host config tests s.world k x ∧ x.Sound host := by
  constructor
  · intro hstop k hk
    rw [← (h.completed hstop).1] at hk
    obtain ⟨x, hx, hdecides⟩ := h.decided k _ (List.getElem?_eq_getElem hk)
    exact ⟨x, hx, Trial.sound_iff.mpr ⟨_, hdecides⟩⟩
  · intro hall
    refine h.stop_eq_none ?_
    rintro k made e ⟨y, hy, htrouble⟩
    obtain ⟨x, hx, hsound⟩ := hall k hy.lt
    obtain ⟨v, hdecides⟩ := Trial.sound_iff.mp hsound
    rw [hx.unique hy] at hdecides
    exact htrouble.not_decides v hdecides

end Golden

namespace Execution

open CommandLine (GoldenOptions)
open Manifest (Holds)

variable {γ : Type} {host : Host σ} {selection : Selection} {tests : List Test} {s s₁ : Session σ}

/-- How a command ends whose run ended: with exit code 0, or with the failure that shows the
error. -/
def ending : Except RunError γ → Except Failure Int
  | .ok _ => .ok success
  | .error e => .error (.ofDiagnostic e.diagnostic)

/-- To tell that a run was aborted calls nothing. -/
theorem noteAbort_calls (e : RunError) (s : Session σ) : (noteAbort e s).calls = s.calls := by
  unfold noteAbort
  split <;> rfl

/-- To tell that a run was aborted prints nothing. -/
theorem noteAbort_console (e : RunError) (s : Session σ) :
    (noteAbort e s).console = s.console := by
  unfold noteAbort
  split <;> rfl

/-- A golden command that knows its tests ends as its run does. -/
theorem golden_of_collect (h : collect host selection s = (.ok tests, s₁))
    (config : Golden.Config) :
    (golden host config selection s).1 = ending (Golden.run host config tests s₁).1 ∧
      (golden host config selection s).2.calls = (Golden.run host config tests s₁).2.calls ∧
      (golden host config selection s).2.console = (Golden.run host config tests s₁).2.console := by
  unfold golden
  rw [h]
  simp only
  rcases Golden.run host config tests s₁ with ⟨e | tally, s₂⟩
  · exact ⟨rfl, noteAbort_calls e s₂, noteAbort_console e s₂⟩
  · exact ⟨rfl, rfl, rfl⟩

/-- A smoke command that knows its tests ends as its run does. -/
theorem smoke_of_collect (h : collect host selection s = (.ok tests, s₁)) (config : Smoke.Config) :
    (smoke host config selection s).1 = ending (Smoke.run host config tests s₁).1 := by
  unfold smoke
  rw [h]
  simp only
  rcases Smoke.run host config tests s₁ with ⟨e | outcomes, s₂⟩ <;> rfl

/-- A run that ends as a course does ends a command with exit code 0 iff the course is
completed. -/
theorem ending_eq_ok_iff {β : Type} {f : List β → γ} {c : Course β} :
    ending (c.result f) = .ok 0 ↔ c.stop = none := by
  unfold Course.result
  rcases c.stop with _ | e
  · exact iff_of_true rfl rfl
  · constructor
    · intro h
      cases h
    · intro h
      cases h

/-- A run ends a command with exit code 0 or 1. -/
theorem ending_exitCode (r : Except RunError γ) :
    ending r = .ok 0 ∨ ∃ message, ending r = .error ⟨message, 1⟩ := by
  cases r with
  | ok _ => exact .inl rfl
  | error e => exact .inr ⟨_, rfl⟩

/-- Courses with the same stop end a command in the same way. -/
theorem ending_eq_of_stop_eq {β : Type} {f f' : List β → γ} {c c' : Course β}
    (h : c.stop = c'.stop) : ending (c.result f) = ending (c'.result f') := by
  unfold Course.result
  rw [h]
  rcases c'.stop with _ | e <;> rfl

/-- Golden commands with the same tests, on hosts on which the trials are the same but for what is
compared, end alike and print equally many lines. -/
theorem golden_alike_of_collect {host' : Host τ} {config : Golden.Config} {s' s₁' : Session τ}
    (h : collect host selection s = (.ok tests, s₁))
    (h' : collect host' selection s' = (.ok tests, s₁'))
    (htrials : Golden.TrialsResemble (fun _ _ => True) (fun _ _ => True) host host' config tests
      s₁.world s₁'.world)
    (hmade : s₁.calls = s₁'.calls) (hc : s₁.console = .unlimited) (hc' : s₁'.console = .unlimited) :
    (golden host config selection s).1 = (golden host' config selection s').1 ∧
      (golden host config selection s).2.calls = (golden host' config selection s').2.calls ∧
      ∃ verdicts verdicts' : List Verdict,
        verdicts.length = verdicts'.length ∧ verdicts.length ≤ tests.length ∧
        (golden host config selection s).2.console.written =
          (List.zipWith verdictText tests verdicts).flatten ∧
        (golden host' config selection s').2.console.written =
          (List.zipWith verdictText tests verdicts').flatten := by
  obtain ⟨hresult, hcalls, hconsole⟩ := golden_of_collect h config
  obtain ⟨hresult', hcalls', hconsole'⟩ := golden_of_collect h' config
  have hunfailing : s₁.console.Unfailing := by
    rw [hc]
    exact Sink.unlimited_unfailing
  have hunfailing' : s₁'.console.Unfailing := by
    rw [hc']
    exact Sink.unlimited_unfailing
  have hstep : Session.InStep
      (Golden.TrialsResemble (fun _ _ => True) (fun _ _ => True) host host' config)
      (fun _ _ => True) (Golden.judge host config) (Golden.judge host' config) :=
    Golden.judge_in_step fun _ _ => trivial
  have halike := Session.series_in_step hstep
    (Session.prints_alike_unfailing _ fun test v => v.pieces test) tests s₁ s₁' htrials hmade
    ⟨hunfailing, hunfailing'⟩
  have hends := Golden.run_ends host config tests s₁
  have hends' := Golden.run_ends host' config tests s₁'
  rw [hresult, hresult', hcalls, hcalls', hconsole, hconsole', hends.result, hends'.result,
    hends.calls, hends'.calls, hends.console, hends'.console]
  refine ⟨ending_eq_of_stop_eq halike.stop, halike.calls, _, _, halike.reported.length_eq,
    Session.length_reported_le _ _ _ _, ?_, ?_⟩
  · rw [Golden.course_written host config tests hunfailing, hc]
    rfl
  · rw [Golden.course_written host' config tests hunfailing', hc']
    rfl

/-- **Verdicts do not steer a command.** On a sink that never fails, a command whose lists all hold
tests ends in this way.

- A golden command ends with exit code 0 iff for every test the compiler starts and exits with 0,
  the artifact starts and the fixture can be read, and with exit code 1 otherwise.
- A smoke command ends with exit code 0.
- Two golden commands on different hosts whose lists read the same, and whose tests have the same
  trials but for what artifacts print and fixtures hold, end alike, with the same error if any, and
  make the same calls. Both print one line for each of the same tests, so that only the verdicts on
  the lines may differ. -/
theorem exit_code_ignores_verdicts (host : Host σ) (world : σ) (selection : Selection)
    (environmentCompiler : Option String) :
    (∀ options listed, List.Forall₂ (Holds host world) selection.lists listed →
      ((run host environmentCompiler (.golden selection options) (.start world .unlimited)).1 =
          .ok 0 ↔
        ∀ k < (selection.tests.map Test.mk ++ listed.flatten).length, ∃ x,
          Golden.TrialAt host (options.config environmentCompiler)
            (selection.tests.map Test.mk ++ listed.flatten) world k x ∧ x.Sound host) ∧
      ((run host environmentCompiler (.golden selection options) (.start world .unlimited)).1 =
          .ok 0 ∨
        ∃ message, (run host environmentCompiler (.golden selection options)
          (.start world .unlimited)).1 = .error ⟨message, 1⟩)) ∧
    (∀ dir listed, List.Forall₂ (Holds host world) selection.lists listed →
      (run host environmentCompiler (.smoke selection dir) (.start world .unlimited)).1 = .ok 0) ∧
    ∀ (options : GoldenOptions) (τ : Type) (host' : Host τ) (world' : τ),
      (∀ path ∈ selection.lists, host.readFile path world = host'.readFile path world') →
      (∀ tests, (collect host selection (.start world .unlimited)).1 = .ok tests →
        Golden.TrialsResemble (fun _ _ => True) (fun _ _ => True) host host'
          (options.config environmentCompiler) tests world world') →
      (run host environmentCompiler (.golden selection options) (.start world .unlimited)).1 =
        (run host' environmentCompiler (.golden selection options) (.start world' .unlimited)).1 ∧
      (run host environmentCompiler (.golden selection options) (.start world .unlimited)).2.calls =
        (run host' environmentCompiler (.golden selection options)
          (.start world' .unlimited)).2.calls ∧
      ∃ (tests : List Test) (verdicts verdicts' : List Verdict),
        verdicts.length = verdicts'.length ∧ verdicts.length ≤ tests.length ∧
        (run host environmentCompiler (.golden selection options)
          (.start world .unlimited)).2.console.written =
            (List.zipWith verdictText tests verdicts).flatten ∧
        (run host' environmentCompiler (.golden selection options)
          (.start world' .unlimited)).2.console.written =
            (List.zipWith verdictText tests verdicts').flatten := by
  refine ⟨fun options listed h => ?_, fun dir listed h => ?_,
    fun options τ host' world' hlists htrials => ?_⟩
  · have hcollect := collect_of_hold (s := .start world .unlimited) h
    obtain ⟨hresult, -, -⟩ := golden_of_collect hcollect (options.config environmentCompiler)
    unfold run
    simp only
    rw [hresult, (Golden.run_ends host _ _ _).result]
    refine ⟨?_, ending_exitCode _⟩
    rw [ending_eq_ok_iff]
    exact (Golden.course_follows host _ _ _ Sink.unlimited_unfailing).completed_iff
  · have hcollect := collect_of_hold (s := .start world .unlimited) h
    unfold run
    simp only
    rw [smoke_of_collect hcollect, (Smoke.run_ends host _ _ _).result, ending_eq_ok_iff]
    exact (Smoke.course_completes host _ _ _ Sink.unlimited_unfailing).1
  · obtain ⟨result, entries, hcollect, hcollect'⟩ := collect_congr (.start world .unlimited)
      (.start world' .unlimited) hlists
    rcases result with failure | tests
    · -- both commands fail before anything is run
      have hrun := run_of_collect_error environmentCompiler (.golden selection options) hcollect
      have hrun' := run_of_collect_error environmentCompiler (.golden selection options) hcollect'
      rw [hrun, hrun']
      exact ⟨rfl, rfl, [], [], [], rfl, Nat.le_refl 0, rfl, rfl⟩
    · obtain ⟨hresult, hcalls, hwritten⟩ := golden_alike_of_collect hcollect hcollect'
        (htrials tests (congrArg Prod.fst hcollect)) rfl rfl rfl
      exact ⟨hresult, hcalls, tests, hwritten⟩

/-- A host whose programs all print the same, with a list of one test. -/
def printer (text : Bytes) : Host Unit where
  launch _ world := (.ok ⟨text, [], 0⟩, world)
  readFile path _ := if path = ⟨"list"⟩ then .ok (bytesOf "a\n") else .ok [0x78]
  logsExits := false

/-- A golden command ends with exit code 0 whether its test passes or fails, and so does a smoke
command. -/
theorem printer_exit_codes :
    (run (printer [0x78]) none (.golden ⟨[], [⟨"list"⟩]⟩ ⟨none, [], "-o", ⟨"./main"⟩⟩)
        (.start () .unlimited)).1 = .ok 0 ∧
      (run (printer [0x78]) none (.golden ⟨[], [⟨"list"⟩]⟩ ⟨none, [], "-o", ⟨"./main"⟩⟩)
          (.start () .unlimited)).1 =
        (run (printer [0x79]) none (.golden ⟨[], [⟨"list"⟩]⟩ ⟨none, [], "-o", ⟨"./main"⟩⟩)
          (.start () .unlimited)).1 ∧
      (run (printer [0x78]) none (.smoke ⟨[], [⟨"list"⟩]⟩ ⟨"."⟩) (.start () .unlimited)).1 =
        .ok 0 := by
  have hlist : Holds (printer [0x78]) () ⟨"list"⟩ [⟨"a"⟩] := ⟨"a\n", rfl, rfl⟩
  obtain ⟨hgolden, hsmoke, hsame⟩ :=
    exit_code_ignores_verdicts (printer [0x78]) () ⟨[], [⟨"list"⟩]⟩ none
  refine ⟨?_, ?_, hsmoke ⟨"."⟩ [[⟨"a"⟩]] (.cons hlist .nil)⟩
  · refine (hgolden _ [[⟨"a"⟩]] (.cons hlist .nil)).1.mpr fun k hk => ?_
    obtain rfl : k = 0 := Nat.lt_one_iff.mp hk
    exact ⟨_, Golden.trialAt_zero, ⟨_, rfl, rfl⟩, ⟨_, rfl⟩, _, rfl⟩
  · refine (hsame _ Unit (printer [0x79]) () (fun _ _ => rfl) ?_).1
    intro tests htests k x x' hx hx'
    have hcollect : collect (printer [0x78]) ⟨[], [⟨"list"⟩]⟩ (.start () .unlimited) = _ :=
      collect_of_hold (.cons hlist .nil)
    rw [hcollect] at htests
    cases htests
    obtain rfl : k = 0 := Nat.lt_one_iff.mp hx.lt
    rw [hx.unique Golden.trialAt_zero, hx'.unique Golden.trialAt_zero]
    exact ⟨.ok rfl, .ok trivial, .ok trivial⟩

end Execution

end Assay
