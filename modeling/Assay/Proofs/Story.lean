import Assay.Proofs.ExitCode
import Assay.Proofs.Golden.Chronicle
import Assay.Proofs.Smoke.Chronicle

/-!
# Log, console and result

Everything that can be known of a run afterwards agrees: the calls it made, what it told the log,
what it printed and what it gave back are all read off the same tests, whatever the host, the tests
and the sink are, and wherever the run ended. `Golden.Story` and `Smoke.Story` say in what way. A
golden command adds one entry to the log of its run, and only where the error that ended the run
belongs to a test.
-/

namespace Assay

variable {σ : Type}

namespace Execution

/-- What a golden command tells of the end of its run: that a test could not be built or run, and
which. A fixture that cannot be read and a report that cannot be written belong to no test. -/
def abortEntries : Except RunError Tally → List Log.Entry
  | .error (.buildFailed test ..) | .error (.compilerLaunch test _)
  | .error (.artifactLaunch test _) => [⟨.goldenAborted test, []⟩]
  | .error (.fixture ..) | .error (.report _) | .ok _ => []

/-- Taking note of an abort tells of it where the error belongs to a test, and nothing else. -/
theorem noteAbort_told (e : RunError) (s : Session σ) :
    (noteAbort e s).told = s.told ++ abortEntries (.error e) := by
  cases e with
  | buildFailed | compilerLaunch | artifactLaunch =>
    rw [noteAbort, RunError.test?, Session.tell_told rfl]
    rfl
  | fixture | report => exact (List.append_nil _).symm

/-- A golden command tells what its run does, and then of an error that belongs to a test. -/
theorem golden_told {host : Host σ} {selection : Selection} {tests : List Test} {s s₁ : Session σ}
    (h : collect host selection s = (.ok tests, s₁)) (config : Golden.Config) :
    (golden host config selection s).2.told =
      (Golden.run host config tests s₁).2.told ++
        abortEntries (Golden.run host config tests s₁).1 := by
  unfold golden
  rw [h]
  simp only
  rcases Golden.run host config tests s₁ with ⟨e | tally, s₂⟩
  · exact noteAbort_told e s₂
  · exact (List.append_nil _).symm

/-- **Log, console and result tell the same story.** Every run begun in a session, on any host and
any sink, has a story.

- Of a golden run, `Golden.Story` says that each call of the compiler is announced and each verdict
  is told after it was decided; that all verdicts told are printed, in order, but for the last one
  where its report is what stopped the run; that exit codes of artifacts that are not 0 are told in
  their place; and that the completion is told iff there is one, last, with the number of verdicts
  of either kind.
- Of a smoke run, `Smoke.Story` says the like of outcomes.
- A golden command that knows its tests makes the calls of its run, prints what it prints and tells
  what it tells. It then tells that the run was aborted, and at which test, iff a build failed or
  the compiler or the artifact could not be started: of a fixture or a report that stopped the run
  it tells nothing more. -/
theorem log_console_and_result_agree (host : Host σ) (s : Session σ) :
    (∀ config tests, ∃ n exchanges own verdicts,
      Golden.Story host config tests s (Golden.run host config tests s) n exchanges own verdicts) ∧
    (∀ config tests, ∃ exchanges own outcomes,
      Smoke.Story host config tests s (Smoke.run host config tests s) exchanges own outcomes) ∧
    ∀ config selection,
      match collect host selection s with
      | (.error failure, s₁) => golden host config selection s = (.error failure, s₁)
      | (.ok tests, s₁) =>
        (golden host config selection s).1 = ending (Golden.run host config tests s₁).1 ∧
        (golden host config selection s).2.calls = (Golden.run host config tests s₁).2.calls ∧
        (golden host config selection s).2.console = (Golden.run host config tests s₁).2.console ∧
        (golden host config selection s).2.told =
          (Golden.run host config tests s₁).2.told ++
            match (Golden.run host config tests s₁).1 with
            | .error (.buildFailed test ..) | .error (.compilerLaunch test _)
            | .error (.artifactLaunch test _) => [⟨.goldenAborted test, []⟩]
            | .error (.fixture ..) | .error (.report _) | .ok _ => [] := by
  refine ⟨fun config tests => Golden.run_story host config tests s,
    fun config tests => Smoke.run_story host config tests s, fun config selection => ?_⟩
  rcases hcollect : collect host selection s with ⟨failure | tests, s₁⟩
  · simp only [golden, hcollect]
  · obtain ⟨hresult, hcalls, hconsole⟩ := golden_of_collect hcollect config
    exact ⟨hresult, hcalls, hconsole, golden_told hcollect config⟩

/-- A limit inside the second line leaves a run with two verdicts told and one reported. -/
example : (Golden.run ⟨fun _ _ => (.ok ⟨[], [], 0⟩, ()), fun _ _ => .ok [], false⟩ .default
    [⟨"a"⟩, ⟨"b"⟩] (.start () (.empty (some 8) none))).2.log =
      [⟨.building ⟨"scc"⟩, [.goldenTest ⟨"a"⟩]⟩,
        ⟨.compared ⟨"a.expected"⟩ .pass, [.goldenTest ⟨"a"⟩]⟩,
        ⟨.building ⟨"scc"⟩, [.goldenTest ⟨"b"⟩]⟩,
        ⟨.compared ⟨"b.expected"⟩ .pass, [.goldenTest ⟨"b"⟩]⟩] := by
  rfl

end Execution

end Assay
