import Assay.Proofs.Series
import Assay.Smoke.Run

/-!
# The course of a smoke run

A smoke run is the series in which tests are launched and outcomes are printed (`run_eq_course`).
Launching never ends the series, so on a sink that never fails every test is launched and every
reply is reported (`run_reports_every_reply`).
-/

namespace Assay.Smoke

variable {σ : Type}

/-- The calls that tests ask for: one launch each. -/
def schedule (config : Config) (tests : List Test) : List Call :=
  tests.map fun test => ⟨executable config test, []⟩

/-! ### Launching one test -/

section observe

variable {host : Host σ} {config : Config} {test : Test}

/-- Launching a test makes one call, and its reply alone decides the outcome. -/
theorem observe_spec {s s₁ : Session σ} {o : Outcome}
    (h : observe host config test s = (o, s₁)) :
    o = .ofLaunch (host.launch ⟨executable config test, []⟩ s.world).1 ∧
      s₁.world = (host.launch ⟨executable config test, []⟩ s.world).2 ∧
      s₁.calls = s.calls ++ [⟨executable config test, []⟩] := by
  rcases hl : s.launch host [.smokeTest test] ⟨executable config test, []⟩ with ⟨reply, s'⟩
  obtain ⟨hreply, hworld, hcalls⟩ := Session.launch_spec hl
  simp only [observe, hl] at h
  cases h
  rw [hreply]
  exact ⟨rfl, hworld, hcalls⟩

/-- Launching does not see what goes unseen by the steps it is made of. -/
theorem observe_unseen {f : Session σ → Session σ} (hf : Session.Unseen f) (s : Session σ) :
    observe host config test (f s) =
      ((observe host config test s).1, f (observe host config test s).2) := by
  simp only [observe, hf.launch, hf.tell]

end observe

/-! ### A smoke run as a series -/

/-- The work on one test of a smoke run. It always has a result. -/
def work (host : Host σ) (config : Config) : Session.Work σ Outcome := fun test s =>
  (.ok (observe host config test s).1, (observe host config test s).2)

/-- What is observed of a test is the result of the work on it. -/
theorem work_of_observe {host : Host σ} {config : Config} {test : Test} {s s₁ : Session σ}
    {o : Outcome} (h : observe host config test s = (o, s₁)) :
    work host config test s = (.ok o, s₁) := by
  unfold work
  rw [h]

/-- Launching neither looks at the console nor writes to it. -/
theorem work_silent (host : Host σ) (config : Config) : Session.Silent (work host config) := by
  intro test s c
  unfold work
  rw [observe_unseen (Session.withConsole_unseen c)]

/-- A smoke test makes one call. -/
theorem work_steady (host : Host σ) (config : Config) :
    Session.Steady host 1 (work host config) := by
  refine ⟨work_silent host config, ?_, ?_⟩
  · intro test s r s₁ h
    rcases ho : observe host config test s with ⟨o, s'⟩
    obtain ⟨-, -, hcalls⟩ := observe_spec ho
    simp only [work, ho] at h
    cases h
    rw [hcalls]
    exact List.prefix_append _ _
  · intro test s o s₁ h
    rcases ho : observe host config test s with ⟨o', s'⟩
    obtain ⟨-, hworld, hcalls⟩ := observe_spec ho
    simp only [work, ho] at h
    cases h
    exact ⟨_, rfl, hcalls, hworld⟩

/-- The course of a smoke run. -/
def course (host : Host σ) (config : Config) (tests : List Test) (s : Session σ) :
    Course Outcome × Session σ :=
  Session.series (work host config) (fun _ o => o.pieces) tests s

/-- A run is its course, and gives the reported outcomes. -/
theorem run_eq_course (host : Host σ) (config : Config) (tests : List Test) (s : Session σ) :
    run host config tests s =
      ((course host config tests s).1.result id, (course host config tests s).2) := by
  induction tests generalizing s with
  | nil => rfl
  | cons test tests ih =>
      unfold course at ih ⊢
      rcases h : observe host config test s with ⟨o, s₁⟩
      have hwork := work_of_observe h
      rcases hprint : s₁.console.print o.pieces with ⟨cause | _, c⟩
      · rw [Session.series_cons_of_unreported hwork hprint]
        simp only [run, h, Session.reportOutcome, Session.print_eq, hprint, Course.result]
      · rw [Session.series_cons_of_reported hwork hprint]
        simp only [run, h, Session.reportOutcome, Session.print_eq, hprint]
        rw [ih]
        unfold Course.result
        rcases (Session.series (work host config) (fun _ o => o.pieces) tests
          (s₁.withConsole c)).1.stop with _ | e <;> rfl

/-- A run ends as its course does, with the reported outcomes. -/
theorem run_ends (host : Host σ) (config : Config) (tests : List Test) (s : Session σ) :
    EndsAs id (run host config tests s) (course host config tests s) := by
  rw [run_eq_course]
  exact ⟨rfl, rfl, rfl, rfl⟩

/-! ### Every reply is reported -/

/-- On a sink that never fails, a course launches every test and reports the outcome of every
reply. -/
theorem course_completes (host : Host σ) (config : Config) (tests : List Test) (s : Session σ)
    (hc : s.console.Unfailing) :
    (course host config tests s).1.stop = none ∧
      (course host config tests s).1.reported =
        (host.replies (schedule config tests) s.world).map Outcome.ofLaunch ∧
      (course host config tests s).2.calls = s.calls ++ schedule config tests := by
  induction tests generalizing s with
  | nil => exact ⟨rfl, rfl, (List.append_nil _).symm⟩
  | cons test tests ih =>
      rcases h : observe host config test s with ⟨o, s₁⟩
      obtain ⟨houtcome, hworld, hcalls⟩ := observe_spec h
      obtain ⟨s₂, hworld₂, hcalls₂, hc₂, -, hseries⟩ := Session.series_cons_of_unfailing
        (fun _ o => o.pieces) (work_silent host config) hc (work_of_observe h) tests
      obtain ⟨hstop, hreported, hmade⟩ := ih s₂ hc₂
      unfold course at hstop hreported hmade ⊢
      rw [hseries]
      refine ⟨hstop, ?_, ?_⟩
      · rw [hreported, hworld₂, hworld, houtcome]
        rfl
      · rw [hmade, hcalls₂, hcalls, List.append_assoc]
        rfl

/-- What a sink that never fails holds after a course: the reports of all outcomes. -/
theorem course_written (host : Host σ) (config : Config) (tests : List Test) {s : Session σ}
    (hc : s.console.Unfailing) :
    (course host config tests s).2.console.written =
      s.console.written ++ ((course host config tests s).1.reported.map outcomeText).flatten := by
  have hlength : (course host config tests s).1.reported.length ≤ tests.length :=
    Session.length_reported_le _ _ _ _
  have hwritten := Session.series_written (fun _ o => o.pieces)
    (work_silent host config) tests hc
  unfold course at hlength ⊢
  rw [hwritten, Session.texts_of_results Outcome.pieces hlength]
  simp only [text_outcome_pieces]

/-- The outcome of a reply: what a child left behind is complete, whatever its exit code. -/
theorem ofLaunch_eq (reply : Except LaunchError Output) :
    Outcome.ofLaunch reply =
      match reply with
      | .ok output => .completed output.exitCode output.stdoutText
      | .error (.notFound _) => .notFound
      | .error (.failed program cause) =>
        .launchFailure ("failed to launch " ++ program.text ++ ": " ++ cause.message) := by
  rcases reply with (_ | _) | _ <;> rfl

/-- A launch error that was classified by its cause is a missing executable iff the cause's kind
says so. -/
theorem ofLaunch_ofIo (program : Path) (cause : IoError) :
    Outcome.ofLaunch (.error (.ofIo program cause)) =
      if cause.kind = .notFound then .notFound
      else .launchFailure ("failed to launch " ++ program.text ++ ": " ++ cause.message) := by
  unfold LaunchError.ofIo
  split <;> rfl

/-- **No launch ends a smoke run.** On a sink that never fails, a smoke run completes with an
outcome for every test. It makes one call for each test, in order; each outcome is read off the
reply to its call alone; and the output is the reports of the outcomes, one after the other.

A launch error tells itself whether the executable is missing. Only where it was classified by its
cause (`LaunchError.ofIo`) is that so iff the cause's kind says so; a host that makes its launch
errors in another way may call an executable missing, or not, whatever the kind. -/
theorem run_reports_every_reply (host : Host σ) (config : Config) (tests : List Test) (world : σ) :
    ∃ outcomes : List Outcome,
      (run host config tests (.start world .unlimited)).1 = .ok outcomes ∧
      outcomes.length = tests.length ∧
      (run host config tests (.start world .unlimited)).2.calls =
        tests.map (fun test => ⟨(config.dir.join ⟨test.id⟩).anchored, []⟩) ∧
      (∀ i : Nat, outcomes[i]? = (host.replies (schedule config tests) world)[i]?.map fun reply =>
        match reply with
        | .ok output => Outcome.completed output.exitCode output.stdoutText
        | .error (.notFound _) => Outcome.notFound
        | .error (.failed program cause) =>
          Outcome.launchFailure
            ("failed to launch " ++ program.text ++ ": " ++ cause.message)) ∧
      (∀ (i : Nat) (program : Path) (cause : IoError),
        (host.replies (schedule config tests) world)[i]? =
            some (.error (LaunchError.ofIo program cause)) →
          outcomes[i]? = some (if cause.kind = .notFound then .notFound
            else .launchFailure
              ("failed to launch " ++ program.text ++ ": " ++ cause.message))) ∧
      (run host config tests (.start world .unlimited)).2.console.written =
        (outcomes.map outcomeText).flatten := by
  obtain ⟨hstop, hreported, hcalls⟩ :=
    course_completes host config tests (.start world .unlimited) Sink.unlimited_unfailing
  have hwritten := course_written host config tests (s := .start world .unlimited)
    Sink.unlimited_unfailing
  rw [run_eq_course]
  refine ⟨(course host config tests (.start world .unlimited)).1.reported, ?_, ?_, hcalls, ?_, ?_,
    hwritten⟩
  · exact Course.result_of_completed hstop _
  · rw [hreported, List.length_map, Host.length_replies]
    exact List.length_map _
  · intro i
    rw [hreported, List.getElem?_map]
    exact congrArg (fun f => Option.map f _) (funext ofLaunch_eq)
  · intro i program cause hreply
    rw [hreported, List.getElem?_map]
    change Option.map Outcome.ofLaunch (host.replies (schedule config tests) world)[i]? = _
    rw [hreply, Option.map_some, ofLaunch_ofIo]

end Assay.Smoke
