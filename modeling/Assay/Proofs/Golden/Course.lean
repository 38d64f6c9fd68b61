import Assay.Proofs.Golden.Trial

/-!
# The course of a golden run

A golden run is the series in which tests are judged and verdicts are printed (`run_ends`). On a
sink that never fails the series follows the trials of its tests (`course_follows`): every verdict
that is reported is the decision of its trial, and the trial after the last one is in trouble,
unless there is none.

* `run_stops_at_first_trouble` — where a run stops, how many calls of the schedule it has made by
  then, and with which error.
* `run_reports_decisions` — which lines a run prints, and that its tally counts them.
-/

namespace Assay.Golden

variable {σ : Type}

/-! ### A golden run as a series -/

section unseen

variable {f : Session σ → Session σ} (hf : Session.Unseen f) (host : Host σ) (config : Config)
  (test : Test)

include hf

/-- Compiling does not see what goes unseen by telling and launching. -/
theorem build_unseen (s : Session σ) :
    build host config test (f s) =
      ((build host config test s).1, f (build host config test s).2) := by
  simp only [build, hf.tell, hf.launch]
  rcases (s.tell [.goldenTest test] (.building config.compiler)).launch host [.goldenTest test]
    ⟨config.compiler, config.buildArgs test.source⟩ with ⟨cause | output, s₁⟩
  · rfl
  · simp only
    split <;> rfl

/-- Running the artifact does not see what goes unseen by telling and launching. -/
theorem execute_unseen (s : Session σ) :
    execute host config test (f s) =
      ((execute host config test s).1, f (execute host config test s).2) := by
  simp only [execute, hf.launch]
  rcases s.launch host [.goldenTest test] ⟨config.artifact.anchored, []⟩ with ⟨cause | output, s₁⟩
  · rfl
  · simp only [hf.tell]
    split <;> rfl

/-- Comparing does not see what goes unseen by telling and leaves the world as it is. -/
theorem compare_unseen (output : Output) (s : Session σ) :
    compare host test output (f s) =
      ((compare host test output s).1, f (compare host test output s).2) := by
  simp only [compare, Session.readFile, hf.world]
  rcases host.readFile test.fixture s.world with cause | expected
  · rfl
  · simp only [hf.tell]

/-- Judging does not see what goes unseen by the steps it is made of. -/
theorem judge_unseen (s : Session σ) :
    judge host config test (f s) =
      ((judge host config test s).1, f (judge host config test s).2) := by
  simp only [judge, build_unseen hf]
  rcases build host config test s with ⟨e | _, s₁⟩
  · rfl
  · simp only [execute_unseen hf]
    rcases execute host config test s₁ with ⟨e | output, s₂⟩
    · rfl
    · exact compare_unseen hf host test output s₂

end unseen

/-- Judging neither looks at the console nor writes to it. -/
theorem judge_silent (host : Host σ) (config : Config) :
    Session.Silent (judge host config) := fun test s c =>
  judge_unseen (Session.withConsole_unseen c) host config test s

/-- Judging does not look at what came before it. -/
theorem judge_cumulative (host : Host σ) (config : Config) :
    Session.Cumulative (judge host config) := fun test s calls log =>
  judge_unseen (Session.following_unseen calls log) host config test s

/-- Judging makes two calls for a test that gets a verdict. -/
theorem judge_steady (host : Host σ) (config : Config) :
    Session.Steady host 2 (judge host config) := by
  refine ⟨judge_silent host config, ?_, ?_⟩
  · intro test s r s₁ h
    cases judge_spec h with
    | trouble _ calls =>
      rw [calls]
      exact List.prefix_append _ _
    | decided _ calls _ =>
      rw [calls]
      exact List.prefix_append _ _
  · intro test s v s₁ h
    cases judge_spec h with
    | decided _ calls world => exact ⟨_, rfl, calls, world⟩

/-- The course of a golden run. -/
def course (host : Host σ) (config : Config) (tests : List Test) (s : Session σ) :
    Course Verdict × Session σ :=
  Session.series (judge host config) (fun test v => v.pieces test) tests s

/-- The tally of verdicts. -/
def tallyOf (verdicts : List Verdict) : Tally := verdicts.foldl Tally.record {}

section course

variable (host : Host σ) (config : Config) (tests : List Test) (s : Session σ)

/-- The steps of a run are its course, at the end of which the reported verdicts are recorded. -/
theorem steps_eq_course (tally : Tally) :
    steps host config tests tally s =
      ((course host config tests s).1.result (List.foldl Tally.record tally),
        (course host config tests s).2) := by
  induction tests generalizing tally s with
  | nil => rfl
  | cons test tests ih =>
      unfold course at ih ⊢
      rcases h : judge host config test s with ⟨e | v, s₁⟩
      · rw [Session.series_cons_of_error h]
        simp only [steps, step, h, Course.result]
      · rcases hprint : s₁.console.print (v.pieces test) with ⟨cause | _, c⟩
        · rw [Session.series_cons_of_unreported h hprint]
          simp only [steps, step, h, Session.reportVerdict, Session.print_eq, hprint,
            Course.result]
        · rw [Session.series_cons_of_reported h hprint]
          simp only [steps, step, h, Session.reportVerdict, Session.print_eq, hprint]
          rw [ih]
          rfl

/-- A run is its course, at the end of which the tally of the reported verdicts is told. -/
theorem run_eq_course :
    run host config tests s =
      match (course host config tests s).1.stop with
      | some e => (.error e, (course host config tests s).2)
      | none =>
        (.ok (tallyOf (course host config tests s).1.reported),
          (course host config tests s).2.tell []
            (.goldenCompleted (tallyOf (course host config tests s).1.reported))) := by
  unfold run
  rw [steps_eq_course]
  unfold Course.result
  rcases (course host config tests s).1.stop with _ | e <;> rfl

/-- A run ends as its course does, with the tally of the reported verdicts. -/
theorem run_ends : EndsAs tallyOf (run host config tests s) (course host config tests s) := by
  rw [run_eq_course]
  rcases hstop : (course host config tests s).1.stop with _ | e
  · exact ⟨(Course.result_of_completed hstop _).symm, rfl, rfl, rfl⟩
  · exact ⟨(Course.result_of_stop hstop _).symm, rfl, rfl, rfl⟩

end course

/-! ### Following the trials -/

/-- A course that does what the trials of its tests say. -/
structure Follows (host : Host σ) (config : Config) (tests : List Test) (s : Session σ)
    (c : Course Verdict) (s' : Session σ) : Prop where
  /-- The reported verdicts are decisions. -/
  decided : ∀ i v, c.reported[i]? = some v →
    ∃ x, TrialAt host config tests s.world i x ∧ x.Decides host v
  /-- A course that is not stopped has reported on all tests and made all calls. -/
  completed : c.stop = none →
    c.reported.length = tests.length ∧ s'.calls = s.calls ++ schedule config tests
  /-- A course is stopped by trouble with the test after the reported ones. -/
  stopped : ∀ e, c.stop = some e →
    ∃ x made, TrialAt host config tests s.world c.reported.length x ∧
      x.Trouble host config made e ∧
      s'.calls = s.calls ++ (schedule config tests).take (2 * c.reported.length + made)

/-- On a sink that never fails, a run follows the trials of its tests. -/
theorem course_follows (host : Host σ) (config : Config) (tests : List Test) (s : Session σ)
    (hc : s.console.Unfailing) :
    Follows host config tests s (course host config tests s).1
      (course host config tests s).2 := by
  induction tests generalizing s with
  | nil =>
      refine ⟨fun i v h => ?_, fun _ => ⟨rfl, ?_⟩, fun e h => ?_⟩
      · cases h
      · exact (List.append_nil _).symm
      · cases h
  | cons test tests ih =>
      unfold course
      rcases h : judge host config test s with ⟨e | v, s₁⟩
      · -- the first test is in trouble
        cases judge_spec h with
        | @trouble made _ _ found calls =>
          rw [Session.series_cons_of_error h]
          refine ⟨fun i v h => ?_, fun h => ?_, fun e' h => ?_⟩
          · cases h
          · cases h
          · cases h
            refine ⟨_, made, trialAt_zero, found, ?_⟩
            have hmade : made ≤ [compilation config test, execution config].length := found.made_le
            rw [calls, schedule_cons, List.length_nil, Nat.mul_zero, Nat.zero_add,
              List.take_append_of_le_length hmade]
      · -- the first test is judged, and the others go on from the world of its trial
        cases judge_spec h with
        | decided found calls world =>
          obtain ⟨s₂, hworld, hcalls, hc₂, -, hseries⟩ := Session.series_cons_of_unfailing
            (fun test v => v.pieces test) (judge_silent host config) hc h tests
          obtain ⟨hdecided, hcompleted, hstopped⟩ := ih s₂ hc₂
          rw [world] at hworld
          rw [calls] at hcalls
          rw [hseries]
          unfold course at hdecided hcompleted hstopped
          rw [hworld] at hdecided hstopped
          rw [hcalls] at hcompleted hstopped
          refine ⟨?_, ?_, ?_⟩
          · intro i w hw
            rcases i with _ | i
            · cases hw
              exact ⟨_, trialAt_zero, found⟩
            · obtain ⟨x, hx, hxw⟩ := hdecided i w hw
              exact ⟨x, trialAt_succ_iff.mpr hx, hxw⟩
          · intro hnone
            obtain ⟨hlength, hall⟩ := hcompleted hnone
            refine ⟨congrArg Nat.succ hlength, ?_⟩
            rw [hall, schedule_cons, List.append_assoc]
          · intro e he
            obtain ⟨x, made, hx, htrouble, hmade⟩ := hstopped e he
            refine ⟨x, made, trialAt_succ_iff.mpr hx, htrouble, ?_⟩
            have hmore : ∀ k, 2 * (k + 1) + made = 2 * k + made + 2 := fun k => by omega
            rw [hmade, List.append_assoc, List.length_cons, hmore, take_schedule_cons]

/-! ### Where a run stops -/

/-- The `k`-th test is in trouble: its trial cannot be judged. -/
def TroubleAt (host : Host σ) (config : Config) (tests : List Test) (world : σ)
    (k made : Nat) (e : RunError) : Prop :=
  ∃ x, TrialAt host config tests world k x ∧ x.Trouble host config made e

section stop

variable {host : Host σ} {config : Config} {tests : List Test} {s : Session σ}
  {c : Course Verdict} {s' : Session σ}

/-- A test whose verdict was reported is in no trouble. -/
theorem Follows.not_troubleAt (h : Follows host config tests s c s') {k : Nat}
    (hk : k < c.reported.length) (made : Nat) (e : RunError) :
    ¬ TroubleAt host config tests s.world k made e := by
  rintro ⟨x, hx, htrouble⟩
  obtain ⟨y, hy, hdecides⟩ := h.decided k c.reported[k] (List.getElem?_eq_getElem hk)
  rw [hx.unique hy] at htrouble
  exact htrouble.not_decides _ hdecides

/-- A course is stopped by the first trouble. -/
theorem Follows.stop_of_troubleAt (h : Follows host config tests s c s') {k made : Nat}
    {e : RunError} (htrouble : TroubleAt host config tests s.world k made e)
    (hfirst : ∀ i < k, ∀ made e, ¬ TroubleAt host config tests s.world i made e) :
    c.stop = some e ∧ c.reported.length = k ∧
      s'.calls = s.calls ++ (schedule config tests).take (2 * k + made) := by
  obtain ⟨x, hx, hxe⟩ := htrouble
  have hle : c.reported.length ≤ k := by
    rcases Nat.lt_or_ge k c.reported.length with hlt | hge
    · exact absurd ⟨x, hx, hxe⟩ (h.not_troubleAt hlt made e)
    · exact hge
  rcases hstop : c.stop with _ | e'
  · -- a course that is not stopped has a verdict for the test in trouble
    have hlt : k < c.reported.length := by
      rw [(h.completed hstop).1]
      exact hx.lt
    omega
  · obtain ⟨y, made', hy, hye, hcalls⟩ := h.stopped e' hstop
    have hge : k ≤ c.reported.length := by
      rcases Nat.lt_or_ge c.reported.length k with hlt | hge
      · exact absurd ⟨y, hy, hye⟩ (hfirst _ hlt made' e')
      · exact hge
    have hlength : c.reported.length = k := Nat.le_antisymm hle hge
    rw [hlength] at hy hcalls
    rw [hx.unique hy] at hxe
    obtain ⟨rfl, rfl⟩ := hxe.unique hye
    exact ⟨rfl, hlength, hcalls⟩

/-- A course without trouble is completed. -/
theorem Follows.stop_eq_none (h : Follows host config tests s c s')
    (hnone : ∀ k made e, ¬ TroubleAt host config tests s.world k made e) : c.stop = none := by
  rcases hstop : c.stop with _ | e
  · rfl
  · obtain ⟨x, made, hx, htrouble, -⟩ := h.stopped e hstop
    exact absurd ⟨x, hx, htrouble⟩ (hnone _ made e)

/-- A course makes its calls in the order of the schedule. -/
theorem Follows.calls_prefix (h : Follows host config tests s c s') :
    ∃ calls, calls <+: schedule config tests ∧ s'.calls = s.calls ++ calls := by
  rcases hstop : c.stop with _ | e
  · exact ⟨_, List.prefix_refl _, (h.completed hstop).2⟩
  · obtain ⟨x, made, -, -, hcalls⟩ := h.stopped e hstop
    exact ⟨_, List.take_prefix _ _, hcalls⟩

end stop

/-- What a sink that never fails holds after a course: the lines of the reported verdicts. -/
theorem course_written (host : Host σ) (config : Config) (tests : List Test) {s : Session σ}
    (hc : s.console.Unfailing) :
    (course host config tests s).2.console.written =
      s.console.written ++
        (List.zipWith verdictText tests (course host config tests s).1.reported).flatten := by
  unfold course
  rw [Session.series_written _ (judge_silent host config) tests hc]
  unfold Session.texts
  simp only [text_verdict_pieces]

/-- **A golden run stops at the first trouble.** On a sink that never fails, the calls of a run are
the beginning of its schedule. If no test is in trouble, all calls are made and the run completes.
Otherwise the first test in trouble ends the run with its error: the calls are those of the tests
before it and as many of its own as it takes to know, and exactly the tests before it have their
lines in the sink. -/
theorem run_stops_at_first_trouble (host : Host σ) (config : Config) (tests : List Test)
    (world : σ) :
    (run host config tests (.start world .unlimited)).2.calls <+: schedule config tests ∧
      (schedule config tests).length = 2 * tests.length ∧
      ((∀ k made e, ¬ TroubleAt host config tests world k made e) →
        (∃ tally, (run host config tests (.start world .unlimited)).1 = .ok tally) ∧
          (run host config tests (.start world .unlimited)).2.calls = schedule config tests) ∧
      ∀ k made e, TroubleAt host config tests world k made e →
        (∀ i < k, ∀ made e, ¬ TroubleAt host config tests world i made e) →
          (run host config tests (.start world .unlimited)).1 = .error e ∧
          (run host config tests (.start world .unlimited)).2.calls =
            (schedule config tests).take (2 * k + made) ∧
          ∃ verdicts : List Verdict, verdicts.length = k ∧
            (run host config tests (.start world .unlimited)).2.console.written =
              (List.zipWith verdictText tests verdicts).flatten := by
  have hfollows := course_follows host config tests (.start world .unlimited)
    Sink.unlimited_unfailing
  have hwritten := course_written host config tests (s := .start world .unlimited)
    Sink.unlimited_unfailing
  have hends := run_ends host config tests (.start world .unlimited)
  rw [hends.calls, hends.result, hends.console]
  refine ⟨?_, length_schedule config tests, ?_, ?_⟩
  · obtain ⟨calls, hprefix, hcalls⟩ := hfollows.calls_prefix
    rw [hcalls]
    exact hprefix
  · intro hnone
    have hstop := hfollows.stop_eq_none hnone
    exact ⟨⟨_, Course.result_of_completed hstop _⟩, (hfollows.completed hstop).2⟩
  · intro k made e htrouble hfirst
    obtain ⟨hstop, hlength, hcalls⟩ := hfollows.stop_of_troubleAt htrouble hfirst
    exact ⟨Course.result_of_stop hstop _, hcalls, _, hlength, hwritten⟩

/-- A host that counts its calls, and whose third child is killed. -/
def killer : Host Nat where
  launch _ n := (.ok ⟨[], [], if n = 2 then -9 else 0⟩, n + 1)
  readFile _ _ := .ok []
  logsExits := false

/-- A compiler that is killed on the second test ends the run after three calls. -/
theorem run_stops_at_killed_compiler :
    (run killer .default [⟨"a"⟩, ⟨"b"⟩, ⟨"c"⟩] (.start 0 .unlimited)).1 =
        .error (.buildFailed ⟨"b"⟩ ⟨"scc"⟩ (-9)) ∧
      (run killer .default [⟨"a"⟩, ⟨"b"⟩, ⟨"c"⟩] (.start 0 .unlimited)).2.calls =
        (schedule .default [⟨"a"⟩, ⟨"b"⟩, ⟨"c"⟩]).take 3 := by
  have hexit : (⟨[], [], -9⟩ : Output).exitCode ≠ 0 := by decide
  have hkilled : TroubleAt killer .default [⟨"a"⟩, ⟨"b"⟩, ⟨"c"⟩] 0 1 1
      (.buildFailed ⟨"b"⟩ ⟨"scc"⟩ (-9)) :=
    ⟨_, trialAt_succ_iff.mpr trialAt_zero, .buildFailed rfl hexit⟩
  have hfirst : ∀ i < 1, ∀ made e,
      ¬ TroubleAt killer .default [⟨"a"⟩, ⟨"b"⟩, ⟨"c"⟩] 0 i made e := by
    rintro i hi made e ⟨x, hx, hxe⟩
    obtain rfl : i = 0 := Nat.lt_one_iff.mp hi
    rw [hx.unique trialAt_zero] at hxe
    exact hxe.not_decides .pass ⟨rfl, rfl, rfl, rfl, iff_of_true rfl rfl⟩
  obtain ⟨hresult, hcalls, -⟩ :=
    (run_stops_at_first_trouble killer .default [⟨"a"⟩, ⟨"b"⟩, ⟨"c"⟩] 0).2.2.2 1 1 _ hkilled hfirst
  exact ⟨hresult, hcalls⟩

/-! ### What a run reports -/

/-- Recording verdicts counts those that passed. -/
theorem passed_foldl_record (verdicts : List Verdict) (tally : Tally) :
    (verdicts.foldl Tally.record tally).passed = tally.passed + verdicts.count .pass := by
  induction verdicts generalizing tally with
  | nil => rfl
  | cons v verdicts ih =>
      rw [List.foldl_cons, ih, List.count_cons]
      cases v with
      | pass =>
        simp [Tally.record]
        omega
      | fail => simp [Tally.record]

/-- Recording verdicts counts those that failed. -/
theorem failed_foldl_record (verdicts : List Verdict) (tally : Tally) :
    (verdicts.foldl Tally.record tally).failed = tally.failed + verdicts.count .fail := by
  induction verdicts generalizing tally with
  | nil => rfl
  | cons v verdicts ih =>
      rw [List.foldl_cons, ih, List.count_cons]
      cases v with
      | pass => simp [Tally.record]
      | fail =>
        simp [Tally.record]
        omega

/-- Recording verdicts counts every one of them. -/
theorem total_foldl_record (verdicts : List Verdict) (tally : Tally) :
    (verdicts.foldl Tally.record tally).total = tally.total + verdicts.length := by
  induction verdicts generalizing tally with
  | nil => rfl
  | cons v verdicts ih =>
      rw [List.foldl_cons, ih, Tally.total_record, List.length_cons]
      omega

/-- **A golden run reports what was decided.** On a sink that never fails, the output of a run is a
line for each of the first tests, in order; a line says `OK:` iff the output of the artifact's
launch for its test is, byte for byte, the fixture as it is after the calls up to that launch. A run
that completes has a line for every test, and its tally counts the lines of either kind; a run that
ends early has the lines of the tests before the one that ended it. -/
theorem run_reports_decisions (host : Host σ) (config : Config) (tests : List Test) (world : σ) :
    ∃ verdicts : List Verdict,
      (run host config tests (.start world .unlimited)).2.console.written =
        (List.zipWith verdictText tests verdicts).flatten ∧
      (∀ i v, verdicts[i]? = some v → ∃ test artifact expected, tests[i]? = some test ∧
        (host.replies (schedule config tests) world)[2 * i + 1]? = some (.ok artifact) ∧
        host.readFile test.fixture
          (host.after ((schedule config tests).take (2 * (i + 1))) world) = .ok expected ∧
        (v = .pass ↔ artifact.stdout = expected)) ∧
      match (run host config tests (.start world .unlimited)).1 with
      | .ok tally =>
        verdicts.length = tests.length ∧ tally.passed = verdicts.count .pass ∧
          tally.failed = verdicts.count .fail ∧ tally.total = tests.length
      | .error e => ∃ made, TroubleAt host config tests world verdicts.length made e := by
  have hfollows := course_follows host config tests (.start world .unlimited)
    Sink.unlimited_unfailing
  have hends := run_ends host config tests (.start world .unlimited)
  refine ⟨(course host config tests (.start world .unlimited)).1.reported, ?_, ?_, ?_⟩
  · rw [hends.console]
    exact course_written host config tests Sink.unlimited_unfailing
  · intro i v hv
    obtain ⟨x, hx, ⟨-, -, hran, hread, hverdict⟩⟩ := hfollows.decided i v hv
    refine ⟨x.test, _, _, hx.test, ?_, ?_, hverdict⟩
    · rw [← hran]
      exact hx.ran
    · rw [← hread, ← hx.world]
      rfl
  · rw [hends.result]
    unfold Course.result
    rcases hstop : (course host config tests (.start world .unlimited)).1.stop with _ | e
    · obtain ⟨hlength, -⟩ := hfollows.completed hstop
      refine ⟨hlength, ?_, ?_, ?_⟩
      · unfold tallyOf
        rw [passed_foldl_record]
        exact Nat.zero_add _
      · unfold tallyOf
        rw [failed_foldl_record]
        exact Nat.zero_add _
      · unfold tallyOf
        rw [total_foldl_record, hlength]
        exact Nat.zero_add _
    · obtain ⟨x, made, hx, htrouble, -⟩ := hfollows.stopped e hstop
      exact ⟨made, x, hx, htrouble⟩

end Assay.Golden
