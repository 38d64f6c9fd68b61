import Assay.Golden.Run
import Assay.Proofs.Series

/-!
# Trials of a golden run

A list of tests fixes a sequence of calls, two for each test: the compiler on its source, then the
artifact. A host answers every call of this schedule, whether a run gets that far or not, and so
each test has a *trial*: the replies to its two calls and the world after them. What a run does is
said in terms of trials alone.

* `schedule config tests` — the calls that the tests ask for, in order.
* `TrialAt host config tests world k x` — `x` is the trial of the `k`-th test.
* `Trial.Trouble host config x made e` — the trial cannot be judged: `e` says why, and `made` of its
  two calls are made before that is known.
* `Trial.Decides host x v` — the trial is judged, and passes iff the artifact's output is the
  fixture as it is after both calls.
* `judge_spec` — judging a test finds exactly what its trial says.
-/

namespace Assay.Golden

variable {σ : Type}

/-! ### The schedule -/

/-- The call that compiles a test. -/
def compilation (config : Config) (test : Test) : Call :=
  ⟨config.compiler, config.buildArgs test.source⟩

/-- The call that runs the artifact. -/
def execution (config : Config) : Call := ⟨config.artifact.anchored, []⟩

/-- The calls that tests ask for: for each, the compiler and then the artifact. -/
def schedule (config : Config) (tests : List Test) : List Call :=
  tests.flatMap fun test => [compilation config test, execution config]

/-- The schedule begins with the two calls of the first test. -/
theorem schedule_cons (config : Config) (test : Test) (tests : List Test) :
    schedule config (test :: tests) =
      [compilation config test, execution config] ++ schedule config tests := rfl

/-- A beginning of the schedule that reaches past the first test has both of its calls. -/
theorem take_schedule_cons (config : Config) (test : Test) (tests : List Test) (n : Nat) :
    (schedule config (test :: tests)).take (n + 2) =
      [compilation config test, execution config] ++ (schedule config tests).take n := rfl

/-- The schedule has two calls for each test. -/
theorem length_schedule (config : Config) (tests : List Test) :
    (schedule config tests).length = 2 * tests.length := by
  induction tests with
  | nil => rfl
  | cons test tests ih =>
      rw [schedule_cons, List.length_append, ih, List.length_cons, List.length_cons,
        List.length_cons, List.length_nil]
      omega

/-! ### Trials -/

/-- What is answered to the two calls of a test, and the world after them. -/
structure Trial (σ : Type) where
  test : Test
  /-- The compiler's reply. -/
  built : Except LaunchError Output
  /-- The artifact's reply. -/
  ran : Except LaunchError Output
  world : σ

namespace Trial

/-- The trial of a test, begun in a world. -/
def of (host : Host σ) (config : Config) (test : Test) (world : σ) : Trial σ where
  test := test
  built := (host.launch (compilation config test) world).1
  ran := (host.launch (execution config) (host.launch (compilation config test) world).2).1
  world := host.after [compilation config test, execution config] world

/-- A trial that cannot be judged, how many of its calls are made, and the error. -/
inductive Trouble (host : Host σ) (config : Config) (x : Trial σ) : Nat → RunError → Prop
  | compilerLaunch {cause : LaunchError} (built : x.built = .error cause) :
      Trouble host config x 1 (.compilerLaunch x.test cause)
  | buildFailed {output : Output} (built : x.built = .ok output) (status : output.exitCode ≠ 0) :
      Trouble host config x 1 (.buildFailed x.test config.compiler output.exitCode)
  | artifactLaunch {output : Output} {cause : LaunchError} (built : x.built = .ok output)
      (status : output.exitCode = 0) (ran : x.ran = .error cause) :
      Trouble host config x 2 (.artifactLaunch x.test cause)
  | fixture {output artifact : Output} {cause : IoError} (built : x.built = .ok output)
      (status : output.exitCode = 0) (ran : x.ran = .ok artifact)
      (read : host.readFile x.test.fixture x.world = .error cause) :
      Trouble host config x 2 (.fixture x.test.fixture cause)

/-- A trial that is judged, and the verdict. -/
inductive Decides (host : Host σ) (x : Trial σ) (v : Verdict) : Prop
  | intro {output artifact : Output} {expected : Bytes} (built : x.built = .ok output)
      (status : output.exitCode = 0) (ran : x.ran = .ok artifact)
      (read : host.readFile x.test.fixture x.world = .ok expected)
      (verdict : v = .pass ↔ artifact.stdout = expected)

variable {host : Host σ} {config : Config} {x : Trial σ}

/-- Trouble is known after the two calls of a test at the latest. -/
theorem Trouble.made_le {made : Nat} {e : RunError} (h : x.Trouble host config made e) :
    made ≤ 2 := by
  cases h with
  | compilerLaunch | buildFailed => exact Nat.le_succ 1
  | artifactLaunch | fixture => exact Nat.le_refl 2

/-- What a trial comes to, as a function: the verdict, or how many calls are made before the error
is known, and the error. -/
def result (host : Host σ) (config : Config) (x : Trial σ) : Except (Nat × RunError) Verdict :=
  match x.built with
  | .error cause => .error (1, .compilerLaunch x.test cause)
  | .ok output =>
    if output.exitCode = 0 then
      match x.ran with
      | .error cause => .error (2, .artifactLaunch x.test cause)
      | .ok artifact =>
        match host.readFile x.test.fixture x.world with
        | .error cause => .error (2, .fixture x.test.fixture cause)
        | .ok expected => .ok (Verdict.compare artifact.stdout expected)
    else .error (1, .buildFailed x.test config.compiler output.exitCode)

/-- A trial in trouble comes to the error, after the calls that are made. -/
theorem Trouble.result_eq {made : Nat} {e : RunError} (h : x.Trouble host config made e) :
    x.result host config = .error (made, e) := by
  unfold result
  cases h with
  | compilerLaunch built => rw [built]
  | buildFailed built status =>
      rw [built]
      exact if_neg status
  | artifactLaunch built status ran =>
      rw [built, ran]
      exact if_pos status
  | fixture built status ran read =>
      rw [built, ran, read]
      exact if_pos status

/-- A trial that is judged comes to its verdict. -/
theorem Decides.result_eq {v : Verdict} (h : x.Decides host v) (config : Config) :
    x.result host config = .ok v := by
  obtain @⟨output, artifact, expected, built, status, ran, read, verdict⟩ := h
  have hv : v = Verdict.compare artifact.stdout expected :=
    Verdict.eq_of_pass_iff (verdict.trans Verdict.compare_eq_pass_iff.symm)
  unfold result
  rw [built, ran, read, hv]
  exact if_pos status

/-- A trial in trouble is not judged. -/
theorem Trouble.not_decides {made : Nat} {e : RunError} (h : x.Trouble host config made e)
    (v : Verdict) : ¬ x.Decides host v := by
  intro hdecides
  have hsame := h.result_eq.symm.trans (hdecides.result_eq config)
  cases hsame

/-- A trial is in one trouble at most. -/
theorem Trouble.unique {made made' : Nat} {e e' : RunError} (h : x.Trouble host config made e)
    (h' : x.Trouble host config made' e') : made = made' ∧ e = e' := by
  have hsame := h.result_eq.symm.trans h'.result_eq
  cases hsame
  exact ⟨rfl, rfl⟩

end Trial

/-- The trial of the `k`-th test of a list, when every call of the schedule is made. -/
structure TrialAt (host : Host σ) (config : Config) (tests : List Test) (world : σ) (k : Nat)
    (x : Trial σ) : Prop where
  test : tests[k]? = some x.test
  built : (host.replies (schedule config tests) world)[2 * k]? = some x.built
  ran : (host.replies (schedule config tests) world)[2 * k + 1]? = some x.ran
  world : host.after ((schedule config tests).take (2 * (k + 1))) world = x.world

section trials

variable {host : Host σ} {config : Config} {test : Test} {tests : List Test} {world : σ}

/-- Each test has one trial. -/
theorem TrialAt.unique {k : Nat} {x y : Trial σ} (hx : TrialAt host config tests world k x)
    (hy : TrialAt host config tests world k y) : x = y := by
  obtain ⟨test, built, ran, world⟩ := x
  obtain ⟨test', built', ran', world'⟩ := y
  have htest := hx.test.symm.trans hy.test
  have hbuilt := hx.built.symm.trans hy.built
  have hran := hx.ran.symm.trans hy.ran
  have hworld := hx.world.symm.trans hy.world
  simp only [Option.some.injEq] at htest hbuilt hran hworld
  rw [htest, hbuilt, hran, hworld]

/-- There are no trials behind the last test. -/
theorem TrialAt.lt {k : Nat} {x : Trial σ} (h : TrialAt host config tests world k x) :
    k < tests.length := by
  have := h.test
  rw [List.getElem?_eq_some_iff] at this
  exact this.1

/-- The first test's trial begins in the world at the beginning. -/
theorem trialAt_zero :
    TrialAt host config (test :: tests) world 0 (Trial.of host config test world) :=
  ⟨rfl, rfl, rfl, rfl⟩

/-- The later tests' trials begin in the world that the first trial left. -/
theorem trialAt_succ_iff {k : Nat} {x : Trial σ} :
    TrialAt host config (test :: tests) world (k + 1) x ↔
      TrialAt host config tests (Trial.of host config test world).world k x := by
  have hbuilt : 2 * (k + 1) = 2 * k + 1 + 1 := by omega
  have hworld : 2 * (k + 1 + 1) = 2 * (k + 1) + 1 + 1 := by omega
  constructor
  · rintro ⟨htest, hb, hr, hw⟩
    rw [hbuilt] at hb hr
    rw [hworld] at hw
    exact ⟨htest, hb, hr, hw⟩
  · rintro ⟨htest, hb, hr, hw⟩
    refine ⟨htest, ?_, ?_, ?_⟩
    · rw [hbuilt]
      exact hb
    · rw [hbuilt]
      exact hr
    · rw [hworld]
      exact hw

end trials

/-! ### Judging one test -/

section judge

variable {host : Host σ} {config : Config} {test : Test} {s s₁ : Session σ}

/-- Compiling a test makes one call and succeeds iff the compiler exits with 0. -/
theorem build_spec {r : Except RunError Unit} (h : build host config test s = (r, s₁)) :
    s₁.world = (host.launch (compilation config test) s.world).2 ∧
      s₁.calls = s.calls ++ [compilation config test] ∧
      match (host.launch (compilation config test) s.world).1 with
      | .error cause => r = .error (.compilerLaunch test cause)
      | .ok output =>
        r = if output.exitCode = 0 then .ok ()
          else .error (.buildFailed test config.compiler output.exitCode) := by
  rcases hl : (s.tell [.goldenTest test] (.building config.compiler)).launch host
    [.goldenTest test] ⟨config.compiler, config.buildArgs test.source⟩ with ⟨cause | output, s'⟩
  all_goals
    obtain ⟨hreply, hworld, hcalls⟩ := Session.launch_spec hl
    simp only [build, hl] at h
    rw [Session.tell_world] at hreply hworld
    rw [compilation, hreply]
  · cases h
    exact ⟨hworld, hcalls, rfl⟩
  · simp only
    by_cases hstatus : output.exitCode = 0
    · have hsuccess : output.success = true := by simp [Output.success, hstatus]
      rw [hsuccess] at h
      cases h
      exact ⟨hworld, hcalls, (if_pos hstatus).symm⟩
    · have hsuccess : output.success = false := by simp [Output.success, hstatus]
      rw [hsuccess] at h
      cases h
      exact ⟨hworld, hcalls, (if_neg hstatus).symm⟩

/-- Running the artifact makes one call, whose reply is the result. -/
theorem execute_spec {r : Except RunError Output} (h : execute host config test s = (r, s₁)) :
    s₁.world = (host.launch (execution config) s.world).2 ∧
      s₁.calls = s.calls ++ [execution config] ∧
      match (host.launch (execution config) s.world).1 with
      | .error cause => r = .error (.artifactLaunch test cause)
      | .ok output => r = .ok output := by
  rcases hl : s.launch host [.goldenTest test] ⟨config.artifact.anchored, []⟩ with
    ⟨cause | output, s'⟩
  all_goals
    obtain ⟨hreply, hworld, hcalls⟩ := Session.launch_spec hl
    simp only [execute, hl] at h
    rw [execution, hreply]
  · cases h
    exact ⟨hworld, hcalls, rfl⟩
  · cases h
    refine ⟨?_, ?_, rfl⟩
    · rw [apply_ite Session.world, Session.tell_world, ite_self, hworld]
    · rw [apply_ite Session.calls, Session.tell_calls, ite_self, hcalls]

/-- Comparing reads the fixture as it is now, and changes neither the world nor the calls. -/
theorem compare_spec {output : Output} {r : Except RunError Verdict}
    (h : compare host test output s = (r, s₁)) :
    s₁.world = s.world ∧ s₁.calls = s.calls ∧
      match host.readFile test.fixture s.world with
      | .error cause => r = .error (.fixture test.fixture cause)
      | .ok expected => ∃ v, r = .ok v ∧ (v = .pass ↔ output.stdout = expected) := by
  rcases hread : host.readFile test.fixture s.world with cause | expected
  all_goals
    simp only [compare, Session.readFile, hread] at h
    cases h
  · exact ⟨rfl, rfl, rfl⟩
  · exact ⟨rfl, rfl, _, rfl, Verdict.compare_eq_pass_iff⟩

/-- What judging a test may come to: what its trial says, having made the calls that took. -/
inductive Judges (host : Host σ) (config : Config) (test : Test) (s : Session σ) :
    Except RunError Verdict → Session σ → Prop
  | trouble {made : Nat} {e : RunError} {s' : Session σ}
      (found : (Trial.of host config test s.world).Trouble host config made e)
      (calls : s'.calls = s.calls ++ [compilation config test, execution config].take made) :
      Judges host config test s (.error e) s'
  | decided {v : Verdict} {s' : Session σ}
      (found : (Trial.of host config test s.world).Decides host v)
      (calls : s'.calls = s.calls ++ [compilation config test, execution config])
      (world : s'.world = (Trial.of host config test s.world).world) :
      Judges host config test s (.ok v) s'

/-- Judging a test finds what its trial says. -/
theorem judge_spec {r : Except RunError Verdict} (h : judge host config test s = (r, s₁)) :
    Judges host config test s r s₁ := by
  unfold judge at h
  rcases hb : build host config test s with ⟨rb, sb⟩
  obtain ⟨hbworld, hbcalls, hbuilt⟩ := build_spec hb
  rw [hb] at h
  rcases hreply : (host.launch (compilation config test) s.world).1 with cause | output
  · rw [hreply] at hbuilt
    subst hbuilt
    cases h
    exact .trouble (.compilerLaunch hreply) hbcalls
  · rw [hreply] at hbuilt
    simp only at hbuilt
    by_cases hstatus : output.exitCode = 0
    · rw [if_pos hstatus] at hbuilt
      subst hbuilt
      simp only at h
      rcases he : execute host config test sb with ⟨re, se⟩
      obtain ⟨heworld, hecalls, hran⟩ := execute_spec he
      rw [he] at h
      rw [hbworld] at hran heworld
      rw [hbcalls, List.append_assoc] at hecalls
      rcases hartifact : (host.launch (execution config)
        (host.launch (compilation config test) s.world).2).1 with cause | artifact
      · rw [hartifact] at hran
        subst hran
        cases h
        exact .trouble (.artifactLaunch hreply hstatus hartifact) hecalls
      · rw [hartifact] at hran
        subst hran
        simp only at h
        obtain ⟨hcworld, hccalls, hread⟩ := compare_spec h
        have hworld : se.world = (Trial.of host config test s.world).world := heworld
        rw [hworld] at hcworld hread
        rw [hecalls] at hccalls
        rcases hfixture : host.readFile test.fixture (Trial.of host config test s.world).world with
          cause | expected
        · rw [hfixture] at hread
          subst hread
          exact .trouble (.fixture hreply hstatus hartifact hfixture) hccalls
        · rw [hfixture] at hread
          obtain ⟨v, rfl, hv⟩ := hread
          exact .decided ⟨hreply, hstatus, hartifact, hfixture, hv⟩ hccalls hcworld
    · rw [if_neg hstatus] at hbuilt
      subst hbuilt
      cases h
      exact .trouble (.buildFailed hreply hstatus) hbcalls

/-- A test whose trial is judged gets the verdict, after both calls. -/
theorem judge_of_result_ok {v : Verdict}
    (h : (Trial.of host config test s.world).result host config = .ok v) :
    (judge host config test s).1 = .ok v ∧
      (judge host config test s).2.calls =
        s.calls ++ [compilation config test, execution config] ∧
      (judge host config test s).2.world = (Trial.of host config test s.world).world := by
  rcases hjudge : judge host config test s with ⟨r, s₁⟩
  cases judge_spec hjudge with
  | trouble found calls =>
    have hsame := found.result_eq.symm.trans h
    cases hsame
  | decided found calls world =>
    have hsame := (found.result_eq config).symm.trans h
    cases hsame
    exact ⟨rfl, calls, world⟩

/-- A test whose trial is in trouble gets the error, after the calls it takes to know. -/
theorem judge_of_result_error {made : Nat} {e : RunError}
    (h : (Trial.of host config test s.world).result host config = .error (made, e)) :
    (judge host config test s).1 = .error e ∧
      (judge host config test s).2.calls =
        s.calls ++ [compilation config test, execution config].take made := by
  rcases hjudge : judge host config test s with ⟨r, s₁⟩
  cases judge_spec hjudge with
  | trouble found calls =>
    have hsame := found.result_eq.symm.trans h
    cases hsame
    exact ⟨rfl, calls⟩
  | decided found calls world =>
    have hsame := (found.result_eq config).symm.trans h
    cases hsame

end judge

end Assay.Golden
