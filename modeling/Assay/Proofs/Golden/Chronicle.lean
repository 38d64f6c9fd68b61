import Assay.Proofs.Chronicle
import Assay.Proofs.Golden.Course

/-!
# The chronicle of a golden run

A trial fixes what a run tells of its test: that the compiler is called, then the artifact's exit
code if it is not 0, then the verdict. The run tells this of the tests it comes to, one after the
other, and at the end of its completion.

* `Trial.episode` — what judging the test of a trial leaves behind (`judge_leaves`).
* `Story` — that the calls, the log, the console and the result of a run tell the same, for which
  tests and verdicts.
* `run_story` — they do, on every sink.
-/

namespace Assay

/-! ### Kinds of entries -/

namespace Log.Entry

/-- Tells that a compiler is about to be called. -/
def isBuilding (e : Log.Entry) : Bool :=
  match e.event with
  | .building _ => true
  | _ => false

/-- Tells of a verdict. -/
def isComparison (e : Log.Entry) : Bool :=
  match e.event with
  | .compared .. => true
  | _ => false

/-- The exit code of an artifact that is told because it is not 0. -/
def ignoredCode? (e : Log.Entry) : Option Int :=
  match e.event with
  | .artifactStatusIgnored code => some code
  | _ => none

/-- Tells that a golden run is complete. -/
def isCompletion (e : Log.Entry) : Bool :=
  match e.event with
  | .goldenCompleted _ => true
  | _ => false

/-- Tells that a golden run was stopped by a test. -/
def isAbort (e : Log.Entry) : Bool :=
  match e.event with
  | .goldenAborted _ => true
  | _ => false

end Log.Entry

namespace Golden

variable {σ : Type}

/-- The entry of an event that happens while a test is run. -/
def entryOf (test : Test) (e : Event) : Log.Entry := ⟨e, [.goldenTest test]⟩

/-- The exit code of a child that was run as the artifact, if it is not 0. -/
def ignoredCode? (config : Config) (exchange : Call × Except LaunchError Output) : Option Int :=
  match exchange with
  | (call, .ok output) =>
    if call = execution config ∧ output.exitCode ≠ 0 then some output.exitCode else none
  | (_, .error _) => none

/-- The compiler has a source among its arguments, and the artifact has no arguments. -/
theorem compilation_ne_execution (config : Config) (test : Test) :
    compilation config test ≠ execution config := by
  intro h
  have harguments := congrArg Call.arguments h
  simp [compilation, execution, Config.buildArgs] at harguments

/-! ### What a trial leaves behind -/

namespace Trial

/-- Whether it comes to a launch of the artifact. -/
def launches (x : Trial σ) : Bool :=
  match x.built with
  | .ok output => output.exitCode == 0
  | .error _ => false

/-- The calls that are made for the test, with their replies. -/
def exchanges (config : Config) (x : Trial σ) : List (Call × Except LaunchError Output) :=
  (compilation config x.test, x.built) :: if x.launches then [(execution config, x.ran)] else []

/-- What is told of the artifact's exit code. -/
def statusEntries (x : Trial σ) : List Log.Entry :=
  match x.ran with
  | .ok artifact =>
    if artifact.exitCode = 0 then []
    else [entryOf x.test (.artifactStatusIgnored artifact.exitCode)]
  | .error _ => []

/-- What is told of the test. -/
def entries (host : Host σ) (config : Config) (x : Trial σ) : List Log.Entry :=
  entryOf x.test (.building config.compiler) ::
    ((if x.launches then x.statusEntries else []) ++
      match x.result host config with
      | .ok v => [entryOf x.test (.compared x.test.fixture v)]
      | .error _ => [])

/-- What judging the test leaves behind. -/
def episode (host : Host σ) (config : Config) (x : Trial σ) : Episode Verdict where
  test := x.test
  result := (x.result host config).mapError Prod.snd
  exchanges := x.exchanges config
  entries := x.entries host config

variable {host : Host σ} {config : Config} {x : Trial σ}

/-- A trial is in trouble or is judged. -/
theorem trouble_or_decides (host : Host σ) (config : Config) (x : Trial σ) :
    (∃ made e, x.Trouble host config made e) ∨ ∃ v, x.Decides host v := by
  rcases hbuilt : x.built with cause | output
  · exact .inl ⟨_, _, .compilerLaunch hbuilt⟩
  · by_cases hstatus : output.exitCode = 0
    · rcases hran : x.ran with cause | artifact
      · exact .inl ⟨_, _, .artifactLaunch hbuilt hstatus hran⟩
      · rcases hread : host.readFile x.test.fixture x.world with cause | expected
        · exact .inl ⟨_, _, .fixture hbuilt hstatus hran hread⟩
        · exact .inr ⟨_, hbuilt, hstatus, hran, hread, Verdict.compare_eq_pass_iff⟩
    · exact .inl ⟨_, _, .buildFailed hbuilt hstatus⟩

/-- Where the compiler exits with 0, it comes to a launch. -/
theorem launches_of_built {output : Output} (built : x.built = .ok output)
    (status : output.exitCode = 0) : x.launches = true := by
  unfold launches
  rw [built]
  exact beq_iff_eq.mpr status

/-- Where the compiler exits with another code, it does not come to a launch. -/
theorem not_launches_of_status {output : Output} (built : x.built = .ok output)
    (status : output.exitCode ≠ 0) : x.launches = false := by
  unfold launches
  rw [built]
  exact beq_eq_false_iff_ne.mpr status

/-- Where the compiler cannot be launched, it does not come to a launch either. -/
theorem not_launches_of_error {cause : LaunchError} (built : x.built = .error cause) :
    x.launches = false := by
  unfold launches
  rw [built]

/-- If it comes to a launch of the artifact, both calls of the test are made. -/
theorem exchanges_of_launches (h : x.launches = true) (config : Config) :
    x.exchanges config = [(compilation config x.test, x.built), (execution config, x.ran)] := by
  rw [exchanges, if_pos h]

/-- If it does not come to a launch of the artifact, only the compiler is called. -/
theorem exchanges_of_not_launches (h : x.launches = false) (config : Config) :
    x.exchanges config = [(compilation config x.test, x.built)] := by
  rw [exchanges, h, if_neg Bool.false_ne_true]

/-- The artifact of a test that is judged was launched. -/
theorem Decides.launches {v : Verdict} (h : x.Decides host v) : x.launches = true := by
  obtain ⟨built, status, -, -, -⟩ := h
  exact launches_of_built built status

/-- Trouble is known after the calls that are made. -/
theorem Trouble.map_exchanges {made : Nat} {e : RunError} (h : x.Trouble host config made e) :
    (x.exchanges config).map Prod.fst =
      [compilation config x.test, execution config].take made := by
  cases h with
  | compilerLaunch built =>
    rw [exchanges_of_not_launches (not_launches_of_error built)]
    rfl
  | buildFailed built status =>
    rw [exchanges_of_not_launches (not_launches_of_status built status)]
    rfl
  | artifactLaunch built status =>
    rw [exchanges_of_launches (launches_of_built built status)]
    rfl
  | fixture built status =>
    rw [exchanges_of_launches (launches_of_built built status)]
    rfl

/-- Of a test whose artifact is not launched, only the compiler's call is told. -/
theorem entries_of_not_launches (h : x.launches = false) :
    x.entries host config = [entryOf x.test (.building config.compiler)] := by
  rcases x.trouble_or_decides host config with ⟨made, e, hx⟩ | ⟨v, hx⟩
  · rw [entries, h, hx.result_eq]
    rfl
  · rw [hx.launches] at h
    cases h

/-- Of a test whose artifact is launched are told the compiler's call, an exit code that is ignored,
and the comparison, if it comes to one. -/
theorem entries_of_launches (h : x.launches = true) :
    x.entries host config = entryOf x.test (.building config.compiler) :: (x.statusEntries ++
      match x.result host config with
      | .ok v => [entryOf x.test (.compared x.test.fixture v)]
      | .error _ => []) := by
  rw [entries, if_pos h]

/-- No trial is in trouble with a report. -/
theorem Trouble.ne_report {made : Nat} {e : RunError} (h : x.Trouble host config made e)
    (cause : IoError) : e ≠ .report cause := by
  cases h <;> exact RunError.noConfusion

end Trial

section judge

variable (host : Host σ) (config : Config) (test : Test)

/-- Compiling tells that the compiler is called. -/
theorem build_told (s : Session σ) :
    (build host config test s).2.told = s.told ++ [entryOf test (.building config.compiler)] := by
  have hlaunch := Session.launch_told host [.goldenTest test]
    ⟨config.compiler, config.buildArgs test.source⟩
    (s.tell [.goldenTest test] (.building config.compiler))
  rw [Session.tell_told rfl] at hlaunch
  unfold build
  rcases hl : (s.tell [.goldenTest test] (.building config.compiler)).launch host
    [.goldenTest test] ⟨config.compiler, config.buildArgs test.source⟩ with ⟨cause | output, s'⟩
  all_goals
    rw [hl] at hlaunch
    simp only [hl]
  · exact hlaunch
  · split <;> exact hlaunch

/-- Running the artifact tells its exit code if it is not 0. -/
theorem execute_told (s : Session σ) :
    (execute host config test s).2.told = s.told ++
      match (host.launch (execution config) s.world).1 with
      | .ok artifact =>
        if artifact.exitCode = 0 then []
        else [entryOf test (.artifactStatusIgnored artifact.exitCode)]
      | .error _ => [] := by
  have hlaunch := Session.launch_told host [.goldenTest test] ⟨config.artifact.anchored, []⟩ s
  rcases hl : s.launch host [.goldenTest test] ⟨config.artifact.anchored, []⟩ with
    ⟨cause | output, s'⟩
  all_goals
    obtain ⟨hreply, -, -⟩ := Session.launch_spec hl
    rw [hl] at hlaunch
    simp only [execute, hl]
    rw [execution, hreply]
  · rw [hlaunch, List.append_nil]
  · by_cases hstatus : output.exitCode = 0
    · have hsuccess : output.success = true := by simp [Output.success, hstatus]
      simp only [if_pos hsuccess, if_pos hstatus]
      rw [hlaunch, List.append_nil]
    · have hsuccess : ¬ output.success = true := by simp [Output.success, hstatus]
      simp only [if_neg hsuccess, if_neg hstatus]
      rw [Session.tell_told rfl, hlaunch]
      rfl

/-- Comparing tells the verdict. -/
theorem compare_told (output : Output) (s : Session σ) :
    (compare host test output s).2.told = s.told ++
      match host.readFile test.fixture s.world with
      | .ok expected =>
        [entryOf test (.compared test.fixture (.compare output.stdout expected))]
      | .error _ => [] := by
  unfold compare Session.readFile
  rcases host.readFile test.fixture s.world with cause | expected
  · exact (List.append_nil _).symm
  · exact Session.tell_told rfl s

/-- Judging a test tells what its trial says. -/
theorem judge_told (s : Session σ) :
    (judge host config test s).2.told =
      s.told ++ (Trial.of host config test s.world).entries host config := by
  generalize hx : Trial.of host config test s.world = x
  have htest : x.test = test := by rw [← hx]; rfl
  have hbtold := build_told host config test s
  rcases hb : build host config test s with ⟨rb, sb⟩
  obtain ⟨hbworld, -, hbuilt⟩ := build_spec hb
  rw [hb] at hbtold
  simp only at hbtold
  unfold judge
  rw [hb]
  rcases hreply : x.built with cause | output
  all_goals
    have hbuilt' : (host.launch (compilation config test) s.world).1 = x.built := by
      rw [← hx]
      rfl
    rw [hbuilt', hreply] at hbuilt
    simp only at hbuilt
  · -- the compiler does not start
    rw [hbuilt, Trial.entries_of_not_launches (Trial.not_launches_of_error hreply), htest]
    exact hbtold
  by_cases hstatus : output.exitCode = 0
  · rw [if_pos hstatus] at hbuilt
    rw [hbuilt, Trial.entries_of_launches (Trial.launches_of_built hreply hstatus)]
    simp only
    have hetold := execute_told host config test sb
    rcases he : execute host config test sb with ⟨re, se⟩
    obtain ⟨heworld, -, hran⟩ := execute_spec he
    have hran' : (host.launch (execution config) sb.world).1 = x.ran := by
      rw [hbworld, ← hx]
      rfl
    rw [hran'] at hran hetold
    rw [he, hbtold, ← htest] at hetold
    change se.told = s.told ++ [_] ++ x.statusEntries at hetold
    rcases hartifact : x.ran with cause | artifact
    all_goals
      rw [hartifact] at hran
      simp only at hran
      rw [hran]
    · -- the artifact does not start
      rw [(Trial.Trouble.artifactLaunch hreply hstatus hartifact).result_eq, List.append_nil]
      simpa using hetold
    · have hseworld : se.world = x.world := by
        rw [heworld, hbworld, ← hx]
        rfl
      rw [compare_told, hetold, hseworld, ← htest]
      rcases hread : host.readFile x.test.fixture x.world with cause | expected
      · rw [(Trial.Trouble.fixture hreply hstatus hartifact hread).result_eq]
        simp
      · have hdecides : x.Decides host (.compare artifact.stdout expected) :=
          ⟨hreply, hstatus, hartifact, hread, Verdict.compare_eq_pass_iff⟩
        rw [hdecides.result_eq]
        simp
  · -- the compiler fails
    rw [if_neg hstatus] at hbuilt
    rw [hbuilt, Trial.entries_of_not_launches (Trial.not_launches_of_status hreply hstatus), htest]
    exact hbtold

/-- Judging leaves behind what trials say. -/
theorem judge_leaves :
    Session.Leaves host (fun test world => (Trial.of host config test world).episode host config)
      (fun test world => (Trial.of host config test world).world) (judge host config) where
  silent := judge_silent host config
  test _ _ := rfl
  result test s := by
    rcases hjudge : judge host config test s with ⟨r, s₁⟩
    cases judge_spec hjudge with
    | trouble found =>
      rw [Trial.episode, found.result_eq]
      rfl
    | decided found =>
      rw [Trial.episode, found.result_eq]
      rfl
  calls test s := by
    rcases hjudge : judge host config test s with ⟨r, s₁⟩
    cases judge_spec hjudge with
    | trouble found calls =>
      rw [Trial.episode, found.map_exchanges]
      exact calls
    | decided found calls =>
      rw [Trial.episode, Trial.exchanges_of_launches found.launches]
      exact calls
  told test s := judge_told host config test s
  replies test world := by
    rw [Trial.episode]
    rcases h : (Trial.of host config test world).launches with _ | _
    · rw [Trial.exchanges_of_not_launches h]
      rfl
    · rw [Trial.exchanges_of_launches h]
      rfl
  next {test s v} h := by
    rcases (Trial.of host config test s.world).trouble_or_decides host config with
      ⟨made, e, hx⟩ | ⟨w, hx⟩
    · rw [Trial.episode, hx.result_eq] at h
      cases h
    · refine ⟨(judge_of_result_ok (hx.result_eq config)).2.2, ?_⟩
      rw [Trial.episode, Trial.exchanges_of_launches hx.launches]
      rfl

end judge

/-! ### The trials of a list of tests -/

/-- The trials of tests, in order. -/
def trials (host : Host σ) (config : Config) : List Test → σ → List (Trial σ)
  | [], _ => []
  | test :: tests, world =>
    Trial.of host config test world ::
      trials host config tests (Trial.of host config test world).world

section trials

variable (host : Host σ) (config : Config)

/-- The trial of the `k`-th test is the `k`-th of the trials. -/
theorem trialAt_iff {host : Host σ} {config : Config} {tests : List Test} {world : σ} {k : Nat}
    {x : Trial σ} :
    TrialAt host config tests world k x ↔ (trials host config tests world)[k]? = some x := by
  induction tests generalizing world k with
  | nil =>
    constructor
    · intro h
      exact absurd h.lt (Nat.not_lt_zero k)
    · intro h
      cases h
  | cons test tests ih =>
    rcases k with _ | k
    · constructor
      · intro h
        rw [h.unique trialAt_zero]
        rfl
      · intro h
        cases h
        exact trialAt_zero
    · exact trialAt_succ_iff.trans ih

/-- The trials are those of the tests, in order. -/
theorem map_test_trials (tests : List Test) (world : σ) :
    (trials host config tests world).map Trial.test = tests := by
  induction tests generalizing world with
  | nil => rfl
  | cons test tests ih =>
    rw [trials, List.map_cons, ih]
    rfl

/-- There are as many trials as tests. -/
theorem length_trials (tests : List Test) (world : σ) :
    (trials host config tests world).length = tests.length := by
  have h := congrArg List.length (map_test_trials host config tests world)
  rwa [List.length_map] at h

/-- Where every trial has one thing to show that depends on its test alone, the first trials show
what the first tests do. -/
theorem flatMap_take_trials {γ : Type} (f : Test → γ) (tests : List Test) (world : σ) (n : Nat) :
    (((trials host config tests world).take n).flatMap fun x => [f x.test]) =
      (tests.take n).map f := by
  have h := congrArg (fun l => (l.take n).map f) (map_test_trials host config tests world)
  simp only [← List.map_take, List.map_map] at h
  rw [← List.map_eq_flatMap]
  exact h

/-- The episodes in store for tests are those of their trials. -/
theorem episodes_eq (tests : List Test) (world : σ) :
    Session.episodes (fun test world => (Trial.of host config test world).episode host config)
        (fun test world => (Trial.of host config test world).world) tests world =
      (trials host config tests world).map (Trial.episode host config) := by
  induction tests generalizing world with
  | nil => rfl
  | cons test tests ih => rw [Session.episodes, trials, List.map_cons, ih]

end trials

/-! ### What the entries and calls of one test have to do with each other -/

namespace Trial

variable (host : Host σ) (config : Config) (x : Trial σ)

/-- Entries among which those of exit codes are not. -/
theorem filter_entries {p : Log.Entry → Bool}
    (hp : ∀ code, p (entryOf x.test (.artifactStatusIgnored code)) = false) :
    (x.entries host config).filter p =
      [entryOf x.test (.building config.compiler)].filter p ++
        (match x.result host config with
          | .ok v => [entryOf x.test (.compared x.test.fixture v)]
          | .error _ => []).filter p := by
  have hstatus : (if x.launches then x.statusEntries else []).filter p = [] := by
    split
    · unfold statusEntries
      rcases x.ran with cause | artifact
      · rfl
      · simp only
        split
        · rfl
        · rw [List.filter_cons_of_neg (by rw [hp]; exact Bool.false_ne_true), List.filter_nil]
    · rfl
  rw [entries, ← List.singleton_append, List.filter_append, List.filter_append, hstatus,
    List.nil_append]

/-- One call of the compiler is told of each test. -/
theorem filter_isBuilding :
    (x.entries host config).filter Log.Entry.isBuilding =
      [entryOf x.test (.building config.compiler)] := by
  rw [filter_entries host config x fun _ => rfl]
  rcases x.result host config with e | v <;> rfl

/-- A comparison is told of a test iff it has a verdict, and then one. -/
theorem filter_isComparison :
    (x.entries host config).filter Log.Entry.isComparison =
      match x.result host config with
      | .ok v => [entryOf x.test (.compared x.test.fixture v)]
      | .error _ => [] := by
  rw [filter_entries host config x fun _ => rfl]
  rcases x.result host config with e | v <;> rfl

/-- No test tells of the completion of its run. -/
theorem filter_isCompletion :
    (x.entries host config).filter Log.Entry.isCompletion = [] := by
  rw [filter_entries host config x fun _ => rfl]
  rcases x.result host config with e | v <;> rfl

/-- No test tells that its run was aborted. -/
theorem filter_isAbort : (x.entries host config).filter Log.Entry.isAbort = [] := by
  rw [filter_entries host config x fun _ => rfl]
  rcases x.result host config with e | v <;> rfl

/-- But for the artifact's, one call is made for each test: the compiler's. -/
theorem filter_compilations :
    ((x.exchanges config).map Prod.fst).filter (· ≠ execution config) =
      [compilation config x.test] := by
  have hcompilation := compilation_ne_execution config x.test
  rcases h : x.launches with _ | _
  · simp [exchanges_of_not_launches h, hcompilation]
  · simp [exchanges_of_launches h, hcompilation]

/-- An artifact's exit code that is not 0 is told, whatever comes after. -/
theorem filterMap_ignoredCode :
    (x.entries host config).filterMap Log.Entry.ignoredCode? =
      (x.exchanges config).filterMap (ignoredCode? config) := by
  have hcompilation : ignoredCode? config (compilation config x.test, x.built) = none := by
    unfold ignoredCode?
    rcases x.built with cause | output
    · rfl
    · exact if_neg fun h => compilation_ne_execution config x.test h.1
  rcases h : x.launches with _ | _
  · rw [entries_of_not_launches h, exchanges_of_not_launches h,
      List.filterMap_cons_none hcompilation]
    rfl
  · have hcomparison : (match x.result host config with
        | .ok v => [entryOf x.test (.compared x.test.fixture v)]
        | .error _ => []).filterMap Log.Entry.ignoredCode? = [] := by
      rcases x.result host config with e | v <;> rfl
    rw [entries_of_launches h, exchanges_of_launches h, List.filterMap_cons_none hcompilation,
      List.filterMap_cons_none rfl, List.filterMap_append, hcomparison, List.append_nil]
    unfold statusEntries
    rcases x.ran with cause | artifact
    · rfl
    · by_cases hstatus : artifact.exitCode = 0
      · simp [ignoredCode?, hstatus]
      · simp [ignoredCode?, hstatus, entryOf, Log.Entry.ignoredCode?]

end Trial

/-! ### The episodes of a list of tests -/

section episodes

variable {host : Host σ} {config : Config} {x : Trial σ}

/-- A verdict that an episode holds is the decision of the trial. -/
theorem Trial.decides_of_episode {v : Verdict} (h : (x.episode host config).result = .ok v) :
    x.Decides host v := by
  rcases x.trouble_or_decides host config with ⟨made, e, hx⟩ | ⟨w, hx⟩
  all_goals
    rw [Trial.episode, hx.result_eq] at h
    cases h
  exact hx

/-- An error that an episode holds is the trouble of the trial. -/
theorem Trial.trouble_of_episode {e : RunError} (h : (x.episode host config).result = .error e) :
    ∃ made, x.Trouble host config made e := by
  rcases x.trouble_or_decides host config with ⟨made, e', hx⟩ | ⟨v, hx⟩
  all_goals
    rw [Trial.episode, hx.result_eq] at h
    cases h
  exact ⟨made, hx⟩

/-- The `k`-th episode is that of the `k`-th trial. -/
theorem trialAt_of_episode {tests : List Test} {world : σ} {k : Nat} {episode : Episode Verdict}
    (h : ((trials host config tests world).map (Trial.episode host config))[k]? = some episode) :
    ∃ x, TrialAt host config tests world k x ∧ x.episode host config = episode := by
  rw [List.getElem?_map, Option.map_eq_some_iff] at h
  obtain ⟨x, hx, hepisode⟩ := h
  exact ⟨x, trialAt_iff.mpr hx, hepisode⟩

variable (host config) (tests : List Test) (world : σ)

/-- The trials' episodes are of the tests, in order. -/
theorem map_test_episodes :
    ((trials host config tests world).map (Trial.episode host config)).map Episode.test =
      tests := by
  rw [List.map_map]
  exact map_test_trials host config tests world

/-- Every episode with a verdict tells of it, and no other tells of any. -/
theorem filter_comparison_of_mem :
    ∀ x ∈ (trials host config tests world).map (Trial.episode host config),
      x.entries.filter Log.Entry.isComparison =
        x.result.toOption.toList.map fun v => entryOf x.test (.compared x.test.fixture v) := by
  intro episode hepisode
  obtain ⟨x, -, rfl⟩ := List.mem_map.mp hepisode
  rw [Trial.episode]
  simp only [Trial.filter_isComparison]
  rcases x.result host config with e | v <;> rfl

/-- No episode ends with an error of a report, since judging a test reports nothing. -/
theorem ne_report_of_mem :
    ∀ x ∈ (trials host config tests world).map (Trial.episode host config),
      ∀ cause, x.result ≠ .error (.report cause) := by
  intro episode hepisode cause hresult
  obtain ⟨x, -, rfl⟩ := List.mem_map.mp hepisode
  obtain ⟨made, htrouble⟩ := Trial.trouble_of_episode hresult
  exact htrouble.ne_report cause rfl

end episodes

/-! ### The story of a run -/

/-- What is told at the end of a run: its tally, if it is complete. -/
def completion : Except RunError Tally → List Log.Entry
  | .ok tally => [⟨.goldenCompleted tally, []⟩]
  | .error _ => []

/-- The calls, the log, the console and the result of a run that was begun in a session tell the
same story: of the first `n` tests, of the calls made for them with their replies, of what was told
and of the verdicts. -/
structure Story (host : Host σ) (config : Config) (tests : List Test) (s : Session σ)
    (run : Except RunError Tally × Session σ) (n : Nat)
    (exchanges : List (Call × Except LaunchError Output)) (own : List Log.Entry)
    (verdicts : List Verdict) : Prop where
  calls : run.2.calls = s.calls ++ exchanges.map Prod.fst
  replies : host.replies (exchanges.map Prod.fst) s.world = exchanges.map Prod.snd
  told : run.2.told = s.told ++ own
  /-- What is told of each test stands together, in order, and the completion stands at the end. -/
  entries : own = ((trials host config tests s.world).take n).flatMap (Trial.entries host config) ++
    completion run.1
  /-- Every call of the compiler is announced … -/
  buildings : own.filter Log.Entry.isBuilding =
    (tests.take n).map fun test => entryOf test (.building config.compiler)
  /-- … and made. -/
  compilations : (exchanges.map Prod.fst).filter (· ≠ execution config) =
    (tests.take n).map (compilation config)
  /-- The exit codes that are told are those of the artifacts that did not exit with 0. -/
  ignored : own.filterMap Log.Entry.ignoredCode? = exchanges.filterMap (ignoredCode? config)
  /-- The verdicts that are told are those of the first tests … -/
  comparisons : own.filter Log.Entry.isComparison =
    List.zipWith (fun test v => entryOf test (.compared test.fixture v)) tests verdicts
  /-- … and each is the decision of its trial. -/
  decided : ∀ i v, verdicts[i]? = some v →
    ∃ x, TrialAt host config tests s.world i x ∧ x.Decides host v
  /-- A run that is stopped, but not by a report, is stopped by the trouble of the next trial. -/
  stopped : ∀ e, run.1 = .error e → (∀ cause, e ≠ .report cause) →
    ∃ x made, TrialAt host config tests s.world verdicts.length x ∧ x.Trouble host config made e
  /-- A run tells of its completion iff it is complete, and once. -/
  completed : own.filter Log.Entry.isCompletion = completion run.1
  /-- Of being aborted, a run itself tells nothing. -/
  aborted : own.filter Log.Entry.isAbort = []
  /-- The tally of a complete run counts the verdicts that were told. -/
  tally : ∀ tally, run.1 = .ok tally → verdicts.length = tests.length ∧
    tally.passed = verdicts.count .pass ∧ tally.failed = verdicts.count .fail
  /-- What is told is printed … -/
  written : (∀ cause, run.1 ≠ .error (.report cause)) →
    run.2.console.written =
      s.console.written ++ (List.zipWith verdictText tests verdicts).flatten
  /-- … but for the last verdict of a run that is stopped by its report. -/
  cut : ∀ cause, run.1 = .error (.report cause) → ∃ reported v test line,
    verdicts = reported ++ [v] ∧ tests[reported.length]? = some test ∧
    Unreported (verdictText test v) cause line ∧
    run.2.console.written =
      s.console.written ++ (List.zipWith verdictText tests reported).flatten ++ line

section story

/-- The end of a run holds nothing but its completion. -/
theorem filter_completion {p : Log.Entry → Bool}
    (hp : ∀ tally, p ⟨.goldenCompleted tally, []⟩ = false) (r : Except RunError Tally) :
    (completion r).filter p = [] := by
  rcases r with e | tally
  · rfl
  · rw [completion, List.filter_cons_of_neg (by rw [hp]; exact Bool.false_ne_true), List.filter_nil]

variable {host : Host σ} {config : Config} {tests : List Test} {s : Session σ}

/-- Where the completion does not count, what counts of a run is what counts of its tests. -/
theorem filter_told {p : Log.Entry → Bool} (hp : ∀ tally, p ⟨.goldenCompleted tally, []⟩ = false)
    (xs : List (Trial σ)) (r : Except RunError Tally) :
    (xs.flatMap (Trial.entries host config) ++ completion r).filter p =
      xs.flatMap fun x => (x.entries host config).filter p := by
  rw [List.filter_append, filter_completion hp, List.append_nil, List.filter_flatMap]

/-- A run tells what its course tells, and then its completion, if it is complete. -/
theorem run_told :
    (run host config tests s).2.told =
      (course host config tests s).2.told ++ completion (run host config tests s).1 := by
  rw [run_eq_course]
  rcases (course host config tests s).1.stop with _ | e
  · exact Session.tell_told rfl _
  · exact (List.append_nil _).symm

/-- Every run has a story, on any sink. -/
theorem run_story (host : Host σ) (config : Config) (tests : List Test) (s : Session σ) :
    ∃ n exchanges own verdicts,
      Story host config tests s (run host config tests s) n exchanges own verdicts := by
  obtain ⟨verdicts, exchanges, entries, written, h⟩ := Session.series_chronicle
    (judge_leaves host config) (fun test v => v.pieces test) tests s
  rw [episodes_eq] at h
  obtain ⟨n, hentries, hexchanges, -⟩ := h.chronicle.reached
  rw [← List.map_take, List.flatMap_map] at hentries hexchanges
  have hown : entries = ((trials host config tests s.world).take n).flatMap
      (Trial.entries host config) := hentries
  have hmade : exchanges = ((trials host config tests s.world).take n).flatMap
      (Trial.exchanges config) := hexchanges
  have hends := run_ends host config tests s
  have htests := map_test_episodes host config tests s.world
  refine ⟨n, exchanges, entries ++ completion (run host config tests s).1, verdicts, ?_⟩
  exact
    { calls := hends.calls.trans h.calls
      replies := h.replies
      told := by
        rw [run_told, ← List.append_assoc]
        exact congrArg (· ++ _) h.told
      entries := congrArg (· ++ _) hown
      buildings := by
        rw [hown, filter_told fun _ => rfl]
        simp only [Trial.filter_isBuilding]
        exact flatMap_take_trials host config
          (fun test => entryOf test (.building config.compiler)) tests s.world n
      compilations := by
        rw [hmade, List.map_flatMap, List.filter_flatMap]
        simp only [Trial.filter_compilations]
        exact flatMap_take_trials host config (compilation config) tests s.world n
      ignored := by
        have hcompletion : (completion (run host config tests s).1).filterMap
            Log.Entry.ignoredCode? = [] := by
          rcases (run host config tests s).1 with e | tally <;> rfl
        rw [List.filterMap_append, hcompletion, List.append_nil, hown, hmade,
          List.filterMap_flatMap, List.filterMap_flatMap]
        simp only [Trial.filterMap_ignoredCode]
      comparisons := by
        rw [List.filter_append, filter_completion fun _ => rfl, List.append_nil,
          h.chronicle.filter_entries _ (fun test v => entryOf test (.compared test.fixture v))
            (filter_comparison_of_mem host config tests s.world), htests]
      decided := by
        intro i v hv
        obtain ⟨episode, hepisode, hresult⟩ := h.chronicle.result_of_found i v hv
        obtain ⟨x, hx, rfl⟩ := trialAt_of_episode hepisode
        exact ⟨x, hx, Trial.decides_of_episode hresult⟩
      stopped := by
        intro e he hreport
        obtain ⟨episode, hepisode, hresult⟩ := h.of_error hends he hreport
        obtain ⟨x, hx, rfl⟩ := trialAt_of_episode hepisode
        obtain ⟨made, htrouble⟩ := Trial.trouble_of_episode hresult
        exact ⟨x, made, hx, htrouble⟩
      completed := by
        rw [List.filter_append, hown, List.filter_flatMap,
          List.flatMap_eq_nil_iff.mpr fun x _ => Trial.filter_isCompletion host config x]
        rcases (run host config tests s).1 with e | tally <;> rfl
      aborted := by
        rw [hown, filter_told fun _ => rfl]
        exact List.flatMap_eq_nil_iff.mpr fun x _ => Trial.filter_isAbort host config x
      tally := by
        intro tally htally
        obtain ⟨hlength, rfl⟩ := h.of_ok hends htally
        rw [List.length_map, length_trials] at hlength
        unfold tallyOf
        rw [passed_foldl_record, failed_foldl_record]
        exact ⟨hlength, Nat.zero_add _, Nat.zero_add _⟩
      written := by
        intro hreport
        have hwritten := h.of_not_report hends hreport
        rw [htests, Session.texts] at hwritten
        simpa only [text_verdict_pieces] using hwritten
      cut := by
        intro cause hcause
        obtain ⟨reported, v, test, line, hverdicts, htest, htext, hwritten⟩ :=
          h.of_report hends (ne_report_of_mem host config tests s.world) hcause
        rw [htests] at htest hwritten
        rw [text_verdict_pieces] at htext
        rw [Session.texts] at hwritten
        simp only [text_verdict_pieces] at hwritten
        exact ⟨reported, v, test, line, hverdicts, htest, htext, hwritten⟩ }

end story

end Golden

end Assay
