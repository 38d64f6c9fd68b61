import Assay.Proofs.Golden.Course
import Assay.Proofs.Lockstep
import Assay.Proofs.Smoke.Course
import Assay.Replay

/-!
# What runs do not look at

A golden run looks at a compiler's exit code, an artifact's standard output and a fixture; a smoke
run looks at exit codes and standard outputs. Everything else that comes back from outside is the
same to them, and two runs that differ in nothing but that are the same run.

* `Golden.Trial.Resembles` — two trials, on a host each, that are the same up to how outputs of
  artifacts and fixtures may differ.
* `Golden.judge_in_step`, `Smoke.work_in_step` — tests with such trials are worked on in step.
* `ignored_data_has_no_influence` — the result, the calls and the output are those of every run with
  the same data in the places that are looked at.
* `Golden.replays_resemble` — replies that agree in turn give trials that resemble each other.
-/

namespace Assay

variable {σ τ : Type}

/-! ### Golden runs -/

namespace Golden

/-- Two trials on different hosts that are the same up to how outputs of artifacts may differ
(`onOutput`) and how fixtures may (`onFixture`). Of a compiler only the exit code counts. -/
structure Trial.Resembles (onOutput : Output → Output → Prop) (onFixture : Bytes → Bytes → Prop)
    (host : Host σ) (host' : Host τ) (x : Trial σ) (x' : Trial τ) : Prop where
  built : Alike (fun o o' => o.exitCode = o'.exitCode) x.built x'.built
  ran : Alike onOutput x.ran x'.ran
  read : Alike onFixture (host.readFile x.test.fixture x.world)
    (host'.readFile x'.test.fixture x'.world)

/-- The trials of tests on two hosts resemble each other, one by one. -/
def TrialsResemble (onOutput : Output → Output → Prop) (onFixture : Bytes → Bytes → Prop)
    (host : Host σ) (host' : Host τ) (config : Config) (tests : List Test) (world : σ)
    (world' : τ) : Prop :=
  ∀ k x x', TrialAt host config tests world k x → TrialAt host' config tests world' k x' →
    x.Resembles onOutput onFixture host host' x'

variable {onOutput : Output → Output → Prop} {onFixture : Bytes → Bytes → Prop}
  {onVerdict : Verdict → Verdict → Prop} {host : Host σ} {host' : Host τ} {config : Config}

/-- Trials of one test that resemble each other come to the same, up to how the verdicts may
differ. -/
theorem Trial.Resembles.result {x : Trial σ} {x' : Trial τ}
    (h : x.Resembles onOutput onFixture host host' x') (config : Config)
    (htest : x.test = x'.test)
    (hverdict : ∀ {o o' f f'}, onOutput o o' → onFixture f f' →
      onVerdict (.compare o.stdout f) (.compare o'.stdout f')) :
    Alike onVerdict (x.result host config) (x'.result host' config) := by
  obtain ⟨test, built, ran, world⟩ := x
  obtain ⟨test', built', ran', world'⟩ := x'
  obtain ⟨hbuilt, hran, hread⟩ := h
  simp only at htest hbuilt hran hread
  subst htest
  unfold Trial.result
  generalize host.readFile test.fixture world = read at hread ⊢
  generalize host'.readFile test.fixture world' = read' at hread ⊢
  cases hbuilt with
  | error cause => exact .error _
  | @ok output output' hstatus =>
    simp only [hstatus]
    split
    · cases hran with
      | error cause => exact .error _
      | ok houtput =>
        cases hread with
        | error cause => exact .error _
        | ok hfixture => exact .ok (hverdict houtput hfixture)
    · exact .error _

/-- Tests whose trials resemble each other are judged in step. -/
theorem judge_in_step (hverdict : ∀ {o o' f f'}, onOutput o o' → onFixture f f' →
      onVerdict (.compare o.stdout f) (.compare o'.stdout f')) :
    Session.InStep (TrialsResemble onOutput onFixture host host' config) onVerdict
      (judge host config) (judge host' config) := by
  refine ⟨judge_silent host config, judge_silent host' config, ?_⟩
  intro test tests s s' hworlds hcalls
  have hresult := (hworlds 0 _ _ trialAt_zero trialAt_zero).result config rfl hverdict
  generalize hr : (Trial.of host config test s.world).result host config = r at hresult
  generalize hr' : (Trial.of host' config test s'.world).result host' config = r' at hresult
  cases hresult with
  | error stop =>
    obtain ⟨made, e⟩ := stop
    obtain ⟨hjudge, hmade⟩ := judge_of_result_error hr
    obtain ⟨hjudge', hmade'⟩ := judge_of_result_error hr'
    rw [hjudge, hjudge', hmade, hmade', hcalls]
    refine ⟨.error e, rfl, fun result h => ?_⟩
    cases h
  | ok hverdicts =>
    obtain ⟨hjudge, hmade, hworld⟩ := judge_of_result_ok hr
    obtain ⟨hjudge', hmade', hworld'⟩ := judge_of_result_ok hr'
    rw [hjudge, hjudge', hmade, hmade', hworld, hworld', hcalls]
    refine ⟨.ok hverdicts, rfl, fun _ _ k x x' hx hx' => ?_⟩
    exact hworlds (k + 1) x x' (trialAt_succ_iff.mpr hx) (trialAt_succ_iff.mpr hx')

/-! #### Replayed hosts -/

/-- Two prepared replies change files in the same way, and their answers are the same up to how
outputs may differ. -/
structure Reply.Resembles (onOutput : Output → Output → Prop) (reply reply' : Reply) : Prop where
  changes : reply.changes = reply'.changes
  answer : Alike onOutput reply.answer reply'.answer

/-- Two sequences of replies agree in turn: a compiler's reply up to everything but the exit code,
an artifact's up to how outputs may differ, then the next compiler's. -/
inductive AgreeInTurn (onOutput : Output → Output → Prop) : List Reply → List Reply → Prop
  | none : AgreeInTurn onOutput [] []
  | compiler {built built' : Reply}
      (hbuilt : Reply.Resembles (fun o o' => o.exitCode = o'.exitCode) built built') :
      AgreeInTurn onOutput [built] [built']
  | test {built built' ran ran' : Reply} {replies replies' : List Reply}
      (hbuilt : Reply.Resembles (fun o o' => o.exitCode = o'.exitCode) built built')
      (hran : Reply.Resembles onOutput ran ran') (later : AgreeInTurn onOutput replies replies') :
      AgreeInTurn onOutput (built :: ran :: replies) (built' :: ran' :: replies')

/-- Replies that agree in turn give trials that resemble each other. -/
theorem replays_resemble {replies replies' : List Reply} (h : AgreeInTurn onOutput replies replies')
    (files : Files) (config : Config) (tests : List Test) :
    TrialsResemble onOutput Eq Replay.host Replay.host config tests ⟨files, replies⟩
      ⟨files, replies'⟩ := by
  induction tests generalizing files replies replies' with
  | nil =>
    intro k x x' hx
    exact absurd hx.lt (Nat.not_lt_zero k)
  | cons test tests ih =>
    intro k x x' hx hx'
    rcases k with _ | k
    · rw [hx.unique trialAt_zero, hx'.unique trialAt_zero]
      cases h with
      | none => exact ⟨.error _, .error _, .refl (fun _ => rfl) _⟩
      | @compiler built built' hbuilt =>
        refine ⟨hbuilt.answer.mapError _, .error _, ?_⟩
        change Alike Eq ((files.applyAll built.changes).read _)
          ((files.applyAll built'.changes).read _)
        rw [hbuilt.changes]
        exact .refl (fun _ => rfl) _
      | @test built built' ran ran' _ _ hbuilt hran _ =>
        refine ⟨hbuilt.answer.mapError _, hran.answer.mapError _, ?_⟩
        change Alike Eq (((files.applyAll built.changes).applyAll ran.changes).read _)
          (((files.applyAll built'.changes).applyAll ran'.changes).read _)
        rw [hbuilt.changes, hran.changes]
        exact .refl (fun _ => rfl) _
    · -- the later trials begin with the files and the replies that the first test left
      have hlater := trialAt_succ_iff.mp hx
      have hlater' := trialAt_succ_iff.mp hx'
      cases h with
      | none => exact ih .none files k x x' hlater hlater'
      | @compiler built built' hbuilt =>
        change TrialAt Replay.host config tests ⟨files.applyAll built.changes, []⟩ k x at hlater
        rw [hbuilt.changes] at hlater
        exact ih .none _ k x x' hlater hlater'
      | @test built built' ran ran' replies _ hbuilt hran hrest =>
        change TrialAt Replay.host config tests
          ⟨(files.applyAll built.changes).applyAll ran.changes, replies⟩ k x at hlater
        rw [hbuilt.changes, hran.changes] at hlater
        exact ih hrest _ k x x' hlater hlater'

end Golden

/-! ### Smoke runs -/

namespace Smoke

variable {onOutput : Output → Output → Prop} {host : Host σ} {host' : Host τ} {config : Config}

/-- The replies to the launches of tests on two hosts are the same up to how outputs may differ. -/
def RepliesResemble (onOutput : Output → Output → Prop) (host : Host σ) (host' : Host τ)
    (config : Config) (tests : List Test) (world : σ) (world' : τ) : Prop :=
  List.Forall₂ (Alike onOutput) (host.replies (schedule config tests) world)
    (host'.replies (schedule config tests) world')

/-- Tests with such replies are launched in step, and have the same outcomes. -/
theorem work_in_step
    (houtcome : ∀ {o o'}, onOutput o o' → Outcome.ofLaunch (.ok o) = .ofLaunch (.ok o')) :
    Session.InStep (RepliesResemble onOutput host host' config) Eq (work host config)
      (work host' config) := by
  refine ⟨work_silent host config, work_silent host' config, ?_⟩
  intro test tests s s' hworlds hcalls
  obtain ⟨hreply, hrest⟩ := List.forall₂_cons.mp hworlds
  rcases ho : observe host config test s with ⟨o, s₁⟩
  rcases ho' : observe host' config test s' with ⟨o', s₁'⟩
  obtain ⟨houtcome₁, hworld, hmade⟩ := observe_spec ho
  obtain ⟨houtcome₁', hworld', hmade'⟩ := observe_spec ho'
  rw [work_of_observe ho, work_of_observe ho']
  simp only
  rw [hmade, hmade', hworld, hworld', hcalls]
  refine ⟨?_, rfl, fun _ _ => hrest⟩
  rw [houtcome₁, houtcome₁']
  generalize (host.launch ⟨executable config test, []⟩ s.world).1 = reply at hreply ⊢
  generalize (host'.launch ⟨executable config test, []⟩ s'.world).1 = reply' at hreply ⊢
  cases hreply with
  | error cause => exact .ok rfl
  | ok h => exact .ok (houtcome h)

end Smoke

/-- **Ignored data has no influence.** Two runs of one kind over the same tests, each on a host and
a world of its own, have the same result, make the same calls and leave the same sink behind,
whatever the sink,

- in the case of golden runs, if what comes back agrees test by test: compilers do not start for the
  same reason or exit with the same code, artifacts do not start for the same reason or print the
  same bytes, and fixtures hold the same bytes or cannot be read for the same reason;
- in the case of smoke runs, if launches fail for the same reason or give the same code and print
  the same bytes. -/
theorem ignored_data_has_no_influence (host : Host σ) (host' : Host τ) (tests : List Test)
    (world : σ) (world' : τ) (console : Sink) :
    (∀ config : Golden.Config,
      Golden.TrialsResemble (fun o o' => o.stdout = o'.stdout) Eq host host' config tests world
        world' →
      (Golden.run host config tests (.start world console)).1 =
          (Golden.run host' config tests (.start world' console)).1 ∧
        (Golden.run host config tests (.start world console)).2.calls =
          (Golden.run host' config tests (.start world' console)).2.calls ∧
        (Golden.run host config tests (.start world console)).2.console =
          (Golden.run host' config tests (.start world' console)).2.console) ∧
    ∀ config : Smoke.Config,
      Smoke.RepliesResemble (fun o o' => o.stdout = o'.stdout ∧ o.exitCode = o'.exitCode) host host'
        config tests world world' →
      (Smoke.run host config tests (.start world console)).1 =
          (Smoke.run host' config tests (.start world' console)).1 ∧
        (Smoke.run host config tests (.start world console)).2.calls =
          (Smoke.run host' config tests (.start world' console)).2.calls ∧
        (Smoke.run host config tests (.start world console)).2.console =
          (Smoke.run host' config tests (.start world' console)).2.console := by
  refine ⟨fun config hworlds => ?_, fun config hworlds => ?_⟩
  · have hverdict : ∀ {o o' : Output} {f f' : Bytes}, o.stdout = o'.stdout → f = f' →
        Verdict.compare o.stdout f = .compare o'.stdout f' := by
      intro o o' f f' hstdout hfixture
      rw [hstdout, hfixture]
    have halike := Session.series_in_step (Golden.judge_in_step hverdict)
      (Session.prints_alike_eq fun test v => v.pieces test) tests
      (.start world console) (.start world' console) hworlds rfl rfl
    exact halike.run_eq (Golden.run_ends host config tests _) (Golden.run_ends host' config tests _)
  · have houtcome : ∀ {o o' : Output}, o.stdout = o'.stdout ∧ o.exitCode = o'.exitCode →
        Outcome.ofLaunch (.ok o) = .ofLaunch (.ok o') := by
      rintro o o' ⟨hstdout, hcode⟩
      simp only [Outcome.ofLaunch, Output.stdoutText, hstdout, hcode]
    have halike := Session.series_in_step (Smoke.work_in_step houtcome)
      (Session.prints_alike_eq fun _ o => o.pieces) tests
      (.start world console) (.start world' console) hworlds rfl rfl
    exact halike.run_eq (Smoke.run_ends host config tests _) (Smoke.run_ends host' config tests _)

/-- Replies for one test, where the compiler writes the fixture, too. -/
def quietReplies : List Reply :=
  [⟨[.write ⟨"a.expected"⟩ [0x78] false], .ok ⟨[], [], 0⟩⟩, ⟨[], .ok ⟨[0x78], [], 0⟩⟩]

/-- The same replies with much that does not matter: both children are talkative, and the artifact
is killed. -/
def noisyReplies : List Reply :=
  [⟨[.write ⟨"a.expected"⟩ [0x78] false], .ok ⟨[0x21], [0x21], 0⟩⟩, ⟨[], .ok ⟨[0x78], [0x21], -9⟩⟩]

/-- Noise changes nothing about a golden run, and standard error nothing about a smoke run. -/
theorem noise_has_no_influence :
    (Golden.run Replay.host .default [⟨"a"⟩]
        (.start ⟨⟨.empty, []⟩, quietReplies⟩ .unlimited)).1 =
      (Golden.run Replay.host .default [⟨"a"⟩]
        (.start ⟨⟨.empty, []⟩, noisyReplies⟩ .unlimited)).1 ∧
    (Smoke.run Replay.host .default [⟨"a"⟩]
        (.start ⟨⟨.empty, []⟩, [⟨[], .ok ⟨[0x78], [], 3⟩⟩]⟩ .unlimited)).1 =
      (Smoke.run Replay.host .default [⟨"a"⟩]
        (.start ⟨⟨.empty, []⟩, [⟨[], .ok ⟨[0x78], [0x21], 3⟩⟩]⟩ .unlimited)).1 := by
  have hturn : Golden.AgreeInTurn (fun o o' => o.stdout = o'.stdout) quietReplies noisyReplies :=
    .test ⟨rfl, .ok rfl⟩ ⟨rfl, .ok rfl⟩ .none
  have hgolden := (ignored_data_has_no_influence Replay.host Replay.host [⟨"a"⟩]
    ⟨⟨.empty, []⟩, quietReplies⟩ ⟨⟨.empty, []⟩, noisyReplies⟩ .unlimited).1 .default
    (Golden.replays_resemble hturn ⟨.empty, []⟩ .default [⟨"a"⟩])
  have hsmoke := (ignored_data_has_no_influence Replay.host Replay.host [⟨"a"⟩]
    ⟨⟨.empty, []⟩, [⟨[], .ok ⟨[0x78], [], 3⟩⟩]⟩ ⟨⟨.empty, []⟩, [⟨[], .ok ⟨[0x78], [0x21], 3⟩⟩]⟩
    .unlimited).2 .default (.cons (.ok ⟨rfl, rfl⟩) .nil)
  exact ⟨hgolden.1, hsmoke.1⟩

end Assay
