import Mathlib.Data.List.FinRange
import Assay.Proofs.Parts

/-!
# Tests that share an artifact

All tests of a golden run are built into the same artifact, one after the other. No test can see
what another was built into: at each launch the artifact holds the program of the test at hand, and
no other, whatever it held before (`judge_of_shares`).

* `SharesArtifact host prog artifact tests` — a host with one artifact, on which a call with
  arguments builds it and a call without arguments runs it.
* `Config.reverse_buildArgs` — a build finds its source whatever stands before it.
* `verdicts_do_not_interfere` — a run gives every test the verdict that it would get alone.
-/

namespace Assay.Golden

variable {σ : Type}

/-- A host that keeps one artifact. The program built from a source prints `prog source`, and
`artifact` is what the artifact of a world prints. -/
structure SharesArtifact (host : Host σ) (prog : String → Bytes) (artifact : σ → Bytes)
    (tests : List Test) : Prop where
  /-- A call with arguments is a build: it exits with 0, and the artifact is then the program of its
  third argument from the end. -/
  builds : ∀ call world source, call.arguments.reverse[2]? = some source →
    ∃ output, (host.launch call world).1 = .ok output ∧ output.exitCode = 0 ∧
      artifact (host.launch call world).2 = prog source
  /-- A call without arguments prints what the artifact of the moment does, with any exit code. -/
  runs : ∀ call world, call.arguments = [] →
    ∃ output, (host.launch call world).1 = .ok output ∧ output.stdout = artifact world
  /-- No call touches the fixtures of the tests. -/
  keeps : ∀ call world, ∀ test ∈ tests,
    host.readFile test.fixture (host.launch call world).2 = host.readFile test.fixture world

/-- The fixtures of tests can be read, and what they hold. -/
def HasFixtures (host : Host σ) (expected : Test → Bytes) (tests : List Test) (world : σ) : Prop :=
  ∀ test ∈ tests, host.readFile test.fixture world = .ok (expected test)

/-- The source is the third argument from the end, whatever the arguments before it are. -/
theorem Config.reverse_buildArgs (config : Config) (source : Path) :
    (config.buildArgs source).reverse[2]? = some source.text := by
  simp [buildArgs]

section sharing

variable {host : Host σ} {prog : String → Bytes} {artifact : σ → Bytes} {tests : List Test}
  {expected : Test → Bytes}

/-- Calls keep fixtures readable. -/
theorem SharesArtifact.hasFixtures (h : SharesArtifact host prog artifact tests) (calls : List Call)
    {world : σ} (hread : HasFixtures host expected tests world) :
    HasFixtures host expected tests (host.after calls world) := by
  induction calls generalizing world with
  | nil => exact hread
  | cons call calls ih =>
    apply ih
    intro test htest
    rw [h.keeps call world test htest]
    exact hread test htest

/-- In any world, the trial of a test runs the program that was built from its own source. -/
theorem SharesArtifact.decides (h : SharesArtifact host prog artifact tests) (config : Config)
    {test : Test} (htest : test ∈ tests) {world : σ}
    (hread : HasFixtures host expected tests world) :
    (Trial.of host config test world).Decides host
      (.compare (prog test.id) (expected test)) := by
  obtain ⟨built, hbuilt, hstatus, hartifact⟩ :=
    h.builds (compilation config test) world test.id (config.reverse_buildArgs test.source)
  obtain ⟨ran, hran, hstdout⟩ :=
    h.runs (execution config) (host.launch (compilation config test) world).2 rfl
  -- whatever the artifact was, the build has replaced it
  rw [hartifact] at hstdout
  have hfixture := h.hasFixtures [compilation config test, execution config] hread test htest
  refine ⟨hbuilt, hstatus, hran, hfixture, ?_⟩
  rw [hstdout]
  exact Verdict.compare_eq_pass_iff

/-- Judging a test gives the verdict on its own program, and leaves the fixtures readable. -/
theorem judge_of_shares (h : SharesArtifact host prog artifact tests) (config : Config)
    {test : Test} (htest : test ∈ tests) {s : Session σ}
    (hread : HasFixtures host expected tests s.world) :
    (judge host config test s).1 = .ok (.compare (prog test.id) (expected test)) ∧
      HasFixtures host expected tests (judge host config test s).2.world := by
  have hdecides := h.decides config htest hread
  obtain ⟨hresult, -, hworld⟩ := judge_of_result_ok (hdecides.result_eq config)
  refine ⟨hresult, ?_⟩
  rw [hworld]
  exact h.hasFixtures [compilation config test, execution config] hread

/-- Judging tests one after the other gives each the verdict on its own program. -/
theorem judgeEach_of_shares (h : SharesArtifact host prog artifact tests) (config : Config)
    {drawn : List Test} (hdrawn : ∀ test ∈ drawn, test ∈ tests) {s : Session σ}
    (hread : HasFixtures host expected tests s.world) :
    (judgeEach host config drawn s).1 =
      (drawn.map fun test => Verdict.compare (prog test.id) (expected test)).map .ok := by
  induction drawn generalizing s with
  | nil => rfl
  | cons test drawn ih =>
    obtain ⟨htest, hrest⟩ := List.forall_mem_cons.mp hdrawn
    obtain ⟨hresult, hafter⟩ := judge_of_shares h config htest hread
    have hlater := ih hrest hafter
    simp only [judgeEach, List.map_cons, hresult, hlater]

/-- A run over tests drawn from those whose fixtures can be read counts and prints the verdict of
each on its own program. -/
theorem run_of_shares (h : SharesArtifact host prog artifact tests) (config : Config)
    {drawn : List Test} (hdrawn : ∀ test ∈ drawn, test ∈ tests) {s : Session σ}
    (hc : s.console.Unfailing) (hread : HasFixtures host expected tests s.world)
    {verdict : Test → Verdict}
    (hverdict : verdict = fun test => .compare (prog test.id) (expected test)) :
    (run host config drawn s).1 =
        .ok ⟨(drawn.map verdict).count .pass, (drawn.map verdict).count .fail⟩ ∧
      (run host config drawn s).2.console.written =
        s.console.written ++ (drawn.map fun test => verdictText test (verdict test)).flatten := by
  have heach := judgeEach_of_shares h config hdrawn hread
  rw [← hverdict] at heach
  obtain ⟨hresult, -, -, hwritten⟩ := run_of_each_ok hc heach
  rw [List.zipWith_map_right, List.zipWith_self] at hwritten
  exact ⟨hresult, hwritten⟩

end sharing

/-- **Sharing one artifact does not couple tests.** On a host with one artifact, every test has a
verdict of its own, which is to pass iff the program of its source prints its fixture. In every list
drawn from tests whose fixtures can be read, whatever their order and however often they occur, and
whatever the artifact was at the beginning, each test gets its verdict; a run is complete, its tally
counts the verdicts and its output is their lines. So a run over permuted tests has the same tally,
and its lines are permuted in the same way. -/
theorem verdicts_do_not_interfere (host : Host σ) (prog : String → Bytes) (artifact : σ → Bytes)
    (config : Config) (tests : List Test) (expected : Test → Bytes) (s : Session σ)
    (hshares : SharesArtifact host prog artifact tests)
    (hread : ∀ test ∈ tests, host.readFile test.fixture s.world = .ok (expected test))
    (hc : s.console.Unfailing) :
    ∃ verdict : Test → Verdict,
      (∀ test, verdict test = .pass ↔ prog test.id = expected test) ∧
      (∀ drawn : List Test, (∀ test ∈ drawn, test ∈ tests) →
        (judgeEach host config drawn s).1 = drawn.map (fun test => .ok (verdict test)) ∧
        (run host config drawn s).1 =
          .ok ⟨(drawn.map verdict).count .pass, (drawn.map verdict).count .fail⟩ ∧
        (run host config drawn s).2.console.written =
          s.console.written ++ (drawn.map fun test => verdictText test (verdict test)).flatten) ∧
      ∀ order : Equiv.Perm (Fin tests.length), ∃ line : Fin tests.length → Bytes,
        (∀ i, line i = verdictText tests[i] (verdict tests[i])) ∧
        (run host config tests s).2.console.written =
          s.console.written ++ (List.ofFn line).flatten ∧
        (run host config (List.ofFn fun i => tests[order i]) s).2.console.written =
          s.console.written ++ (List.ofFn fun i => line (order i)).flatten ∧
        (run host config (List.ofFn fun i => tests[order i]) s).1 =
          (run host config tests s).1 := by
  generalize hverdict :
    (fun test : Test => Verdict.compare (prog test.id) (expected test)) = verdict
  have hrun {drawn : List Test} (hdrawn : ∀ test ∈ drawn, test ∈ tests) :=
    run_of_shares hshares config hdrawn hc hread hverdict.symm
  refine ⟨verdict, ?_, ?_, ?_⟩
  · intro test
    rw [← hverdict]
    exact Verdict.compare_eq_pass_iff
  · intro drawn hdrawn
    refine ⟨?_, hrun hdrawn⟩
    rw [judgeEach_of_shares hshares config hdrawn hread, hverdict, List.map_map]
    rfl
  · intro order
    -- both lists are read off one function of positions
    have htests : (List.ofFn fun i : Fin tests.length => tests[i]) = tests := List.ofFn_getElem
    have hperm : (List.ofFn fun i => tests[order i]).Perm tests := by
      have := order.ofFn_comp_perm fun i => tests[i]
      rwa [htests] at this
    obtain ⟨hresult, hwritten⟩ := hrun fun _ (htest : _ ∈ tests) => htest
    obtain ⟨hresult', hwritten'⟩ := hrun fun _ htest => hperm.mem_iff.mp htest
    refine ⟨fun i => verdictText tests[i] (verdict tests[i]), fun _ => rfl, ?_, ?_, ?_⟩
    · rw [hwritten]
      nth_rewrite 1 [← htests]
      rw [List.map_ofFn]
      rfl
    · rw [hwritten', List.map_ofFn]
      rfl
    · have hcount := fun v => (hperm.map verdict).count_eq v
      rw [hresult, hresult', hcount, hcount]

/-- A host whose programs print the names of their sources, and end with exit code 3. -/
def bench : Host Bytes where
  launch call artifact :=
    match call.arguments.reverse[2]? with
    | some source => (.ok ⟨[], [], 0⟩, bytesOf source)
    | none => (.ok ⟨artifact, [], 3⟩, artifact)
  readFile _ _ := .ok (bytesOf "a")
  logsExits := false

/-- The bench keeps one artifact, which prints the name of the source built last. -/
theorem bench_sharesArtifact (tests : List Test) : SharesArtifact bench bytesOf id tests := by
  refine ⟨?_, ?_, ?_⟩
  · intro call world source hsource
    simp [bench, hsource]
  · intro call world hcall
    simp [bench, hcall]
  · intro call world test htest
    rfl

/-- A test passes between two that fail, whatever was built before, and fails after it passed. -/
theorem bench_verdicts :
    SharesArtifact bench bytesOf id [⟨"a"⟩, ⟨"b"⟩] ∧
      (∀ test ∈ [(⟨"a"⟩ : Test), ⟨"b"⟩],
        bench.readFile test.fixture (bytesOf "stale") = .ok (bytesOf "a")) ∧
      (run bench .default [⟨"b"⟩, ⟨"a"⟩, ⟨"b"⟩] (.start (bytesOf "stale") .unlimited)).1 =
        .ok ⟨1, 2⟩ := by
  have hread : ∀ test ∈ [(⟨"a"⟩ : Test), ⟨"b"⟩],
      bench.readFile test.fixture (bytesOf "stale") = .ok (bytesOf "a") := fun _ _ => rfl
  obtain ⟨verdict, hverdict, hdrawn, -⟩ := verdicts_do_not_interfere bench bytesOf id .default
    [⟨"a"⟩, ⟨"b"⟩] (fun _ => bytesOf "a") (.start (bytesOf "stale") .unlimited)
    (bench_sharesArtifact _) hread Sink.unlimited_unfailing
  have ha : verdict ⟨"a"⟩ = .pass := (hverdict _).mpr rfl
  have hb : verdict ⟨"b"⟩ = .fail := by
    have hne : verdict ⟨"b"⟩ ≠ .pass := fun h => absurd ((hverdict _).mp h) (by decide)
    rcases h : verdict ⟨"b"⟩ with _ | _
    · exact absurd h hne
    · rfl
  obtain ⟨-, hresult, -⟩ := hdrawn [⟨"b"⟩, ⟨"a"⟩, ⟨"b"⟩] (by decide)
  simp only [List.map_cons, List.map_nil, ha, hb] at hresult
  exact ⟨bench_sharesArtifact _, hread, hresult⟩

end Assay.Golden
