import Assay.Proofs.Golden.Course
import Assay.Proofs.Smoke.Course

/-!
# Runs on a sink that fails

A sink with limits changes nothing about a run but where it ends. Work neither looks at the console
nor writes to it, so a run on such a sink goes the way of the ideal one, whose sink never fails, up
to the first report that is not taken. Which report that is can be read off the texts of the ideal
run alone (`Sink.FailsAt`): it is the first one behind which there are more bytes than there is room
for, or whose flush is refused.

* `Session.series_same` — without a report that fails, a series goes the way of the ideal one.
* `Session.series_cut` — with one, it is cut there (`CutAt`).
* `failing_sink_only_truncates` — both kinds of run on a sink with limits.
-/

namespace Assay

variable {σ β γ : Type}

/-! ### Printing several texts -/

namespace Sink

/-- The `k`-th of several texts is one that cannot be reported: the texts up to it do not fit, or
its flush is refused. -/
def FailsAt (s : Sink) (texts : List Bytes) (k : Nat) : Prop :=
  k < texts.length ∧
    (¬ s.Fits (texts.take (k + 1)).flatten ∨ s.refusedFlush = some (s.flushes + (k + 1)))

variable {s : Sink} {bs : Bytes} {texts : List Bytes}

/-- The first text fails iff the sink does not take it. -/
theorem failsAt_zero_iff : s.FailsAt (bs :: texts) 0 ↔ ¬ s.Takes bs := by
  have hfirst : ((bs :: texts).take (0 + 1)).flatten = bs := by simp
  unfold FailsAt Takes
  rw [hfirst, Decidable.not_and_iff_not_or_not, Decidable.not_not]
  exact and_iff_right (Nat.zero_lt_succ _)

/-- Behind a text that is taken, the texts fail where they do in the sink that has taken it. -/
theorem failsAt_succ_iff (h : s.Takes bs) {k : Nat} :
    s.FailsAt (bs :: texts) (k + 1) ↔ (s.taking bs).FailsAt texts k := by
  have hfits : s.Fits (bs ++ (texts.take (k + 1)).flatten) ↔
      (s.taking bs).Fits (texts.take (k + 1)).flatten :=
    fits_append_iff.trans (and_iff_right h.1)
  have hflushes : s.flushes + (k + 1 + 1) = (s.taking bs).flushes + (k + 1) := by
    change s.flushes + (k + 1 + 1) = s.flushes + 1 + (k + 1)
    omega
  unfold FailsAt
  rw [List.take_succ_cons, List.flatten_cons, hfits, hflushes, List.length_cons,
    Nat.add_lt_add_iff_right]
  exact Iff.rfl

/-- Behind a text that is taken, the others are refused as by the sink that has taken it. -/
theorem refusal_append (h : s.Takes bs) (cs : Bytes) :
    s.refusal (bs ++ cs) = (s.taking bs).refusal cs := by
  have hfits : s.Fits (bs ++ cs) ↔ (s.taking bs).Fits cs :=
    fits_append_iff.trans (and_iff_right h.1)
  unfold refusal
  simp only [hfits]

end Sink

/-! ### Series on any sink -/

namespace Session

variable {host : Host σ} {perTest : Nat} {work : Work σ β}

/-- Where no report fails, a series goes the way of the ideal one. -/
theorem series_same (pieces : Test → β → List String) (hsilent : Silent work) (tests : List Test)
    (s : Session σ) {ideal c : Sink} (hideal : ideal.Unfailing)
    (hc : ∀ k, ¬ c.FailsAt
      (texts pieces tests (series work pieces tests (s.withConsole ideal)).1.reported) k) :
    ∃ c' : Sink, c'.written = c.written ++
        (texts pieces tests
          (series work pieces tests (s.withConsole ideal)).1.reported).flatten ∧
      series work pieces tests (s.withConsole c) =
        ((series work pieces tests (s.withConsole ideal)).1,
          (series work pieces tests (s.withConsole ideal)).2.withConsole c') := by
  induction tests generalizing s ideal c with
  | nil => exact ⟨c, (List.append_nil _).symm, rfl⟩
  | cons test tests ih =>
      rcases h : work test s with ⟨e | result, s₁⟩
      · -- the work itself ends both series
        have hwork : ∀ d, work test (s.withConsole d) = (.error e, s₁.withConsole d) := by
          intro d
          rw [hsilent, h]
        rw [series_cons_of_error (hwork ideal), series_cons_of_error (hwork c)]
        exact ⟨c, (List.append_nil _).symm, rfl⟩
      · have hseries := series_cons_of_takes pieces hsilent h (hideal.takes _) tests
        rw [hseries] at hc ⊢
        -- the first report is taken, and the others do not fail behind it
        have htakes : c.Takes (Sink.text (pieces test result)) :=
          Decidable.of_not_not fun hnot => hc 0 (Sink.failsAt_zero_iff.mpr hnot)
        have hseries' := series_cons_of_takes pieces hsilent h htakes tests
        obtain ⟨c', hwritten, hsame⟩ := ih s₁ (hideal.taking _)
          (fun k hk => hc (k + 1) ((Sink.failsAt_succ_iff htakes).mpr hk))
        refine ⟨c', ?_, ?_⟩
        · rw [hwritten]
          simp [texts, Sink.taking]
        · rw [hseries', hsame]

/-- A series that was begun in a session, on a sink, and cut at the `k`-th report of the ideal
series: with which error it stopped, and which session it left. -/
structure CutAt (host : Host σ) (perTest : Nat) (begin : Session σ) (c : Sink)
    (reports : List Bytes) (k : Nat) (ideal : Session σ) (stop : Option RunError)
    (left : Session σ) : Prop where
  /-- The error is that of the first bytes that the sink refuses. -/
  stop : stop = some (.report (c.refusal (reports.take (k + 1)).flatten))
  /-- The reports are in the sink as far as there is room for them. -/
  written : left.console.written = c.written ++ c.accepted (reports.take (k + 1)).flatten
  /-- All calls are calls of the ideal series. -/
  calls_prefix : left.calls <+: ideal.calls
  /-- The tests up to the report have made their calls, and the world has seen nothing else. -/
  made : ∃ calls : List Call, calls.length = perTest * (k + 1) ∧
    left.calls = begin.calls ++ calls ∧ left.world = host.after calls begin.world

/-- A series that is cut behind its first test is the rest of it, cut one report earlier. -/
theorem CutAt.cons {s s₁ ideal left : Session σ} {c : Sink} {bs : Bytes} {reports : List Bytes}
    {k : Nat} {stop : Option RunError} {calls : List Call}
    (h : CutAt host perTest s₁ (c.taking bs) reports k ideal stop left) (htakes : c.Takes bs)
    (hlength : calls.length = perTest) (hcalls : s₁.calls = s.calls ++ calls)
    (hworld : s₁.world = host.after calls s.world) :
    CutAt host perTest s c (bs :: reports) (k + 1) ideal stop left := by
  obtain ⟨hstop, hwritten, hprefix, calls', hlength', hcalls', hworld'⟩ := h
  refine ⟨?_, ?_, hprefix, calls ++ calls', ?_, ?_, ?_⟩
  · rw [hstop, List.take_succ_cons, List.flatten_cons, Sink.refusal_append htakes]
  · rw [hwritten, List.take_succ_cons, List.flatten_cons, Sink.accepted_append htakes.1,
      Sink.taking, List.append_assoc]
    rfl
  · rw [List.length_append, hlength, hlength', Nat.mul_succ perTest (k + 1), Nat.add_comm]
  · rw [hcalls', hcalls, List.append_assoc]
  · rw [hworld', hworld, Host.after_append]

/-- A series ends with the first report that fails. -/
theorem series_cut (pieces : Test → β → List String) (hsteady : Steady host perTest work)
    (tests : List Test) (s : Session σ) {ideal c : Sink} (hideal : ideal.Unfailing) {k : Nat}
    {reports : List Bytes}
    (hreports : texts pieces tests
      (series work pieces tests (s.withConsole ideal)).1.reported = reports)
    (hk : c.FailsAt reports k) (hfirst : ∀ i < k, ¬ c.FailsAt reports i) :
    CutAt host perTest s c reports k (series work pieces tests (s.withConsole ideal)).2
      (series work pieces tests (s.withConsole c)).1.stop
      (series work pieces tests (s.withConsole c)).2 := by
  induction tests generalizing s ideal c k reports with
  | nil =>
      subst hreports
      exact absurd hk.1 (Nat.not_lt_zero k)
  | cons test tests ih =>
      rcases h : work test s with ⟨e | result, s₁⟩
      · -- the ideal series has no report
        have hwork : work test (s.withConsole ideal) = (.error e, s₁.withConsole ideal) := by
          rw [hsteady.silent, h]
        rw [series_cons_of_error hwork] at hreports
        subst hreports
        exact absurd hk.1 (Nat.not_lt_zero k)
      · have hseries := series_cons_of_takes pieces hsteady.silent h (hideal.takes _) tests
        obtain ⟨calls, hlength, hcalls, hworld⟩ := hsteady.made h
        rw [hseries] at hreports ⊢
        subst hreports
        by_cases htakes : c.Takes (Sink.text (pieces test result))
        · -- the report that fails is a later one
          have hseries' := series_cons_of_takes pieces hsteady.silent h htakes tests
          rcases k with _ | k
          · exact absurd htakes (Sink.failsAt_zero_iff.mp hk)
          · rw [hseries']
            have hrest := ih s₁ (hideal.taking (Sink.text (pieces test result))) rfl
              ((Sink.failsAt_succ_iff htakes).mp hk)
              (fun i hi hi' => hfirst (i + 1) (Nat.succ_lt_succ hi)
                ((Sink.failsAt_succ_iff htakes).mpr hi'))
            exact hrest.cons htakes hlength hcalls hworld
        · -- it is the first one, since a later one would not be the first that fails
          obtain ⟨c', hwritten, hseries'⟩ :=
            series_cons_of_not_takes pieces hsteady.silent h htakes tests
          rcases k with _ | k
          · have hprefix := hsteady.calls_prefix pieces tests
              (s₁.withConsole (ideal.taking (Sink.text (pieces test result))))
            rw [hseries']
            refine ⟨?_, ?_, hprefix, calls, ?_, hcalls, hworld⟩
            · simp [texts]
            · simpa [texts] using hwritten
            · rw [hlength, Nat.mul_one]
          · exact absurd (Sink.failsAt_zero_iff.mpr htakes) (hfirst 0 (Nat.zero_lt_succ k))

end Session

/-! ### Runs on a sink with limits -/

/-- How many of some bytes there is room for under a limit. -/
def kept (limit : Option Nat) (size : Nat) : Nat :=
  match limit with
  | none => size
  | some limit => min limit size

/-- The `k`-th of several reports is one that fails: there is no room for the texts up to it, or its
flush, the one numbered `k + 1`, is refused. -/
def FailsAt (limit refusedFlush : Option Nat) (reports : List Bytes) (k : Nat) : Prop :=
  k < reports.length ∧
    (kept limit (reports.take (k + 1)).flatten.length < (reports.take (k + 1)).flatten.length ∨
      refusedFlush = some (k + 1))

/-- In an empty sink there is room for some bytes iff all of them are kept. -/
theorem fits_empty_iff {limit refusedFlush : Option Nat} {bs : Bytes} :
    (Sink.empty limit refusedFlush).Fits bs ↔ ¬ kept limit bs.length < bs.length := by
  unfold Sink.Fits Sink.empty kept
  rcases limit with _ | limit
  · simp
  · simp only [Option.some.injEq, forall_eq', List.length_nil, Nat.sub_zero]
    omega

/-- An empty sink accepts as many of some bytes as are kept. -/
theorem accepted_empty (limit refusedFlush : Option Nat) (bs : Bytes) :
    (Sink.empty limit refusedFlush).accepted bs = bs.take (kept limit bs.length) := by
  unfold Sink.accepted Sink.empty kept
  rcases limit with _ | limit
  · exact List.take_length.symm
  · exact List.take_eq_take_min

/-- On an empty sink, the same reports fail whether the sink is asked or the limits are. -/
theorem failsAt_empty_iff {limit refusedFlush : Option Nat} {reports : List Bytes} {k : Nat} :
    (Sink.empty limit refusedFlush).FailsAt reports k ↔ FailsAt limit refusedFlush reports k := by
  unfold Sink.FailsAt FailsAt
  rw [fits_empty_iff, Decidable.not_not, Sink.empty, Nat.zero_add]

/-- How a run on a sink with limits goes, next to the ideal run on a sink that never fails. -/
structure Truncates (host : Host σ) (world : σ) (limit refusedFlush : Option Nat) (perTest : Nat)
    (reports : List Bytes) (ideal run : Except RunError γ × Session σ) : Prop where
  /-- The reports are what the ideal run writes. -/
  written : ideal.2.console.written = reports.flatten
  /-- Where no report fails, the run is the ideal one. -/
  same : (∀ k, ¬ FailsAt limit refusedFlush reports k) →
    run.1 = ideal.1 ∧ run.2.console.written = ideal.2.console.written ∧
      run.2.calls = ideal.2.calls ∧ run.2.world = ideal.2.world
  /-- Otherwise it ends with the first report that fails. -/
  cut : ∀ k size, FailsAt limit refusedFlush reports k →
    (∀ i < k, ¬ FailsAt limit refusedFlush reports i) →
    size = (reports.take (k + 1)).flatten.length →
    run.1 = .error (.report (if kept limit size < size then .custom .brokenPipe "sink full"
        else .custom .other "flush refused")) ∧
      run.2.console.written = ideal.2.console.written.take (kept limit size) ∧
      run.2.calls = ideal.2.calls.take (perTest * (k + 1)) ∧
      run.2.calls.length = perTest * (k + 1) ∧
      run.2.world = host.after run.2.calls world

section truncates

variable {host : Host σ} {perTest : Nat} {work : Session.Work σ β}

/-- The error of the first bytes that a sink with limits refuses. -/
theorem refusal_empty (limit refusedFlush : Option Nat) (bs : Bytes) :
    (Sink.empty limit refusedFlush).refusal bs =
      if kept limit bs.length < bs.length then .custom .brokenPipe "sink full"
      else .custom .other "flush refused" := by
  unfold Sink.refusal
  simp only [fits_empty_iff, ite_not]
  rfl

/-- The bytes up to some of several texts are a beginning of all their bytes. -/
theorem take_flatten (reports : List Bytes) (k : Nat) {n : Nat}
    (hn : n ≤ (reports.take k).flatten.length) :
    (reports.take k).flatten.take n = reports.flatten.take n := by
  have hsplit : reports.flatten = (reports.take k).flatten ++ (reports.drop k).flatten := by
    rw [← List.flatten_append, List.take_append_drop]
  rw [hsplit, List.take_append_of_le_length hn]

/-- No more bytes are kept than there are. -/
theorem kept_le (limit : Option Nat) (size : Nat) : kept limit size ≤ size := by
  unfold kept
  rcases limit with _ | limit
  · exact Nat.le_refl _
  · exact Nat.min_le_right _ _

/-- Runs that end as series of steady work do are truncated. -/
theorem Session.Steady.truncates (hsteady : Session.Steady host perTest work)
    (pieces : Test → β → List String) (f : List β → γ) (tests : List Test) (world : σ)
    (limit refusedFlush : Option Nat) {ideal run : Except RunError γ × Session σ}
    (hideal : EndsAs f ideal (Session.series work pieces tests (.start world .unlimited)))
    (hrun : EndsAs f run
      (Session.series work pieces tests (.start world (.empty limit refusedFlush)))) :
    Truncates host world limit refusedFlush perTest
      (Session.texts pieces tests
        (Session.series work pieces tests (.start world .unlimited)).1.reported) ideal run := by
  have hwritten := Session.series_written pieces hsteady.silent tests
    (s := .start world .unlimited) Sink.unlimited_unfailing
  refine ⟨?_, ?_, ?_⟩
  · rw [hideal.console, hwritten]
    rfl
  · intro hnone
    obtain ⟨c, hc, hsame⟩ := Session.series_same pieces hsteady.silent tests
      (.start world .unlimited) (c := .empty limit refusedFlush) Sink.unlimited_unfailing
      (fun k hk => hnone k (failsAt_empty_iff.mp hk))
    have hcourse : Session.series work pieces tests (.start world (.empty limit refusedFlush)) =
        ((Session.series work pieces tests (.start world .unlimited)).1,
          (Session.series work pieces tests (.start world .unlimited)).2.withConsole c) := hsame
    rw [hrun.result, hrun.console, hrun.calls, hrun.world, hideal.result, hideal.console,
      hideal.calls, hideal.world, hcourse]
    refine ⟨rfl, ?_, rfl, rfl⟩
    rw [hwritten]
    exact hc
  · intro k size hk hfirst hsize
    obtain ⟨hstop, hcut, hprefix, calls, hlength, hcalls, hworld⟩ :=
      Session.series_cut pieces hsteady tests (.start world .unlimited)
        (c := .empty limit refusedFlush) Sink.unlimited_unfailing rfl (failsAt_empty_iff.mpr hk)
        (fun i hi hi' => hfirst i hi (failsAt_empty_iff.mp hi'))
    have hmade : run.2.calls = calls := hrun.calls.trans hcalls
    have hbegin : run.2.calls <+: ideal.2.calls := by
      rw [hrun.calls, hideal.calls]
      exact hprefix
    refine ⟨?_, ?_, ?_, ?_, ?_⟩
    · rw [hrun.result, hsize, ← refusal_empty]
      exact Course.result_of_stop hstop f
    · rw [hrun.console, hideal.console, hwritten, hsize]
      refine hcut.trans ?_
      rw [accepted_empty, take_flatten _ _ (kept_le _ _)]
      rfl
    · rw [← hlength, ← hmade]
      exact List.prefix_iff_eq_take.mp hbegin
    · rw [hmade, hlength]
    · rw [hrun.world, hmade]
      exact hworld

end truncates

/-- **A sink that fails only truncates a run.** A run of either kind on a sink with limits, next to
the run from the same world on a sink that never fails: where every report of the ideal run fits and
is flushed, both have the same result, output and calls. Otherwise the first report that fails ends
the run, with the error of a full sink if there is no room for the report and that of a refused
flush if there is; its output is the ideal one as far as there is room for the reports up to that
one; and its calls are those of the tests up to that one, two for a golden test and one for a smoke
test. -/
theorem failing_sink_only_truncates (host : Host σ) (world : σ) (tests : List Test)
    (limit refusedFlush : Option Nat) :
    (∀ config : Golden.Config, ∃ verdicts : List Verdict, verdicts.length ≤ tests.length ∧
      Truncates host world limit refusedFlush 2 (List.zipWith verdictText tests verdicts)
        (Golden.run host config tests (.start world .unlimited))
        (Golden.run host config tests (.start world (.empty limit refusedFlush)))) ∧
    ∀ config : Smoke.Config, ∃ outcomes : List Outcome,
      (Smoke.run host config tests (.start world .unlimited)).1 = .ok outcomes ∧
      Truncates host world limit refusedFlush 1 (outcomes.map outcomeText)
        (Smoke.run host config tests (.start world .unlimited))
        (Smoke.run host config tests (.start world (.empty limit refusedFlush))) := by
  refine ⟨fun config => ?_, fun config => ?_⟩
  · have htruncates := (Golden.judge_steady host config).truncates
      (fun test v => v.pieces test) Golden.tallyOf tests world limit refusedFlush
      (Golden.run_ends host config tests _) (Golden.run_ends host config tests _)
    refine ⟨(Golden.course host config tests (.start world .unlimited)).1.reported,
      Session.length_reported_le _ _ _ _, ?_⟩
    unfold Session.texts at htruncates
    simp only [text_verdict_pieces] at htruncates
    exact htruncates
  · have htruncates := (Smoke.work_steady host config).truncates
      (fun _ o => o.pieces) id tests world limit refusedFlush
      (Smoke.run_ends host config tests _) (Smoke.run_ends host config tests _)
    obtain ⟨hstop, -, -⟩ :=
      Smoke.course_completes host config tests (.start world .unlimited) Sink.unlimited_unfailing
    rw [Session.texts_of_results _ (Session.length_reported_le _ _ _ _)] at htruncates
    simp only [text_outcome_pieces] at htruncates
    refine ⟨_, ?_, htruncates⟩
    rw [(Smoke.run_ends host config tests (.start world .unlimited)).result]
    exact Course.result_of_completed hstop id

/-- A limit that falls inside the second line cuts it there. -/
example : (Golden.run ⟨fun _ _ => (.ok ⟨[], [], 0⟩, ()), fun _ _ => .ok [], false⟩ .default
    [⟨"a"⟩, ⟨"b"⟩] (.start () (.empty (some 8) none))).2.console.written = bytesOf "OK: a\nOK" := by
  rfl

end Assay
