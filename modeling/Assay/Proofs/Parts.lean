import Assay.Proofs.Golden.Course
import Assay.Proofs.Smoke.Course

/-!
# Runs and their parts

A run can be cut anywhere: what comes after the cut is a run of its own, begun in the world and on
the console that the first part left. A run can also be stepped by hand, one test after the other
without reports, and on a sink that never fails it goes as far as the first error of the steps.

* `Session.series_append_of_stop`, `Session.series_append_of_completed` — series of appended tests.
* `Session.series_following` — a series does not look at what came before it, so the second part
  may as well be begun with nothing called and nothing told.
* `Session.each` — working on every test, going on after errors; `series_append_of_each` says what
  the results have to do with a series.
* `runs_are_their_parts` — both, for runs of either kind.
-/

namespace Assay

variable {σ β γ : Type}

namespace Session

variable {work : Work σ β} {pieces : Test → β → List String}

/-! ### Cutting a series in two -/

/-- Nothing is done behind the stop of a series. -/
theorem series_append_of_stop {xs : List Test} {s s₁ : Session σ} {reported : List β} {e : RunError}
    (h : series work pieces xs s = (⟨reported, some e⟩, s₁)) (ys : List Test) :
    series work pieces (xs ++ ys) s = (⟨reported, some e⟩, s₁) := by
  induction xs generalizing s reported with
  | nil => cases h
  | cons test xs ih =>
    rw [List.cons_append]
    rcases hwork : work test s with ⟨e' | result, s'⟩
    · rw [series_cons_of_error hwork] at h ⊢
      exact h
    · rcases hprint : s'.console.print (pieces test result) with ⟨cause | _, c⟩
      · rw [series_cons_of_unreported hwork hprint] at h ⊢
        exact h
      · rw [series_cons_of_reported hwork hprint] at h ⊢
        rcases hrest : series work pieces xs (s'.withConsole c) with ⟨⟨later, stop⟩, s''⟩
        rw [hrest] at h
        cases h
        rw [ih hrest]

/-- A series that is not stopped goes on where it was. -/
theorem series_append_of_completed {xs : List Test} {s s₁ : Session σ} {reported : List β}
    (h : series work pieces xs s = (⟨reported, none⟩, s₁)) (ys : List Test) :
    series work pieces (xs ++ ys) s =
      (⟨reported ++ (series work pieces ys s₁).1.reported, (series work pieces ys s₁).1.stop⟩,
        (series work pieces ys s₁).2) := by
  induction xs generalizing s reported with
  | nil =>
    cases h
    rfl
  | cons test xs ih =>
    rw [List.cons_append]
    rcases hwork : work test s with ⟨e | result, s'⟩
    · rw [series_cons_of_error hwork] at h
      cases h
    · rcases hprint : s'.console.print (pieces test result) with ⟨cause | _, c⟩
      · rw [series_cons_of_unreported hwork hprint] at h
        cases h
      · rw [series_cons_of_reported hwork hprint] at h ⊢
        rcases hrest : series work pieces xs (s'.withConsole c) with ⟨⟨later, stop⟩, s''⟩
        rw [hrest] at h
        cases h
        rw [ih hrest]
        rfl

/-- A series does not look at what came before it. -/
theorem series_following (pieces : Test → β → List String) (hwork : Cumulative work)
    (tests : List Test) (s : Session σ) (calls : List Call) (log : List Log.Entry) :
    series work pieces tests (s.following calls log) =
      ((series work pieces tests s).1, (series work pieces tests s).2.following calls log) := by
  induction tests generalizing s with
  | nil => rfl
  | cons test tests ih =>
    have hafter := hwork test s calls log
    rcases h : work test s with ⟨e | result, s₁⟩
    all_goals rw [h] at hafter
    · rw [series_cons_of_error h, series_cons_of_error hafter]
    · have hconsole : (s₁.following calls log).console = s₁.console := rfl
      rcases hprint : s₁.console.print (pieces test result) with ⟨cause | _, c⟩
      all_goals rw [← hconsole] at hprint
      · rw [series_cons_of_unreported hafter hprint, series_cons_of_unreported h hprint]
        rfl
      · have hrest := ih (s₁.withConsole c)
        rw [series_cons_of_reported hafter hprint, series_cons_of_reported h hprint]
        change series work pieces tests ((s₁.following calls log).withConsole c) = _ at hrest
        rw [hrest]

/-- A series never takes back what is in the sink. -/
theorem series_written_prefix (hwork : Silent work) (tests : List Test) (s : Session σ) :
    s.console.written <+: (series work pieces tests s).2.console.written := by
  induction tests generalizing s with
  | nil => exact List.prefix_refl _
  | cons test tests ih =>
    have hconsole := hwork.console test s
    rcases h : work test s with ⟨e | result, s₁⟩
    all_goals
      rw [h] at hconsole
      rw [← hconsole]
    · refine ⟨[], ?_⟩
      rw [series_cons_of_error h, List.append_nil]
    · by_cases htakes : s₁.console.Takes (Sink.text (pieces test result))
      · have hprint := Sink.print_of_takes htakes
        rw [series_cons_of_reported h hprint]
        refine List.IsPrefix.trans ?_ (ih _)
        exact List.prefix_append _ _
      · obtain ⟨c, hprint, hwritten⟩ := Sink.print_of_not_takes htakes
        rw [series_cons_of_unreported h hprint]
        change s₁.console.written <+: c.written
        rw [hwritten]
        exact List.prefix_append _ _

/-! ### Stepping by hand -/

/-- Works on every test in order, going on after errors and reporting nothing. -/
def each (work : Work σ β) : List Test → Session σ → List (Except RunError β) × Session σ
  | [], s => ([], s)
  | test :: tests, s =>
    ((work test s).1 :: (each work tests (work test s).2).1, (each work tests (work test s).2).2)

/-- Every test has a result of its own. -/
theorem length_each (work : Work σ β) (tests : List Test) (s : Session σ) :
    (each work tests s).1.length = tests.length := by
  induction tests generalizing s with
  | nil => rfl
  | cons test tests ih => simp only [each, List.length_cons, ih]

/-- Working on appended tests is working on the first, and then on the others in the session that
this left. -/
theorem each_append (work : Work σ β) (xs ys : List Test) (s : Session σ) :
    each work (xs ++ ys) s =
      ((each work xs s).1 ++ (each work ys (each work xs s).2).1,
        (each work ys (each work xs s).2).2) := by
  induction xs generalizing s with
  | nil => rfl
  | cons test xs ih =>
    rw [List.cons_append, each, ih]
    rfl

/-- Results are all values, or there is a first error among them. -/
theorem values_or_first_error {ε α : Type} (results : List (Except ε α)) :
    (∃ values : List α, results = values.map .ok) ∨
      ∃ (values : List α) (e : ε) (later : List (Except ε α)),
        results = values.map .ok ++ .error e :: later := by
  induction results with
  | nil => exact .inl ⟨[], rfl⟩
  | cons r results ih =>
    rcases r with e | value
    · exact .inr ⟨[], e, results, rfl⟩
    · rcases ih with ⟨values, rfl⟩ | ⟨values, e, later, rfl⟩
      · exact .inl ⟨value :: values, rfl⟩
      · exact .inr ⟨value :: values, e, later, rfl⟩

/-- Tests that all have values are reported by a series on a sink that never fails, which is then
where the steps are, but for what is in the sink. -/
theorem series_append_of_each (pieces : Test → β → List String) (hsilent : Silent work)
    {xs : List Test} {s : Session σ} {c : Sink} {values : List β}
    (h : (each work xs s).1 = values.map .ok) (hc : c.Unfailing) (ys : List Test) :
    ∃ c' : Sink, c'.Unfailing ∧
      series work pieces (xs ++ ys) (s.withConsole c) =
        (⟨values ++ (series work pieces ys ((each work xs s).2.withConsole c')).1.reported,
          (series work pieces ys ((each work xs s).2.withConsole c')).1.stop⟩,
          (series work pieces ys ((each work xs s).2.withConsole c')).2) := by
  induction xs generalizing s c values with
  | nil =>
    obtain rfl : values = [] := List.map_eq_nil_iff.mp h.symm
    exact ⟨c, hc, rfl⟩
  | cons test xs ih =>
    obtain ⟨value, values, rfl, hvalue, hvalues⟩ := List.map_eq_cons_iff.mp h.symm
    have hwork : work test s = (.ok value, (work test s).2) := Prod.ext hvalue.symm rfl
    obtain ⟨c', hc', hrest⟩ := ih hvalues.symm (hc.taking (Sink.text (pieces test value)))
    refine ⟨c', hc', ?_⟩
    rw [List.cons_append, series_cons_of_takes pieces hsilent hwork (hc.takes _), hrest]
    rfl

/-- A series on a sink that never fails reports the values of all steps, if there are such. -/
theorem series_of_each_ok (pieces : Test → β → List String) (hsilent : Silent work)
    {tests : List Test} {s : Session σ} {values : List β}
    (h : (each work tests s).1 = values.map .ok) (hc : s.console.Unfailing) :
    ∃ c : Sink, series work pieces tests s =
      (⟨values, none⟩, (each work tests s).2.withConsole c) := by
  obtain ⟨c, -, hseries⟩ := series_append_of_each pieces hsilent h hc []
  rw [List.append_nil, withConsole_self] at hseries
  refine ⟨c, ?_⟩
  rw [hseries]
  simp only [series, List.append_nil]

/-- A series on a sink that never fails is stopped by the first error of the steps. -/
theorem series_of_each_error (pieces : Test → β → List String) (hsilent : Silent work)
    {tests : List Test} {s : Session σ} {values : List β} {e : RunError}
    {later : List (Except RunError β)}
    (h : (each work tests s).1 = values.map .ok ++ .error e :: later) (hc : s.console.Unfailing) :
    ∃ c : Sink, series work pieces tests s =
      (⟨values, some e⟩, (each work (tests.take (values.length + 1)) s).2.withConsole c) := by
  -- the test with the error stands behind as many tests as there are values
  have hlength := length_each work tests s
  rw [h, List.length_append, List.length_map, List.length_cons] at hlength
  have hlt : values.length < tests.length := by omega
  generalize hbefore : tests.take values.length = before
  generalize hafter : tests.drop (values.length + 1) = after
  have htests : tests = before ++ tests[values.length] :: after := by
    rw [← hbefore, ← hafter, List.getElem_cons_drop, List.take_append_drop]
  generalize tests[values.length] = test at htests
  have hbeforeLength : before.length = values.length := by
    rw [← hbefore, List.length_take, Nat.min_eq_left (Nat.le_of_lt hlt)]
  have htake : tests.take (values.length + 1) = before ++ [test] := by
    rw [htests, ← hbeforeLength, List.take_length_add_append]
    rfl
  rw [htests, each_append] at h
  obtain ⟨hvalues, herror⟩ :=
    List.append_inj h (by rw [length_each, List.length_map, hbeforeLength])
  obtain ⟨herror, -⟩ := List.cons_eq_cons.mp herror
  obtain ⟨c, -, hseries⟩ := series_append_of_each pieces hsilent hvalues hc (test :: after)
  rw [withConsole_self, ← htests] at hseries
  refine ⟨c, ?_⟩
  have hwork : work test ((each work before s).2.withConsole c) =
      (.error e, (work test (each work before s).2).2.withConsole c) := by
    rw [hsilent, herror]
  rw [hseries, series_cons_of_error hwork, List.append_nil, htake, each_append]
  rfl

/-- Silent work on several tests does not look at the console and leaves it as it was. -/
theorem each_withConsole (hsilent : Silent work) (tests : List Test) (s : Session σ) (c : Sink) :
    each work tests (s.withConsole c) =
      ((each work tests s).1, (each work tests s).2.withConsole c) := by
  induction tests generalizing s with
  | nil => rfl
  | cons test tests ih =>
    simp only [each, hsilent test s c]
    rw [ih]

/-- On any sink, a series that is not stopped has reported the values of all steps. -/
theorem each_of_completed (hsilent : Silent work) {tests : List Test} {s s₁ : Session σ}
    {reported : List β} (h : series work pieces tests s = (⟨reported, none⟩, s₁)) :
    (each work tests s).1 = reported.map .ok := by
  induction tests generalizing s reported with
  | nil =>
    cases h
    rfl
  | cons test tests ih =>
    rcases hwork : work test s with ⟨e | result, s'⟩
    · rw [series_cons_of_error hwork] at h
      cases h
    · rcases hprint : s'.console.print (pieces test result) with ⟨cause | _, c⟩
      · rw [series_cons_of_unreported hwork hprint] at h
        cases h
      · rw [series_cons_of_reported hwork hprint] at h
        rcases hrest : series work pieces tests (s'.withConsole c) with ⟨⟨later, stop⟩, s''⟩
        rw [hrest] at h
        cases h
        have hlater := ih hrest
        rw [each_withConsole hsilent] at hlater
        rw [each, hwork, List.map_cons, hlater]

end Session

/-! ### Golden runs -/

namespace Golden

variable {host : Host σ} {config : Config}

/-- Judging tests by hand is working on each of them. -/
theorem judgeEach_eq_each (tests : List Test) (s : Session σ) :
    judgeEach host config tests s = Session.each (judge host config) tests s := by
  induction tests generalizing s with
  | nil => rfl
  | cons test tests ih => simp only [judgeEach, Session.each, ih]

/-- A tally counts the verdicts of either kind. -/
theorem tallyOf_eq (verdicts : List Verdict) :
    tallyOf verdicts = ⟨verdicts.count .pass, verdicts.count .fail⟩ := by
  have hpassed := passed_foldl_record verdicts {}
  have hfailed := failed_foldl_record verdicts {}
  simp only [Nat.zero_add] at hpassed hfailed
  unfold tallyOf
  rw [← hpassed, ← hfailed]

/-- A run whose course is stopped ends with the error. -/
theorem run_of_stop {tests : List Test} {s s₁ : Session σ} {reported : List Verdict} {e : RunError}
    (h : course host config tests s = (⟨reported, some e⟩, s₁)) :
    run host config tests s = (.error e, s₁) := by
  rw [run_eq_course, h]

/-- A run whose course is completed ends with the tally, and tells of it. -/
theorem run_of_completed {tests : List Test} {s s₁ : Session σ} {reported : List Verdict}
    (h : course host config tests s = (⟨reported, none⟩, s₁)) :
    run host config tests s =
      (.ok (tallyOf reported), s₁.tell [] (.goldenCompleted (tallyOf reported))) := by
  rw [run_eq_course, h]

/-- A run that fails fails in the same way whatever tests come after it. -/
theorem run_append_of_error {xs : List Test} {s s₁ : Session σ} {e : RunError}
    (h : run host config xs s = (.error e, s₁)) (ys : List Test) :
    run host config (xs ++ ys) s = (.error e, s₁) := by
  rcases hcourse : course host config xs s with ⟨⟨reported, _ | e'⟩, s'⟩
  · rw [run_of_completed hcourse] at h
    cases h
  · rw [run_of_stop hcourse] at h
    cases h
    exact run_of_stop (Session.series_append_of_stop hcourse ys)

/-- A run that goes on as another: `rest` is begun where the first tests, counted by `first`, had
left the world and the console, and `whole` is the run over all tests. -/
structure GoesOn (first : Tally) (s₁ : Session σ) (rest whole : Except RunError Tally × Session σ) :
    Prop where
  /-- The rest decides how the whole ends, and the tallies add up. -/
  result : whole.1 =
    match rest.1 with
    | .error e => .error e
    | .ok second => .ok ⟨first.passed + second.passed, first.failed + second.failed⟩
  world : whole.2.world = rest.2.world
  calls : whole.2.calls = s₁.calls ++ rest.2.calls
  console : whole.2.console = rest.2.console

/-- A run that is complete goes on as a run from the world and on the console that it left. -/
theorem run_append_of_ok {xs : List Test} {s s₁ : Session σ} {first : Tally}
    (h : run host config xs s = (.ok first, s₁)) (ys : List Test) :
    GoesOn first s₁ (run host config ys (.start s₁.world s₁.console))
      (run host config (xs ++ ys) s) := by
  rcases hcourse : course host config xs s with ⟨⟨reported, _ | e⟩, s'⟩
  · rw [run_of_completed hcourse] at h
    cases h
    -- the course goes on from `s'`, and does not look at what was called and told before
    have hsplit := Session.series_append_of_completed hcourse ys
    have hfollowing := Session.series_following (fun test v => v.pieces test)
      (judge_cumulative host config) ys (.start s'.world s'.console) s'.calls s'.log
    rw [Session.start_following] at hfollowing
    rw [hfollowing] at hsplit
    have hwhole := run_ends host config (xs ++ ys) s
    have hrest := run_ends host config ys (.start s'.world s'.console)
    unfold course at hwhole hrest
    rw [hsplit] at hwhole
    have hbegin : Session.start (s'.tell [] (.goldenCompleted (tallyOf reported))).world
        (s'.tell [] (.goldenCompleted (tallyOf reported))).console =
          .start s'.world s'.console := rfl
    rw [hbegin]
    refine ⟨?_, hwhole.world.trans hrest.world.symm, ?_, hwhole.console.trans hrest.console.symm⟩
    · rw [hwhole.result, hrest.result]
      unfold Course.result
      rcases (Session.series (judge host config) (fun test v => v.pieces test) ys
        (.start s'.world s'.console)).1.stop with _ | e
      · simp only [tallyOf_eq, List.count_append]
      · rfl
    · rw [hwhole.calls, hrest.calls]
      rfl
  · rw [run_of_stop hcourse] at h
    cases h

/-- A run never takes back what is in the sink. -/
theorem run_written_prefix (host : Host σ) (config : Config) (tests : List Test) (s : Session σ) :
    s.console.written <+: (run host config tests s).2.console.written := by
  rw [(run_ends host config tests s).console]
  exact Session.series_written_prefix (judge_silent host config) tests s

/-- On a sink that never fails, a run over tests that all get verdicts is where stepping by hand is,
counts the verdicts and prints them. -/
theorem run_of_each_ok {tests : List Test} {s : Session σ} (hc : s.console.Unfailing)
    {verdicts : List Verdict} (h : (judgeEach host config tests s).1 = verdicts.map .ok) :
    (run host config tests s).1 = .ok ⟨verdicts.count .pass, verdicts.count .fail⟩ ∧
      (run host config tests s).2.calls = (judgeEach host config tests s).2.calls ∧
      (run host config tests s).2.world = (judgeEach host config tests s).2.world ∧
      (run host config tests s).2.console.written =
        s.console.written ++ (List.zipWith verdictText tests verdicts).flatten := by
  rw [judgeEach_eq_each] at h ⊢
  obtain ⟨c, hseries⟩ := Session.series_of_each_ok (fun test v => v.pieces test)
    (judge_silent host config) h hc
  have hwritten := course_written host config tests hc
  rw [course, hseries] at hwritten
  rw [run_of_completed hseries, tallyOf_eq]
  exact ⟨rfl, rfl, rfl, hwritten⟩

/-- On a sink that never fails, the first error of stepping by hand ends a run, which is then where
the steps up to that one are, and has printed the verdicts before it. -/
theorem run_of_each_error {tests : List Test} {s : Session σ} (hc : s.console.Unfailing)
    {verdicts : List Verdict} {e : RunError} {later : List (Except RunError Verdict)}
    (h : (judgeEach host config tests s).1 = verdicts.map .ok ++ .error e :: later) :
    (run host config tests s).1 = .error e ∧
      (run host config tests s).2.calls =
        (judgeEach host config (tests.take (verdicts.length + 1)) s).2.calls ∧
      (run host config tests s).2.world =
        (judgeEach host config (tests.take (verdicts.length + 1)) s).2.world ∧
      (run host config tests s).2.console.written =
        s.console.written ++ (List.zipWith verdictText tests verdicts).flatten := by
  rw [judgeEach_eq_each] at h ⊢
  obtain ⟨c, hseries⟩ := Session.series_of_each_error (fun test v => v.pieces test)
    (judge_silent host config) h hc
  have hwritten := course_written host config tests hc
  rw [course, hseries] at hwritten
  rw [run_of_stop hseries]
  exact ⟨rfl, rfl, rfl, hwritten⟩

end Golden

/-! ### Smoke runs -/

namespace Smoke

variable {host : Host σ} {config : Config}

/-- Observing tests by hand is working on each of them, and always has a result. -/
theorem observeEach_eq_each (host : Host σ) (config : Config) (tests : List Test) (s : Session σ) :
    Session.each (work host config) tests s =
      ((observeEach host config tests s).1.map .ok, (observeEach host config tests s).2) := by
  induction tests generalizing s with
  | nil => rfl
  | cons test tests ih => simp only [Session.each, work, observeEach, ih, List.map_cons]

/-- A run over appended tests is the first run, and then the second where the first is complete. -/
theorem run_append (xs ys : List Test) (s : Session σ) :
    run host config (xs ++ ys) s =
      match run host config xs s with
      | (.error e, s₁) => (.error e, s₁)
      | (.ok first, s₁) =>
        match run host config ys s₁ with
        | (.error e, s₂) => (.error e, s₂)
        | (.ok second, s₂) => (.ok (first ++ second), s₂) := by
  rcases hfirst : course host config xs s with ⟨⟨first, _ | e⟩, s₁⟩
  · have hsplit := Session.series_append_of_completed hfirst ys
    rw [run_eq_course host config (xs ++ ys), run_eq_course host config xs, hfirst, course, hsplit]
    simp only [Course.result, run_eq_course host config ys, course]
    rcases (Session.series (work host config) (fun _ o => o.pieces) ys s₁).1.stop with _ | e <;> rfl
  · have hstopped := Session.series_append_of_stop hfirst ys
    rw [run_eq_course host config (xs ++ ys), run_eq_course host config xs, hfirst, course,
      hstopped]
    rfl

/-- On any sink, a complete run has the outcomes of stepping by hand. -/
theorem observeEach_of_ok {tests : List Test} {s : Session σ} {outcomes : List Outcome}
    (h : (run host config tests s).1 = .ok outcomes) :
    (observeEach host config tests s).1 = outcomes := by
  rw [run_eq_course] at h
  rcases hcourse : course host config tests s with ⟨⟨reported, _ | e⟩, s₁⟩
  · rw [hcourse] at h
    cases h
    have heach := Session.each_of_completed (work_silent host config) hcourse
    rw [observeEach_eq_each] at heach
    exact (List.map_inj_right fun _ _ h => Except.ok.inj h).mp heach
  · rw [hcourse] at h
    cases h

/-- On a sink that never fails, a run is complete and is where stepping by hand is. -/
theorem run_of_each {tests : List Test} {s : Session σ} (hc : s.console.Unfailing) :
    (run host config tests s).1 = .ok (observeEach host config tests s).1 ∧
      (run host config tests s).2.calls = (observeEach host config tests s).2.calls ∧
      (run host config tests s).2.world = (observeEach host config tests s).2.world := by
  have heach := observeEach_eq_each host config tests s
  obtain ⟨c, hseries⟩ := Session.series_of_each_ok (fun _ o => o.pieces)
    (work_silent host config) (congrArg Prod.fst heach) hc
  rw [run_eq_course, course, hseries, heach]
  exact ⟨rfl, rfl, rfl⟩

end Smoke

/-! ### Runs of either kind -/

/-- **A run is its tests stepped by hand, and can be cut anywhere.** For any host:

- A golden run that fails fails in the same way, and leaves the same session, whatever tests come
  after its own. One that is complete goes on as a run begun afresh in the world and on the console
  that it left: with that run's error, or with the sums of both tallies; the calls and what is
  printed of both parts stand one after the other.
- On a sink that never fails, a golden run is complete iff judging every test by hand, going on
  after errors, gives a verdict each time; its tally counts these verdicts. Otherwise its error is
  the first one by hand. It has made the calls of the tests judged by hand, up to the one with the
  error, and has printed the verdicts before it.
- A smoke run over appended tests has the outcomes of a run over the first tests and of one over the
  others from the session that was left, and a report that fails in either ends it. A complete run
  has the outcomes that launching by hand gives, and on a sink that never fails it is complete and
  leaves the calls and the world that this leaves. -/
theorem runs_are_their_parts (host : Host σ) :
    (∀ (config : Golden.Config) (xs ys : List Test) (s : Session σ),
      match Golden.run host config xs s with
      | (.error e, s₁) => Golden.run host config (xs ++ ys) s = (.error e, s₁)
      | (.ok first, s₁) =>
        Golden.GoesOn first s₁ (Golden.run host config ys (.start s₁.world s₁.console))
          (Golden.run host config (xs ++ ys) s) ∧
        ∃ earlier later, s₁.console.written = s.console.written ++ earlier ∧
          (Golden.run host config ys (.start s₁.world s₁.console)).2.console.written =
            s₁.console.written ++ later ∧
          (Golden.run host config (xs ++ ys) s).2.console.written =
            s.console.written ++ (earlier ++ later)) ∧
    (∀ (config : Golden.Config) (tests : List Test) (s : Session σ), s.console.Unfailing →
      ((∃ tally, (Golden.run host config tests s).1 = .ok tally) ↔
        ∀ r ∈ (Golden.judgeEach host config tests s).1, ∃ v, r = .ok v) ∧
      (∀ verdicts : List Verdict,
        (Golden.judgeEach host config tests s).1 = verdicts.map .ok →
        (Golden.run host config tests s).1 =
            .ok ⟨verdicts.count .pass, verdicts.count .fail⟩ ∧
          (Golden.run host config tests s).2.calls =
            (Golden.judgeEach host config tests s).2.calls ∧
          (Golden.run host config tests s).2.world =
            (Golden.judgeEach host config tests s).2.world ∧
          (Golden.run host config tests s).2.console.written =
            s.console.written ++ (List.zipWith verdictText tests verdicts).flatten) ∧
      ∀ (verdicts : List Verdict) (e : RunError) (later : List (Except RunError Verdict)),
        (Golden.judgeEach host config tests s).1 = verdicts.map .ok ++ .error e :: later →
        (Golden.run host config tests s).1 = .error e ∧
          (Golden.run host config tests s).2.calls =
            (Golden.judgeEach host config (tests.take (verdicts.length + 1)) s).2.calls ∧
          (Golden.run host config tests s).2.world =
            (Golden.judgeEach host config (tests.take (verdicts.length + 1)) s).2.world ∧
          (Golden.run host config tests s).2.console.written =
            s.console.written ++ (List.zipWith verdictText tests verdicts).flatten) ∧
    (∀ (config : Smoke.Config) (xs ys : List Test) (s : Session σ),
      Smoke.run host config (xs ++ ys) s =
        match Smoke.run host config xs s with
        | (.error e, s₁) => (.error e, s₁)
        | (.ok first, s₁) =>
          match Smoke.run host config ys s₁ with
          | (.error e, s₂) => (.error e, s₂)
          | (.ok second, s₂) => (.ok (first ++ second), s₂)) ∧
    (∀ (config : Smoke.Config) (tests : List Test) (s : Session σ) (outcomes : List Outcome),
      (Smoke.run host config tests s).1 = .ok outcomes →
        (Smoke.observeEach host config tests s).1 = outcomes) ∧
    ∀ (config : Smoke.Config) (tests : List Test) (s : Session σ), s.console.Unfailing →
      (Smoke.run host config tests s).1 = .ok (Smoke.observeEach host config tests s).1 ∧
        (Smoke.run host config tests s).2.calls =
          (Smoke.observeEach host config tests s).2.calls ∧
        (Smoke.run host config tests s).2.world =
          (Smoke.observeEach host config tests s).2.world := by
  refine ⟨?_, ?_, fun _ => Smoke.run_append, fun _ _ _ _ => Smoke.observeEach_of_ok,
    fun _ _ _ => Smoke.run_of_each⟩
  · intro config xs ys s
    rcases h : Golden.run host config xs s with ⟨e | first, s₁⟩
    · exact Golden.run_append_of_error h ys
    · have hgoes := Golden.run_append_of_ok h ys
      have hfirst := Golden.run_written_prefix host config xs s
      rw [h] at hfirst
      obtain ⟨earlier, hearlier⟩ := hfirst
      obtain ⟨later, hlater⟩ := Golden.run_written_prefix host config ys
        (.start s₁.world s₁.console)
      refine ⟨hgoes, earlier, later, hearlier.symm, hlater.symm, ?_⟩
      rw [hgoes.console, ← hlater, ← List.append_assoc, hearlier]
      rfl
  · intro config tests s hc
    refine ⟨?_, fun verdicts h => Golden.run_of_each_ok hc h,
      fun verdicts e later h => Golden.run_of_each_error hc h⟩
    rcases Session.values_or_first_error (Golden.judgeEach host config tests s).1 with
      ⟨verdicts, h⟩ | ⟨verdicts, e, later, h⟩
    · -- there are only verdicts
      have hrun := (Golden.run_of_each_ok hc h).1
      refine iff_of_true ⟨_, hrun⟩ ?_
      intro r hr
      rw [h] at hr
      obtain ⟨v, -, rfl⟩ := List.mem_map.mp hr
      exact ⟨v, rfl⟩
    · -- there is a first error
      have hrun := (Golden.run_of_each_error hc h).1
      refine iff_of_false ?_ ?_
      · rintro ⟨tally, htally⟩
        rw [hrun] at htally
        cases htally
      · intro hall
        have herror : Except.error e ∈ (Golden.judgeEach host config tests s).1 := by simp [h]
        obtain ⟨v, hv⟩ := hall _ herror
        cases hv

/-- By hand, the test after one whose compiler is killed is judged, while a run has ended. -/
theorem killed_run_in_parts :
    Sink.unlimited.Unfailing ∧
      (Golden.judgeEach Golden.killer .default [⟨"a"⟩, ⟨"b"⟩, ⟨"c"⟩] (.start 0 .unlimited)).1 =
        [.pass].map .ok ++ .error (.buildFailed ⟨"b"⟩ ⟨"scc"⟩ (-9)) :: [.ok .pass] ∧
      (Golden.run Golden.killer .default [⟨"a"⟩, ⟨"b"⟩, ⟨"c"⟩] (.start 0 .unlimited)).1 =
        .error (.buildFailed ⟨"b"⟩ ⟨"scc"⟩ (-9)) ∧
      (Golden.run Golden.killer .default [⟨"a"⟩, ⟨"b"⟩, ⟨"c"⟩] (.start 0 .unlimited)).2.calls =
        (Golden.judgeEach Golden.killer .default [⟨"a"⟩, ⟨"b"⟩] (.start 0 .unlimited)).2.calls := by
  have heach : (Golden.judgeEach Golden.killer .default [⟨"a"⟩, ⟨"b"⟩, ⟨"c"⟩]
      (.start 0 .unlimited)).1 =
        [.pass].map .ok ++ .error (.buildFailed ⟨"b"⟩ ⟨"scc"⟩ (-9)) :: [.ok .pass] := by rfl
  obtain ⟨hresult, hcalls, -⟩ := ((runs_are_their_parts Golden.killer).2.1 .default
    [⟨"a"⟩, ⟨"b"⟩, ⟨"c"⟩] (.start 0 .unlimited) Sink.unlimited_unfailing).2.2 _ _ _ heach
  exact ⟨Sink.unlimited_unfailing, heach, hresult, hcalls⟩

end Assay
