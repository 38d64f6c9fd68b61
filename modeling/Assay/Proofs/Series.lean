import Assay.Proofs.Printing
import Assay.RunError

/-!
# Series of tests

Both kinds of run are series: each test is worked on, what came out is reported, and the first error
ends it. What is counted or collected is read off the reported results at the end.

* `Host.after`, `Host.replies` — the world after a sequence of calls, and the replies to them.
* `Session.series work pieces` — works on tests in order and prints the pieces of each result; a
  `Course` says which results were reported and which error ended the series.
* `Silent work` — the work neither looks at the console nor writes to it, so that everything in the
  sink is a report (`series_written`).
* `Cumulative work` — the work does not look at what came before it. Like being silent, it follows
  from what goes `Unseen` by the single steps.
* `Steady host perTest work` — besides, it makes `perTest` calls for every test that has a result.
-/

namespace Assay

variable {σ β γ : Type}

/-! ### Replies to a sequence of calls -/

namespace Host

/-- The world after calls, each made in the world that the one before it left. -/
def after (host : Host σ) (calls : List Call) (world : σ) : σ :=
  calls.foldl (fun world call => (host.launch call world).2) world

/-- The replies to calls, each made in the world that the one before it left. -/
def replies (host : Host σ) : List Call → σ → List (Except LaunchError Output)
  | [], _ => []
  | call :: calls, world =>
    (host.launch call world).1 :: host.replies calls (host.launch call world).2

/-- The world after calls in a row is that after the later ones, begun in the world after the
others. -/
theorem after_append (host : Host σ) (calls calls' : List Call) (world : σ) :
    host.after (calls ++ calls') world = host.after calls' (host.after calls world) :=
  List.foldl_append

/-- Every call has its reply. -/
@[simp] theorem length_replies (host : Host σ) (calls : List Call) (world : σ) :
    (host.replies calls world).length = calls.length := by
  induction calls generalizing world with
  | nil => rfl
  | cons call calls ih => simp [replies, ih]

end Host

/-! ### What single steps do to a session -/

namespace Session

/-- Telling leaves the world as it is. -/
@[simp] theorem tell_world (within : List Span) (e : Event) (s : Session σ) :
    (s.tell within e).world = s.world := rfl

/-- Telling calls nothing. -/
@[simp] theorem tell_calls (within : List Span) (e : Event) (s : Session σ) :
    (s.tell within e).calls = s.calls := rfl

/-- The session with another console. -/
def withConsole (s : Session σ) (console : Sink) : Session σ := { s with console }

/-- Another console leaves the world as it is. -/
@[simp] theorem withConsole_world (s : Session σ) (c : Sink) :
    (s.withConsole c).world = s.world := rfl

/-- Another console leaves the calls as they are. -/
@[simp] theorem withConsole_calls (s : Session σ) (c : Sink) :
    (s.withConsole c).calls = s.calls := rfl

/-- The console is the one that was put in. -/
@[simp] theorem withConsole_console (s : Session σ) (c : Sink) :
    (s.withConsole c).console = c := rfl

/-- A session with its own console is as it was. -/
@[simp] theorem withConsole_self (s : Session σ) : s.withConsole s.console = s := rfl

/-- A launch is answered by the host, and the session takes note of the call and the new world. -/
theorem launch_spec {host : Host σ} {within : List Span} {call : Call} {s s₁ : Session σ}
    {reply : Except LaunchError Output} (h : s.launch host within call = (reply, s₁)) :
    (host.launch call s.world).1 = reply ∧ s₁.world = (host.launch call s.world).2 ∧
      s₁.calls = s.calls ++ [call] := by
  unfold launch at h
  rcases hl : host.launch call s.world with ⟨cause | output, world⟩
  · rw [hl] at h
    cases h
    exact ⟨rfl, rfl, rfl⟩
  · rw [hl] at h
    rcases hlog : host.logsExits with _ | _
    · rw [hlog] at h
      cases h
      exact ⟨rfl, rfl, rfl⟩
    · rw [hlog] at h
      cases h
      exact ⟨rfl, rfl, rfl⟩

/-- The session of which earlier calls and an earlier log are known as well. -/
def following (s : Session σ) (calls : List Call) (log : List Log.Entry) : Session σ :=
  { s with calls := calls ++ s.calls, log := log ++ s.log }

/-- Every session follows what came before it was in its world with its console. -/
theorem start_following (s : Session σ) :
    (start s.world s.console).following s.calls s.log = s := by
  simp only [start, following, List.append_nil]

/-- A change of a session that goes unseen by what is told and launched: it stays as it is, and
makes no difference to the answers. -/
structure Unseen (f : Session σ → Session σ) : Prop where
  world : ∀ s, (f s).world = s.world
  tell : ∀ within e s, (f s).tell within e = f (s.tell within e)
  launch : ∀ (host : Host σ) within call s, (f s).launch host within call =
    ((s.launch host within call).1, f (s.launch host within call).2)

/-- A launch neither looks at the console nor writes to it. -/
theorem withConsole_unseen (c : Sink) : Unseen fun s : Session σ => s.withConsole c := by
  refine ⟨fun _ => rfl, fun _ _ _ => rfl, ?_⟩
  intro host within call s
  unfold launch withConsole
  rcases host.launch call s.world with ⟨cause | output, world⟩
  · rfl
  · rcases host.logsExits with _ | _ <;> rfl

/-- A launch does not look at what came before it. -/
theorem following_unseen (calls : List Call) (log : List Log.Entry) :
    Unseen fun s : Session σ => s.following calls log := by
  refine ⟨fun _ => rfl, ?_, ?_⟩
  · intro within e s
    simp only [tell, following, List.append_assoc]
  · intro host within call s
    unfold launch following
    rcases host.launch call s.world with ⟨cause | output, world⟩
    · simp only [List.append_assoc]
    · rcases host.logsExits with _ | _ <;> simp [tell]

end Session

/-! ### Series -/

/-- What a series of tests has come to. -/
structure Course (β : Type) where
  /-- The results that were reported, in order. -/
  reported : List β
  /-- The error that ended the series, if one did. -/
  stop : Option RunError

namespace Course

/-- The result of a run whose end is read off the reported results. -/
def result (c : Course β) (f : List β → γ) : Except RunError γ :=
  match c.stop with
  | some e => .error e
  | none => .ok (f c.reported)

/-- A course that was stopped comes to the error that stopped it. -/
theorem result_of_stop {c : Course β} {e : RunError} (h : c.stop = some e) (f : List β → γ) :
    c.result f = .error e := by
  rw [result, h]

/-- A course that was not stopped comes to what is read off the reported results. -/
theorem result_of_completed {c : Course β} (h : c.stop = none) (f : List β → γ) :
    c.result f = .ok (f c.reported) := by
  rw [result, h]

/-- A course comes to an error iff that stopped it. -/
theorem result_eq_error_iff {c : Course β} {f : List β → γ} {e : RunError} :
    c.result f = .error e ↔ c.stop = some e := by
  unfold result
  rcases c.stop with _ | e' <;> simp

/-- A course comes to a value iff nothing stopped it and this is what is read off. -/
theorem result_eq_ok_iff {c : Course β} {f : List β → γ} {v : γ} :
    c.result f = .ok v ↔ c.stop = none ∧ f c.reported = v := by
  unfold result
  rcases c.stop with _ | e' <;> simp

end Course

/-- A run that ends as a course does, up to what is told to the log. -/
structure EndsAs (f : List β → γ) (run : Except RunError γ × Session σ)
    (c : Course β × Session σ) : Prop where
  result : run.1 = c.1.result f
  world : run.2.world = c.2.world
  calls : run.2.calls = c.2.calls
  console : run.2.console = c.2.console

namespace Session

/-- What is done for one test before its report. -/
abbrev Work (σ β : Type) := Test → Session σ → Except RunError β × Session σ

/-- Works on tests in order and reports each result, up to the first error. -/
def series (work : Work σ β) (pieces : Test → β → List String) :
    List Test → Session σ → Course β × Session σ
  | [], s => (⟨[], none⟩, s)
  | test :: tests, s =>
    match work test s with
    | (.error e, s) => (⟨[], some e⟩, s)
    | (.ok result, s) =>
      match s.print (pieces test result) with
      | (.error cause, s) => (⟨[], some (.report cause)⟩, s)
      | (.ok (), s) =>
        let (course, s) := series work pieces tests s
        (⟨result :: course.reported, course.stop⟩, s)

/-- Work that neither looks at the console nor writes to it. -/
def Silent (work : Work σ β) : Prop :=
  ∀ test s c, work test (s.withConsole c) =
    ((work test s).1, (work test s).2.withConsole c)

/-- Work that does not look at what came before it and takes nothing of it back. -/
def Cumulative (work : Work σ β) : Prop :=
  ∀ test s calls log, work test (s.following calls log) =
    ((work test s).1, (work test s).2.following calls log)

variable {work : Work σ β} {pieces : Test → β → List String}

/-- Silent work leaves the console as it was. -/
theorem Silent.console (h : Silent work) (test : Test) (s : Session σ) :
    (work test s).2.console = s.console := by
  have := h test s s.console
  rw [withConsole_self] at this
  rw [this]
  rfl

/-- The texts of the reports of a series. -/
def texts (pieces : Test → β → List String) (tests : List Test) (reported : List β) : List Bytes :=
  List.zipWith (fun test result => Sink.text (pieces test result)) tests reported

/-- Where the texts do not depend on the tests, they are those of the results. -/
theorem texts_of_results (p : β → List String) {tests : List Test} {reported : List β}
    (h : reported.length ≤ tests.length) :
    texts (fun _ result => p result) tests reported =
      reported.map fun result => Sink.text (p result) := by
  unfold texts
  apply List.ext_getElem
  · rw [List.length_zipWith, List.length_map, Nat.min_eq_right h]
  · intro i _ _
    rw [List.getElem_zipWith, List.getElem_map]

/-- Printing concerns the console alone. -/
theorem print_eq (s : Session σ) (ps : List String) :
    s.print ps = ((s.console.print ps).1, s.withConsole (s.console.print ps).2) := rfl

/-! ### One test of a series -/

/-- Work that ends with an error stops the series, and nothing is reported for it. -/
theorem series_cons_of_error {test : Test} {s s₁ : Session σ} {e : RunError}
    (h : work test s = (.error e, s₁)) (tests : List Test) :
    series work pieces (test :: tests) s = (⟨[], some e⟩, s₁) := by
  rw [series, h]

/-- A result that is reported comes first, and the series goes on with the other tests. -/
theorem series_cons_of_reported {test : Test} {s s₁ : Session σ} {result : β} {c : Sink}
    (h : work test s = (.ok result, s₁))
    (hprint : s₁.console.print (pieces test result) = (.ok (), c)) (tests : List Test) :
    series work pieces (test :: tests) s =
      (⟨result :: (series work pieces tests (s₁.withConsole c)).1.reported,
        (series work pieces tests (s₁.withConsole c)).1.stop⟩,
        (series work pieces tests (s₁.withConsole c)).2) := by
  rw [series, h]
  simp only [print_eq, hprint]

/-- A result that cannot be reported stops the series. -/
theorem series_cons_of_unreported {test : Test} {s s₁ : Session σ} {result : β} {cause : IoError}
    {c : Sink} (h : work test s = (.ok result, s₁))
    (hprint : s₁.console.print (pieces test result) = (.error cause, c)) (tests : List Test) :
    series work pieces (test :: tests) s = (⟨[], some (.report cause)⟩, s₁.withConsole c) := by
  rw [series, h]
  simp only [print_eq, hprint]

/-- No series reports more results than it has tests. -/
theorem length_reported_le (work : Work σ β) (pieces : Test → β → List String) (tests : List Test)
    (s : Session σ) : (series work pieces tests s).1.reported.length ≤ tests.length := by
  induction tests generalizing s with
  | nil => exact Nat.le_refl 0
  | cons test tests ih =>
      rcases h : work test s with ⟨e | result, s₁⟩
      · rw [series_cons_of_error h]
        exact Nat.zero_le _
      · rcases hprint : s₁.console.print (pieces test result) with ⟨cause | _, c⟩
        · rw [series_cons_of_unreported h hprint]
          exact Nat.zero_le _
        · rw [series_cons_of_reported h hprint]
          exact Nat.succ_le_succ (ih _)

/-- A result whose text is taken is reported, and the series goes on. -/
theorem series_cons_of_takes (pieces : Test → β → List String) (hsilent : Silent work)
    {test : Test} {s s₁ : Session σ} {result : β} {c : Sink}
    (h : work test s = (.ok result, s₁))
    (hc : c.Takes (Sink.text (pieces test result))) (tests : List Test) :
    series work pieces (test :: tests) (s.withConsole c) =
      (⟨result :: (series work pieces tests
          (s₁.withConsole (c.taking (Sink.text (pieces test result))))).1.reported,
        (series work pieces tests
          (s₁.withConsole (c.taking (Sink.text (pieces test result))))).1.stop⟩,
        (series work pieces tests
          (s₁.withConsole (c.taking (Sink.text (pieces test result))))).2) := by
  have hwork : work test (s.withConsole c) = (.ok result, s₁.withConsole c) := by
    rw [hsilent, h]
  exact series_cons_of_reported hwork (Sink.print_of_takes hc) tests

/-- A result whose text is not taken ends the series. -/
theorem series_cons_of_not_takes (pieces : Test → β → List String) (hsilent : Silent work)
    {test : Test} {s s₁ : Session σ} {result : β} {c : Sink}
    (h : work test s = (.ok result, s₁))
    (hc : ¬ c.Takes (Sink.text (pieces test result))) (tests : List Test) :
    ∃ c' : Sink, c'.written = c.written ++ c.accepted (Sink.text (pieces test result)) ∧
      series work pieces (test :: tests) (s.withConsole c) =
        (⟨[], some (.report (c.refusal (Sink.text (pieces test result))))⟩,
          s₁.withConsole c') := by
  have hwork : work test (s.withConsole c) = (.ok result, s₁.withConsole c) := by
    rw [hsilent, h]
  obtain ⟨c', hprint, hwritten⟩ := Sink.print_of_not_takes hc
  exact ⟨c', hwritten, series_cons_of_unreported hwork hprint tests⟩

/-! ### A sink that never fails -/

/-- On a sink that never fails, a result is reported and the series goes on, on a sink that never
fails. -/
theorem series_cons_of_unfailing (pieces : Test → β → List String) (hsilent : Silent work)
    {test : Test} {s s₁ : Session σ} {result : β} (hc : s.console.Unfailing)
    (h : work test s = (.ok result, s₁)) (tests : List Test) :
    ∃ s₂ : Session σ, s₂.world = s₁.world ∧ s₂.calls = s₁.calls ∧ s₂.console.Unfailing ∧
      s₂.console.written = s.console.written ++ Sink.text (pieces test result) ∧
      series work pieces (test :: tests) s =
        (⟨result :: (series work pieces tests s₂).1.reported,
          (series work pieces tests s₂).1.stop⟩, (series work pieces tests s₂).2) := by
  have hseries := series_cons_of_takes pieces hsilent h (hc.takes _) tests
  rw [withConsole_self] at hseries
  exact ⟨s₁.withConsole (s.console.taking _), rfl, rfl, hc.taking _, rfl, hseries⟩

/-- A sink that never fails holds the texts of all reported results, one after the other. -/
theorem series_written (pieces : Test → β → List String) (hsilent : Silent work)
    (tests : List Test) {s : Session σ} (hc : s.console.Unfailing) :
    (series work pieces tests s).2.console.written =
      s.console.written ++
        (texts pieces tests (series work pieces tests s).1.reported).flatten := by
  induction tests generalizing s with
  | nil => simp [series, texts]
  | cons test tests ih =>
      rcases h : work test s with ⟨e | result, s₁⟩
      · have hconsole := hsilent.console test s
        rw [h] at hconsole
        rw [series_cons_of_error h, hconsole]
        simp [texts]
      · obtain ⟨s₂, -, -, hc₂, hwritten, hseries⟩ :=
          series_cons_of_unfailing pieces hsilent hc h tests
        rw [hseries]
        simp only
        rw [ih hc₂, hwritten]
        simp [texts]

/-! ### Steady work -/

/-- Work that makes the same number of calls for every test that has a result, and that takes
nothing back. -/
structure Steady (host : Host σ) (perTest : Nat) (work : Work σ β) : Prop where
  silent : Silent work
  /-- The calls that were made before stay. -/
  grows : ∀ {test s r s₁}, work test s = (r, s₁) → s.calls <+: s₁.calls
  /-- A test that has a result has made its calls, and the world has seen nothing else. -/
  made : ∀ {test s result s₁}, work test s = (.ok result, s₁) →
    ∃ calls : List Call, calls.length = perTest ∧ s₁.calls = s.calls ++ calls ∧
      s₁.world = host.after calls s.world

/-- A series takes no call back. -/
theorem Steady.calls_prefix {host : Host σ} {perTest : Nat} (h : Steady host perTest work)
    (pieces : Test → β → List String) (tests : List Test) (s : Session σ) :
    s.calls <+: (series work pieces tests s).2.calls := by
  induction tests generalizing s with
  | nil => exact List.prefix_refl _
  | cons test tests ih =>
      rcases hwork : work test s with ⟨e | result, s₁⟩
      all_goals
        have hgrows := h.grows hwork
      · rw [series_cons_of_error hwork]
        exact hgrows
      · rcases hprint : s₁.console.print (pieces test result) with ⟨cause | _, c⟩
        · rw [series_cons_of_unreported hwork hprint]
          exact hgrows
        · rw [series_cons_of_reported hwork hprint]
          exact hgrows.trans (ih (s₁.withConsole c))

end Session

end Assay
