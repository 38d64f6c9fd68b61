import Assay.Proofs.Series

/-!
# What a series leaves behind

Working on a test leaves an *episode* behind: a result or an error, the calls it made with the
replies to them, and what it told the log. A series leaves a *chronicle*: the episodes of the tests
it came to, one after the other, and the reports of those with a result. It ends behind the last
test, at an error, or at a report that the console does not take, and in that case the last result
was found and told but not reported.

* `Session.told` — the log without what the host tells of children.
* `Unreported text cause line` — what is in a sink of a text that was not taken, and with which
  error.
* `Chronicle` — how a series goes, on any sink; it is determined by the episodes up to where the
  series ends.
* `Session.series_chronicle` — series go that way.
* `Chronicle.reached`, `Chronicle.filter_entries`, `Chronicle.written_eq`, `Chronicle.cut` — what
  the parts of a chronicle have to do with each other.
-/

namespace Assay

variable {σ β : Type}

/-! ### The log of a run -/

namespace Log.Entry

/-- Whether an entry is the program's own, and not one by which the host tells of a child. -/
def isOwn (e : Log.Entry) : Bool :=
  match e.event with
  | .childExited .. => false
  | _ => true

end Log.Entry

namespace Session

/-- What was told, but for what the host tells of children. -/
def told (s : Session σ) : List Log.Entry := s.log.filter Log.Entry.isOwn

/-- Another console changes nothing of what was told. -/
@[simp] theorem withConsole_told (s : Session σ) (c : Sink) : (s.withConsole c).told = s.told := rfl

/-- An entry of the program's own is added to what was told. -/
theorem tell_told {within : List Span} {e : Event} (h : Log.Entry.isOwn ⟨e, within⟩ = true)
    (s : Session σ) : (s.tell within e).told = s.told ++ [⟨e, within⟩] := by
  unfold tell told
  rw [List.filter_append, List.filter_cons_of_pos h, List.filter_nil]

/-- A launch itself tells nothing but of the child. -/
theorem launch_told (host : Host σ) (within : List Span) (call : Call) (s : Session σ) :
    (s.launch host within call).2.told = s.told := by
  unfold launch
  rcases host.launch call s.world with ⟨cause | output, world⟩
  · rfl
  · rcases host.logsExits with _ | _
    · rfl
    · change (s.log ++ [_]).filter Log.Entry.isOwn = s.log.filter Log.Entry.isOwn
      rw [List.filter_append, List.filter_cons_of_neg (by simp [Log.Entry.isOwn]),
        List.filter_nil, List.append_nil]

end Session

/-! ### Texts that are not taken -/

/-- What is in a sink of a text that could not be reported, and with which error: a proper beginning
of it if the sink was full, all of it if the flush behind it was refused. -/
inductive Unreported (text : Bytes) : IoError → Bytes → Prop
  | cutShort {line : Bytes} (beginning : line <+: text) (proper : line ≠ text) :
      Unreported text (.custom .brokenPipe "sink full") line
  | unflushed : Unreported text (.custom .other "flush refused") text

/-- What a sink accepts of a text that it does not take, and the error with which it refuses it. -/
theorem Sink.unreported (s : Sink) (bs : Bytes) :
    Unreported bs (s.refusal bs) (s.accepted bs) := by
  unfold refusal
  by_cases hfits : s.Fits bs
  · rw [if_pos hfits, accepted_of_fits hfits]
    exact .unflushed
  · obtain ⟨limit, hlimit, hlt⟩ := not_fits_iff.mp hfits
    have haccepted : s.accepted bs = bs.take (limit - s.written.length) := by
      unfold accepted
      rw [hlimit]
    rw [if_neg hfits, haccepted]
    refine .cutShort (List.take_prefix _ _) fun hall => ?_
    have hlength := congrArg List.length hall
    rw [List.length_take] at hlength
    omega

/-! ### Chronicles -/

/-- What working on a test leaves behind. -/
structure Episode (β : Type) where
  test : Test
  result : Except RunError β
  /-- The calls, each with its reply. -/
  exchanges : List (Call × Except LaunchError Output)
  /-- What is told. -/
  entries : List Log.Entry

/-- How a series goes for which episodes are in store: the results it finds, the error it stops
with, the calls and replies, what is told and what is written. -/
inductive Chronicle (pieces : Test → β → List String) :
    List (Episode β) → List β → Option RunError → List (Call × Except LaunchError Output) →
      List Log.Entry → Bytes → Prop
  | done : Chronicle pieces [] [] none [] [] []
  | stopped {x : Episode β} {xs : List (Episode β)} {e : RunError} (error : x.result = .error e) :
      Chronicle pieces (x :: xs) [] (some e) x.exchanges x.entries []
  | unreported {x : Episode β} {xs : List (Episode β)} {r : β} {cause : IoError} {line : Bytes}
      (found : x.result = .ok r) (text : Unreported (Sink.text (pieces x.test r)) cause line) :
      Chronicle pieces (x :: xs) [r] (some (.report cause)) x.exchanges x.entries line
  | reported {x : Episode β} {xs : List (Episode β)} {r : β} {found : List β}
      {stop : Option RunError} {exchanges : List (Call × Except LaunchError Output)}
      {entries : List Log.Entry} {written : Bytes} (result : x.result = .ok r)
      (rest : Chronicle pieces xs found stop exchanges entries written) :
      Chronicle pieces (x :: xs) (r :: found) stop (x.exchanges ++ exchanges)
        (x.entries ++ entries) (Sink.text (pieces x.test r) ++ written)

namespace Chronicle

variable {pieces : Test → β → List String} {xs : List (Episode β)} {found : List β}
  {stop : Option RunError} {exchanges : List (Call × Except LaunchError Output)}
  {entries : List Log.Entry} {written : Bytes}

/-- A chronicle consists of the episodes of the first tests. -/
theorem reached (h : Chronicle pieces xs found stop exchanges entries written) :
    ∃ n, entries = (xs.take n).flatMap Episode.entries ∧
      exchanges = (xs.take n).flatMap Episode.exchanges ∧
      found = (xs.take n).flatMap fun x => x.result.toOption.toList := by
  induction h with
  | done => exact ⟨0, rfl, rfl, rfl⟩
  | @stopped x xs e error =>
    refine ⟨1, ?_, ?_, ?_⟩
    all_goals simp [error, Except.toOption]
  | @unreported x xs r _ _ result =>
    refine ⟨1, ?_, ?_, ?_⟩
    all_goals simp [result, Except.toOption]
  | @reported x xs r _ _ _ _ _ result rest ih =>
    obtain ⟨n, hentries, hexchanges, hfound⟩ := ih
    refine ⟨n + 1, ?_, ?_, ?_⟩
    · rw [List.take_succ_cons, List.flatMap_cons, hentries]
    · rw [List.take_succ_cons, List.flatMap_cons, hexchanges]
    · rw [List.take_succ_cons, List.flatMap_cons, ← hfound, result]
      rfl

/-- Every result that was found is that of its episode. -/
theorem result_of_found (h : Chronicle pieces xs found stop exchanges entries written) (i : Nat)
    (r : β) (hr : found[i]? = some r) : ∃ x, xs[i]? = some x ∧ x.result = .ok r := by
  induction h generalizing i with
  | done => cases hr
  | stopped => cases hr
  | @unreported x _ _ _ _ result =>
    rcases i with _ | i
    · cases hr
      exact ⟨x, rfl, result⟩
    · cases hr
  | @reported x _ _ _ _ _ _ _ result rest ih =>
    rcases i with _ | i
    · cases hr
      exact ⟨x, rfl, result⟩
    · exact ih i hr

/-- No more results are found than there are tests. -/
theorem length_found_le (h : Chronicle pieces xs found stop exchanges entries written) :
    found.length ≤ xs.length := by
  induction h with
  | done => exact Nat.le_refl 0
  | stopped => exact Nat.zero_le _
  | unreported => exact Nat.succ_le_succ (Nat.zero_le _)
  | reported result rest ih => exact Nat.succ_le_succ ih

/-- A series that is not stopped has a result for every test. -/
theorem length_found (h : Chronicle pieces xs found none exchanges entries written) :
    found.length = xs.length := by
  generalize hstop : none = stop at h
  induction h with
  | done => rfl
  | stopped => cases hstop
  | unreported => cases hstop
  | reported result rest ih => exact congrArg Nat.succ (ih hstop)

/-- Unless a report is what stopped the series, it is the episode after the results. -/
theorem error_of_stop (h : Chronicle pieces xs found stop exchanges entries written) {e : RunError}
    (hstop : stop = some e) (hreport : ∀ cause, e ≠ .report cause) :
    ∃ x, xs[found.length]? = some x ∧ x.result = .error e := by
  induction h with
  | done => cases hstop
  | @stopped x _ _ error =>
    cases hstop
    exact ⟨x, rfl, error⟩
  | @unreported _ _ _ cause =>
    cases hstop
    exact absurd rfl (hreport cause)
  | reported result rest ih => exact ih hstop

/-- Entries of which every result has one, and nothing else has any, tell of the results that were
found. -/
theorem filter_entries (h : Chronicle pieces xs found stop exchanges entries written)
    (p : Log.Entry → Bool) (tell : Test → β → Log.Entry)
    (hp : ∀ x ∈ xs, x.entries.filter p = x.result.toOption.toList.map (tell x.test)) :
    entries.filter p = List.zipWith tell (xs.map Episode.test) found := by
  induction h with
  | done => rfl
  | @stopped x xs e error =>
    rw [hp x List.mem_cons_self, error, List.zipWith_nil_right]
    rfl
  | @unreported x xs r _ _ result =>
    rw [hp x List.mem_cons_self, result, List.map_cons, List.zipWith_cons_cons,
      List.zipWith_nil_right]
    rfl
  | @reported x xs r _ _ _ _ _ result rest ih =>
    rw [List.filter_append, hp x List.mem_cons_self, result,
      ih fun y hy => hp y (List.mem_cons_of_mem x hy)]
    rfl

/-- Unless a report is what stopped the series, the texts of all results were written. -/
theorem written_eq (h : Chronicle pieces xs found stop exchanges entries written)
    (hstop : ∀ cause, stop ≠ some (.report cause)) :
    written = (Session.texts pieces (xs.map Episode.test) found).flatten := by
  induction h with
  | done => rfl
  | stopped => rw [Session.texts, List.zipWith_nil_right, List.flatten_nil]
  | @unreported _ _ _ cause => exact absurd rfl (hstop cause)
  | reported result rest ih =>
    rw [ih hstop]
    rfl

/-- If a report is what stopped the series, it is that of the last result, and the texts of the
others were written before it. -/
theorem cut (h : Chronicle pieces xs found stop exchanges entries written)
    (hwork : ∀ x ∈ xs, ∀ cause, x.result ≠ .error (.report cause)) {cause : IoError}
    (hstop : stop = some (.report cause)) :
    ∃ (reported : List β) (r : β) (test : Test) (line : Bytes), found = reported ++ [r] ∧
      (xs.map Episode.test)[reported.length]? = some test ∧
      Unreported (Sink.text (pieces test r)) cause line ∧
      written = (Session.texts pieces (xs.map Episode.test) reported).flatten ++ line := by
  induction h with
  | done => cases hstop
  | @stopped x xs e error =>
    cases hstop
    exact absurd error (hwork x List.mem_cons_self cause)
  | @unreported x xs r _ line result text =>
    cases hstop
    exact ⟨[], r, x.test, line, rfl, rfl, text, rfl⟩
  | @reported x xs r _ _ _ _ _ result rest ih =>
    obtain ⟨reported, r', test, line, rfl, htest, htext, rfl⟩ :=
      ih (fun y hy => hwork y (List.mem_cons_of_mem x hy)) hstop
    refine ⟨r :: reported, r', test, line, rfl, htest, htext, ?_⟩
    rw [← List.append_assoc]
    rfl

end Chronicle

/-! ### Series have chronicles -/

namespace Host

/-- The replies to calls in a row: those to the later ones come from the world that the earlier ones
left. -/
theorem replies_append (host : Host σ) (calls calls' : List Call) (world : σ) :
    host.replies (calls ++ calls') world =
      host.replies calls world ++ host.replies calls' (host.after calls world) := by
  induction calls generalizing world with
  | nil => rfl
  | cons call calls ih =>
    rw [List.cons_append, replies, replies, ih]
    rfl

end Host

namespace Session

/-- The episodes in store for tests, where `next` is the world that a test with a result leaves. -/
def episodes (episode : Test → σ → Episode β) (next : Test → σ → σ) :
    List Test → σ → List (Episode β)
  | [], _ => []
  | test :: tests, world =>
    episode test world :: episodes episode next tests (next test world)

/-- Each of the episodes in store is that of some test, begun in some world. -/
theorem mem_episodes {episode : Test → σ → Episode β} {next : Test → σ → σ} {tests : List Test}
    {world : σ} {x : Episode β} (h : x ∈ episodes episode next tests world) :
    ∃ test world', x = episode test world' := by
  induction tests generalizing world with
  | nil => cases h
  | cons test tests ih =>
    rcases List.mem_cons.mp h with rfl | h
    · exact ⟨test, world, rfl⟩
    · exact ih h

/-- Work that leaves these episodes behind. -/
structure Leaves (host : Host σ) (episode : Test → σ → Episode β) (next : Test → σ → σ)
    (work : Work σ β) : Prop where
  silent : Silent work
  test : ∀ test world, (episode test world).test = test
  result : ∀ test s, (work test s).1 = (episode test s.world).result
  calls : ∀ test s,
    (work test s).2.calls = s.calls ++ (episode test s.world).exchanges.map Prod.fst
  told : ∀ test s, (work test s).2.told = s.told ++ (episode test s.world).entries
  replies : ∀ test world, host.replies ((episode test world).exchanges.map Prod.fst) world =
    (episode test world).exchanges.map Prod.snd
  next : ∀ {test s r}, (episode test s.world).result = .ok r →
    (work test s).2.world = next test s.world ∧
      host.after ((episode test s.world).exchanges.map Prod.fst) s.world = next test s.world

variable {host : Host σ} {episode : Test → σ → Episode β} {next : Test → σ → σ} {work : Work σ β}

/-- The episodes in store are of the tests, in order. -/
theorem Leaves.map_test (h : Leaves host episode next work) (tests : List Test) (world : σ) :
    (episodes episode next tests world).map Episode.test = tests := by
  induction tests generalizing world with
  | nil => rfl
  | cons test tests ih => rw [episodes, List.map_cons, h.test, ih]

/-- A series and its chronicle: what it found, the calls and replies, what it told and wrote. -/
structure HasChronicle (host : Host σ) (pieces : Test → β → List String) (xs : List (Episode β))
    (s : Session σ) (left : Course β × Session σ) (found : List β)
    (exchanges : List (Call × Except LaunchError Output)) (entries : List Log.Entry)
    (written : Bytes) : Prop where
  chronicle : Chronicle pieces xs found left.1.stop exchanges entries written
  /-- Without a stop, everything that was found was reported. -/
  reported : left.1.stop = none → left.1.reported = found
  calls : left.2.calls = s.calls ++ exchanges.map Prod.fst
  replies : host.replies (exchanges.map Prod.fst) s.world = exchanges.map Prod.snd
  told : left.2.told = s.told ++ entries
  written : left.2.console.written = s.console.written ++ written

/-- On any sink, a series of work that leaves episodes behind has a chronicle of them. -/
theorem series_chronicle (hwork : Leaves host episode next work)
    (pieces : Test → β → List String) (tests : List Test) (s : Session σ) :
    ∃ found exchanges entries written,
      HasChronicle host pieces (episodes episode next tests s.world) s (series work pieces tests s)
        found exchanges entries written := by
  induction tests generalizing s with
  | nil =>
    refine ⟨[], [], [], [], .done, fun _ => rfl, ?_, rfl, ?_, ?_⟩
    all_goals exact (List.append_nil _).symm
  | cons test tests ih =>
    have hresult := hwork.result test s
    have hcalls := hwork.calls test s
    have htold := hwork.told test s
    have hconsole := hwork.silent.console test s
    have htest := hwork.test test s.world
    rcases h : work test s with ⟨e | r, s₁⟩
    all_goals
      rw [h] at hresult hcalls htold hconsole
      simp only at hresult hcalls htold hconsole
      rw [episodes]
    · -- the work itself stops the series
      rw [series_cons_of_error h]
      refine ⟨_, _, _, _, .stopped hresult.symm, fun hnone => ?_, hcalls, hwork.replies _ _, htold,
        ?_⟩
      · cases hnone
      · rw [hconsole, List.append_nil]
    · obtain ⟨hworld, hafter⟩ := hwork.next hresult.symm
      rw [h] at hworld
      simp only at hworld
      by_cases htakes : s₁.console.Takes (Sink.text (pieces test r))
      · -- the result is reported, and the rest has a chronicle
        rw [series_cons_of_reported h (Sink.print_of_takes htakes)]
        obtain ⟨found, exchanges, entries, written, hrest⟩ :=
          ih (s₁.withConsole (s₁.console.taking (Sink.text (pieces test r))))
        have hchronicle := hrest.chronicle
        have hreplies := hrest.replies
        rw [withConsole_world, hworld] at hchronicle hreplies
        refine ⟨_, _, _, _, .reported hresult.symm hchronicle, fun hnone => ?_, ?_, ?_, ?_, ?_⟩
        · exact congrArg _ (hrest.reported hnone)
        · rw [hrest.calls, withConsole_calls, hcalls, List.map_append, List.append_assoc]
        · rw [List.map_append, Host.replies_append, hwork.replies, hafter, hreplies,
            List.map_append]
        · rw [hrest.told, withConsole_told, htold, List.append_assoc]
        · rw [hrest.written, htest, ← List.append_assoc, ← hconsole]
          rfl
      · -- the result is not reported
        obtain ⟨c, hprint, hwritten⟩ := Sink.print_of_not_takes htakes
        rw [series_cons_of_unreported h hprint]
        have htext : Unreported (Sink.text (pieces (episode test s.world).test r))
            (s₁.console.refusal (Sink.text (pieces test r)))
            (s₁.console.accepted (Sink.text (pieces test r))) := by
          rw [htest]
          exact Sink.unreported _ _
        refine ⟨_, _, _, _, .unreported hresult.symm htext, fun hnone => ?_, hcalls,
          hwork.replies _ _, htold, ?_⟩
        · cases hnone
        · rw [withConsole_console, hwritten, hconsole]

/-! ### Runs that end as such series -/

namespace HasChronicle

variable {γ : Type} {pieces : Test → β → List String} {xs : List (Episode β)} {s : Session σ}
  {left : Course β × Session σ} {found : List β}
  {exchanges : List (Call × Except LaunchError Output)} {entries : List Log.Entry}
  {written : Bytes} {f : List β → γ} {run : Except RunError γ × Session σ}

/-- A complete run has found a result for every test, and its value is read off them. -/
theorem of_ok (h : HasChronicle host pieces xs s left found exchanges entries written)
    (hends : EndsAs f run left) {v : γ} (hrun : run.1 = .ok v) :
    found.length = xs.length ∧ f found = v := by
  rw [hends.result, Course.result_eq_ok_iff] at hrun
  obtain ⟨hstop, hv⟩ := hrun
  have hchronicle := h.chronicle
  rw [hstop] at hchronicle
  rw [h.reported hstop] at hv
  exact ⟨hchronicle.length_found, hv⟩

/-- A run that is stopped, but not by a report, is stopped by the next episode. -/
theorem of_error (h : HasChronicle host pieces xs s left found exchanges entries written)
    (hends : EndsAs f run left) {e : RunError} (hrun : run.1 = .error e)
    (hreport : ∀ cause, e ≠ .report cause) :
    ∃ x, xs[found.length]? = some x ∧ x.result = .error e := by
  rw [hends.result, Course.result_eq_error_iff] at hrun
  exact h.chronicle.error_of_stop hrun hreport

/-- Unless a report stopped it, a run has printed all that it found. -/
theorem of_not_report (h : HasChronicle host pieces xs s left found exchanges entries written)
    (hends : EndsAs f run left) (hrun : ∀ cause, run.1 ≠ .error (.report cause)) :
    run.2.console.written =
      s.console.written ++ (texts pieces (xs.map Episode.test) found).flatten := by
  have hwritten := h.chronicle.written_eq fun cause hstop =>
    hrun cause (hends.result.trans (Course.result_of_stop hstop f))
  rw [hends.console, ← hwritten]
  exact h.written

/-- A run that a report stopped has printed all that it found but for the last. -/
theorem of_report (h : HasChronicle host pieces xs s left found exchanges entries written)
    (hends : EndsAs f run left) (hwork : ∀ x ∈ xs, ∀ cause, x.result ≠ .error (.report cause))
    {cause : IoError} (hrun : run.1 = .error (.report cause)) :
    ∃ (reported : List β) (r : β) (test : Test) (line : Bytes), found = reported ++ [r] ∧
      (xs.map Episode.test)[reported.length]? = some test ∧
      Unreported (Sink.text (pieces test r)) cause line ∧
      run.2.console.written =
        s.console.written ++ (texts pieces (xs.map Episode.test) reported).flatten ++ line := by
  rw [hends.result, Course.result_eq_error_iff] at hrun
  obtain ⟨reported, r, test, line, hfound, htest, htext, hwritten⟩ := h.chronicle.cut hwork hrun
  refine ⟨reported, r, test, line, hfound, htest, htext, ?_⟩
  rw [hends.console, List.append_assoc, ← hwritten]
  exact h.written

end HasChronicle

end Session

end Assay
