import Assay.Proofs.Series

/-!
# Reporting on after errors

A console may be given one report after the other, and be kept in use whatever becomes of each. Its
sink then holds a beginning of all the texts in a row, as much of them as there is room for: the
limit may cut one report anywhere, and nothing of the later ones is written. A flush that is refused
leaves no trace in what follows.

* `Report`, `Session.report`, `Session.reportEach` — reports of either kind, and handing them on.
* `Sink.afterReports`, `Sink.resultOfLast` — what a sink is after reports, and what became of the
  last of them, in terms of the texts alone.
* `Session.report_afterReports` — one report keeps a sink in this form.
* `reporting_goes_on` — the whole sequence, and what each report adds.
-/

namespace Assay

variable {σ : Type}

/-- What a console is given to report. -/
inductive Report where
  | verdict (test : Test) (verdict : Verdict)
  | outcome (outcome : Outcome)
deriving DecidableEq, Repr

namespace Report

/-- The bytes of a report. -/
def text : Report → Bytes
  | verdict test v => verdictText test v
  | outcome o => outcomeText o

/-- The pieces in which a report is written. -/
def pieces : Report → List String
  | verdict test v => v.pieces test
  | outcome o => o.pieces

/-- The pieces of a report make its text. -/
theorem text_pieces (r : Report) : Sink.text r.pieces = r.text := by
  cases r with
  | verdict test v => exact text_verdict_pieces test v
  | outcome o => exact text_outcome_pieces o

/-- No report is empty: each begins with a mark. -/
theorem text_ne_nil (r : Report) : r.text ≠ [] := by
  have marked {mark rest : String} (h : bytesOf mark ≠ []) : bytesOf (mark ++ rest) ≠ [] := by
    rw [bytesOf_append]
    exact List.append_ne_nil_of_left_ne_nil h _
  rcases r with ⟨test, _ | _⟩ | (_ | _ | _)
  · exact marked (marked (by decide))
  · exact marked (marked (by decide))
  · exact marked (marked (marked (marked (marked (by decide)))))
  · exact marked (marked (by decide))
  · decide

end Report

/-- The bytes of reports in a row. -/
def reportsText (reports : List Report) : Bytes := reports.flatMap Report.text

/-- One more report adds its text at the end. -/
theorem reportsText_concat (reports : List Report) (r : Report) :
    reportsText (reports ++ [r]) = reportsText reports ++ r.text := by
  unfold reportsText
  rw [List.flatMap_append, List.flatMap_singleton]

namespace Session

/-- Reports something to the console. -/
def report : Report → Session σ → Except IoError Unit × Session σ
  | .verdict test v, s => s.reportVerdict test v
  | .outcome o, s => s.reportOutcome o

/-- Reports things one after the other, going on after errors: what becomes of each report, and the
session it leaves. -/
def reportEach : List Report → Session σ → List (Except IoError Unit × Session σ)
  | [], _ => []
  | r :: reports, s => s.report r :: reportEach reports (s.report r).2

/-- A report is printed to the console, and changes nothing else. -/
theorem report_eq (s : Session σ) (r : Report) :
    s.report r = ((s.console.print r.pieces).1, s.withConsole (s.console.print r.pieces).2) := by
  cases r <;> rfl

end Session

namespace Sink

/-- How many of some reports end within a limit, counted from the first. -/
def countWithin (limit : Nat) (reports : List Report) : Nat :=
  (List.range reports.length).countP fun i =>
    (reportsText (reports.take (i + 1))).length ≤ limit

/-- A sink with room for so many bytes, after reports: it holds what they begin with, and was
flushed once for each report that was written to its end. -/
def afterReports (limit : Nat) (refusedFlush : Option Nat) (reports : List Report) : Sink where
  written := (reportsText reports).take limit
  limit := some limit
  flushes := countWithin limit reports
  refusedFlush := refusedFlush

/-- What becomes of the last of some reports. -/
def resultOfLast (limit : Nat) (refusedFlush : Option Nat) (reports : List Report) :
    Except IoError Unit :=
  if limit < (reportsText reports).length then .error full
  else if refusedFlush = some (countWithin limit reports) then .error refused
  else .ok ()

variable {limit : Nat} {refusedFlush : Option Nat} {reports : List Report} {r : Report}

/-- One more report counts iff all of them together end within the limit. -/
theorem countWithin_concat (limit : Nat) (reports : List Report) (r : Report) :
    countWithin limit (reports ++ [r]) =
      countWithin limit reports +
        if (reportsText (reports ++ [r])).length ≤ limit then 1 else 0 := by
  have hbefore : (List.range reports.length).countP (fun i =>
      (reportsText ((reports ++ [r]).take (i + 1))).length ≤ limit) =
        countWithin limit reports := by
    apply List.countP_congr
    intro i hi
    rw [List.take_append_of_le_length (List.mem_range.mp hi)]
  rw [countWithin, List.length_append, List.length_singleton, List.range_succ, List.countP_append,
    hbefore, List.countP_singleton, List.take_of_length_le (by simp)]
  simp only [decide_eq_true_eq]

/-- There is room for one more report iff all of them together end within the limit. -/
theorem fits_afterReports_iff :
    (afterReports limit refusedFlush reports).Fits r.text ↔
      (reportsText (reports ++ [r])).length ≤ limit := by
  have hpos : 0 < r.text.length := List.length_pos_iff.mpr r.text_ne_nil
  rw [reportsText_concat, List.length_append]
  constructor
  · intro h
    have := h limit rfl
    simp only [afterReports, List.length_take] at this
    omega
  · rintro h limit' hlimit
    obtain rfl : limit = limit' := Option.some.inj hlimit
    simp only [afterReports, List.length_take]
    omega

/-- What is accepted of one more report: what lies within the limit. -/
theorem accepted_afterReports :
    (afterReports limit refusedFlush reports).accepted r.text =
      r.text.take (limit - (reportsText reports).length) := by
  simp only [accepted, afterReports, List.length_take]
  congr 1
  omega

/-- What is accepted of one more report lies within the limit, and is all that does. -/
theorem holding_accepted_afterReports :
    (afterReports limit refusedFlush reports).holding
        ((afterReports limit refusedFlush reports).accepted r.text) =
      { afterReports limit refusedFlush (reports ++ [r]) with
        flushes := countWithin limit reports } := by
  rw [accepted_afterReports]
  simp only [holding, afterReports, reportsText_concat, List.take_append]

/-- **One more report leaves a sink of the same form**, whatever becomes of it. -/
theorem print_afterReports :
    (afterReports limit refusedFlush reports).print r.pieces =
      (resultOfLast limit refusedFlush (reports ++ [r]),
        afterReports limit refusedFlush (reports ++ [r])) := by
  have hheld : (afterReports limit refusedFlush reports).holding
      ((afterReports limit refusedFlush reports).accepted r.text) = _ :=
    holding_accepted_afterReports
  by_cases h : (reportsText (reports ++ [r])).length ≤ limit
  · -- the report is written to its end, and its flush is the next one
    have hfits : (afterReports limit refusedFlush reports).Fits r.text :=
      fits_afterReports_iff.mpr h
    have hcount := countWithin_concat limit reports r
    rw [if_pos h] at hcount
    rw [accepted_of_fits hfits] at hheld
    rw [print_of_fits (by rwa [r.text_pieces]), r.text_pieces, hheld, resultOfLast,
      if_neg (Nat.not_lt.mpr h), hcount]
    simp only [flush, afterReports, hcount]
    split <;> rfl
  · -- the limit falls inside the report or in front of it, and the sink is not flushed
    have hfits : ¬ (afterReports limit refusedFlush reports).Fits r.text :=
      fun hfits => h (fits_afterReports_iff.mp hfits)
    have hcount := countWithin_concat limit reports r
    rw [if_neg h, Nat.add_zero] at hcount
    rw [print_of_not_fits (by rwa [r.text_pieces]), r.text_pieces, hheld, resultOfLast,
      if_pos (Nat.lt_of_not_le h), ← hcount]
    rfl

end Sink

namespace Session

variable {limit : Nat} {refusedFlush : Option Nat}

/-- One more report keeps the console in the form that the reports before it gave it. -/
theorem report_afterReports (s : Session σ) (before : List Report) (r : Report) :
    (s.withConsole (.afterReports limit refusedFlush before)).report r =
      (Sink.resultOfLast limit refusedFlush (before ++ [r]),
        s.withConsole (.afterReports limit refusedFlush (before ++ [r]))) := by
  rw [report_eq, withConsole_console, Sink.print_afterReports]
  rfl

/-- Reports that are handed on after others: each finds the sink in the form in which the one before
it left it. -/
theorem reportEach_afterReports (s : Session σ) (before reports : List Report) :
    (s.withConsole (.afterReports limit refusedFlush before)).reportEach reports =
      (List.range reports.length).map fun i =>
        (Sink.resultOfLast limit refusedFlush (before ++ reports.take (i + 1)),
          s.withConsole (.afterReports limit refusedFlush (before ++ reports.take (i + 1)))) := by
  induction reports generalizing before with
  | nil => rfl
  | cons r reports ih =>
    rw [reportEach, report_afterReports, ih, List.length_cons, List.range_succ_eq_map,
      List.map_cons, List.map_map]
    simp only [Function.comp_def, List.take_succ_cons, List.take_zero, List.append_assoc,
      List.singleton_append, Nat.succ_eq_add_one]

end Session

/-- **Reporting goes on after errors, and keeps its place.** Reports are handed one by one to a
console with room for `limit` bytes, of whose flushes one may be refused, and which is kept in use
whatever becomes of them. Each leaves the session as it was but for the sink.

- After each report the sink holds the first `limit` bytes of all texts so far, and it was flushed
  once for each report that ended within the limit. The report fails for want of room iff the texts
  so far exceed the limit; otherwise it fails iff its own flush is the one that is refused.
- So each report adds to what is written the beginning of its text that lies within the limit, and
  one flush if that is all of it; no byte is written twice, left out or moved, and what a refused
  flush changes is the result of its own report. -/
theorem reporting_goes_on (s : Session σ) (limit : Nat) (refusedFlush : Option Nat) :
    (∀ reports : List Report,
      (s.withConsole (.empty (some limit) refusedFlush)).reportEach reports =
        (List.range reports.length).map fun i =>
          (Sink.resultOfLast limit refusedFlush (reports.take (i + 1)),
            s.withConsole (.afterReports limit refusedFlush (reports.take (i + 1))))) ∧
    ∀ (before : List Report) (r : Report),
      (Sink.afterReports limit refusedFlush (before ++ [r])).written =
          (Sink.afterReports limit refusedFlush before).written ++
            r.text.take (limit - (reportsText before).length) ∧
        (Sink.afterReports limit refusedFlush (before ++ [r])).flushes =
          (Sink.afterReports limit refusedFlush before).flushes +
            if (reportsText (before ++ [r])).length ≤ limit then 1 else 0 := by
  have hempty : Sink.empty (some limit) refusedFlush = .afterReports limit refusedFlush [] := by
    simp [Sink.empty, Sink.afterReports, Sink.countWithin, reportsText]
  refine ⟨fun reports => ?_, fun before r => ⟨?_, Sink.countWithin_concat limit before r⟩⟩
  · rw [hempty, Session.reportEach_afterReports]
    rfl
  · simp only [Sink.afterReports, reportsText_concat, List.take_append]

/-- The limit falls behind the first report, whose flush is refused, and inside the second. -/
example :
    (((Session.start () (.empty (some 9) (some 1))).reportEach
        [.verdict ⟨"a"⟩ .pass, .outcome (.completed 0 "x"), .verdict ⟨"b"⟩ .fail]).map
      fun step => (step.1, step.2.console.written.length, step.2.console.flushes)) =
    [(.error Sink.refused, 6, 1), (.error Sink.full, 9, 1), (.error Sink.full, 9, 1)] :=
  rfl

end Assay
