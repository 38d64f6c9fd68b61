import Assay.Manifest
import Assay.Proofs.Golden.Chronicle
import Assay.Proofs.Text.Utf8

/-!
# Reading a report back

Every verdict of a golden run has a line of its own, and the mark in front of the name tells which
it is. So the names and verdicts can be read off the output, whatever the names are, as long as none
of them holds a newline: a name that itself begins with a mark stands behind another one.

* `readReport contents` — the findings that were reported, read off what was written.
* `readReport_eq_some_iff` — it reads exactly what is written of names without newlines.
* `Manifest.newline_not_mem_of_mem_parse` — no name that is read from a list holds a newline.
* `report_is_read_back` — both, for the reporter and for runs over tests from lists.
-/

namespace Assay

variable {σ : Type}

namespace Golden

/-- What a golden run has to report of a test. -/
abbrev Finding := Test × Verdict

/-- The line of a finding, without the newline behind it. -/
def lineOf (f : Finding) : List Char := f.2.label.toList ++ ' ' :: f.1.id.toList

/-- What is written of findings. -/
def reportOf (findings : List Finding) : Bytes := findings.flatMap fun f => verdictText f.1 f.2

/-! ### The reader -/

/-- Reads a line: the verdict that its mark tells, and the name behind the mark. -/
def readLine : List Char → Option Finding
  | 'O' :: 'K' :: ':' :: ' ' :: name => some (⟨String.ofList name⟩, .pass)
  | 'F' :: 'A' :: 'I' :: 'L' :: ':' :: ' ' :: name => some (⟨String.ofList name⟩, .fail)
  | _ => none

/-- Reads a report: every line of it, if there is nothing behind the last one. -/
def readReport (contents : Bytes) : Option (List Finding) :=
  match Text.Utf8.decode? contents with
  | none => none
  | some text =>
    let pieces := Text.split '\n' text
    if pieces.getLast? = some [] then pieces.dropLast.mapM readLine else none

/-! ### Lines -/

/-- The line of a test that passed, in characters. -/
theorem lineOf_pass (test : Test) :
    lineOf (test, .pass) = 'O' :: 'K' :: ':' :: ' ' :: test.id.toList := by
  have hlabel : Verdict.pass.label.toList = ['O', 'K', ':'] := by decide
  rw [lineOf, hlabel]
  rfl

/-- The line of a test that failed, in characters. -/
theorem lineOf_fail (test : Test) :
    lineOf (test, .fail) = 'F' :: 'A' :: 'I' :: 'L' :: ':' :: ' ' :: test.id.toList := by
  have hlabel : Verdict.fail.label.toList = ['F', 'A', 'I', 'L', ':'] := by decide
  rw [lineOf, hlabel]
  rfl

/-- A line is read as a finding iff it is the line of the finding. -/
theorem readLine_eq_some_iff {line : List Char} {f : Finding} :
    readLine line = some f ↔ line = lineOf f := by
  constructor
  · intro h
    unfold readLine at h
    split at h
    · cases h
      rw [lineOf_pass, String.toList_ofList]
    · cases h
      rw [lineOf_fail, String.toList_ofList]
    · cases h
  · rintro rfl
    obtain ⟨test, v⟩ := f
    cases v with
    | pass => rw [lineOf_pass, readLine, String.ofList_toList]
    | fail => rw [lineOf_fail, readLine, String.ofList_toList]

/-- Only the name can bring a newline into a line. -/
theorem newline_mem_lineOf_iff {f : Finding} : '\n' ∈ lineOf f ↔ '\n' ∈ f.1.id.toList := by
  have hlabel : '\n' ∉ f.2.label.toList := by
    cases f.2 <;> decide
  have hspace : '\n' ≠ ' ' := by decide
  unfold lineOf
  rw [List.mem_append, List.mem_cons]
  constructor
  · rintro (h | h | h)
    · exact absurd h hlabel
    · exact absurd h hspace
    · exact h
  · intro h
    exact .inr (.inr h)

/-- Lines are read as findings iff they are the lines of the findings. -/
theorem mapM_readLine_eq_some_iff {lines : List (List Char)} {findings : List Finding} :
    lines.mapM readLine = some findings ↔ lines = findings.map lineOf := by
  induction lines generalizing findings with
  | nil => cases findings <;> simp
  | cons line lines ih =>
    rw [List.mapM_cons]
    cases findings with
    | nil => simp [Option.bind_eq_some_iff]
    | cons f findings =>
      simp only [Option.bind_eq_bind, Option.bind_eq_some_iff, Option.pure_def, Option.some.injEq,
        List.cons.injEq, List.map_cons, readLine_eq_some_iff, ih]
      constructor
      · rintro ⟨f', hline, findings', hlines, rfl, rfl⟩
        exact ⟨hline, hlines⟩
      · rintro ⟨hline, hlines⟩
        exact ⟨f, hline, findings, hlines, rfl, rfl⟩

/-! ### Reports -/

/-- The text of a finding is its line with a newline. -/
theorem verdictText_eq (f : Finding) :
    verdictText f.1 f.2 = Text.Utf8.encode (lineOf f ++ ['\n']) := by
  have hpass : "OK: ".toList = ['O', 'K', ':', ' '] := by decide
  have hfail : "FAIL: ".toList = ['F', 'A', 'I', 'L', ':', ' '] := by decide
  have hnewline : "\n".toList = ['\n'] := by decide
  obtain ⟨test, v⟩ := f
  cases v with
  | pass =>
    rw [lineOf_pass, verdictText, bytesOf, String.toList_append, String.toList_append, hpass,
      hnewline]
    rfl
  | fail =>
    rw [lineOf_fail, verdictText, bytesOf, String.toList_append, String.toList_append, hfail,
      hnewline]
    rfl

/-- A report is the encoding of its lines with a newline behind each. -/
theorem reportOf_eq (findings : List Finding) :
    reportOf findings = Text.Utf8.encode ((findings.map lineOf).flatMap (· ++ ['\n'])) := by
  unfold reportOf
  simp only [verdictText_eq]
  unfold Text.Utf8.encode
  rw [List.flatMap_map, List.flatMap_assoc]

/-- Names without newlines make lines without newlines, so a report is cut into these. -/
theorem split_reportOf {findings : List Finding} (h : ∀ f ∈ findings, '\n' ∉ f.1.id.toList) :
    ∃ text, Text.Utf8.decode? (reportOf findings) = some text ∧
      Text.split '\n' text = findings.map lineOf ++ [[]] := by
  refine ⟨_, Text.Utf8.decode?_eq_some_iff.mpr (reportOf_eq findings), ?_⟩
  apply Text.split_eq_append_nil_iff.mpr
  refine ⟨rfl, ?_⟩
  intro line hline
  obtain ⟨f, hf, rfl⟩ := List.mem_map.mp hline
  exact fun hnewline => h f hf (newline_mem_lineOf_iff.mp hnewline)

/-- What is read as findings is what is written of them, and no name holds a newline. -/
theorem readReport_eq_some_iff {contents : Bytes} {findings : List Finding} :
    readReport contents = some findings ↔
      contents = reportOf findings ∧ ∀ f ∈ findings, '\n' ∉ f.1.id.toList := by
  unfold readReport
  constructor
  · intro h
    split at h
    · cases h
    · next text hdecode =>
      rw [Option.ite_none_right_eq_some, mapM_readLine_eq_some_iff] at h
      obtain ⟨hlast, hread⟩ := h
      have hpieces : Text.split '\n' text = findings.map lineOf ++ [[]] := by
        obtain ⟨lines, hsplit⟩ := List.getLast?_eq_some_iff.mp hlast
        rw [hsplit, List.dropLast_concat] at hread
        rw [hsplit, hread]
      obtain ⟨htext, hno⟩ := Text.split_eq_append_nil_iff.mp hpieces
      refine ⟨?_, ?_⟩
      · rw [Text.Utf8.decode?_eq_some_iff.mp hdecode, htext, reportOf_eq]
      · intro f hf hnewline
        exact hno (lineOf f) (List.mem_map_of_mem hf) (newline_mem_lineOf_iff.mpr hnewline)
  · rintro ⟨rfl, hno⟩
    obtain ⟨text, hdecode, hpieces⟩ := split_reportOf hno
    rw [hdecode]
    simp only [hpieces, List.getLast?_concat, if_true, List.dropLast_concat]
    exact mapM_readLine_eq_some_iff.mpr rfl

end Golden

/-! ### Reporting findings -/

/-- Reports findings one after the other, whatever becomes of each report. -/
def Session.reportVerdicts : List Golden.Finding → Session σ → Session σ
  | [], s => s
  | f :: findings, s => reportVerdicts findings (s.reportVerdict f.1 f.2).2

/-- On a sink that never fails, every finding is written. -/
theorem Session.written_reportVerdicts (findings : List Golden.Finding) {s : Session σ}
    (hc : s.console.Unfailing) :
    (s.reportVerdicts findings).console.written =
      s.console.written ++ Golden.reportOf findings := by
  induction findings generalizing s with
  | nil => exact (List.append_nil _).symm
  | cons f findings ih =>
    have hprint : (s.reportVerdict f.1 f.2).2 =
        s.withConsole (s.console.taking (verdictText f.1 f.2)) := by
      rw [reportVerdict, print_eq, Sink.print_of_takes (hc.takes _), text_verdict_pieces]
    rw [reportVerdicts, hprint, ih (hc.taking _)]
    unfold Golden.reportOf
    rw [List.flatMap_cons, ← List.append_assoc]
    rfl

/-! ### Names from lists -/

/-- No name that is read from a list holds a newline. -/
theorem Manifest.newline_not_mem_of_mem_parse {text : String} {test : Test}
    (h : test ∈ parse text) : '\n' ∉ test.id.toList := by
  obtain ⟨name, hname, rfl⟩ := List.mem_map.mp h
  obtain ⟨hentry, -⟩ := List.mem_filter.mp hname
  obtain ⟨piece, hpiece, rfl⟩ := List.mem_map.mp hentry
  rw [String.toList_ofList]
  intro hnewline
  exact Text.not_mem_of_mem_split hpiece (Text.mem_of_mem_trim hnewline)

namespace Golden

/-- **Golden output can be read back.**

- Findings whose names hold no newline, reported one after the other, are read off what was written,
  whatever else the names hold; so such findings with the same output are the same.
- No name that is read from a list, whatever the list's text, holds a newline.
- A complete run over tests from lists, on any host and any sink, has printed exactly one line for
  each test: cut at its newlines, the output is these lines and nothing behind them. The `i`-th line
  names the `i`-th test and the verdict on it, which is the decision of its trial, and the tally
  counts these verdicts. -/
theorem report_is_read_back (host : Host σ) (config : Config) (s : Session σ) :
    (∀ (world : σ) (findings : List Finding), (∀ f ∈ findings, '\n' ∉ f.1.id.toList) →
      readReport ((Session.start world .unlimited).reportVerdicts findings).console.written =
        some findings) ∧
    (∀ (world : σ) (findings findings' : List Finding), (∀ f ∈ findings, '\n' ∉ f.1.id.toList) →
      (∀ f ∈ findings', '\n' ∉ f.1.id.toList) →
      (((Session.start world .unlimited).reportVerdicts findings).console.written =
        ((Session.start world .unlimited).reportVerdicts findings').console.written ↔
      findings = findings')) ∧
    (∀ text, ∀ test ∈ Manifest.parse text, '\n' ∉ test.id.toList) ∧
    ∀ (tests : List Test) (tally : Tally), (∀ test ∈ tests, ∃ text, test ∈ Manifest.parse text) →
      (run host config tests s).1 = .ok tally →
      ∃ output text verdicts,
        (run host config tests s).2.console.written = s.console.written ++ output ∧
        verdicts.length = tests.length ∧
        readReport output = some (tests.zip verdicts) ∧
        Text.Utf8.decode? output = some text ∧
        Text.split '\n' text = (tests.zip verdicts).map lineOf ++ [[]] ∧
        (∀ i v, verdicts[i]? = some v →
          ∃ x, TrialAt host config tests s.world i x ∧ x.Decides host v) ∧
        tally = ⟨verdicts.count .pass, verdicts.count .fail⟩ := by
  have hread : ∀ (world : σ) (findings : List Finding), (∀ f ∈ findings, '\n' ∉ f.1.id.toList) →
      readReport ((Session.start world .unlimited).reportVerdicts findings).console.written =
        some findings := by
    intro world findings hno
    rw [Session.written_reportVerdicts findings Sink.unlimited_unfailing]
    exact readReport_eq_some_iff.mpr ⟨rfl, hno⟩
  refine ⟨hread, ?_, fun _ _ => Manifest.newline_not_mem_of_mem_parse, ?_⟩
  · intro world findings findings' hno hno'
    constructor
    · intro hsame
      have h := hread world findings hno
      rw [hsame, hread world findings' hno'] at h
      exact (Option.some.inj h).symm
    · rintro rfl
      rfl
  · intro tests tally hlists hok
    obtain ⟨n, exchanges, own, verdicts, hstory⟩ := run_story host config tests s
    obtain ⟨hlength, hpassed, hfailed⟩ := hstory.tally tally hok
    have hwritten := hstory.written fun cause hreport => by
      rw [hok] at hreport
      cases hreport
    have houtput : (List.zipWith verdictText tests verdicts).flatten =
        reportOf (tests.zip verdicts) := by
      unfold reportOf
      rw [List.flatMap_def, List.zip, List.map_zipWith]
    have hno : ∀ f ∈ tests.zip verdicts, '\n' ∉ f.1.id.toList := by
      intro f hf
      obtain ⟨text, htest⟩ := hlists f.1 (List.of_mem_zip hf).1
      exact Manifest.newline_not_mem_of_mem_parse htest
    obtain ⟨text, hdecode, hpieces⟩ := split_reportOf hno
    refine ⟨_, text, verdicts, hwritten, hlength, ?_, ?_, hpieces, hstory.decided, ?_⟩
    · exact readReport_eq_some_iff.mpr ⟨houtput, hno⟩
    · rw [houtput, hdecode]
    · rw [← hpassed, ← hfailed]

/-- Names that begin with a mark, and the empty name, are read back as they are. -/
theorem names_with_marks_are_read_back :
    readReport ((Session.start 0 .unlimited).reportVerdicts
        [(⟨"OK: x"⟩, .fail), (⟨""⟩, .pass)]).console.written =
      some [(⟨"OK: x"⟩, .fail), (⟨""⟩, .pass)] ∧
    ((Session.start 0 .unlimited).reportVerdicts [(⟨"OK: x"⟩, .fail)]).console.written ≠
      ((Session.start 0 .unlimited).reportVerdicts [(⟨"FAIL: x"⟩, .pass)]).console.written ∧
    (∀ test ∈ Manifest.parse " OK: x\r\n#y\nFAIL: \rz", '\n' ∉ test.id.toList) ∧
    ∃ verdicts, verdicts.length = 2 ∧
      readReport (run killer .default [⟨"OK: x"⟩, ⟨"FAIL: \rz"⟩]
          (.start 3 .unlimited)).2.console.written =
        some ([⟨"OK: x"⟩, ⟨"FAIL: \rz"⟩].zip verdicts) := by
  obtain ⟨hread, hsame, hno, hrun⟩ := report_is_read_back killer .default (.start 3 .unlimited)
  have hlists : ∀ test ∈ [⟨"OK: x"⟩, ⟨"FAIL: \rz"⟩],
      ∃ text, test ∈ Manifest.parse text := by
    intro test htest
    refine ⟨" OK: x\r\n#y\nFAIL: \rz", ?_⟩
    revert test
    decide
  obtain ⟨output, -, verdicts, hwritten, hlength, hreport, -⟩ := hrun _ ⟨2, 0⟩ hlists rfl
  refine ⟨?_, ?_, hno _, verdicts, hlength, ?_⟩
  · exact hread 0 _ (by decide)
  · have hnames : [((⟨"OK: x"⟩, .fail) : Finding)] ≠ [(⟨"FAIL: x"⟩, .pass)] := by decide
    intro hwritten
    exact hnames ((hsame 0 _ _ (by decide) (by decide)).mp hwritten)
  · rw [hwritten]
    exact hreport

end Golden

end Assay
