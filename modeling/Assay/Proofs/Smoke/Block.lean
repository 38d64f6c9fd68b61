import Assay.Proofs.Smoke.Course
import Assay.Proofs.Text.Lossy

/-!
# The block of a smoke test

A smoke test is reported by a block of lines. The block carries what the child printed as text: the
parts that are no text are replaced, and the others stand as they are. And the block can be told
from that of every other outcome, whatever a child prints or an error says: the three kinds of block
begin differently, and an exit code ends with its line.

* `Session.written_reportOutcome`, `Smoke.written_of_run` — a block is what a report adds to a sink.
* `Output.stdoutText_of_reads` — an output is shown as the characters that it is made of, with one
  U+FFFD for each maximal invalid part.
* `Output.stdoutText_append` — text in an output is kept, whatever stands around it.
* `Output.bytesOf_stdoutText_iff` — an output is shown byte for byte iff it is text.
* `Smoke.valid_output_is_carried` — what a block carries of an output.
* `outcomeText_injective`, `Smoke.block_tells_outcome` — what can be told from a block.
-/

namespace Assay

variable {σ τ : Type}

/-! ### Blocks -/

/-- On a sink that never fails, a report adds its block. -/
theorem Session.written_reportOutcome {s : Session σ} (h : s.console.Unfailing) (o : Outcome) :
    (s.reportOutcome o).2.console.written = s.console.written ++ outcomeText o := by
  have htakes : s.console.Takes (Sink.text o.pieces) := h.takes _
  rw [reportOutcome, print_eq, Sink.print_of_takes htakes, text_outcome_pieces]
  rfl

/-- On a sink that never fails, a smoke run adds the blocks of the outcomes of all replies. -/
theorem Smoke.written_of_run {s : Session σ} (h : s.console.Unfailing) (host : Host σ)
    (config : Config) (tests : List Test) :
    (run host config tests s).1 =
        .ok ((host.replies (schedule config tests) s.world).map Outcome.ofLaunch) ∧
      (run host config tests s).2.console.written = s.console.written ++
        ((host.replies (schedule config tests) s.world).map
          fun reply => outcomeText (.ofLaunch reply)).flatten := by
  obtain ⟨hstop, hreported, -⟩ := course_completes host config tests s h
  rw [run_eq_course, course_written host config tests h, hreported, List.map_map]
  refine ⟨?_, rfl⟩
  rw [Course.result_of_completed hstop, hreported]
  rfl

/-- A smoke run of one test has one outcome, and writes its block. -/
theorem Smoke.written_of_single {s : Session σ} (h : s.console.Unfailing) (host : Host σ)
    (config : Config) (test : Test) :
    ∃ o, (run host config [test] s).1 = .ok [o] ∧
      (run host config [test] s).2.console.written = s.console.written ++ outcomeText o := by
  obtain ⟨hresult, hwritten⟩ := written_of_run h host config [test]
  refine ⟨_, hresult, hwritten.trans (congrArg (s.console.written ++ ·) ?_)⟩
  exact List.append_nil _

/-! ### What a block carries -/

/-- Texts with the same bytes are the same. -/
theorem bytesOf_injective {text text' : String} (h : bytesOf text = bytesOf text') :
    text = text' :=
  String.toList_injective (Text.Utf8.encode_injective h)

namespace Output

/-- However an output is cut into characters and maximal invalid parts, this is what is shown of it:
the characters, and one U+FFFD for each of those parts. -/
theorem stdoutText_of_reads (o : Output) {l : List (Option Char)}
    (h : Text.Utf8.Reads o.stdout l) : o.stdoutText = String.ofList (l.map (·.getD '\uFFFD')) := by
  rw [stdoutText, Text.Utf8.decodeLossy, Text.Utf8.reads_iff.mp h]
  rfl

/-- Text in an output is kept, and what stands on either side of it is read as if it stood alone. -/
theorem stdoutText_append (o : Output) {text : String} (h : text ≠ "") (before after : Bytes) :
    stdoutText { o with stdout := before ++ bytesOf text ++ after } =
      stdoutText { o with stdout := before } ++ text ++ stdoutText { o with stdout := after } := by
  have hlist : text.toList ≠ [] := fun hnil => h (String.toList_eq_nil_iff.mp hnil)
  unfold stdoutText bytesOf
  rw [List.append_assoc, Text.Utf8.decodeLossy_append hlist, ← String.toList_inj]
  simp

/-- An output that is text is shown as it is. -/
theorem stdoutText_bytesOf (o : Output) (text : String) :
    stdoutText { o with stdout := bytesOf text } = text := by
  unfold stdoutText bytesOf
  rw [Text.Utf8.decodeLossy_encode, String.ofList_toList]

/-- An output is shown byte for byte iff it is text. -/
theorem bytesOf_stdoutText_iff (o : Output) :
    bytesOf o.stdoutText = o.stdout ↔ ∃ text, o.stdout = bytesOf text := by
  constructor
  · intro h
    exact ⟨_, h.symm⟩
  · rintro ⟨text, h⟩
    have hshown := stdoutText_bytesOf o text
    rw [← h] at hshown
    rw [hshown, h]

end Output

/-- Every block is text. -/
theorem exists_text_of_outcomeText (o : Outcome) : ∃ text, outcomeText o = bytesOf text := by
  cases o <;> exact ⟨_, rfl⟩

/-- The block of a child that ran to its end carries the output itself iff this is text. -/
theorem outcomeText_completed_iff (o : Output) :
    outcomeText (.ofLaunch (.ok o)) =
        bytesOf ("code: " ++ Text.integer o.exitCode ++ "\n" ++ "stdout: ") ++ o.stdout ++
          bytesOf "\n" ↔
      ∃ text, o.stdout = bytesOf text := by
  rw [← o.bytesOf_stdoutText_iff, Outcome.ofLaunch, outcomeText, bytesOf_append, bytesOf_append]
  exact (List.append_left_inj _).trans (List.append_right_inj _)

/-- **Valid text in a child's output is never altered.**

- An output is cut in one way into characters and maximal invalid parts. It is shown as the
  characters, with one U+FFFD for each of those parts.
- Where a text that is not empty stands in an output, between any bytes whatever, it is shown as it
  is, and what stands on either side of it is shown as if it stood alone. An output that is text is
  shown as that text, also if it is empty.
- An output is shown byte for byte iff it is the encoding of a text.
- On a sink that never fails, a smoke run adds one block for each test. Every block is text. That of
  a child that ran to its end carries the child's output byte for byte, between the line of the exit
  code with the mark `stdout: ` and the last newline, iff this output is text. -/
theorem Smoke.valid_output_is_carried (host : Host σ) (config : Config) (tests : List Test)
    (s : Session σ) :
    (∀ o : Output, ∃ l : List (Option Char), (∀ l', Text.Utf8.Reads o.stdout l' ↔ l' = l) ∧
      o.stdoutText = String.ofList (l.map (·.getD '\uFFFD'))) ∧
    (∀ (o : Output) (before after : Bytes) (text : String), text ≠ "" →
      Output.stdoutText { o with stdout := before ++ bytesOf text ++ after } =
        Output.stdoutText { o with stdout := before } ++ text ++
          Output.stdoutText { o with stdout := after }) ∧
    (∀ (o : Output) (text : String),
      Output.stdoutText { o with stdout := bytesOf text } = text) ∧
    (∀ o : Output, bytesOf o.stdoutText = o.stdout ↔ ∃ text, o.stdout = bytesOf text) ∧
    (s.console.Unfailing → ∃ blocks : List Bytes,
      (run host config tests s).2.console.written = s.console.written ++ blocks.flatten ∧
      blocks.length = tests.length ∧ (∀ block ∈ blocks, ∃ text, block = bytesOf text) ∧
      ∀ (i : Nat) (o : Output),
        (host.replies (schedule config tests) s.world)[i]? = some (.ok o) →
          ∃ block, blocks[i]? = some block ∧
            (block = bytesOf ("code: " ++ Text.integer o.exitCode ++ "\n" ++ "stdout: ") ++
                o.stdout ++ bytesOf "\n" ↔
              ∃ text, o.stdout = bytesOf text)) := by
  refine ⟨fun o => ⟨_, fun l' => ?_, o.stdoutText_of_reads (Text.Utf8.reads_scan _)⟩,
    fun o before after text h => o.stdoutText_append h before after,
    Output.stdoutText_bytesOf, Output.bytesOf_stdoutText_iff, fun h => ?_⟩
  · rw [Text.Utf8.reads_iff, eq_comm]
  obtain ⟨-, hwritten⟩ := written_of_run h host config tests
  refine ⟨_, hwritten, ?_, ?_, ?_⟩
  · rw [List.length_map, Host.length_replies]
    exact List.length_map _
  · intro block hblock
    obtain ⟨reply, -, rfl⟩ := List.mem_map.mp hblock
    exact exists_text_of_outcomeText (.ofLaunch reply)
  · intro i o hreply
    refine ⟨_, ?_, outcomeText_completed_iff o⟩
    rw [List.getElem?_map, hreply]
    rfl

/-- A host whose programs print a character between the first bytes of one and the last of
another. -/
def Smoke.garbler : Host Unit where
  launch _ world := (.ok ⟨[0xE2, 0x82] ++ bytesOf "é" ++ [0xA9], [], 1⟩, world)
  readFile _ _ := .error .noEntry
  logsExits := false

/-- Of a garbled output the character is shown as it is, and the block does not carry the output
itself. -/
theorem Smoke.garbled_output_is_carried :
    "é" ≠ "" ∧
      Output.stdoutText ⟨[0xE2, 0x82] ++ bytesOf "é" ++ [0xA9], [], 1⟩ =
        Output.stdoutText ⟨[0xE2, 0x82], [], 1⟩ ++ "é" ++ Output.stdoutText ⟨[0xA9], [], 1⟩ ∧
      ∃ block text,
        (run garbler .default [⟨"t"⟩] (.start () .unlimited)).2.console.written = block ∧
        block = bytesOf text ∧
        block ≠ bytesOf "code: 1\nstdout: " ++ ([0xE2, 0x82] ++ bytesOf "é" ++ [0xA9]) ++
          bytesOf "\n" := by
  obtain ⟨-, hkept, -, hbytes, hrun⟩ :=
    valid_output_is_carried garbler .default [⟨"t"⟩] (.start () .unlimited)
  obtain ⟨blocks, hwritten, hlength, htext, hblocks⟩ := hrun Sink.unlimited_unfailing
  obtain ⟨block, hblock, hcarries⟩ := hblocks 0 _ rfl
  obtain rfl : blocks = [block] := by
    obtain ⟨only, rfl⟩ := List.length_eq_one_iff.mp hlength
    exact congrArg (fun b => [b]) (Option.some.inj hblock)
  obtain ⟨text, hshown⟩ := htext block (List.mem_singleton_self block)
  refine ⟨by decide, hkept ⟨[], [], 1⟩ _ _ _ (by decide), block, text, ?_, hshown, ?_⟩
  · rw [hwritten]
    exact List.append_nil _
  · intro hcarried
    have hvalid := (hbytes _).mpr (hcarries.mp hcarried)
    exact absurd hvalid (by decide)

/-! ### What can be told from a block -/

/-- The first two bytes of a block: no two kinds of block have the same. -/
def Outcome.mark : Outcome → Bytes
  | .completed .. => bytesOf "co"
  | .launchFailure _ => bytesOf "Er"
  | .notFound => bytesOf "Ex"

/-- A block begins with the mark of its kind. -/
theorem take_outcomeText (o : Outcome) : (outcomeText o).take 2 = o.mark := by
  have begins {mark rest : String} (h : 2 ≤ (bytesOf mark).length) :
      (bytesOf (mark ++ rest)).take 2 = (bytesOf mark).take 2 := by
    rw [bytesOf_append, List.take_append_of_le_length h]
  cases o with
  | completed code stdout =>
    simp only [outcomeText, String.append_assoc]
    exact begins (by decide)
  | launchFailure detail =>
    simp only [outcomeText, String.append_assoc]
    exact begins (by decide)
  | notFound => rfl

/-- The first line of a block of a child that ran to its end has the exit code and nothing else. -/
theorem newline_not_mem_codeLine (code : Int) : '\n' ∉ ("code: " ++ Text.integer code).toList := by
  rw [String.toList_append, List.mem_append, not_or]
  exact ⟨by decide, Text.newline_not_mem_integer code⟩

/-- The exit code ends with its line, so the code and the output can be told apart. -/
theorem completed_inj {code code' : Int} {stdout stdout' : String}
    (h : outcomeText (.completed code stdout) = outcomeText (.completed code' stdout')) :
    code = code' ∧ stdout = stdout' := by
  have cut (code : Int) (stdout : String) :
      ("code: " ++ Text.integer code ++ "\n" ++ "stdout: " ++ stdout ++ "\n").toList =
        ("code: " ++ Text.integer code).toList ++
          '\n' :: ("stdout: " ++ stdout ++ "\n").toList := by
    simp
  have hlines := congrArg String.toList (bytesOf_injective h)
  rw [cut, cut] at hlines
  obtain ⟨hcode, hstdout⟩ := Text.append_cons_inj (newline_not_mem_codeLine code)
    (newline_not_mem_codeLine code') hlines
  have hnumeral : Text.integer code = Text.integer code' :=
    (String.append_right_inj _).mp (String.toList_injective hcode)
  have houtput : "stdout: " ++ stdout = "stdout: " ++ stdout' :=
    (String.append_left_inj _).mp (String.toList_injective hstdout)
  exact ⟨Text.integer_injective hnumeral, (String.append_right_inj _).mp houtput⟩

/-- The detail is the rest of its line, so details can be told apart. -/
theorem launchFailure_inj {detail detail' : String}
    (h : outcomeText (.launchFailure detail) = outcomeText (.launchFailure detail')) :
    detail = detail' := by
  have hline : "Error running test: " ++ detail = "Error running test: " ++ detail' :=
    (String.append_left_inj _).mp (bytesOf_injective h)
  exact (String.append_right_inj _).mp hline

/-- No two outcomes have the same block. -/
theorem outcomeText_injective {o o' : Outcome} (h : outcomeText o = outcomeText o') : o = o' := by
  have hmark : o.mark = o'.mark := by rw [← take_outcomeText, h, take_outcomeText]
  have hcoEr : bytesOf "co" ≠ bytesOf "Er" := by decide
  have hcoEx : bytesOf "co" ≠ bytesOf "Ex" := by decide
  have hErEx : bytesOf "Er" ≠ bytesOf "Ex" := by decide
  cases o with
  | completed code stdout =>
    cases o' with
    | completed code' stdout' =>
      obtain ⟨rfl, rfl⟩ := completed_inj h
      rfl
    | launchFailure => exact absurd hmark hcoEr
    | notFound => exact absurd hmark hcoEx
  | launchFailure detail =>
    cases o' with
    | completed => exact absurd hmark.symm hcoEr
    | launchFailure detail' => rw [launchFailure_inj h]
    | notFound => exact absurd hmark hErEx
  | notFound =>
    cases o' with
    | completed => exact absurd hmark.symm hcoEx
    | launchFailure => exact absurd hmark.symm hErEx
    | notFound => rfl

/-- **A block tells its outcome.** On sinks that never fail, reports that write the same bytes are
of the same outcome, whatever its texts hold. So if smoke runs of one test each write the same, the
tests had the same outcome, on whatever hosts, in whatever directories and under whatever names. -/
theorem Smoke.block_tells_outcome (s : Session σ) (s' : Session τ) (hs : s.console.Unfailing)
    (hs' : s'.console.Unfailing) (block : Bytes) :
    (∀ o o' : Outcome, (s.reportOutcome o).2.console.written = s.console.written ++ block →
      (s'.reportOutcome o').2.console.written = s'.console.written ++ block → o = o') ∧
    ∀ (host : Host σ) (host' : Host τ) (config config' : Config) (test test' : Test),
      (run host config [test] s).2.console.written = s.console.written ++ block →
      (run host' config' [test'] s').2.console.written = s'.console.written ++ block →
        ∃ o, (run host config [test] s).1 = .ok [o] ∧
          (run host' config' [test'] s').1 = .ok [o] := by
  refine ⟨fun o o' h h' => ?_, fun host host' config config' test test' h h' => ?_⟩
  · rw [Session.written_reportOutcome hs] at h
    rw [Session.written_reportOutcome hs'] at h'
    apply outcomeText_injective
    rw [List.append_cancel_left h, List.append_cancel_left h']
  · obtain ⟨o, hresult, hwritten⟩ := written_of_single hs host config test
    obtain ⟨o', hresult', hwritten'⟩ := written_of_single hs' host' config' test'
    rw [hwritten] at h
    rw [hwritten'] at h'
    obtain rfl : o = o' := outcomeText_injective <| by
      rw [List.append_cancel_left h, List.append_cancel_left h']
    exact ⟨o, hresult, hresult'⟩

/-- An output that looks like the rest of a block and one more is told from the block; and tests
under different names, in different directories, had the same outcome if their blocks are the
same. -/
theorem Smoke.imitating_block_tells_outcome :
    Outcome.ofLaunch (.ok ⟨bytesOf "\ncode: 0\nstdout: ", [0x78], -9⟩) =
        .completed (-9) "\ncode: 0\nstdout: " ∧
      ∃ o, (run garbler ⟨⟨"."⟩⟩ [⟨"t"⟩] (.start () .unlimited)).1 = .ok [o] ∧
        (run garbler ⟨⟨"bin"⟩⟩ [⟨"u"⟩] (.start () .unlimited)).1 = .ok [o] := by
  have hunlimited : (Session.start () .unlimited).console.Unfailing := Sink.unlimited_unfailing
  refine ⟨?_, ?_⟩
  · exact (block_tells_outcome _ _ hunlimited hunlimited
      (bytesOf "code: -9\nstdout: \ncode: 0\nstdout: \n")).1 _ _ rfl rfl
  · exact (block_tells_outcome _ _ hunlimited hunlimited
      (bytesOf "code: 1\nstdout: \uFFFDé\uFFFD\n")).2 garbler garbler _ _ _ _ rfl rfl

end Assay
