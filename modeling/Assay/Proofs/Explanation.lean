import Assay.Execution
import Assay.Proofs.Text.Layout

/-!
# What is told of an error

A fatal error is shown in a report of bounded width. The texts of the error are its *ink*, with
blanks and a frame around them. Delete the blanks and the frame: what is left of the report is what
is left of the texts in a row, however long they are and wherever the lines end.

* `Diagnostic.ink` — what is left of a text without blanks and frame.
* `Diagnostic.statements` — what there is to tell of an error, in order.
* `Diagnostic.ink_report` — a report tells all of it, in this order, and nothing else.
* `RunError.sources`, `RunError.carried` — the texts of the errors an error comes from, and the
  names, paths, numbers and texts that it is made with; `ManifestError.sources`,
  `ManifestError.carried` — the same for lists.
* `errors_are_told_in_full` — the failure that shows an error tells it in full.
-/

namespace Assay

namespace Diagnostic

/-! ### Ink -/

/-- The characters of the frame. -/
def frame : List Char := ['×', '├', '╰', '─', '▶', '│']

/-- Whether a character is neither a blank nor one of the frame. -/
def isInk (c : Char) : Bool := !Text.isBlank c && !frame.contains c

/-- What is left of a text without blanks and frame. -/
def ink (s : String) : List Char := s.toList.filter isInk

/-- Spaces and line ends are blanks. -/
theorem isInk_disregards : Text.Wrap.Disregards isInk where
  space := by decide
  newline := by decide

/-- The ink of texts in a row is that of each, in a row. -/
theorem ink_join (texts : List String) : ink (String.join texts) = texts.flatMap ink := by
  rw [ink, String.toList_join, List.filter_flatMap]
  rfl

/-! ### Reports -/

/-- What there is to tell of a hint: the mark in front of it, and the hint. -/
def hint : Option String → List String
  | none => []
  | some help => ["help:", help]

/-- What there is to tell of an error, in order. -/
def statements (d : Diagnostic) : List String := d.code :: d.message :: (d.causes ++ hint d.help)

/-- A block tells what stands in front of its first line, and its text. -/
theorem filter_block {firstIndent indent : String} (hindent : ink indent = []) (text : String) :
    (block firstIndent indent text).filter isInk = ink firstIndent ++ ink text := by
  have hnone : indent.toList.filter isInk = [] := hindent
  -- the line end behind the block is a blank
  rw [block, List.filter_append, isInk_disregards.filter_layOut hnone]
  exact List.append_nil _

/-- The blocks of the causes tell their texts, in order. -/
theorem filter_causeBlocks (causes : List String) :
    (causeBlocks causes).filter isInk = causes.flatMap ink := by
  have hlast : ink "  ╰─▶ " = [] := by decide
  have hmore : ink "  ├─▶ " = [] := by decide
  fun_induction causeBlocks causes with
  | case1 => rfl
  | case2 last =>
    rw [filter_block (by decide), hlast, List.nil_append, List.flatMap_singleton]
  | case3 cause causes hcauses ih =>
    rw [List.filter_append, filter_block (by decide), hmore, List.nil_append, ih,
      List.flatMap_cons]

/-- The block of a hint tells its mark and the hint. -/
theorem filter_helpBlock (help : Option String) :
    (helpBlock help).filter isInk = (hint help).flatMap ink := by
  have hmark : ink "  help: " = ink "help:" := by decide
  cases help with
  | none => rfl
  | some help =>
    rw [helpBlock, filter_block (by decide), hmark, hint, List.flatMap_cons, List.flatMap_singleton]

/-- **A report tells all there is to tell**, in order, and nothing else. -/
theorem ink_report (d : Diagnostic) : ink d.report = ink (String.join d.statements) := by
  have hcode : (d.code.toList ++ ['\n', '\n']).filter isInk = ink d.code := by
    rw [List.filter_append]
    exact List.append_nil _
  have hcross : ink "  × " = [] := by decide
  calc ink d.report
      = ink d.code ++ ink d.message ++ d.causes.flatMap ink ++ (hint d.help).flatMap ink := by
        rw [ink, report, String.toList_ofList, List.filter_append, List.filter_append,
          List.filter_append, hcode, filter_block (by decide), hcross, List.nil_append,
          filter_causeBlocks, filter_helpBlock]
    _ = ink (String.join d.statements) := by
        rw [ink_join, statements, List.flatMap_cons, List.flatMap_cons, List.flatMap_append,
          List.append_assoc, List.append_assoc]

end Diagnostic

/-! ### Texts in texts -/

/-- A text stands in another. -/
def StandsIn (text part : String) : Prop := text.toList <:+: part.toList

namespace StandsIn

variable {text part : String}

/-- A text stands in itself. -/
theorem refl (text : String) : StandsIn text text := List.infix_rfl

/-- A text stands in another still when something is put in front of that. -/
theorem append_left (h : StandsIn text part) (before : String) :
    StandsIn text (before ++ part) := by
  rw [StandsIn, String.toList_append]
  exact h.trans (List.suffix_append _ _).isInfix

/-- A text stands in another still when something is put behind that. -/
theorem append_right (h : StandsIn text part) (after : String) :
    StandsIn text (part ++ after) := by
  rw [StandsIn, String.toList_append]
  exact h.trans (List.prefix_append _ _).isInfix

end StandsIn

/-! ### Failures -/

namespace Failure

open Diagnostic (ink ink_join ink_report isInk)

/-- A failure tells a diagnostic in full, and so what an error carries. -/
structure Tells (f : Failure) (d : Diagnostic) (carried : List String) : Prop where
  /-- But for blanks and frame, the message is what there is to tell, in a row. -/
  message : ink f.message = ink (String.join d.statements)
  exitCode : f.exitCode = 1
  /-- But for blanks and frame, what the error carries stands in the message. -/
  carried : ∀ text ∈ carried, ink text <:+: ink f.message

/-- The failure that shows a diagnostic tells it in full, and so whatever stands in one of its
statements. -/
theorem ofDiagnostic_tells {d : Diagnostic} {carried : List String}
    (h : ∀ text ∈ carried, ∃ part ∈ d.statements, StandsIn text part) :
    (ofDiagnostic d).Tells d carried where
  message := ink_report d
  exitCode := rfl
  carried := by
    intro text htext
    obtain ⟨part, hpart, hstands⟩ := h text htext
    have hreport : ink (ofDiagnostic d).message = (d.statements.map ink).flatten := by
      rw [← List.flatMap_def, ← ink_join]
      exact ink_report d
    have hink : ink text <:+: ink part := hstands.filter isInk
    rw [hreport]
    exact hink.trans (List.infix_of_mem_flatten (List.mem_map_of_mem hpart))

end Failure

/-! ### Errors and what they carry -/

namespace LaunchError

/-- The texts of the errors a launch error comes from: a missing program says all there is. -/
def sources : LaunchError → List String
  | notFound _ => []
  | failed _ cause => cause.message :: cause.sources

/-- What a launch error carries: the program, and the text of the I/O error it comes from. -/
def carried : LaunchError → List String
  | notFound program => [program.text]
  | failed program cause => [program.text, cause.message]

/-- What a launch error carries stands in its text. -/
theorem standsIn_message {e : LaunchError} {text : String} (h : text ∈ e.carried) :
    StandsIn text e.message := by
  cases e with
  | notFound program =>
    obtain rfl := List.mem_singleton.mp h
    exact (StandsIn.refl _).append_left _
  | failed program cause =>
    simp only [carried, List.mem_cons, List.not_mem_nil, or_false] at h
    rcases h with rfl | rfl
    · exact (((StandsIn.refl _).append_left _).append_right _).append_right _
    · exact (StandsIn.refl _).append_left _

end LaunchError

namespace RunError

/-- The texts of the errors an error comes from, the outermost first: what an I/O error comes from
itself is among them. -/
def sources : RunError → List String
  | buildFailed .. => []
  | compilerLaunch _ cause | artifactLaunch _ cause => cause.message :: cause.sources
  | fixture _ cause | report cause => cause.message :: cause.sources

/-- What an error carries: the test, the program or the file that it is about, the status, and the
text of the I/O error it comes from. -/
def carried : RunError → List String
  | buildFailed test compiler status => [test.id, compiler.text, Text.integer status]
  | compilerLaunch test cause | artifactLaunch test cause => test.id :: cause.carried
  | fixture path cause => [path.text, cause.message]
  | report cause => [cause.message]

/-- The diagnostic of an error shows its text and those of its sources. -/
theorem diagnostic_eq (e : RunError) :
    e.diagnostic = ⟨e.diagnostic.code, e.message, e.sources, e.diagnostic.help⟩ := by
  cases e with
  | buildFailed | fixture | report => rfl
  | compilerLaunch test cause | artifactLaunch test cause => cases cause <;> rfl

/-- What an error carries stands in its text or in that of its first source. -/
theorem exists_standsIn {e : RunError} {text : String} (h : text ∈ e.carried) :
    ∃ part ∈ e.message :: e.sources, StandsIn text part := by
  cases e with
  | buildFailed test compiler status =>
    refine ⟨_, List.mem_cons_self, ?_⟩
    simp only [carried, List.mem_cons, List.not_mem_nil, or_false] at h
    rcases h with rfl | rfl | rfl
    · exact (((((StandsIn.refl _).append_left _).append_right _).append_right _).append_right
        _).append_right _
    · exact (((StandsIn.refl _).append_left _).append_right _).append_right _
    · exact (StandsIn.refl _).append_left _
  | compilerLaunch test cause | artifactLaunch test cause =>
    rcases List.mem_cons.mp h with rfl | h
    · exact ⟨_, List.mem_cons_self, (StandsIn.refl _).append_left _⟩
    · -- the program is not in the text of the error, but in that of its source
      exact ⟨_, List.mem_cons_of_mem _ List.mem_cons_self, cause.standsIn_message h⟩
  | fixture path cause =>
    simp only [carried, List.mem_cons, List.not_mem_nil, or_false] at h
    rcases h with rfl | rfl
    · exact ⟨_, List.mem_cons_self, ((StandsIn.refl _).append_left _).append_right _⟩
    · exact ⟨_, List.mem_cons_of_mem _ List.mem_cons_self, StandsIn.refl _⟩
  | report cause =>
    obtain rfl := List.mem_singleton.mp h
    exact ⟨_, List.mem_cons_self, (StandsIn.refl _).append_left _⟩

end RunError

namespace ManifestError

/-- The texts of the errors the error of a list comes from, the outermost first. -/
def sources (e : ManifestError) : List String := e.cause.message :: e.cause.sources

/-- What the error of a list carries: the list, and the text of the I/O error it comes from. -/
def carried (e : ManifestError) : List String := [e.path.text, e.cause.message]

/-- What the error of a list carries stands in its text. -/
theorem standsIn_message {e : ManifestError} {text : String} (h : text ∈ e.carried) :
    StandsIn text e.message := by
  simp only [carried, List.mem_cons, List.not_mem_nil, or_false] at h
  rcases h with rfl | rfl
  · exact (((StandsIn.refl _).append_left _).append_right _).append_right _
  · exact (StandsIn.refl _).append_left _

end ManifestError

/-- **No text of an error is lost on its way to the user.** Blanks and frame deleted, a failure's
message is the code of the error, its text, the texts of the errors it comes from, the outermost
first, and the hint behind its mark, in a row; and its exit code is 1.

- That is so of every diagnostic, whatever its texts are and however many causes it has.
- It is so of every error that ends a run, with its own text and its own chain of sources, which
  goes on behind an I/O error that comes from others. The message tells the test, the program or
  file and the status the error carries, and the text of the I/O error behind it; only a program
  that is missing has none.
- It is so of every error of a list, and the message tells the list and the I/O error. -/
theorem errors_are_told_in_full :
    (∀ d : Diagnostic, (Failure.ofDiagnostic d).Tells d d.statements) ∧
    (∀ e : RunError, (Failure.ofDiagnostic e.diagnostic).Tells
      ⟨e.diagnostic.code, e.message, e.sources, e.diagnostic.help⟩ e.carried) ∧
    ∀ e : ManifestError, (Failure.ofDiagnostic e.diagnostic).Tells
      ⟨e.diagnostic.code, e.message, e.sources, e.diagnostic.help⟩ e.carried := by
  refine ⟨fun d => ?_, fun e => ?_, fun e => ?_⟩
  · apply Failure.ofDiagnostic_tells
    intro text htext
    exact ⟨text, htext, .refl text⟩
  · rw [← e.diagnostic_eq]
    apply Failure.ofDiagnostic_tells
    intro text htext
    obtain ⟨part, hpart, hstands⟩ := e.exists_standsIn htext
    refine ⟨part, ?_, hstands⟩
    rw [e.diagnostic_eq]
    exact List.mem_cons_of_mem _ (List.mem_append_left (Diagnostic.hint _) hpart)
  · apply Failure.ofDiagnostic_tells
    intro text htext
    refine ⟨e.message, ?_, e.standsIn_message htext⟩
    exact List.mem_cons_of_mem _ List.mem_cons_self

/-- A path that fills more than a line. -/
def longPath : Path := ⟨String.ofList (List.replicate 90 'x')⟩

/-- A path that is too long for a line stands in the message from its first character to its last,
wherever it is broken; and so does what the system says of a list. -/
theorem broken_paths_are_told :
    longPath.text ∈ (RunError.compilerLaunch ⟨"a b"⟩ (.failed longPath .access)).carried ∧
    List.replicate 90 'x' <:+: Diagnostic.ink (Failure.ofDiagnostic
      (RunError.compilerLaunch ⟨"a b"⟩ (.failed longPath .access)).diagnostic).message ∧
    IoError.access.message ∈ (ManifestError.mk longPath .access).carried ∧
    Diagnostic.ink IoError.access.message <:+: Diagnostic.ink (Failure.ofDiagnostic
      (ManifestError.mk longPath .access).diagnostic).message := by
  obtain ⟨-, hrun, hlist⟩ := errors_are_told_in_full
  have hpath : longPath.text ∈
      (RunError.compilerLaunch ⟨"a b"⟩ (.failed longPath .access)).carried :=
    List.mem_cons_of_mem _ List.mem_cons_self
  have hcause : IoError.access.message ∈ (ManifestError.mk longPath .access).carried :=
    List.mem_cons_of_mem _ List.mem_cons_self
  have hletters : longPath.text.toList = List.replicate 90 'x' := String.toList_ofList
  have hink : Diagnostic.ink longPath.text = List.replicate 90 'x' := by
    unfold Diagnostic.ink
    rw [hletters, List.filter_replicate_of_pos (by decide)]
  refine ⟨hpath, ?_, hcause, (hlist _).carried _ hcause⟩
  rw [← hink]
  exact (hrun _).carried _ hpath

end Assay
