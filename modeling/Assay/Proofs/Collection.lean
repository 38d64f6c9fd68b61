import Mathlib.Algebra.Order.Ring.Nat
import Mathlib.Data.List.Forall2
import Assay.Execution
import Assay.Footprint
import Assay.Proofs.Printing
import Assay.Proofs.Text.Utf8

/-!
# Collecting the tests of a command

A list file *holds* tests if it can be read and is the encoding of a text, and it is *unusable* for
a cause otherwise. Lists are read in order, so what is collected is settled by the first unusable
one.

* `Manifest.Holds`, `Manifest.Unusable` — what a list file is good for; it is always one of the two.
* `Selection.loadAll_append` — lists that hold tests are read, and what comes after them is up to
  the others.
* `Execution.collection_is_all_or_nothing` — what is collected, what the log tells of it, and that a
  command with an unusable list does nothing else.
-/

namespace Assay

variable {σ : Type}

namespace Session

/-- The session in which more was told. -/
def telling (s : Session σ) (entries : List Log.Entry) : Session σ :=
  { s with log := s.log ++ entries }

/-- To tell nothing leaves a session as it is. -/
@[simp] theorem telling_nil (s : Session σ) : s.telling [] = s := by
  simp [telling]

/-- What is told in two goes is told in one. -/
@[simp] theorem telling_telling (s : Session σ) (entries more : List Log.Entry) :
    (s.telling entries).telling more = s.telling (entries ++ more) := by
  simp [telling]

/-- A single event is told as one entry. -/
theorem tell_eq_telling (within : List Span) (e : Event) (s : Session σ) :
    s.tell within e = s.telling [⟨e, within⟩] := rfl

end Session

/-! ### List files -/

namespace Manifest

variable {host : Host σ} {world : σ} {path : Path}

/-- A list file holds a text, and these are the tests on its lines. -/
def Holds (host : Host σ) (world : σ) (path : Path) (tests : List Test) : Prop :=
  ∃ text : String, host.readFile path world = .ok (bytesOf text) ∧ tests = parse text

/-- A list file cannot be used, and why: it cannot be read, or it is the encoding of no text. -/
inductive Unusable (host : Host σ) (world : σ) (path : Path) : IoError → Prop
  | unreadable {cause : IoError} (read : host.readFile path world = .error cause) :
      Unusable host world path cause
  | notText {contents : Bytes} (read : host.readFile path world = .ok contents)
      (noText : ∀ text : String, contents ≠ bytesOf text) :
      Unusable host world path (.custom .invalidData "stream did not contain valid UTF-8")

/-- The encoding of a text is read as the tests on its lines. -/
theorem ofBytes_bytesOf (text : String) : ofBytes (bytesOf text) = .ok (parse text) := by
  have hdecode : Text.Utf8.decode? (bytesOf text) = some text.toList :=
    Text.Utf8.decode?_eq_some_iff.mpr rfl
  unfold ofBytes
  rw [hdecode]
  simp only [String.ofList_toList]

/-- Bytes that are the encoding of no text are refused. -/
theorem ofBytes_of_no_text {contents : Bytes} (h : ∀ text : String, contents ≠ bytesOf text) :
    ofBytes contents = .error notText := by
  unfold ofBytes
  rcases hdecode : Text.Utf8.decode? contents with _ | text
  · rfl
  · refine absurd (Text.Utf8.decode?_eq_some_iff.mp hdecode) ?_
    rw [← String.toList_ofList (l := text)]
    exact h _

/-- A list file that holds tests is read as these. -/
theorem Holds.read {tests : List Test} (h : Holds host world path tests) :
    read host path world = .ok tests := by
  obtain ⟨text, hread, rfl⟩ := h
  unfold Manifest.read
  rw [hread]
  simp only
  rw [ofBytes_bytesOf]
  rfl

/-- A list file that cannot be used is not read, and the error tells its path and why. -/
theorem Unusable.read {cause : IoError} (h : Unusable host world path cause) :
    read host path world = .error ⟨path, cause⟩ := by
  unfold Manifest.read
  cases h with
  | unreadable hread => rw [hread]
  | notText hread noText =>
    rw [hread]
    simp only
    rw [ofBytes_of_no_text noText]
    rfl

/-- A list file holds tests or cannot be used. -/
theorem holds_or_unusable (host : Host σ) (world : σ) (path : Path) :
    (∃ tests, Holds host world path tests) ∨ ∃ cause, Unusable host world path cause := by
  rcases hread : host.readFile path world with cause | contents
  · exact .inr ⟨cause, .unreadable hread⟩
  · by_cases htext : ∃ text : String, contents = bytesOf text
    · obtain ⟨text, rfl⟩ := htext
      exact .inl ⟨_, text, hread, rfl⟩
    · exact .inr ⟨_, .notText hread fun text h => htext ⟨text, h⟩⟩

/-- Loading a list file that holds tests gives these and tells how many they are. -/
theorem Holds.load {tests : List Test} {s : Session σ} (h : Holds host s.world path tests) :
    load host path s = (.ok tests, s.telling [⟨.listLoaded path tests.length, []⟩]) := by
  unfold Manifest.load
  rw [h.read]
  rfl

/-- Loading a list file that cannot be used fails and tells nothing. -/
theorem Unusable.load {cause : IoError} {s : Session σ} (h : Unusable host s.world path cause) :
    load host path s = (.error ⟨path, cause⟩, s) := by
  unfold Manifest.load
  rw [h.read]

end Manifest

/-! ### Several lists -/

namespace Selection

open Manifest (Holds Unusable)

/-- What is told of lists that were read: how many tests each of them holds. -/
def listEntries (paths : List Path) (listed : List (List Test)) : List Log.Entry :=
  List.zipWith (fun path tests => ⟨.listLoaded path tests.length, []⟩) paths listed

variable {host : Host σ}

/-- Lists that hold tests are read and told of, and then the others are. -/
theorem loadAll_append {before : List Path} {listed : List (List Test)} {s : Session σ}
    (h : List.Forall₂ (Holds host s.world) before listed) (paths : List Path) :
    loadAll host (before ++ paths) s =
      ((loadAll host paths (s.telling (listEntries before listed))).1.map (listed.flatten ++ ·),
        (loadAll host paths (s.telling (listEntries before listed))).2) := by
  generalize hworld : s.world = world at h
  induction h generalizing s with
  | nil =>
    rw [listEntries, List.zipWith_nil_left, Session.telling_nil, List.nil_append]
    rcases loadAll host paths s with ⟨e | later, s'⟩ <;> rfl
  | @cons path tests before listed hpath hbefore ih =>
    rw [← hworld] at hpath
    have hrest := ih (s := s.telling [⟨.listLoaded path tests.length, []⟩]) hworld
    rw [Session.telling_telling] at hrest
    rw [List.cons_append, loadAll, hpath.load]
    simp only
    rw [hrest]
    rcases hlater : loadAll host paths
      (s.telling (listEntries (path :: before) (tests :: listed))) with ⟨e | later, s'⟩
    all_goals
      change loadAll host paths (s.telling ([_] ++ listEntries before listed)) = _ at hlater
      rw [hlater]
      simp [Except.map]

/-- Lists all hold tests, or there is a first one that cannot be used. -/
theorem hold_or_unusable (host : Host σ) (world : σ) (paths : List Path) :
    (∃ listed, List.Forall₂ (Holds host world) paths listed) ∨
      ∃ before path after listed cause, paths = before ++ path :: after ∧
        List.Forall₂ (Holds host world) before listed ∧ Unusable host world path cause := by
  induction paths with
  | nil => exact .inl ⟨[], .nil⟩
  | cons path paths ih =>
    rcases Manifest.holds_or_unusable host world path with ⟨tests, hpath⟩ | ⟨cause, hpath⟩
    · rcases ih with ⟨listed, hpaths⟩ | ⟨before, bad, after, listed, cause, rfl, hbefore, hbad⟩
      · exact .inl ⟨tests :: listed, .cons hpath hpaths⟩
      · exact .inr ⟨path :: before, bad, after, tests :: listed, cause, rfl,
          .cons hpath hbefore, hbad⟩
    · exact .inr ⟨[], path, paths, [], cause, rfl, .nil, hpath⟩

/-- Lists all hold tests iff each of them does. -/
theorem exists_held_iff {world : σ} {paths : List Path} :
    (∃ listed, List.Forall₂ (Holds host world) paths listed) ↔
      ∀ path ∈ paths, ∃ tests, Holds host world path tests := by
  induction paths with
  | nil => exact ⟨fun _ _ h => absurd h List.not_mem_nil, fun _ => ⟨[], .nil⟩⟩
  | cons path paths ih =>
    rw [List.forall_mem_cons, ← ih]
    constructor
    · rintro ⟨_, hlisted⟩
      obtain ⟨tests, listed, hpath, hpaths, -⟩ := List.forall₂_cons_left_iff.mp hlisted
      exact ⟨⟨tests, hpath⟩, listed, hpaths⟩
    · rintro ⟨⟨tests, hpath⟩, listed, hpaths⟩
      exact ⟨tests :: listed, .cons hpath hpaths⟩

variable {selection : Selection} {s : Session σ} {listed : List (List Test)}

/-- Where all lists hold tests, all tests are collected. -/
theorem collect_of_hold (h : List.Forall₂ (Holds host s.world) selection.lists listed) :
    selection.collect host s =
      (.ok (selection.tests.map Test.mk ++ listed.flatten),
        s.telling (listEntries selection.lists listed ++
          [⟨.testsCollected (selection.tests.length + (listed.map List.length).sum), []⟩])) := by
  have hload := loadAll_append h []
  rw [List.append_nil] at hload
  unfold collect
  rw [hload]
  simp only [loadAll, Except.map, List.append_nil]
  rw [Session.tell_eq_telling, Session.telling_telling, List.length_append, List.length_map,
    List.length_flatten]

/-- The first list that cannot be used is the error. -/
theorem collect_of_unusable {before after : List Path} {path : Path} {cause : IoError}
    (hlists : selection.lists = before ++ path :: after)
    (h : List.Forall₂ (Holds host s.world) before listed)
    (hpath : Unusable host s.world path cause) :
    selection.collect host s = (.error ⟨path, cause⟩, s.telling (listEntries before listed)) := by
  have hbad : Unusable host (s.telling (listEntries before listed)).world path cause := hpath
  have hload := loadAll_append h (path :: after)
  unfold collect
  rw [hlists, hload]
  simp only [loadAll, hbad.load, Except.map]

/-! ### Two hosts -/

variable {τ : Type} {host' : Host τ}

/-- Lists that are read alike in two worlds come to the same in both. -/
theorem loadAll_congr {paths : List Path} (s : Session σ) (s' : Session τ)
    (h : ∀ path ∈ paths, host.readFile path s.world = host'.readFile path s'.world) :
    ∃ result entries, loadAll host paths s = (result, s.telling entries) ∧
      loadAll host' paths s' = (result, s'.telling entries) := by
  induction paths generalizing s s' with
  | nil => exact ⟨.ok [], [], by rw [Session.telling_nil]; rfl, by rw [Session.telling_nil]; rfl⟩
  | cons path paths ih =>
    obtain ⟨hpath, hpaths⟩ := List.forall_mem_cons.mp h
    have hread : Manifest.read host path s.world = Manifest.read host' path s'.world := by
      unfold Manifest.read
      rw [hpath]
    rcases hresult : Manifest.read host' path s'.world with e | tests
    · rw [hresult] at hread
      refine ⟨.error e, [], ?_, ?_⟩
      · rw [Session.telling_nil]
        simp only [loadAll, Manifest.load, hread]
      · rw [Session.telling_nil]
        simp only [loadAll, Manifest.load, hresult]
    · rw [hresult] at hread
      obtain ⟨result, entries, hloaded, hloaded'⟩ :=
        ih (s.tell [] (.listLoaded path tests.length)) (s'.tell [] (.listLoaded path tests.length))
          hpaths
      rw [Session.tell_eq_telling, Session.telling_telling] at hloaded hloaded'
      refine ⟨result.map (tests ++ ·), [⟨.listLoaded path tests.length, []⟩] ++ entries, ?_, ?_⟩
      · simp only [loadAll, Manifest.load, hread, Session.tell_eq_telling, hloaded]
        rcases result with e | later <;> rfl
      · simp only [loadAll, Manifest.load, hresult, Session.tell_eq_telling, hloaded']
        rcases result with e | later <;> rfl

/-- Selections whose lists are read alike in two worlds are collected alike. -/
theorem collect_congr (s : Session σ) (s' : Session τ)
    (h : ∀ path ∈ selection.lists, host.readFile path s.world = host'.readFile path s'.world) :
    ∃ result entries, selection.collect host s = (result, s.telling entries) ∧
      selection.collect host' s' = (result, s'.telling entries) := by
  obtain ⟨result, entries, hloaded, hloaded'⟩ := loadAll_congr s s' h
  unfold collect
  rw [hloaded, hloaded']
  rcases result with e | listed
  · exact ⟨.error e, entries, rfl, rfl⟩
  · simp only [Session.tell_eq_telling, Session.telling_telling]
    exact ⟨_, _, rfl, rfl⟩

end Selection

/-! ### Commands -/

namespace Execution

open CommandLine (Command)
open Manifest (Holds Unusable)

variable {host : Host σ} {selection : Selection} {s : Session σ}

/-- If every list file holds tests, a command collects them all, those given by name in front. -/
theorem collect_of_hold {listed : List (List Test)}
    (h : List.Forall₂ (Holds host s.world) selection.lists listed) :
    collect host selection s =
      (.ok (selection.tests.map Test.mk ++ listed.flatten),
        s.telling (Selection.listEntries selection.lists listed ++
          [⟨.testsCollected (selection.tests.length + (listed.map List.length).sum), []⟩])) := by
  unfold collect
  rw [Selection.collect_of_hold h]

/-- The first list file that cannot be used ends the collecting, and its error is the failure. -/
theorem collect_of_unusable {before after : List Path} {path : Path} {cause : IoError}
    {listed : List (List Test)} (hlists : selection.lists = before ++ path :: after)
    (h : List.Forall₂ (Holds host s.world) before listed)
    (hpath : Unusable host s.world path cause) :
    collect host selection s =
      (.error ⟨(ManifestError.mk path cause).diagnostic.report, 1⟩,
        s.telling (Selection.listEntries before listed)) := by
  unfold collect
  rw [Selection.collect_of_unusable hlists h hpath]
  rfl

/-- Commands whose lists are read alike in two worlds collect the same tests, or fail alike. -/
theorem collect_congr {τ : Type} {host' : Host τ} (s : Session σ) (s' : Session τ)
    (h : ∀ path ∈ selection.lists, host.readFile path s.world = host'.readFile path s'.world) :
    ∃ result entries, collect host selection s = (result, s.telling entries) ∧
      collect host' selection s' = (result, s'.telling entries) := by
  obtain ⟨result, entries, hcollect, hcollect'⟩ := Selection.collect_congr s s' h
  unfold collect
  rw [hcollect, hcollect']
  rcases result with e | tests
  · exact ⟨_, entries, rfl, rfl⟩
  · exact ⟨.ok tests, entries, rfl, rfl⟩

/-- A command whose tests cannot be collected is at its end. -/
theorem run_of_collect_error {failure : Failure} {s' : Session σ}
    (environmentCompiler : Option String) (command : Command)
    (h : collect host command.selection s = (.error failure, s')) :
    run host environmentCompiler command s = (.error failure, s') := by
  cases command with
  | golden selection options =>
    change collect host selection s = _ at h
    simp only [run, golden, h]
  | smoke selection dir =>
    change collect host selection s = _ at h
    simp only [run, smoke, h]

/-- **Collection is all or nothing.** The tests of a selection are collected iff every list file can
be read and is the encoding of a text.

- Then they are the tests named directly, as they are written, and those of each list, in the order
  of the lists. The log tells of every list how many tests it holds, and of their number in all.
- Otherwise the first list that is not so is the error, with exit code 1, and the log tells of the
  lists before it alone. A command with such a selection, of either kind, ends in the same way: it
  has made no call and printed nothing, and the world is as it was. -/
theorem collection_is_all_or_nothing (host : Host σ) (selection : Selection) (s : Session σ) :
    ((∃ tests, (collect host selection s).1 = .ok tests) ↔
      ∀ path ∈ selection.lists, ∃ tests, Holds host s.world path tests) ∧
    (∀ listed, List.Forall₂ (Holds host s.world) selection.lists listed →
      collect host selection s =
        (.ok (selection.tests.map Test.mk ++ listed.flatten),
          { s with
            log := s.log ++ (Selection.listEntries selection.lists listed ++
              [⟨.testsCollected (selection.tests.length + (listed.map List.length).sum), []⟩]) })) ∧
    ((¬ ∀ path ∈ selection.lists, ∃ tests, Holds host s.world path tests) →
      ∃ before path after listed cause,
        selection.lists = before ++ path :: after ∧
        List.Forall₂ (Holds host s.world) before listed ∧
        Unusable host s.world path cause ∧
        (selection.collect host s).1 = .error ⟨path, cause⟩ ∧
        collect host selection s =
          (.error ⟨(ManifestError.mk path cause).diagnostic.report, 1⟩,
            { s with log := s.log ++ Selection.listEntries before listed }) ∧
        ∀ environmentCompiler command, Command.selection command = selection →
          run host environmentCompiler command s =
            (.error ⟨(ManifestError.mk path cause).diagnostic.report, 1⟩,
              { s with log := s.log ++ Selection.listEntries before listed })) := by
  refine ⟨⟨?_, ?_⟩, fun listed h => collect_of_hold h, ?_⟩
  · rintro ⟨tests, htests⟩
    rcases Selection.hold_or_unusable host s.world selection.lists with
      ⟨listed, h⟩ | ⟨before, path, after, listed, cause, hlists, h, hpath⟩
    · exact Selection.exists_held_iff.mp ⟨listed, h⟩
    · rw [collect_of_unusable hlists h hpath] at htests
      cases htests
  · intro h
    obtain ⟨listed, hlisted⟩ := Selection.exists_held_iff.mpr h
    exact ⟨_, congrArg Prod.fst (collect_of_hold hlisted)⟩
  · intro hnot
    rcases Selection.hold_or_unusable host s.world selection.lists with
      ⟨listed, h⟩ | ⟨before, path, after, listed, cause, hlists, h, hpath⟩
    · exact absurd (Selection.exists_held_iff.mp ⟨listed, h⟩) hnot
    · have hcollect := collect_of_unusable hlists h hpath
      refine ⟨before, path, after, listed, cause, hlists, h, hpath, ?_, hcollect, ?_⟩
      · rw [Selection.collect_of_unusable hlists h hpath]
      · rintro environmentCompiler command rfl
        exact run_of_collect_error environmentCompiler command hcollect

/-- A host with two files: a list of two tests, and one that is no text. -/
def shelf : Host Unit where
  launch _ world := (.ok ⟨[], [], 0⟩, world)
  readFile path _ :=
    if path = ⟨"good"⟩ then .ok (bytesOf "x\n# y\n z \n")
    else if path = ⟨"bad"⟩ then .ok [0xFF]
    else .error .noEntry
  logsExits := false

/-- A list that is given twice is read twice, and one that is no text keeps a command from
beginning, whatever stands before and after it. -/
theorem shelf_collection :
    (collect shelf ⟨["p"], [⟨"good"⟩, ⟨"good"⟩]⟩ (.start () .unlimited)).1 =
        .ok [⟨"p"⟩, ⟨"x"⟩, ⟨"z"⟩, ⟨"x"⟩, ⟨"z"⟩] ∧
      ∃ failure s',
        run shelf none (.smoke ⟨["p"], [⟨"good"⟩, ⟨"bad"⟩, ⟨"missing"⟩]⟩ ⟨"."⟩)
            (.start () .unlimited) = (.error failure, s') ∧
          failure.exitCode = 1 ∧ s'.calls = [] ∧ s'.console.written = [] := by
  have hgood : Holds shelf () ⟨"good"⟩ [⟨"x"⟩, ⟨"z"⟩] := ⟨"x\n# y\n z \n", rfl, rfl⟩
  have hbad : ¬ ∀ path ∈ [(⟨"good"⟩ : Path), ⟨"bad"⟩, ⟨"missing"⟩],
      ∃ tests, Holds shelf () path tests := by
    intro h
    obtain ⟨tests, htests⟩ := h ⟨"bad"⟩ (by decide)
    have hread := htests.read
    cases hread
  refine ⟨?_, ?_⟩
  · exact congrArg Prod.fst ((collection_is_all_or_nothing shelf
      ⟨["p"], [⟨"good"⟩, ⟨"good"⟩]⟩ (.start () .unlimited)).2.1 _ (.cons hgood (.cons hgood .nil)))
  · obtain ⟨before, path, after, listed, cause, -, -, -, -, -, hrun⟩ :=
      (collection_is_all_or_nothing shelf ⟨["p"], [⟨"good"⟩, ⟨"bad"⟩, ⟨"missing"⟩]⟩
        (.start () .unlimited)).2.2 hbad
    exact ⟨_, _, hrun none (.smoke _ ⟨"."⟩) rfl, rfl, rfl, rfl⟩

end Execution

end Assay
