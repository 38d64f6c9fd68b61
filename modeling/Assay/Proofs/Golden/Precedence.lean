import Assay.Proofs.ExitCode
import Assay.Proofs.Golden.Chronicle

/-!
# Which setting wins

A configuration is made by steps, and every step is about one field. A field with a single value
keeps the value of the last step that gives one, whatever was there before; the arguments of the
compiler add up. So a step can change places with any step about another field, and a command may
put its configuration together in an order of its own: the compiler that it names wins over that of
the environment, and this one over the default.

* `Step.field`, `Step.compiler?` and its companions — what a step is about, and the value it gives.
* `Config.apply_eq`, `Config.applyAll_eq` — a configuration after one step and after many, field by
  field.
* `Config.buildArgs_eq_iff` — from the arguments of a build, all that went into them can be told.
* `GoldenOptions.program`, `GoldenOptions.config_eq` — the configuration of a command, written out.
* `settings_take_precedence` — all of this, down to the calls of the compiler.
-/

namespace Assay

variable {σ : Type}

namespace Golden

/-! ### What a step gives -/

/-- The fields of a configuration. -/
inductive Field where
  | compiler
  | compilerArgs
  | outputFlag
  | artifact
deriving DecidableEq, Repr

namespace Step

/-- The field that a step is about, whether the step changes it or not. -/
def field : Step → Field
  | .compiler _ | .compilerOverride _ => .compiler
  | .compilerArg _ => .compilerArgs
  | .outputFlag _ => .outputFlag
  | .artifact _ => .artifact

/-- The compiler that a step gives. An empty one counts where it is given outright, and not where it
is to override another. -/
def compiler? : Step → Option Path
  | .compiler path => some path
  | .compilerOverride (some name) => if name = "" then none else some ⟨name⟩
  | _ => none

/-- The argument that a step adds. -/
def argument? : Step → Option String
  | .compilerArg argument => some argument
  | _ => none

/-- The flag that a step gives. -/
def outputFlag? : Step → Option String
  | .outputFlag flag => some flag
  | _ => none

/-- The artifact that a step gives. -/
def artifact? : Step → Option Path
  | .artifact path => some path
  | _ => none

/-- The value of the last step that gives one, or else that from the start. -/
def last {α : Type} (value? : Step → Option α) (steps : List Step) (start : α) : α :=
  (steps.filterMap value?).getLast?.getD start

/-- A step gives the value to start from, for the steps behind it. -/
theorem last_cons {α : Type} (value? : Step → Option α) (step : Step) (steps : List Step)
    (start : α) :
    last value? (step :: steps) start = last value? steps ((value? step).getD start) := by
  unfold last
  rcases hvalue : value? step with _ | value
  · rw [List.filterMap_cons_none hvalue]
    rfl
  · rw [List.filterMap_cons_some hvalue, List.getLast?_cons]
    rfl

/-- A step gives nothing for a field that it is not about. -/
theorem gives_for_field (step : Step) :
    (step.field ≠ .compiler → step.compiler? = none) ∧
      (step.field ≠ .compilerArgs → step.argument? = none) ∧
      (step.field ≠ .outputFlag → step.outputFlag? = none) ∧
      (step.field ≠ .artifact → step.artifact? = none) := by
  cases step <;> simp [field, compiler?, argument?, outputFlag?, artifact?]

/-- The steps about one field are enough to know the values they give. -/
theorem filterMap_filter_field {α : Type} {value? : Step → Option α} {f : Field}
    (hvalue : ∀ step : Step, step.field ≠ f → value? step = none) (steps : List Step) :
    (steps.filter (·.field = f)).filterMap value? = steps.filterMap value? := by
  rw [List.filterMap_filter]
  congr 1
  funext step
  by_cases hfield : step.field = f
  · simp [hfield]
  · simp [hfield, hvalue step hfield]

end Step

namespace Config

/-- The configuration after a step: a field has the value of the step if that gives one. -/
theorem apply_eq (c : Config) (step : Step) :
    c.apply step =
      { compiler := step.compiler?.getD c.compiler
        compilerArgs := c.compilerArgs ++ step.argument?.toList
        outputFlag := step.outputFlag?.getD c.outputFlag
        artifact := step.artifact?.getD c.artifact } := by
  cases step with
  | compilerOverride override =>
    rcases override with _ | name
    · simp [apply, Step.compiler?, Step.argument?, Step.outputFlag?, Step.artifact?]
    · by_cases hname : name = ""
      · simp [apply, Step.compiler?, Step.argument?, Step.outputFlag?, Step.artifact?, hname]
      · simp [apply, Step.compiler?, Step.argument?, Step.outputFlag?, Step.artifact?, hname]
  | compiler | compilerArg | outputFlag | artifact =>
    simp [apply, Step.compiler?, Step.argument?, Step.outputFlag?, Step.artifact?]

/-- The configuration after a sequence of steps: the last value of each field, and all arguments. -/
theorem applyAll_eq (c : Config) (steps : List Step) :
    c.applyAll steps =
      { compiler := Step.last Step.compiler? steps c.compiler
        compilerArgs := c.compilerArgs ++ steps.filterMap Step.argument?
        outputFlag := Step.last Step.outputFlag? steps c.outputFlag
        artifact := Step.last Step.artifact? steps c.artifact } := by
  induction steps generalizing c with
  | nil =>
    rw [List.filterMap_nil, List.append_nil]
    rfl
  | cons step steps ih =>
    have hfirst : c.applyAll (step :: steps) = (c.apply step).applyAll steps := rfl
    rw [hfirst, ih, apply_eq, Step.last_cons, Step.last_cons, Step.last_cons, List.append_assoc]
    congr 1
    rcases hargument : step.argument? with _ | argument
    · rw [List.filterMap_cons_none hargument]
      rfl
    · rw [List.filterMap_cons_some hargument]
      rfl

/-- Steps that are the same for each field, in the same order, make the same configuration. -/
theorem applyAll_congr (c : Config) {steps steps' : List Step}
    (h : ∀ f, steps.filter (·.field = f) = steps'.filter (·.field = f)) :
    c.applyAll steps = c.applyAll steps' := by
  have values {α : Type} {value? : Step → Option α} {f : Field}
      (hvalue : ∀ step : Step, step.field ≠ f → value? step = none) :
      steps.filterMap value? = steps'.filterMap value? := by
    rw [← Step.filterMap_filter_field hvalue, h, Step.filterMap_filter_field hvalue]
  have hcompiler := values fun step => (step.gives_for_field).1
  have hargs := values fun step => (step.gives_for_field).2.1
  have hflag := values fun step => (step.gives_for_field).2.2.1
  have hartifact := values fun step => (step.gives_for_field).2.2.2
  simp only [applyAll_eq, Step.last, hcompiler, hargs, hflag, hartifact]

/-- The arguments of a build are equal iff all that went into them is. -/
theorem buildArgs_eq_iff {c c' : Config} {source source' : Path} :
    c.buildArgs source = c'.buildArgs source' ↔
      c.compilerArgs = c'.compilerArgs ∧ source = source' ∧ c.outputFlag = c'.outputFlag ∧
        c.artifact = c'.artifact := by
  constructor
  · intro h
    obtain ⟨hargs, hlast⟩ := List.append_inj' h rfl
    simp only [List.cons.injEq, and_true] at hlast
    obtain ⟨hsource, hflag, hartifact⟩ := hlast
    exact ⟨hargs, congrArg Path.mk hsource, hflag, congrArg Path.mk hartifact⟩
  · rintro ⟨hargs, rfl, hflag, hartifact⟩
    unfold buildArgs
    rw [hargs, hflag, hartifact]

end Config

end Golden

/-! ### The configuration of a command -/

namespace CommandLine.GoldenOptions

/-- The compiler of a command: the one that it names, or else the one of the environment unless that
is empty, or else the default. -/
def program (o : GoldenOptions) (environmentCompiler : Option String) : Path :=
  match o.compiler, environmentCompiler with
  | some path, _ => path
  | none, some name => if name = "" then ⟨"scc"⟩ else ⟨name⟩
  | none, none => ⟨"scc"⟩

/-- The configuration of a command: what it sets, and the compiler in order of precedence. -/
theorem config_eq (o : GoldenOptions) (environmentCompiler : Option String) :
    o.config environmentCompiler =
      { compiler := o.program environmentCompiler
        compilerArgs := o.compilerArgs
        outputFlag := o.outputFlag
        artifact := o.artifact } := by
  have hargs {α : Type} {value? : Golden.Step → Option α}
      (hvalue : ∀ argument, value? (.compilerArg argument) = none) :
      (o.compilerArgs.map Golden.Step.compilerArg).filterMap value? = [] := by
    rw [List.filterMap_map, List.filterMap_eq_nil_iff]
    exact fun argument _ => hvalue argument
  have hadded : (o.compilerArgs.map Golden.Step.compilerArg).filterMap Golden.Step.argument? =
      o.compilerArgs := by
    rw [List.filterMap_map]
    exact List.filterMap_some
  obtain ⟨named, args, flag, artifact⟩ := o
  unfold config
  rw [Golden.Config.applyAll_eq]
  simp only [Golden.Step.last, List.filterMap_append, hadded]
  rw [hargs fun _ => rfl, hargs fun _ => rfl, hargs fun _ => rfl]
  rw [Golden.Config.ofEnvironment, Golden.Config.apply_eq]
  -- what is left is the compiler: each of the three places where one may be named
  cases named with
  | some path => rfl
  | none =>
    rcases environmentCompiler with _ | name
    · rfl
    · by_cases hname : name = ""
      · rw [hname]
        rfl
      · have hgiven : Golden.Step.compiler? (.compilerOverride (some name)) = some ⟨name⟩ :=
          if_neg hname
        have hprogram : program ⟨none, args, flag, artifact⟩ (some name) = ⟨name⟩ := if_neg hname
        rw [hgiven, hprogram]
        rfl

end CommandLine.GoldenOptions

/-! ### The calls of a command -/

/-- In the calls of a golden run, those with arguments are the compiler's, one for each of the first
tests. The others launch the artifact. -/
theorem Golden.compilations_of_run (host : Host σ) (config : Config) (tests : List Test)
    (s : Session σ) :
    ∃ made n, (run host config tests s).2.calls = s.calls ++ made ∧
      made.filter (·.arguments ≠ []) = (tests.take n).map (compilation config) ∧
      ∀ call ∈ made, call.arguments = [] → call = execution config := by
  obtain ⟨n, exchanges, own, verdicts, hstory⟩ := run_story host config tests s
  have hcompiles : ∀ call ∈ exchanges.map Prod.fst,
      call.arguments ≠ [] ↔ call ≠ execution config := by
    intro call hcall
    constructor
    · rintro harguments rfl
      exact harguments rfl
    · intro hexecution
      have hmem : call ∈ (exchanges.map Prod.fst).filter (· ≠ execution config) :=
        List.mem_filter.mpr ⟨hcall, decide_eq_true hexecution⟩
      rw [hstory.compilations] at hmem
      obtain ⟨test, -, rfl⟩ := List.mem_map.mp hmem
      exact List.append_ne_nil_of_right_ne_nil _ (List.cons_ne_nil _ _)
  refine ⟨exchanges.map Prod.fst, n, hstory.calls, ?_, ?_⟩
  · rw [← hstory.compilations]
    exact List.filter_congr fun call hcall => decide_eq_decide.mpr (hcompiles call hcall)
  · intro call hcall harguments
    exact Decidable.of_not_not fun hexecution => (hcompiles call hcall).mpr hexecution harguments

namespace Execution

open CommandLine (GoldenOptions)

/-- The tests of a command: none if they cannot be collected. -/
def collected (host : Host σ) (selection : Selection) (s : Session σ) : List Test :=
  (collect host selection s).1.toOption.getD []

/-- The calls of a golden command that have arguments are the compiler's, one for each of the first
tests that it collects. The others launch the artifact. -/
theorem compilations_of_golden (host : Host σ) (config : Golden.Config) (selection : Selection)
    (s : Session σ) :
    ∃ made n, (golden host config selection s).2.calls = s.calls ++ made ∧
      made.filter (·.arguments ≠ []) =
        ((collected host selection s).take n).map (Golden.compilation config) ∧
      ∀ call ∈ made, call.arguments = [] → call = Golden.execution config := by
  obtain ⟨result, entries, hcollect, -⟩ : ∃ result entries,
      collect host selection s = (result, s.telling entries) ∧
        collect host selection s = (result, s.telling entries) := collect_congr s s fun _ _ => rfl
  unfold collected
  rw [hcollect]
  cases result with
  | error failure =>
    refine ⟨[], 0, ?_, rfl, fun call hcall => absurd hcall List.not_mem_nil⟩
    unfold golden
    rw [hcollect]
    exact (List.append_nil _).symm
  | ok tests =>
    obtain ⟨-, hcalls, -⟩ := golden_of_collect hcollect config
    rw [hcalls]
    exact Golden.compilations_of_run host config tests (s.telling entries)

end Execution

namespace Golden

open CommandLine (GoldenOptions)

/-- **The last setting of a field wins, and a command's own wins over the environment's.**

- After any sequence of steps the compiler, the flag and the artifact are those of the last step
  that gives one, and those from the start if none does. A compiler that is given outright may be
  empty; as an override, it counts only if it is there and not empty. The compiler's arguments are
  those from the start and then all that were added, in order.
- So steps can be put in another order without any effect, as long as those about one field keep
  theirs.
- A build has the compiler's arguments, the source, the flag and the artifact as its arguments, and
  two builds have the same arguments only if they have all of these in common.
- A golden command compiles its tests, in order and as far as it gets, and every call with arguments
  is such a call: it runs the compiler that the command names, or else the one of the environment
  unless that is empty, or else the default; and it passes the command's arguments in order, the
  test, the flag and the artifact. To a command that names a compiler, the environment makes no
  difference whatever. -/
theorem settings_take_precedence (host : Host σ) (selection : Selection) (options : GoldenOptions)
    (s : Session σ) :
    (∀ (c : Config) (steps : List Step),
      (c.applyAll steps).compiler = Step.last Step.compiler? steps c.compiler ∧
      (c.applyAll steps).outputFlag = Step.last Step.outputFlag? steps c.outputFlag ∧
      (c.applyAll steps).artifact = Step.last Step.artifact? steps c.artifact ∧
      (c.applyAll steps).compilerArgs = c.compilerArgs ++ steps.filterMap Step.argument?) ∧
    (∀ (c : Config) (steps steps' : List Step),
      (∀ f, steps.filter (·.field = f) = steps'.filter (·.field = f)) →
        c.applyAll steps = c.applyAll steps') ∧
    (∀ (c c' : Config) (source source' : Path),
      c.buildArgs source = c.compilerArgs ++ [source.text, c.outputFlag, c.artifact.text] ∧
      (c.buildArgs source = c'.buildArgs source' ↔
        c.compilerArgs = c'.compilerArgs ∧ source = source' ∧ c.outputFlag = c'.outputFlag ∧
          c.artifact = c'.artifact)) ∧
    (∀ environmentCompiler, ∃ made n,
      (Execution.run host environmentCompiler (.golden selection options) s).2.calls =
        s.calls ++ made ∧
      made.filter (·.arguments ≠ []) =
        ((Execution.collected host selection s).take n).map (fun test =>
          ⟨options.program environmentCompiler,
            options.compilerArgs ++ [test.id, options.outputFlag, options.artifact.text]⟩) ∧
      ∀ call ∈ made, call.arguments = [] → call = ⟨options.artifact.anchored, []⟩) ∧
    (options.compiler ≠ none → ∀ environmentCompiler environmentCompiler',
      Execution.run host environmentCompiler (.golden selection options) s =
        Execution.run host environmentCompiler' (.golden selection options) s) := by
  refine ⟨fun c steps => ?_, fun c steps steps' h => c.applyAll_congr h,
    fun c c' source source' => ?_, fun environmentCompiler => ?_,
    fun hnamed environmentCompiler environmentCompiler' => ?_⟩
  · rw [c.applyAll_eq]
    exact ⟨rfl, rfl, rfl, rfl⟩
  · exact ⟨rfl, Config.buildArgs_eq_iff⟩
  · obtain ⟨made, n, hcalls, hcompilations, hexecutions⟩ :=
      Execution.compilations_of_golden host (options.config environmentCompiler) selection s
    rw [options.config_eq] at hcompilations hexecutions
    exact ⟨made, n, hcalls, hcompilations, hexecutions⟩
  · obtain ⟨compiler, hcompiler⟩ := Option.ne_none_iff_exists'.mp hnamed
    unfold Execution.run
    simp only [options.config_eq, GoldenOptions.program, hcompiler]

/-- An empty compiler that is given outright wins, one that should override does not; steps about
different fields change places; and what the environment says of a compiler is not heard where the
command names one. -/
theorem odd_settings_take_precedence :
    (Config.default.applyAll [.compiler ⟨"gcc"⟩, .artifact ⟨"a"⟩, .compilerOverride (some ""),
        .compilerArg "-x", .artifact ⟨"b"⟩]).compiler = ⟨"gcc"⟩ ∧
      Config.default.applyAll [.compilerOverride (some "gcc"), .artifact ⟨"a"⟩, .compilerArg "-x",
          .compiler ⟨""⟩, .artifact ⟨"b"⟩, .compilerArg "-y"] =
        Config.default.applyAll [.artifact ⟨"a"⟩, .artifact ⟨"b"⟩, .compilerArg "-x",
          .compilerOverride (some "gcc"), .compilerArg "-y", .compiler ⟨""⟩] ∧
      Execution.run killer (some "clang")
          (.golden ⟨["t"], []⟩ ⟨some ⟨"cc"⟩, ["-O"], "-o", ⟨"main"⟩⟩) (.start 0 .unlimited) =
        Execution.run killer none
          (.golden ⟨["t"], []⟩ ⟨some ⟨"cc"⟩, ["-O"], "-o", ⟨"main"⟩⟩) (.start 0 .unlimited) := by
  obtain ⟨hsteps, hreordered, -, -, hcommand⟩ := settings_take_precedence killer ⟨["t"], []⟩
    ⟨some ⟨"cc"⟩, ["-O"], "-o", ⟨"main"⟩⟩ (.start 0 .unlimited)
  refine ⟨(hsteps _ _).1, hreordered _ _ _ fun f => ?_, hcommand (Option.some_ne_none _) _ _⟩
  cases f <;> rfl

end Golden

end Assay
