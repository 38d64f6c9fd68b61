import Assay.Shell.Builtin.Condition
import Assay.Shell.Builtin.Directory
import Assay.Shell.Builtin.Input
import Assay.Shell.Builtin.Job
import Assay.Shell.Builtin.Limit
import Assay.Shell.Builtin.Name
import Assay.Shell.Builtin.Output
import Assay.Shell.Builtin.Variable
import Assay.Shell.Parser

/-!
# Carrying commands out

Commands are carried out one in another, and every turn begins and ends by a look at the signals
that came. What a command comes to is a status. A command that is `tested` may fail without ending a
shell that ends on failure; one that `exits` is the last thing that its shell does, so the shell may
become the program that it names.

A copy of the shell carries out pipelines, subshells, commands in the background and commands whose
output is wanted.

All is bounded by a number that no script reaches.
-/

namespace Assay.Shell

open Kernel (ProcessId Request Task)
open Text (Octets)

open Run

/-- How a command is carried out. -/
structure Mode where
  tested : Bool
  exits : Bool

namespace Mode

/-- As a part of a script. -/
def plain : Mode := ⟨false, false⟩

/-- As a condition. -/
def condition : Mode := ⟨true, false⟩

/-- As the last thing that a shell does. -/
def last : Mode := ⟨false, true⟩

/-- As a part of a command that is more than it. -/
def inner (m : Mode) : Mode := ⟨m.tested, false⟩

end Mode

namespace Run

/-- Carries a part out, and gives the jump that broke it off. -/
def attempt {α : Type} (x : Run α) : Run (Except Jump α) :=
  fun s k => x s fun (r, s) => k (.ok r, s)

/-- Goes on after an attempt as it ended. -/
def resume {α : Type} : Except Jump α → Run α
  | .ok a => pure a
  | .error j => throw j

/-- Notes the line of a command. -/
def noteLine (line : Nat) : Run Unit := modify fun s => { s with line }

/-- Whether commands are passed over. -/
def isSkipping : Run Bool := return (← get).skip.isSome

/-- What a repetition does after a part of it: nothing, the next turn, or it ends. Counts down the
repetitions that are still to be left. -/
inductive Turn where
  | on
  | again
  | ends
deriving DecidableEq, Repr

/-- Settles what a repetition does after a part of it, and whether a function is left. -/
def turn : Run Turn := do
  let s ← get
  match s.skip with
  | none => pure .on
  | some .function | some .functionAsIs => pure .ends
  | some skip =>
    let left := s.skipCount - 1
    set { s with skipCount := left, skip := if left = 0 then none else some skip }
    pure (if left = 0 && skip = .again then .again else .ends)

/-- What a copy of the shell forgets. -/
def becomeCopy : Run Unit := do
  let traps := (← get).traps
  traps.forM fun (signal, action) => do
    unless action.isEmpty || signal = 0 do ask (.arrange signal .usual)
  modify fun s => { s with
    traps := traps.filter fun (_, action) => action.isEmpty
    saved := [], jobs := [], pending := [], written := [], isCopy := true }

/-- What a copy of the shell in the background does first. -/
def enterBackground (isFirst : Bool) : Run Unit := do
  ask (.arrange Kernel.Signal.interrupt .ignored)
  ask (.arrange Kernel.Signal.quit .ignored)
  if isFirst then
    let _ ← ask (.close 0)
    let _ ← ask (.open (octets "/dev/null") .reading 0)

/-- Lets a descriptor lead where another one does, which is shut. -/
def moveDescriptor (source d : Kernel.Descriptor) : Run Unit := do
  if source != d then
    let _ ← ask (.duplicate source d)
    let _ ← ask (.close source)

/-- Adds a member to a job. -/
def addMember (number : Nat) (id : ProcessId) : Run Unit :=
  changeJob number fun j => { j with members := j.members ++ [⟨id, none⟩] }

/-- Refuses a script. -/
def refuseScript {α : Type} (e : SyntaxError) : Run α := do
  modify fun s => { s with line := e.line }
  fail (octets e.message)

end Run

/-- The words of a command while they are filled: those that are, the place of the command's name
among them, and those that are still to be filled. -/
structure Words where
  filled : List Octets
  start : Nat
  rest : List Word

namespace Words

/-- The name and the arguments. -/
def arguments (w : Words) : List Octets := w.filled.drop w.start

end Words

/-- What a simple command is, as far as it is known before its redirections. -/
structure Plan where
  words : Words
  /-- Whether it is a special command of the shell, if it is one of its commands. -/
  special : Option Bool
  /-- Whether assignments in front of it last no longer than it. -/
  isLocal : Bool
  /-- Whether its arguments may be assignments. -/
  assigns : Bool
  isExec : Bool
  located : Located
  /-- Whether functions are passed over. -/
  noFunctions : Bool
  /-- The search path, if it is not the shell's. -/
  path : Option Octets

/-- Whether a word is an assignment. -/
def Word.isAssignment : Word → Bool
  | .text chars false :: _ => (assignment? chars).isSome
  | _ => false

section Filling

variable (output : Option Command → Run Octets)

/-- Fills words until there is one more. -/
def Words.extend : (filled : List Octets) → (start : Nat) → List Word → Run Words
  | filled, start, [] => pure ⟨filled, start, []⟩
  | filled, start, word :: rest => do
    let more ← fillFields output word
    if more.isEmpty then Words.extend filled start rest else pure ⟨filled ++ more, start, rest⟩

/-- Fills words until there is one at a place. -/
def Words.reach (w : Words) (place : Nat) : Run Words :=
  if place < w.filled.length then pure w else Words.extend output w.filled w.start w.rest

/-- Passes over `command` and its options. `none` tells that it stands for itself. -/
def passCommand : Nat → (place : Nat) → (path : Option Octets) → Words →
    Run (Words × Option (Nat × Option Octets))
  | 0, _, _, w => pure (w, none)
  | n + 1, place, path, w => do
    let w ← w.reach output (place + 1)
    match w.filled[place + 1]? with
    | none => pure (w, none)
    | some ['-', '-'] => do
      let w ← w.reach output (place + 2)
      pure (w, if place + 2 < w.filled.length then some (place + 2, path) else none)
    | some ('-' :: c :: letters) =>
      if (c :: letters).all (· == 'p') then passCommand n (place + 1) (some usualPath) w
      else pure (w, none)
    | some _ => pure (w, some (place + 1, path))

/-- Finds out what kind of command it is. -/
def planFrom : Nat → Plan → Run Plan
  | 0, p => pure p
  | n + 1, p => do
    match p.words.arguments with
    | [] => pure p
    | name :: _ =>
      let path := p.path.getD (← get).searchPath
      let located ← locate ⟨!p.noFunctions, false, false, false⟩ path name
      match located with
      | .own command =>
        let first := p.special.isNone
        let special := p.special.getD command.special
        let p := { p with
          located, special := some special, assigns := command.assigns
          isLocal := if first then !special else true
          isExec := name == octets "exec" }
        if name != octets "command" then return p
        let place := p.words.start
        let (words, passed) ← passCommand output (p.words.filled.length + p.words.rest.length + 1)
          place p.path p.words
        match passed with
        | none => pure { p with words }
        | some (start, path) =>
          planFrom n { p with words := { words with start }, path, noFunctions := true }
      | located => pure { p with located, isLocal := true }

/-- The plan of a command's words, all of them filled. -/
def plan (words : List Word) : Run Plan := do
  let w ← Words.extend output [] 0 words
  let p ← planFrom output (words.length + 1)
    { words := w, special := none, isLocal := false, assigns := false, isExec := false
      located := .nothing, noFunctions := false, path := none }
  let more ← p.words.rest.mapM fun word => do
    if p.assigns && word.isAssignment then return [← fillAssignment output word]
    else fillFields output word
  pure { p with words := { p.words with filled := p.words.filled ++ more.flatten, rest := [] } }

end Filling

/-- The fuel of carrying out. -/
def carryDepth : Nat := 1000000000

mutual

/-- Carries a command out; `none` is an empty one. -/
def carry : Nat → Mode → Option Command → Run Nat
  | 0, _, _ => throw .finish
  | n + 1, m, c => do
    let before := (← get).status
    let (status, checks) ← match c with
      | none => pure (before, false)
      | some c =>
        if ← isOn .noexec then pure (before, false)
        else
          lookAtSignals n
          let (status, checks) ← step n m c
          status.forM setStatus
          pure (status.getD before, checks)
    lookAtSignals n
    if checks && !m.tested && status != 0 && (← isOn .errexit) then throw .finish
    if m.exits then throw .finish
    return (← get).status

/-- Carries a command out. Gives its status, if it comes to one, and whether a failure may end the
shell. -/
def step : Nat → Mode → Command → Run (Option Nat × Bool)
  | 0, _, _ => throw .finish
  | n + 1, m, c => do
    match c with
    | .not body =>
      let status ← carry n .condition (some body)
      if ← isSkipping then return (some status, false)
      pure (some (if status = 0 then 1 else 0), false)
    | .sequence first second =>
      let _ ← carry n m.inner (some first)
      if ← isSkipping then return (none, false)
      return (some (← carry n m (some second)), false)
    | .and first second =>
      let status ← carry n .condition (some first)
      if status != 0 || (← isSkipping) then return (none, false)
      return (some (← carry n m (some second)), false)
    | .or first second =>
      let status ← carry n .condition (some first)
      if status = 0 || (← isSkipping) then return (none, false)
      return (some (← carry n m (some second)), false)
    | .choice condition consequence alternative =>
      let status ← carry n .condition (some condition)
      if ← isSkipping then return (none, false)
      if status = 0 then return (some (← carry n m (some consequence)), false)
      match alternative with
      | some c => return (some (← carry n m (some c)), false)
      | none => pure (some 0, false)
    | .loop isUntil condition body =>
      modify fun s => { s with loops := s.loops + 1 }
      let status ← loopFrom n m.inner isUntil condition body 0
      modify fun s => { s with loops := s.loops - 1 }
      pure (some status, false)
    | .each line name words body =>
      noteLine line
      let fields ← words.mapM (fillFields (capture n))
      modify fun s => { s with loops := s.loops + 1 }
      let status ← eachFrom n m.inner name body fields.flatten 0
      modify fun s => { s with loops := s.loops - 1 }
      pure (some status, false)
    | .select line word branches =>
      noteLine line
      let text ← fillOne (capture n) word
      return (some (← selectFrom n m text branches), false)
    | .define name body =>
      modify fun s => { s with
        functions := (name, ⟨body, s.documents⟩) :: s.functions.filter (·.1 != name)
        found := s.found.filter (·.1 != name) }
      pure (some 0, false)
    | .redirected line body redirections =>
      noteLine line
      let changes ← fillChanges (capture n) redirections
      beginSaving
      let refused ← makeChanges (capture n) true changes
      let status ← if refused != 0 then pure refused else carry n m.inner (some body)
      endSaving false
      pure (some status, false)
    | .subshell line body redirections =>
      return (some (← subshell n m line body redirections), true)
    | .background line body redirections =>
      return (some (← background n m line body redirections), true)
    | .pipeline isBackground stages =>
      return (some (← pipeline n m isBackground stages), true)
    | .simple line assignments words redirections =>
      return (some (← simple n m line assignments words redirections), true)

/-- Goes on with a repetition. -/
def loopFrom : Nat → Mode → (isUntil : Bool) → (condition body : Command) → (status : Nat) → Run Nat
  | 0, _, _, _, _, _ => throw .finish
  | n + 1, m, isUntil, condition, body, status => do
    let held ← carry n .condition (some condition)
    let leavesFunction := (← get).skip == some .function || (← get).skip == some .functionAsIs
    match ← turn with
    | .again => loopFrom n m isUntil condition body status
    | .ends => pure (if leavesFunction then held else status)
    | .on =>
      if (held = 0) == isUntil then pure status
      else
        let status ← carry n m (some body)
        match ← turn with
        | .ends => pure status
        | _ => loopFrom n m isUntil condition body status

/-- Goes on with a repetition for each field. -/
def eachFrom : Nat → Mode → Octets → Command → List Octets → (status : Nat) → Run Nat
  | 0, _, _, _, _, _ => throw .finish
  | _, _, _, _, [], status => pure status
  | n + 1, m, name, body, field :: fields, _ => do
    assign name field
    let status ← carry n m (some body)
    match ← turn with
    | .ends => pure status
    | _ => eachFrom n m name body fields status

/-- Carries out the first branch that has a pattern which matches. -/
def selectFrom : Nat → Mode → Octets → List Branch → Run Nat
  | 0, _, _, _ => throw .finish
  | _, _, _, [] => pure 0
  | n + 1, m, text, .mk patterns body :: branches => do
    if ← isSkipping then return 0
    let found ← patterns.anyM fun p => do
      return matches? (← fillCase (capture n) p) text
    if !found then selectFrom n m text branches
    else
      match body with
      | none => pure 0
      | some c => if ← isSkipping then pure 0 else carry n m (some c)

/-- The task of a copy of the shell that carries something out and ends. -/
def copyTask : Nat → Run Unit → Interpreter → Task
  | 0, _, _ => .exit 0
  | n + 1, body, s =>
    let whole : Run Unit := do
      let result ← attempt do
        becomeCopy
        body
      endShell n result
    whole s fun _ => .exit 0

/-- Carries a command out in a copy of the shell, and waits for it. -/
def subshell : Nat → Mode → (line : Nat) → Command → List Redirection → Run Nat
  | 0, _, _, _, _ => throw .finish
  | n + 1, m, line, body, redirections => do
    noteLine line
    let changes ← fillChanges (capture n) redirections
    let inside (m : Mode) : Run Unit := do
      changes.forM (makeChange (capture n) false)
      let _ ← carry n { m with exits := true } (some body)
    if m.exits && !(← get).hasTraps then
      becomeCopy
      inside m
      throw .finish
    else
      let job ← newJob []
      addMember job (← forkTask (copyTask n (inside m)))
      awaitJob job

/-- Carries a command out in a copy of the shell, and does not wait. -/
def background : Nat → Mode → (line : Nat) → Command → List Redirection → Run Nat
  | 0, _, _, _, _ => throw .finish
  | n + 1, _, line, body, redirections => do
    noteLine line
    let changes ← fillChanges (capture n) redirections
    let job ← newJob []
    let id ← forkTask <| copyTask n do
      enterBackground true
      changes.forM (makeChange (capture n) false)
      let _ ← carry n .last (some body)
    addMember job id
    modify fun s => { s with lastJob := some id }
    pure 0

/-- Carries the stages of a pipeline out, each in a copy of the shell. -/
def pipeline : Nat → Mode → (isBackground : Bool) → List Command → Run Nat
  | 0, _, _, _ => throw .finish
  | n + 1, m, isBackground, stages => do
    let job ← newJob []
    stagesFrom n m isBackground job true none stages
    if isBackground then pure 0 else awaitJob job

/-- Starts the stages of a pipeline that are left. The one before writes to a pipe. -/
def stagesFrom : Nat → Mode → (isBackground : Bool) → (job : Nat) → (isFirst : Bool) →
    Option Kernel.Descriptor → List Command → Run Unit
  | 0, _, _, _, _, _, _ => throw .finish
  | _, _, _, _, _, _, [] => pure ()
  | n + 1, m, isBackground, job, isFirst, before, stage :: stages => do
    foresee stage
    let after ← if stages.isEmpty then pure none
      else
        match ← ask .makePipe with
        | .ok ends => pure (some ends)
        | .error _ => failPlain "Pipe call failed"
    let id ← forkTask <| copyTask n do
      if isBackground then enterBackground isFirst
      after.forM fun (source, _) => do
        let _ ← ask (.close source)
      before.forM fun source => moveDescriptor source 0
      after.forM fun (_, sink) => moveDescriptor sink 1
      let _ ← carry n { m with exits := true } (some stage)
    addMember job id
    if isBackground then modify fun s => { s with lastJob := some id }
    before.forM fun source => do
      let _ ← ask (.close source)
    after.forM fun (_, sink) => do
      let _ ← ask (.close sink)
    stagesFrom n m isBackground job false (after.map (·.1)) stages
where
  /-- Finds the program of a stage, so that it is known where it was found. -/
  foresee : Command → Run Unit
    | .simple _ _ ([.text name false] :: _) _ => do
      if isName name then
        let _ ← locate ⟨true, true, false, false⟩ (← get).searchPath name
    | _ => pure ()

/-- The output of a command. -/
def capture : Nat → Option Command → Run Octets
  | 0, _ => throw .finish
  | _, none => pure []
  | n + 1, some body => do
    match ← ask .makePipe with
    | .error _ => failPlain "Pipe call failed"
    | .ok (source, sink) =>
      let job ← newJob []
      let id ← forkTask <| copyTask n do
        let _ ← ask (.close source)
        moveDescriptor sink 1
        let _ ← carry n .last (some body)
      addMember job id
      let _ ← ask (.close sink)
      let text ← readAll source
      let _ ← ask (.close source)
      let status ← awaitJob job
      modify fun s => { s with outputStatus := status }
      pure (text.filter (· != '\x00'))

/-- Carries a simple command out. -/
def simple : Nat → Mode → (line : Nat) → (assignments words : List Word) → List Redirection →
    Run Nat
  | 0, _, _, _, _, _ => throw .finish
  | n + 1, m, line, assignments, words, redirections => do
    noteLine line
    modify fun s => { s with outputStatus := 0 }
    let p ← plan (capture n) words
    if p.isLocal then modify fun s => { s with locals := [] :: s.locals }
    modify fun s => { s with traceTo := 2 }
    let changes ← fillChanges (capture n) redirections
    let depth := (← get).saved.length
    unless redirections.isEmpty do beginSaving
    let refused ← makeChanges (capture n) true changes
    let status ←
      if refused != 0 then
        setStatus refused
        if p.special == some true then throw .mistake
        pure refused
      else
        let errors ← if redirections.isEmpty then pure 2 else formerErrors
        modify fun s => { s with traceTo := errors }
        perform n m p assignments
    unless redirections.isEmpty do endSaving p.isExec
    unwindSavingTo depth
    if p.isLocal then endLocals
    pure status

/-- Assigns, and carries out what a simple command names. -/
def perform : Nat → Mode → Plan → (assignments : List Word) → Run Nat
  | 0, _, _, _ => throw .finish
  | n + 1, m, p, assignments => do
    let arguments := p.words.arguments
    let exports := p.isExec && 1 < arguments.length
    let assigned ← assignments.mapM fun word => do
      let text ← fillAssignment (capture n) word
      if p.isLocal then makeLocal text true
      else
        let name := untilEquals text
        setMarked name (some (text.drop (name.length + 1))) exports false false true
      pure text
    trace n (assigned ++ p.words.filled)
    match arguments with
    | [] =>
      let status := (← get).outputStatus
      setStatus status
      reapJobs
      pure status
    | name :: _ =>
      let isSettled := match p.located with
        | .own command => command.regular
        | _ => false
      let path := p.path.getD (← get).searchPath
      let located ← if isSettled then pure p.located
        else locate ⟨!p.noFunctions, true, true, false⟩ path name
      match located with
      | .nothing =>
        setStatus 127
        pure 127
      | .program index =>
        if m.exits && !(← get).hasTraps then execute arguments path (index.getD 0)
        else
          let job ← newJob []
          addMember job (← forkTask (programTask arguments path (index.getD 0)))
          awaitJob job
      | .own _ =>
        let result ← attempt (ownCommand n m arguments)
        match result with
        | .error .mistake => if p.special == some true then throw .mistake
        | result => resume result
        reapJobs
        return (← get).status
      | .function f =>
        call n m f arguments.tail
        reapJobs
        return (← get).status
where
  /-- Looks whether jobs have ended. -/
  reapJobs : Run Unit := do
    unless (← get).jobs.all (·.isDone) do
      let _ ← awaitFrom none waitLimit .look
  /-- The task of a copy of the shell that becomes a program. -/
  programTask (arguments : List Octets) (path : Octets) (index : Nat) (s : Interpreter) : Task :=
    (becomeProgram arguments path index) s fun (_, s) => .exit s.status
  /-- Becomes a program in a copy of the shell. -/
  becomeProgram (arguments : List Octets) (path : Octets) (index : Nat) : Run Unit := do
    becomeCopy
    execute arguments path index

/-- Shows a command that is carried out, if that is asked for. -/
def trace : Nat → List Octets → Run Unit
  | 0, _ => throw .finish
  | n + 1, words => do
    if (← isOn .xtrace) && !(← get).tracing then
      modify fun s => { s with tracing := true }
      let front := ((← get).value? (octets "PS4")).getD []
      let shown ← match Reader.documentOf front with
        | .ok word => fillDocument (capture n) word
        | .error _ => pure front
      modify fun s => { s with tracing := false }
      let _ ← emit (← get).traceTo (shown ++ Text.join ' ' words ++ ['\n'])

/-- Calls a function. -/
def call : Nat → Mode → Function → List Octets → Run Unit
  | 0, _, _, _ => throw .finish
  | n + 1, m, f, arguments => do
    let before ← get
    modify fun s => { s with
      parameters := .of arguments, loops := 0, documents := f.documents }
    let result ← attempt (carry n m.inner (some f.body))
    modify fun s => { s with
      parameters := before.parameters, loops := before.loops, documents := before.documents
      skip := if s.skip == some .function || s.skip == some .functionAsIs then none else s.skip }
    let _ ← resume result

/-- Carries a command of the shell itself out, and writes what it has to say. -/
def ownCommand : Nat → Mode → List Octets → Run Unit
  | 0, _, _ => throw .finish
  | n + 1, m, arguments => do
    let before := (← get).command
    let name := arguments.head?.getD []
    modify fun s => { s with command := some name }
    let result ← attempt do
      let status ← own n m name arguments.tail
      if ← flush then setStatus status
      else
        let name := ((← get).command).getD name
        complain (name ++ octets ": I/O error")
        setStatus (status ||| 1)
    modify fun s => { s with written := [], command := before }
    resume result

/-- Carries a command of the shell itself out. -/
def own : Nat → Mode → (name : Octets) → (arguments : List Octets) → Run Nat
  | 0, _, _, _ => throw .finish
  | n + 1, m, name, arguments => do
    match String.ofList name with
    | ":" | "true" => pure 0
    | "false" => pure 1
    | "." => source n arguments
    | "[" => Builtin.bracket arguments
    | "alias" => Builtin.setAliases arguments
    | "bg" | "fg" => Builtin.moveJob arguments
    | "break" => leave .leave arguments
    | "cd" | "chdir" => Builtin.changeDirectory arguments
    | "command" => Builtin.commandName arguments
    | "continue" => leave .again arguments
    | "echo" => Builtin.echo arguments
    | "eval" => runText n m.inner (Text.join ' ' arguments)
    | "exec" =>
      if arguments.isEmpty then pure 0
      else execute arguments (← get).searchPath 0
    | "exit" =>
      match arguments with
      | text :: _ =>
        let status ← number text
        modify fun s => { s with savedStatus := some status }
      | [] => pure ()
      throw .exit
    | "export" => Builtin.mark "export" false arguments
    | "getopts" => Builtin.getOption arguments
    | "hash" => Builtin.hash arguments
    | "jobs" => Builtin.showJobs arguments
    | "kill" => Builtin.kill arguments
    | "local" => Builtin.localize arguments
    | "printf" => Builtin.printf arguments
    | "pwd" => Builtin.printDirectory arguments
    | "read" => Builtin.read arguments
    | "readonly" => Builtin.mark "readonly" true arguments
    | "return" =>
      match arguments with
      | text :: _ =>
        let status ← number text
        modify fun s => { s with skip := some .function }
        pure status
      | [] =>
        modify fun s => { s with skip := some .functionAsIs }
        return (← get).status
    | "set" => Builtin.setAll arguments
    | "shift" => Builtin.shift arguments
    | "test" => Builtin.condition arguments
    | "times" => Builtin.usedTimes
    | "trap" => Builtin.trap arguments
    | "type" => Builtin.type arguments
    | "ulimit" => Builtin.limit arguments
    | "umask" => Builtin.maskPermissions arguments
    | "unalias" => Builtin.unalias arguments
    | "unset" => Builtin.unset arguments
    | "wait" => Builtin.wait arguments
    | _ => pure 0
where
  /-- Leaves repetitions, or goes on with the next turn. -/
  leave (skip : Skip) (arguments : List Octets) : Run Nat := do
    let count ← match arguments with
      | [] => pure 1
      | text :: _ => do
        let count ← number text
        if count = 0 then failNumber text
        pure count
    modify fun s =>
      if s.loops = 0 then s else { s with skip := some skip, skipCount := min count s.loops }
    pure 0

/-- Carries out the commands of a file. -/
def source : Nat → List Octets → Run Nat
  | 0, _ => throw .finish
  | n + 1, arguments => do
    match ← Builtin.operands arguments with
    | [] => pure 0
    | name :: _ =>
      let path ← if name.contains '/' then pure name
        else
          let candidates := (Text.split ':' (← get).searchPath).map (pathIn · name)
          match ← candidates.findM? isFile with
          | some path => pure path
          | none => fail (name ++ octets ": not found")
      match ← ask (.open path .reading 0) with
      | .error e => failOpen false path e
      | .ok d =>
        let text ← readAll d
        let _ ← ask (.close d)
        modify fun s => { s with command := some path }
        runFile n text
where
  /-- Whether a path leads to a file. -/
  isFile (path : Octets) : Run Bool := do
    match ← ask (.status path true) with
    | .ok status => pure (status.kind == .regular)
    | .error _ => pure false

/-- Carries out a text. -/
def runText : Nat → Mode → Octets → Run Nat
  | 0, _, _ => throw .finish
  | n + 1, m, text => do
    let before ← get
    let result ← attempt (textFrom n m (.ofText text 1) 0)
    modify fun s => { s with documents := before.documents, readLine := before.readLine }
    resume result

/-- Carries out what is left of a text. -/
def textFrom : Nat → Mode → Reader → (status : Nat) → Run Nat
  | 0, _, _, _ => throw .finish
  | n + 1, m, reader, status => do
    let aliases := (← get).aliases
    match { reader with aliases }.nextCommand with
    | .finished => pure status
    | .refused e _ => refuseScript e
    | .command script isLast rest =>
      modify fun s => { s with readLine := rest.line }
      script.forM fun script => modify fun s => { s with documents := script.documents }
      let reached ← carry n { m with exits := m.exits && isLast } (script.map (·.command))
      let status := if script.isSome then reached else status
      if ← isSkipping then pure status else textFrom n m rest status

/-- Carries out the contents of a file. -/
def runFile : Nat → Octets → Run Nat
  | 0, _ => throw .finish
  | n + 1, contents => do
    let before ← get
    let result ← attempt (fileFrom n (.ofText (contents.filter (· != '\x00')) 1) 0)
    modify fun s => { s with documents := before.documents, readLine := before.readLine }
    resume result

/-- Carries out what is left of a file. -/
def fileFrom : Nat → Reader → (status : Nat) → Run Nat
  | 0, _, _ => throw .finish
  | n + 1, reader, status => do
    let aliases := (← get).aliases
    let shows ← isOn .verbose
    let next := { reader with aliases }.nextCommand
    if shows then
      let _ ← emit 2 (reader.readSince next.reader)
    match next with
    | .finished => pure status
    | .refused e _ => refuseScript e
    | .command script _ rest =>
      modify fun s => { s with readLine := rest.line }
      script.forM fun script => modify fun s => { s with documents := script.documents }
      let reached ← carry n .plain (script.map (·.command))
      let status := if script.isSome then reached else status
      if ← isSkipping then
        modify fun s => { s with
          skip := if s.skip == some .function || s.skip == some .functionAsIs then none
            else s.skip }
        pure status
      else fileFrom n rest status

/-- Does what is to be done at the signals that came. -/
def lookAtSignals : Nat → Run Unit
  | 0 => throw .finish
  | n + 1 => do
    collectSignals
    let s ← get
    if s.pending.isEmpty then return
    let outer := s.savedStatus
    let status := outer.getD s.status
    modify fun s => { s with savedStatus := some status }
    signalsFrom n status (s.pending.mergeSort fun a b => a ≤ b)
    modify fun s => { s with savedStatus := outer }

/-- Does what is to be done at some signals. -/
def signalsFrom : Nat → (status : Nat) → List Nat → Run Unit
  | 0, _, _ => throw .finish
  | _, _, [] => pure ()
  | n + 1, status, signal :: signals => do
    if ← isSkipping then return
    modify fun s => { s with pending := s.pending.filter (· != signal) }
    match (← get).traps.find? (·.1 == signal) with
    | some (_, action) =>
      let _ ← runText n .plain action
      unless (← get).skip == some .function do setStatus status
    | none => pure ()
    signalsFrom n status signals

/-- Ends the shell. What is to be done then is done, and its status is the end's unless the shell is
told otherwise. -/
def endShell : Nat → Except Jump Unit → Run Unit
  | 0, _ => exitProcess 0
  | n + 1, result => do
    match result with
    | .ok _ => pure ()
    | .error jump => reset (jump == .exit)
    modify fun s => { s with savedStatus := some s.status }
    match (← get).traps.find? (·.1 == 0) with
    | none => pure ()
    | some (_, action) =>
      modify fun s => { s with traps := s.traps.filter (·.1 != 0), skip := none }
      let ended ← attempt (runText n .plain action)
      match ended with
      | .ok _ => reset true
      | .error jump => reset (jump == .exit)
    let _ ← flush
    exitProcess (← get).status
where
  /-- Leaves everything that is being carried out. -/
  reset (takesSaved : Bool) : Run Unit := do
    modify fun s => { s with
      status := if takesSaved then s.savedStatus.getD s.status else s.status
      savedStatus := none, skip := none, loops := 0, tracing := false }
    unwindSavingTo 0

end

end Assay.Shell
