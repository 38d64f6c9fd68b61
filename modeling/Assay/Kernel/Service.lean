import Assay.Kernel.Image
import Assay.Kernel.World

/-!
# The kernel's answers

`World.serve` answers what a process asks for. What cannot be answered yet is told to be waiting,
and asked again when the world has changed; a request that ends the process, or makes it another
program, has no answer.

The processes belong to the user who may do everything, so permissions keep nobody from reading,
writing or entering.
-/

namespace Assay.Kernel

open Files (Device Node Place Tree)
open Text (Octets)

/-- What comes of a request. -/
inductive Served (α : Type) where
  | answer (value : α) (w : World)
  /-- There is no answer yet. -/
  | wait (w : World)
  /-- The process goes on in another way, or has ended. -/
  | gone (w : World)

namespace World

/-- An answer that changes nothing. -/
def replying {α : Type} (w : World) (value : α) : Served α := .answer value w

/-- The answer of an operation that may fail, and then changes nothing. -/
def answering {ε α : Type} (w : World) (result : Except ε (α × World)) : Served (Except ε α) :=
  match result with
  | .ok (value, w) => .answer (.ok value) w
  | .error e => .answer (.error e) w

/-! ### Files -/

/-- What a path leads to, as a process sees it. -/
def lookup (w : World) (p : Process) (path : Octets) (follows : Bool) :
    Except IoError (Place × Node) :=
  w.tree.lookupOctets p.directory follows path

/-- The tree with something else at a place. -/
def withNode (w : World) (place : Place) (node : Node) : World :=
  { w with tree := w.tree.set place node }

/-- The place at which something new can be made: nothing stands there, and its directory does. -/
def vacant (w : World) (p : Process) (path : Octets) : Except IoError Place := do
  let place ← w.tree.walkOctets p.directory false path
  if (w.tree.node? place).isSome then throw .alreadyThere
  if w.tree.isDirectory place.dropLast then pure place else throw .noEntry

/-- The kind, size, permissions and time of what stands at a place. -/
def statusAt (w : World) (place : Place) (node : Node) : Except IoError FileStatus :=
  let group := w.tree.group place
  let status (kind : FileKind) (size mode modified : Nat) : FileStatus :=
    ⟨kind, .place (group.head?.getD place), group.length, size, mode, modified⟩
  match node with
  | .directory mode => .ok (status .directory 4096 mode 0)
  | .file contents mode modified => .ok (status .regular contents.size mode modified)
  | .device (.descriptor _) => .error .noEntry
  | .device _ => .ok (status .device 0 0o666 w.clock)
  | .link target => .ok (status .link target.length 0o777 0)

/-- What is known of the file that a descriptor leads to. -/
def statusOf (w : World) (p : Process) (d : Descriptor) : Except IoError FileStatus :=
  match w.handle? p d with
  | none => .error .badDescriptor
  | some (_, h) =>
    match h.target with
    | .pipe number => .ok ⟨.pipe, .pipe number, 1, 0, 0o600, w.clock⟩
    | .place place =>
      match w.tree.node? place with
      | some node => w.statusAt place node
      | none => .ok ⟨.regular, .place place, 0, 0, 0, 0⟩

/-- What is known of what a path leads to. -/
def status (w : World) (p : Process) (path : Octets) (follows : Bool) :
    Except IoError FileStatus := do
  match ← w.lookup p path follows with
  | (_, .device (.descriptor number)) =>
    match w.statusOf p number with
    | .ok status => pure status
    | .error _ => throw .noEntry
  | (place, node) => w.statusAt place node

/-- Opens what stands at a place. -/
def openNode (w : World) (p : Process) (place : Place) (node : Node) (how : Opening) :
    Except IoError (Descriptor × World) := do
  if how.creates && how.exclusive then throw .alreadyThere
  let d ← p.freeDescriptor 0
  let opened (w : World) (target : Target) : Descriptor × World :=
    (d, w.openAt p d ⟨target, 0, how.reads, how.writes, how.appends⟩)
  let regular (w : World) (place : Place) (node : Node) : Except IoError (Descriptor × World) :=
    match node with
    | .directory _ => if how.writes then .error .isDirectory else .ok (opened w (.place place))
    | .file _ mode _ =>
      let w := if how.truncates then w.withNode place (.file #[] mode w.clock) else w
      .ok (opened w (.place place))
    | .device .terminal => .error .noDevice
    | .device _ => .ok (opened w (.place place))
    | .link _ => .error .linkLoop
  match node with
  | .device (.descriptor number) =>
    match w.handle? p number with
    | none => throw .noEntry
    | some (_, h) =>
      match h.target with
      | .pipe _ => pure (opened w h.target)
      | .place place =>
        match w.tree.node? place with
        | some node => regular w place node
        | none => throw .noEntry
  | node => regular w place node

/-- Opens a file. -/
def openFile (w : World) (p : Process) (path : Octets) (how : Opening) (mode : Nat) :
    Except IoError (Descriptor × World) := do
  if how.creates && path.getLast? == some '/' then
    let short := (path.reverse.dropWhile (· == '/')).reverse
    let _ ← if short.isEmpty then pure [] else w.tree.walkOctets p.directory false short
    throw .isDirectory
  let place ← w.tree.walkOctets p.directory (!(how.creates && how.exclusive)) path
  match w.tree.node? place with
  | some node => w.openNode p place node how
  | none =>
    if !how.creates then throw .noEntry
    if !w.tree.isDirectory place.dropLast then
      throw (if (w.tree.node? place.dropLast).isSome then .notDirectory else .noEntry)
    let node : Node := .file #[] (mode &&& (0o7777 ^^^ p.mask)) w.clock
    (w.withNode place node).openNode p place node { how with exclusive := false }

/-- Reads from what stands at a place. -/
def readNode (node : Option Node) (offset count : Nat) : Except IoError Bytes :=
  match node with
  | some (.file contents _ _) => .ok (contents.extract offset (offset + count)).toList
  | some (.directory _) => .error .isDirectory
  | some (.device .zero) | some (.device .full) => .ok (List.replicate count 0)
  | _ => .ok []

/-- Contents with bytes written at an offset. -/
def overwrite (contents : Array UInt8) (offset : Nat) (data : Bytes) : Array UInt8 :=
  let padded := contents ++ Array.replicate (offset - contents.size) 0
  if offset = padded.size then padded ++ data.toArray
  else padded.extract 0 offset ++ data.toArray ++
    padded.extract (offset + data.length) padded.size

/-- Gives a process a signal that comes from what it does. It ends, or gets an answer after all. -/
def raise {α : Type} (w : World) (p : Process) (signal : Nat) (answer : α) : Served α :=
  match p.disposition signal with
  | .usual => .gone (w.finish p.id (.killed signal))
  | .ignored => w.replying answer
  | .caught => (w.note p.id signal).replying answer

/-- Writes to what stands at a place, and moves the handle on. A file grows to the size that it may
have. -/
def writeNode (w : World) (p : Process) (number : Nat) (h : Handle) (place : Place) (data : Bytes) :
    Served (Except IoError Unit) :=
  match w.tree.node? place with
  | some (.file contents mode _) =>
    let offset := if h.appends then contents.size else h.offset
    let room := match (p.limit .fileSize).soft with
      | some size => size - offset
      | none => data.length
    let fitting := data.take room
    let w := if fitting.isEmpty then w
      else w.withNode place (.file (overwrite contents offset fitting) mode w.clock)
    let w := w.changeHandle number ({ · with offset := offset + fitting.length })
    if room < data.length then w.raise p Signal.fileSize (.error .fileTooLarge)
    else w.replying (.ok ())
  | some (.device .full) => w.replying (if data.isEmpty then .ok () else .error .noSpace)
  | _ => w.replying (.ok ())

/-! ### Requests -/

/-- Answers a read. -/
def serveRead (w : World) (p : Process) (d : Descriptor) (count : Nat) :
    Served (Except IoError Bytes) :=
  match w.handle? p d with
  | none => w.replying (.error .badDescriptor)
  | some (number, h) =>
    if !h.reads then w.replying (.error .badDescriptor)
    else
      match h.target with
      | .place place =>
        match readNode (w.tree.node? place) h.offset count with
        | .error e => w.replying (.error e)
        | .ok data =>
          .answer (.ok data) (w.changeHandle number ({ · with offset := h.offset + data.length }))
      | .pipe id =>
        match w.pipes[id]? with
        | none => w.replying (.ok [])
        | some pipe =>
          if pipe.waiting = 0 then
            if w.hasEnd id false then .wait w else w.replying (.ok [])
          else
            let (data, pipe) := pipe.take count
            .answer (.ok data) { w with pipes := w.pipes.set! id pipe }

/-- Answers a write to a pipe. A few bytes are written at once; more are written as there is
room. -/
def servePipeWrite (w : World) (p : Process) (id : Nat) (data : Bytes) :
    Served (Except IoError Unit) :=
  match w.pipes[id]? with
  | none => w.replying (.ok ())
  | some pipe =>
    if !pipe.outside && !w.hasEnd id true then
      w.raise p Signal.pipe (.error .brokenPipe)
    else
      let rest := data.drop p.progress
      let room := pipe.room rest.length
      let add (data : Bytes) : World :=
        { w with pipes := w.pipes.modify id (·.add data) }
      if rest.length ≤ room then .answer (.ok ()) (add rest)
      else if room = 0 || data.length ≤ Pipe.atomic then .wait w
      else .wait ((add (rest.take room)).change p.id fun p =>
        { p with progress := p.progress + room })

/-- Answers a write. -/
def serveWrite (w : World) (p : Process) (d : Descriptor) (data : Bytes) :
    Served (Except IoError Unit) :=
  match w.handle? p d with
  | none => w.replying (.error .badDescriptor)
  | some (number, h) =>
    if !h.writes then w.replying (.error .badDescriptor)
    else
      match h.target with
      | .place place => w.writeNode p number h place data
      | .pipe id => w.servePipeWrite p id data

/-- Lets a descriptor lead where another one does. -/
def duplicate (w : World) (p : Process) (d onto : Descriptor) (closesOnExecute : Bool) :
    Except IoError (Descriptor × World) :=
  match p.opened? d with
  | none => .error .badDescriptor
  | some opened =>
    if d = onto then .ok (onto, w)
    else if !(p.limit .descriptors).allows (onto + 1) then .error .badDescriptor
    else
      .ok (onto, w.change p.id
        (·.withDescriptor onto (some ⟨opened.handle, closesOnExecute⟩)))

/-- Lets the first free descriptor from a number on lead where another one does. -/
def duplicateAbove (w : World) (p : Process) (d least : Descriptor) :
    Except IoError (Descriptor × World) := do
  if !(p.limit .descriptors).allows (least + 1) then throw .invalid
  w.duplicate p d (← p.freeDescriptor least) true

/-- Makes a pipe. -/
def makePipe (w : World) (p : Process) : Except IoError ((Descriptor × Descriptor) × World) := do
  let id := w.pipes.size
  let w := { w with pipes := w.pipes.push ⟨.empty, 0, false⟩ }
  let source ← p.freeDescriptor 0
  let w := w.openAt p source ⟨.pipe id, 0, true, false, false⟩
  let p := (w.process? p.id).getD p
  let sink ← p.freeDescriptor 0
  pure ((source, sink), w.openAt p sink ⟨.pipe id, 0, false, true, false⟩)

/-- Lets a file stand at another path too. -/
def shareFile (w : World) (p : Process) (path other : Octets) (follows : Bool) :
    Except IoError World := do
  let (place, node) ← w.lookup p path follows
  let new ← w.vacant p other
  if node.isDirectory then throw .notPermitted
  pure { w with tree := w.tree.share place new node }

/-- The world in which handles lead to other places. -/
def leadElsewhere (w : World) (f : Place → Place) : World :=
  { w with handles := w.handles.map fun h =>
      match h.target with
      | .place place => { h with target := .place (f place) }
      | .pipe _ => h }

/-- Takes a file away. Who has it open still reads and writes it where it stands at other places. -/
def removeFile (w : World) (p : Process) (path : Octets) : Except IoError World := do
  let (place, node) ← w.lookup p path false
  if node.isDirectory then throw .isDirectory
  let other := ((w.tree.sharing place).tail.head?).getD place
  let w := w.leadElsewhere fun q => if q == place then other else q
  pure { w with tree := w.tree.erase place }

/-- Moves what stands at a path to another one. Two names of one file stay as they are. -/
def rename (w : World) (p : Process) (path other : Octets) : Except IoError World := do
  let (origin, node) ← w.lookup p path false
  let target ← w.tree.walkOctets p.directory false other
  if (w.tree.sharing origin).contains target then return w
  match w.tree.node? target, node.isDirectory with
  | some (.directory _), false => throw .isDirectory
  | some (.directory _), true =>
    if !(w.tree.names target).isEmpty then throw .notEmpty
  | some _, true => throw .notDirectory
  | some _, false => pure ()
  | none, _ =>
    if !w.tree.isDirectory target.dropLast then throw .noEntry
    if origin.isPrefixOf target then throw .invalid
  let w := w.leadElsewhere (Tree.moved origin target)
  pure { w with tree := w.tree.move origin target }

/-- Changes a limit. The hard limit cannot be raised. -/
def setLimit (w : World) (p : Process) (r : Resource) (l : Limit) : Except IoError World := do
  if !Limit.isWithin l.soft l.hard then throw .invalid
  if !Limit.isWithin l.hard (p.limit r).hard then throw .notPermitted
  pure (w.change p.id fun p => { p with limits := (r, l) :: p.limits.filter (·.1 != r) })

/-- The number of bytes that one argument may have. -/
def argumentLimit : Nat := 131071

/-- The number of bytes that the arguments and the environment may have. -/
def argumentsLimit : Nat := 2097152

/-- Whether the arguments and the environment are too long. -/
def overlong (arguments : List Octets) (environment : List Binding) : Bool :=
  let sizes := arguments.map (·.length) ++
    environment.map fun (name, value) => name.length + value.length + 1
  sizes.any (argumentLimit < ·) || argumentsLimit < sizes.foldl (fun n size => n + size + 9) 0

/-- Whether some process has what stands at a place open to write to it. -/
def isWritten (w : World) (place : Place) : Bool :=
  w.processes.any fun p => p.descriptors.any fun (_, opened) =>
    (w.handles[opened.handle]?).any fun h =>
      h.writes && (w.tree.sharing place).any (h.target == .place ·)

/-- Makes a process another program. -/
def execute (boot : Image → List Binding → Task) (w : World) (p : Process) (path : Octets)
    (arguments : List Octets) (environment : List Binding) : Served IoError :=
  if overlong arguments environment then w.replying .tooMuch
  else
    match Image.ofPath w.tree w.isWritten p.directory path arguments with
    | .error e => w.replying e
    | .ok image => .gone (w.change p.id fun p => { p with
        descriptors := p.descriptors.filter (!·.2.closesOnExecute)
        caught := []
        noted := []
        activity := .ready (boot image environment) })

/-- Answers a wait for a child. -/
def serveAwait (w : World) (p : Process) (child : Option ProcessId) (blocks : Bool) :
    Served (Except IoError (Option (ProcessId × Ending))) :=
  let children := w.processes.filter fun q => q.parent == p.id && child.all (· == q.id)
  let ended := children.findSome? fun q =>
    match q.activity with
    | .ended ending => some (q.id, ending)
    | _ => none
  match ended with
  | some (id, ending) => (w.remove id).replying (.ok (some (id, ending)))
  | none =>
    if children.isEmpty then w.replying (.error .noChild)
    else if blocks then .wait w
    else w.replying (.ok none)

/-- Answers the sending of a signal. -/
def serveSend (w : World) (p : Process) (target : Int) (signal : Nat) :
    Served (Except IoError Unit) :=
  if Signal.last < signal then w.replying (.error .invalid)
  else
    let chosen := w.processes.filter fun q =>
      if target = 0 then q.isAlive
      else if target = -1 then q.isAlive && q.id != p.id
      else (q.id : Int) == target
    if chosen.isEmpty then w.replying (.error .noProcess)
    else if signal = 0 then w.replying (.ok ())
    else
      let w := (chosen.filter (·.isAlive)).foldl (fun w q => w.post p.id q signal) w
      if (w.process? p.id).any (·.isAlive) then w.replying (.ok ()) else .gone w

/-- Answers a sleep. -/
def serveSleep (w : World) (p : Process) (duration : Duration) : Served (Except IoError Unit) :=
  match p.wakes with
  | some time => if time ≤ w.clock then w.replying (.ok ()) else .wait w
  | none => .wait (w.change p.id fun p => { p with wakes := some (w.clock + duration) })

/-- Answers a request. -/
def serve (boot : Image → List Binding → Task) (w : World) (p : Process) :
    (r : Request) → Served r.Reply
  | .pause => w.replying ()
  | .read d count => w.serveRead p d count
  | .write d data => w.serveWrite p d data
  | .open path how mode => w.answering (w.openFile p path how mode)
  | .close d =>
    if (p.opened? d).isSome then (w.change p.id (·.withDescriptor d none)).replying (.ok ())
    else w.replying (.error .badDescriptor)
  | .duplicate d onto =>
    w.answering ((w.duplicate p d onto false).map fun (_, w) => ((), w))
  | .duplicateAbove d least => w.answering (w.duplicateAbove p d least)
  | .makePipe => w.answering (w.makePipe p)
  | .status path follows => w.replying (w.status p path follows)
  | .statusOf d => w.replying (w.statusOf p d)
  | .position d => w.replying <|
    match w.handle? p d with
    | none => .error .badDescriptor
    | some (_, h) =>
      match h.target with
      | .place _ => .ok h.offset
      | .pipe _ => .error .noSeek
  | .seek d offset => w.answering <|
    match w.handle? p d with
    | none => .error .badDescriptor
    | some (number, h) =>
      match h.target with
      | .place _ => .ok ((), w.changeHandle number ({ · with offset }))
      | .pipe _ => .error .noSeek
  | .entries path byAge => w.replying <|
    match w.lookup p path true with
    | .ok (place, .directory _) =>
      .ok (if byAge then w.tree.namesByAge place else w.tree.names place)
    | .ok _ => .error .notDirectory
    | .error e => .error e
  | .changeDirectory path =>
    match w.lookup p path true with
    | .ok (place, .directory _) =>
      (w.change p.id ({ · with directory := place })).replying (.ok ())
    | .ok _ => w.replying (.error .notDirectory)
    | .error e => w.replying (.error e)
  | .workingDirectory =>
    w.replying (if p.directory.isEmpty then ['/'] else p.directory.flatMap ('/' :: ·))
  | .makeDirectory path mode => w.answering do
    let short := (path.reverse.dropWhile (· == '/')).reverse
    let place ← w.vacant p (if short.isEmpty then path else short)
    pure ((), w.withNode place (.directory (mode &&& (0o7777 ^^^ p.mask))))
  | .removeFile path => w.answering ((w.removeFile p path).map ((), ·))
  | .makeLink target path => w.answering <| (w.vacant p path).map fun place =>
    ((), w.withNode place (.link target))
  | .shareFile path other follows => w.answering ((w.shareFile p path other follows).map ((), ·))
  | .rename path other => w.answering ((w.rename p path other).map ((), ·))
  | .readLink path => w.replying <|
    match w.lookup p path false with
    | .ok (_, .link target) => .ok target
    | .ok _ => .error .invalid
    | .error e => .error e
  | .setMode path mode => w.answering <| (w.lookup p path true).map fun (place, node) =>
    match node with
    | .directory _ => ((), w.withNode place (.directory mode))
    | .file contents _ modified => ((), w.withNode place (.file contents mode modified))
    | _ => ((), w)
  | .setModified path time => w.answering <| (w.lookup p path true).map fun (place, node) =>
    match node with
    | .file contents mode _ => ((), w.withNode place (.file contents mode time))
    | _ => ((), w)
  | .setMask mask => (w.change p.id ({ · with mask := mask })).replying p.mask
  | .limit r => w.replying (p.limit r)
  | .setLimit r l => w.answering ((w.setLimit p r l).map ((), ·))
  | .execute path arguments environment => w.execute boot p path arguments environment
  | .await child blocks => w.serveAwait p child blocks
  | .send target signal => w.serveSend p target signal
  | .arrange signal d => (w.change p.id (·.arrange signal d)).replying ()
  | .disposition signal => w.replying (p.disposition signal)
  | .takeSignals =>
    (w.change p.id fun p => { p with noted := [] }).replying p.noted
  | .sleep duration => w.serveSleep p duration
  | .now => w.replying w.clock
  | .ownId => w.replying p.id
  | .parentId => w.replying p.parent

/-- What a process gets that waited when a signal came. -/
def brokenOff? : (r : Request) → Option r.Reply
  | .read .. => some (.error .interrupted)
  | .await .. => some (.error .interrupted)
  | .sleep _ => some (.error .interrupted)
  | _ => none

end World

end Assay.Kernel
