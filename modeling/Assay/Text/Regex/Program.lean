import Assay.Text.Regex

/-!
# Searching with a program

An expression that remembers nothing and looks only at the neighbours of a place is carried out by a
program: a list of instructions, at which threads stand. All threads go through the text side by
side, so a search takes a time in proportion to the text. Of two threads at one instruction the
preferred one alone goes on.

`Search.first?` finds the part of a text that matches: of those that begin first, the preferred or
the longest one. Expressions that need more are searched for by way of `Regex.ends`.
-/

namespace Assay.Text.Regex

/-- An instruction. The numbers are the places of the instructions that follow it. -/
inductive Instruction where
  | take (set : CharSet) (next : Nat)
  | require (kind : Anchor) (next : Nat)
  /-- Goes on in several ways, the preferred one first. -/
  | branch (ways : List Nat)
  | accept
deriving DecidableEq, Repr

/-- A program, and the place where it begins. -/
structure Program where
  code : Array Instruction
  entry : Nat
deriving DecidableEq, Repr

namespace Program

/-- Adds an instruction in front. -/
def emit (code : Array Instruction) (i : Instruction) : Program := ⟨code.push i, code.size⟩

/-- A choice between going on with a body and passing it over. -/
def choice (greedy : Bool) (body past : Nat) : Instruction :=
  .branch (if greedy then [body, past] else [past, body])

/-- A body that may be repeated after it was gone through once. -/
def again (body : Nat → Array Instruction → Program) (greedy : Bool) (next : Nat)
    (code : Array Instruction) : Program :=
  let loop := code.size
  let p := body loop (code.push (.branch []))
  { p with code := p.code.set! loop (choice greedy p.entry next) }

/-- A body, so many times. -/
def times (body : Nat → Array Instruction → Program) : Nat → Program → Program
  | 0, p => p
  | n + 1, p => times body n (body p.entry p.code)

/-- A body, at most so many times. -/
def atMost (body : Nat → Array Instruction → Program) (greedy : Bool) (past : Nat) :
    Nat → Program → Program
  | 0, p => p
  | n + 1, p =>
    let q := body p.entry p.code
    atMost body greedy past n (emit q.code (choice greedy q.entry past))

/-- The program that carries an expression out and goes on at a place, if there is one. -/
def ofRegex? : Regex → Option (Nat → Array Instruction → Program)
  | .empty => some fun next code => ⟨code, next⟩
  | .never => some fun _ code => emit code (.branch [])
  | .one set => some fun next code => emit code (.take set next)
  | .anchor kind => some fun next code => emit code (.require kind next)
  | .cat a b => do
    let first ← ofRegex? a
    let second ← ofRegex? b
    some fun next code =>
      let p := second next code
      first p.entry p.code
  | .alt a b => do
    let first ← ofRegex? a
    let second ← ofRegex? b
    some fun next code =>
      let p := second next code
      let q := first next p.code
      emit q.code (.branch [q.entry, p.entry])
  | .many e least most greedy => do
    let body ← ofRegex? e
    some fun next code =>
      match most, least with
      | some most, least => times body least (atMost body greedy next (most - least) ⟨code, next⟩)
      | none, 0 =>
        let p := again body greedy next code
        if e.isNullable then emit p.code (choice greedy p.entry next)
        else { p with entry := code.size }
      | none, least + 1 => times body least (again body greedy next code)
  | .group _ e => ofRegex? e
  | .again _ | .ahead _ _ | .behind _ _ | .atomic _ | .keep => none

/-- The whole program of an expression. -/
def whole? (e : Regex) : Option Program :=
  (ofRegex? e).map fun build =>
    let start := emit #[] .accept
    build start.entry start.code

/-- A thread: the instruction at which it stands, and where its match began. -/
structure Thread where
  place : Nat
  start : Nat
deriving DecidableEq, Repr

/-- The instructions that were visited, and the threads that wait for a sign or accept, the last
first. -/
structure Front where
  visited : Array Bool
  threads : List Thread

/-- Follows a thread to where it has to wait. -/
def follow (p : Program) (holds : Anchor → Bool) : Nat → Thread → Front → Front
  | 0, _, f => f
  | n + 1, t, f =>
    if f.visited.getD t.place true then f
    else
      let f := { f with visited := f.visited.set! t.place true }
      match p.code.getD t.place .accept with
      | .take _ _ | .accept => { f with threads := t :: f.threads }
      | .require kind next => if holds kind then follow p holds n { t with place := next } f else f
      | .branch ways =>
        ways.foldl (fun f place => follow p holds n { t with place } f) f

/-- The threads that wait at a place of a text, the preferred one first. -/
def waiting (p : Program) (a : Alphabet) (s : Spot) (threads : List Thread) : List Thread :=
  let front := threads.foldl (fun f t => follow p (a.holdsAt · s) (p.code.size + 1) t f)
    ⟨Array.replicate p.code.size false, []⟩
  front.threads.reverse

/-- The thread behind the next sign. -/
def passes (p : Program) (a : Alphabet) (c : Sign) (t : Thread) : Option Thread :=
  match p.code.getD t.place .accept with
  | .take set next => if a.takes set c then some { t with place := next } else none
  | _ => none

/-- Whether a thread accepts. -/
def accepts (p : Program) (t : Thread) : Bool := p.code.getD t.place .accept == .accept

/-- The match that a thread which accepts here makes, if it is better than the best one. -/
def improve (best : Option (Nat × Nat)) (t : Thread) (position : Nat) : Option (Nat × Nat) :=
  match best with
  | some (b, e) =>
    if t.start < b || t.start = b && e < position then some (t.start, position) else best
  | none => some (t.start, position)

/-- Of the threads at a place those that are still of use, and the best match. -/
def settle (p : Program) (longest : Bool) (position : Nat) (threads : List Thread)
    (best : Option (Nat × Nat)) : List Thread × Option (Nat × Nat) :=
  if longest then
    let best := (threads.filter p.accepts).foldl (improve · · position) best
    (threads.filter fun t => best.all (t.start ≤ ·.1), best)
  else
    let preferred := threads.takeWhile (!p.accepts ·)
    match threads.drop preferred.length with
    | t :: _ => (preferred, some (t.start, position))
    | [] => (threads, best)

/-- Goes through a text with threads. While nothing was found, a new one begins at each place. -/
def search (p : Program) (a : Alphabet) (longest : Bool) :
    Spot → List Thread → Option (Nat × Nat) → Nat → Option (Nat × Nat)
  | s, threads, best, n =>
    let threads := if best.isNone then threads ++ [⟨p.entry, s.position⟩] else threads
    let (threads, best) := p.settle longest s.position (p.waiting a s threads) best
    match n, s.rest with
    | n + 1, c :: _ =>
      if threads.isEmpty && best.isSome then best
      else search p a longest s.next (threads.filterMap (p.passes a c)) best n
    | _, _ => best

end Program

/-- How an expression is searched for. -/
structure Search where
  alphabet : Alphabet
  /-- Whether the longest match counts, not the preferred one. -/
  longest : Bool
  expression : Regex
  program : Option Program

namespace Search

/-- A search for an expression. -/
def ofRegex (alphabet : Alphabet) (longest : Bool) (e : Regex) : Search :=
  let e := if e.refers then e else e.withoutGroups
  ⟨alphabet, longest, e, Program.whole? e⟩

/-- The end of the match that begins at a place. -/
def endAt? (q : Search) (s : Spot) : Option Spot :=
  let found := Regex.ends q.alphabet q.expression s
  if q.longest then
    found.foldl (fun best e =>
      match best with
      | some b => if b.position < e.position then some e else best
      | none => some e) none
  else found.head?

/-- The first match from a place on, in so many steps. -/
def scan? (q : Search) : Nat → Spot → Option (Nat × Nat)
  | n, s =>
    match q.endAt? s, n, s.rest with
    | some e, _, _ => some (e.kept.getD s.position, e.position)
    | none, n + 1, _ :: _ => scan? q n s.next
    | none, _, _ => none

/-- The first match from a place on: where it begins and where it ends. -/
def first? (q : Search) (s : Spot) : Option (Nat × Nat) :=
  match q.program with
  | some p => p.search q.alphabet q.longest s [] none s.rest.length
  | none => q.scan? s.rest.length s.bare

/-- Whether a text has a part that matches. -/
def finds (q : Search) (text : List Sign) : Bool := (q.first? (.first text)).isSome

/-- Whether the first match in a text reaches its end. -/
def findsEnd (q : Search) (text : List Sign) : Bool :=
  (q.first? (.first text)).any (·.2 == text.length)

/-- The parts of a text that match and are not empty, each from one position to another. -/
def parts (q : Search) : Nat → Spot → List (Nat × Nat)
  | 0, _ => []
  | n + 1, s =>
    match q.first? s with
    | none => []
    | some (b, e) =>
      if s.position < e && b < e then (b, e) :: parts q n (s.skip (e - s.position)).bare
      else if s.rest.length ≤ b - s.position then []
      else parts q n (s.skip (b + 1 - s.position)).bare

end Search

end Assay.Text.Regex
