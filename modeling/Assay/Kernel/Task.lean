import Assay.Kernel.Request

/-!
# Tasks and acts

A `Task` is what a process is about to do: to end, to ask for something and go on with the reply, or
to start a copy of itself that goes its own way. An `Act α` is a part of a process that comes to a
result: given what is done with the result, it is a task. Acts are put together as a monad.
-/

namespace Assay.Kernel

/-- What a process is about to do. -/
inductive Task where
  | exit (code : Nat)
  | call (r : Request) (next : r.Reply → Task)
  /-- Starts a copy, which does something else; the process goes on with the copy's number. -/
  | fork (child : Task) (next : ProcessId → Task)

instance : Inhabited Task := ⟨.exit 0⟩

/-- A part of a process that comes to a result. -/
def Act (α : Type) : Type := (α → Task) → Task

namespace Act

@[inline] instance : Monad Act where
  pure a := fun k => k a
  bind x f := fun k => x fun a => f a k

/-- Asks for something. -/
@[inline] def ask (r : Request) : Act r.Reply := fun k => .call r k

/-- Starts a copy that does something else. -/
@[inline] def fork (child : Task) : Act ProcessId := fun k => .fork child k

/-- Ends the process. -/
@[inline] def exit {α : Type} (code : Nat) : Act α := fun _ => .exit code

/-- The task of an act whose result is an exit code. -/
@[inline] def task (act : Act Nat) : Task := act .exit

end Act

end Assay.Kernel
