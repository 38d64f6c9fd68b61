import Assay.Shell.Builtin.Option
import Assay.Shell.Format

/-!
# Commands that show their arguments

`echo` and `printf`.
-/

namespace Assay.Shell.Builtin

open Text (Octets)

open Run

/-- What `echo` shows of words: escapes are filled in, and one of them ends it all. -/
def echoed (newline : Bool) : List Octets → Octets
  | [] => if newline then ['\n'] else []
  | [word] =>
    let (text, ended) := Format.unescaped word
    text ++ if ended || !newline then [] else ['\n']
  | word :: words =>
    let (text, ended) := Format.unescaped word
    text ++ if ended then [] else ' ' :: echoed newline words

/-- Shows its arguments. -/
def echo (arguments : List Octets) : Run Nat := do
  match arguments with
  | ['-', 'n'] :: words => say (echoed false words)
  | words => say (echoed true words)
  pure 0

/-- Shows its arguments by a format. -/
def printf (arguments : List Octets) : Run Nat := do
  match ← operands arguments with
  | [] => failPlain "usage: printf format [arg ...]"
  | format :: arguments =>
    let printed := Format.print format arguments
    printed.complaints.forM complain
    say printed.text
    match printed.mistake with
    | some message => fail message
    | none => pure (if printed.complaints.isEmpty then 0 else 1)

end Assay.Shell.Builtin
