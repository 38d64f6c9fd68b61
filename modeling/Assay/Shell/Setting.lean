/-!
# Settings of the shell

A setting is on or off. Most have a letter, which `$-` shows while the setting is on.
-/

namespace Assay.Shell

/-- A setting. -/
inductive Setting where
  | errexit
  | noglob
  | ignoreeof
  | interactive
  | monitor
  | noexec
  | stdin
  | xtrace
  | verbose
  | vi
  | emacs
  | noclobber
  | allexport
  | notify
  | nounset
  | privileged
  | nolog
  | debug
deriving DecidableEq, Repr

namespace Setting

/-- The settings with their names and letters, in the order in which they are listed. -/
def all : List (Setting × String × Option Char) :=
  [(errexit, "errexit", some 'e'), (noglob, "noglob", some 'f'),
    (ignoreeof, "ignoreeof", some 'I'), (interactive, "interactive", some 'i'),
    (monitor, "monitor", some 'm'), (noexec, "noexec", some 'n'), (stdin, "stdin", some 's'),
    (xtrace, "xtrace", some 'x'), (verbose, "verbose", some 'v'), (vi, "vi", some 'V'),
    (emacs, "emacs", some 'E'), (noclobber, "noclobber", some 'C'),
    (allexport, "allexport", some 'a'), (notify, "notify", some 'b'),
    (nounset, "nounset", some 'u'), (privileged, "privileged", some 'p'), (nolog, "nolog", none),
    (debug, "debug", none)]

/-- The setting of a letter. -/
def ofLetter? (c : Char) : Option Setting :=
  (all.find? fun (_, _, letter) => letter == some c).map (·.1)

/-- The setting of a name. -/
def ofName? (name : List Char) : Option Setting :=
  (all.find? fun (_, text, _) => text.toList == name).map (·.1)

/-- The letters of the settings that are on. -/
def letters (on : List Setting) : List Char :=
  all.reverse.filterMap fun (setting, _, letter) => if on.contains setting then letter else none

/-- Turns a setting on or off. -/
def turn (setting : Setting) (isOn : Bool) (on : List Setting) : List Setting :=
  let others := on.filter (· != setting)
  if isOn then setting :: others else others

end Setting

end Assay.Shell
