import Assay.Text.Octets

/-!
# Syntax of shell scripts

A script is a sequence of commands. Commands are made of words, and a word of parts: text that
stands for itself and places that are filled when the command is carried out (parameters, the output
of commands, sums). Every part knows whether it was quoted, since what fills a quoted place is
neither cut into fields nor read as a pattern.

The text of a document that follows a command's line is read after the command itself. So a command
holds the number of the document, and `Script` holds the documents beside it.

All text is in octets.
-/

namespace Assay.Shell

open Text (Octets)

mutual

/-- A part of a word. -/
inductive Part where
  | text (chars : Octets) (quoted : Bool)
  /-- A quotation mark. It shows that a word is there, even an empty one. -/
  | mark
  /-- The value of a parameter. Where it matters whether the parameter is set, `orEmpty` lets an
  empty value count as none. -/
  | parameter (name : Octets) (use : Use) (orEmpty quoted : Bool)
  /-- The output of commands. -/
  | output (body : Option Command) (quoted : Bool)
  /-- The value of a sum. -/
  | sum (body : List Part) (quoted : Bool)

/-- How the value of a parameter is used. -/
inductive Use where
  | plain
  | length
  | default (word : List Part)
  | alternative (word : List Part)
  | require (word : List Part)
  | assign (word : List Part)
  | withoutStart (longest : Bool) (pattern : List Part)
  | withoutEnd (longest : Bool) (pattern : List Part)
  /-- A use that makes no sense, which is found out when the command is carried out. -/
  | senseless (rest : List Part)

/-- A change of one descriptor. -/
inductive Redirection where
  /-- `<` -/
  | read (d : Nat) (path : List Part)
  /-- `>` -/
  | write (d : Nat) (path : List Part)
  /-- `>|` -/
  | clobber (d : Nat) (path : List Part)
  /-- `>>` -/
  | append (d : Nat) (path : List Part)
  /-- `<>` -/
  | readWrite (d : Nat) (path : List Part)
  /-- `>&` and `<&` with a digit -/
  | duplicate (d source : Nat)
  /-- `>&-` and `<&-` -/
  | close (d : Nat)
  /-- `>&` and `<&` with a word that is known later -/
  | duplicateWord (d : Nat) (source : List Part)
  /-- `<<`: the number of the document -/
  | document (d : Nat) (number : Nat)

/-- A branch of a choice by patterns. -/
inductive Branch where
  | mk (patterns : List (List Part)) (body : Option Command)

/-- A command. Where messages tell a line, it is kept. -/
inductive Command where
  | simple (line : Nat) (assignments words : List (List Part)) (redirections : List Redirection)
  | pipeline (background : Bool) (stages : List Command)
  | not (body : Command)
  | and (first second : Command)
  | or (first second : Command)
  | sequence (first second : Command)
  | background (line : Nat) (body : Command) (redirections : List Redirection)
  | subshell (line : Nat) (body : Command) (redirections : List Redirection)
  | redirected (line : Nat) (body : Command) (redirections : List Redirection)
  | choice (condition consequence : Command) (alternative : Option Command)
  /-- Repeats the body while the condition succeeds, or until it does. -/
  | loop (isUntil : Bool) (condition body : Command)
  /-- Carries the body out for each field. -/
  | each (line : Nat) (name : Octets) (words : List (List Part)) (body : Command)
  | select (line : Nat) (word : List Part) (branches : List Branch)
  | define (name : Octets) (body : Command)

end

/-- A word. -/
abbrev Word := List Part

instance : Inhabited Command := ⟨.simple 0 [] [] []⟩

/-- A document that follows a command's line: its text, and whether places in it are filled. -/
structure Document where
  text : Word
  expands : Bool

/-- A command that was read, with its documents. -/
structure Script where
  command : Command
  documents : Array Document

/-- Why a script could not be read. -/
structure SyntaxError where
  line : Nat
  message : String
deriving DecidableEq, Repr

end Assay.Shell
