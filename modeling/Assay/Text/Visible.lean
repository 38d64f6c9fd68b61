/-!
# Visible text

Text quoted from a command line may hold control characters and escape sequences of a terminal. An
error message shows neither: `visible` keeps printable characters and white space, and drops an
escape sequence as a whole.

An escape sequence is a single command, a control sequence, or a string that goes on until it is
closed. A control that is white space breaks a command or a control sequence off and is shown; a
string hides it.
-/

namespace Assay.Text

/-- Where a reader of terminal output stands. -/
inductive EscapeState where
  /-- In plain text. -/
  | ground
  /-- After the escape character. -/
  | escape
  /-- In a command, which ends with a letter, a digit or the like. -/
  | intermediate
  /-- In a control sequence, which ends with a letter or the like. -/
  | control
  /-- In a command to the system, which ends with a bell. -/
  | system
  /-- In a string for a device, which ends with the string terminator. -/
  | string
deriving DecidableEq, Repr

/-- Whether a control is white space. -/
def isBlankControl (c : Char) : Bool := ['\t', '\n', '\x0c', '\r'].contains c

/-- Whether a character of plain text is shown: ASCII controls are hidden but for white space. -/
def isShown (c : Char) : Bool := (0x20 ≤ c.toNat && c.toNat != 0x7F) || isBlankControl c

/-- Whether a character cancels an escape sequence. -/
def cancels (c : Char) : Bool := c == '\x18' || c == '\x1a'

/-- Whether the encoding of a character holds the byte of the string terminator. -/
def holdsTerminator (c : Char) : Bool := (String.utf8EncodeChar c).contains 0x9C

namespace EscapeState

/-- The state after the first character of an escape sequence. -/
def begun (c : Char) : EscapeState :=
  let n := c.toNat
  if c = '[' then control
  else if c = ']' then system
  else if ['P', 'X', '^', '_'].contains c then string
  else if 0x20 ≤ n ∧ n ≤ 0x2F then intermediate
  else if 0x30 ≤ n ∧ n ≤ 0x7E then ground
  else escape

/-- The state after a character that is hidden. -/
def next (s : EscapeState) (c : Char) : EscapeState :=
  let n := c.toNat
  if c = '\x1b' then escape
  else if cancels c then ground
  else
    match s with
    | ground => ground
    | escape => begun c
    | intermediate => if 0x30 ≤ n ∧ n ≤ 0x7E then ground else intermediate
    | control => if 0x40 ≤ n ∧ n ≤ 0x7E then ground else control
    | system => if c = '\x07' then ground else system
    | string => if holdsTerminator c then ground else string

/-- Whether a character is shown. -/
def shows (s : EscapeState) (c : Char) : Bool :=
  match s with
  | ground => isShown c
  | escape | intermediate | control => isBlankControl c
  | system | string => false

end EscapeState

/-- The visible part of a text that is read from a state. -/
def visibleFrom : EscapeState → List Char → List Char
  | _, [] => []
  | s, c :: rest =>
    if s.shows c then c :: visibleFrom .ground rest else visibleFrom (s.next c) rest

/-- The visible part of a text. -/
def visible (s : List Char) : List Char := visibleFrom .ground s

end Assay.Text
