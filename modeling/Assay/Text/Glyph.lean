/-!
# Glyphs

A text for a terminal is a sequence of characters and of escape sequences, which the terminal obeys
and does not draw. `ofText` tells them apart: an escape sequence is the escape character with the
character after it, and where that opens a control sequence or a command to the system, with all
that follows up to its end. An escape sequence that is never ended takes the rest of the text.

Nothing is lost by reading a text as glyphs (`flatMap_text_ofText`).
-/

namespace Assay.Text

/-- What a terminal takes as one. -/
inductive Glyph where
  | character (c : Char)
  | escape (sequence : List Char)
deriving DecidableEq, Repr

namespace Glyph

/-- The text of a glyph. -/
def text : Glyph → List Char
  | character c => [c]
  | escape sequence => sequence

/-- The character of a glyph that is drawn. -/
def character? : Glyph → Option Char
  | character c => some c
  | escape _ => none

/-- How far an escape sequence has been read. -/
inductive Reading where
  /-- No escape sequence is begun. -/
  | plain
  /-- The escape character has been read. -/
  | begun
  /-- A control sequence is begun. -/
  | control
  /-- A command to the system is begun, and this was its last character. -/
  | system (last : Char)
deriving DecidableEq, Repr

/-- Whether a character ends a control sequence. -/
def endsControl (c : Char) : Bool := 0x40 ≤ c.toNat && c.toNat ≤ 0x7E

/-- Whether a character ends a command to the system: a bell, or a backslash after the escape
character. -/
def endsSystem (last c : Char) : Bool := c == '\x07' || (c == '\\' && last == '\x1b')

/-- How an escape sequence goes on with a character; `none` if it ends with it. -/
def Reading.next? : Reading → Char → Option Reading
  | plain, _ => none
  | begun, '[' => some control
  | begun, ']' => some (system ']')
  | begun, _ => none
  | control, c => if endsControl c then none else some control
  | system last, c => if endsSystem last c then none else some (system c)

/-- The glyphs of a text, `sequence` being the part of an escape sequence that has been read. -/
def read : Reading → List Char → List Char → List Glyph
  | .plain, _, [] => []
  | _, sequence, [] => [escape sequence]
  | .plain, _, c :: rest =>
    if c = '\x1b' then read .begun [c] rest else character c :: read .plain [] rest
  | reading, sequence, c :: rest =>
    match reading.next? c with
    | some reading => read reading (sequence ++ [c]) rest
    | none => escape (sequence ++ [c]) :: read .plain [] rest

/-- The glyphs of a text. -/
def ofText (s : List Char) : List Glyph := read .plain [] s

/-- Nothing is lost or changed by reading, and the escape sequence that was begun stands in
front. -/
theorem flatMap_text_read (reading : Reading) (sequence s : List Char)
    (h : reading = .plain → sequence = []) :
    (read reading sequence s).flatMap text = sequence ++ s := by
  fun_induction read reading sequence s with
  | case1 sequence => simp [h rfl]
  | case2 => simp [text]
  | case3 sequence rest ih => simpa [h rfl] using ih (by simp)
  | case4 sequence c rest hc ih => simpa [h rfl, text] using ih (by simp)
  | case5 reading sequence c rest hplain reading' hnext ih =>
    have : reading' ≠ .plain := by
      rintro rfl
      revert hnext
      fun_cases Reading.next? reading c <;> simp
    simpa using ih (fun e => absurd e this)
  | case6 reading sequence c rest hplain hnext ih => simpa [text] using ih (by simp)

/-- Nothing is lost by reading a text as glyphs. -/
theorem flatMap_text_ofText (s : List Char) : (ofText s).flatMap text = s :=
  flatMap_text_read .plain [] s (fun _ => rfl)

end Glyph

end Assay.Text
