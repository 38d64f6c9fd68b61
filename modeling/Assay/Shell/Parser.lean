import Assay.Shell.Reader

/-!
# Reading commands

Reading a script is a descent through its grammar: lists of commands, conditions (`&&`, `||`),
pipelines and commands; words are read character by character, and commands in words by the same
descent. What ends a word depends on where it stands: in the open, between quotation marks, in a
sum. A stack of levels keeps that.

The descent is bounded by a number that no script reaches.
-/

namespace Assay.Shell

open Text (Octets)

/-- The names that no function may have. -/
def specialNames : List String :=
  [".", ":", "break", "continue", "eval", "exec", "exit", "export", "local", "readonly", "return",
    "set", "shift", "times", "trap", "unset"]

/-! ### Words -/

/-- Where in a word a character stands. -/
inductive Surroundings where
  | open
  | double
  | single
  | sum
deriving DecidableEq, Repr

/-- What a character does. -/
inductive Effect where
  | newline
  | plain
  /-- Stands for itself, and would mean something in a pattern. -/
  | special
  | backslash
  | singleMark
  | doubleMark
  | endMark
  | dollar
  | rightBrace
  | leftParen
  | rightParen
  | backquote
  | ends
deriving DecidableEq, Repr

/-- What a character does where it stands. -/
def effect (s : Surroundings) : Option Char → Effect
  | none => .ends
  | some c =>
    match s with
    | .open =>
      match c with
      | '\n' => .newline
      | '\\' => .backslash
      | '\'' => .singleMark
      | '"' => .doubleMark
      | '\x60' => .backquote
      | '$' => .dollar
      | '\x7d' => .rightBrace
      | c => if "<>();&| \t".toList.contains c then .ends else .plain
    | .double =>
      match c with
      | '\n' => .newline
      | '\\' => .backslash
      | '"' => .endMark
      | '\x60' => .backquote
      | '$' => .dollar
      | '\x7d' => .rightBrace
      | c => if "!*?[=~:/-]".toList.contains c then .special else .plain
    | .single =>
      match c with
      | '\n' => .newline
      | '\'' => .endMark
      | c => if "!*?[=~:/-]\\".toList.contains c then .special else .plain
    | .sum =>
      match c with
      | '\n' => .newline
      | '\\' => .backslash
      | '\x60' => .backquote
      | '$' => .dollar
      | '\x7d' => .rightBrace
      | '(' => .leftParen
      | ')' => .rightParen
      | _ => .plain

/-- A level of a word that is being read. -/
structure Level where
  surroundings : Surroundings
  /-- Whether the level is quoted. -/
  quotes : Bool
  /-- Whether a quotation mark is open inside of a parameter's braces. -/
  innerMark : Bool
  /-- The parameters whose braces are open, and those of them that are quoted. -/
  braces : Nat
  quotedBraces : Nat
  /-- Whether the level was begun for a parameter's word. -/
  ofBraces : Bool
  parens : Nat
deriving DecidableEq, Repr

/-- A level at its beginning. -/
def Level.at (s : Surroundings) (quotes : Bool) : Level := ⟨s, quotes, false, 0, 0, false, 0⟩

/-- A word that is being read. -/
structure Draft where
  level : Level
  outer : List Level
  /-- The symbols so far, the last one first. -/
  symbols : List Symbol
  quoted : Bool

namespace Draft

/-- Adds a symbol. -/
def add (w : Draft) (s : Symbol) : Draft := { w with symbols := s :: w.symbols }

/-- Adds a character. -/
def addChar (w : Draft) (c : Char) (escaped : Bool) : Draft := w.add (.char c escaped)

/-- Goes back to the level around. -/
def leave (w : Draft) : Draft :=
  match w.outer with
  | level :: outer => { w with level, outer }
  | [] => w

/-- Adds a quotation mark, unless it is a document that is read. -/
def mark (w : Draft) (document : Bool) : Draft := if document then w else w.add .mark

/-- Opens or closes a quotation mark inside of braces. -/
def toggle (w : Draft) : Draft :=
  if w.level.braces = 0 then w
  else { w with level := { w.level with innerMark := !w.level.innerMark } }

end Draft

/-- The document that a word is, if it is one: its mark, and whether tabs are left out. -/
abbrev DocumentEnd := Option (Octets × Bool)

/-- The characters that name a parameter by themselves. -/
def isSpecialParameter (c : Char) : Bool := "#?$!-*@".toList.contains c || c.isDigit

namespace Reading

/-- Takes characters as long as they may follow. -/
def takeName (follows : Char → Bool) : Nat → Octets → Option Char →
    Reading (Octets × Option Char)
  | 0, name, c => pure (name.reverse, c)
  | n + 1, name, c => do
    match c with
    | some d =>
      if follows d then takeName follows n (d :: name) (← takeOn) else pure (name.reverse, c)
    | none => pure (name.reverse, none)

/-- The name of a parameter, whose first character was taken, and the use that it tells: `none` if
that is still open. Also the character after it. -/
def parameterName (n : Nat) (braced : Bool) (c : Char) :
    Reading (Octets × Option UseKind × Option Char) := do
  let use := if braced then none else some UseKind.plain
  if beginsName c then
    let (name, after) ← takeName isNameChar n [] (some c)
    pure (name, use, after)
  else if c.isDigit then
    let (name, after) ← takeName (fun d => braced && d.isDigit) n [c] (← takeOn)
    pure (name, use, after)
  else if c == '\x7d' then pure ([], some .senseless, some c)
  else
    let after ← takeOn
    if braced && c == '#' then
      match after with
      | some d =>
        if isNameChar d then
          let (name, after) ←
            if d.isDigit then takeName Char.isDigit n [] after else takeName isNameChar n [] after
          pure (name, some .length, after)
        else
          let following ← takeOn
          if d == '\x7d' || following != some '\x7d' then
            putBack following
            pure (['#'], none, some d)
          else if isSpecialParameter d then pure ([d], some .length, following)
          else pure ([d], some .senseless, following)
      | none => pure (['#'], none, none)
    else if isSpecialParameter c then pure ([c], use, after)
    else pure ([c], some .senseless, after)

/-- What a parameter's braces hold after its name: the use, whether an empty value counts as none,
and whether the word is one of its own kind. The character after the name was taken. -/
def parameterUse (after : Option Char) : Reading (UseKind × Bool × Bool) := do
  let simple (orEmpty : Bool) (c : Option Char) : UseKind × Bool × Bool :=
    match c with
    | some '\x7d' => (if orEmpty then .senseless else .plain, orEmpty, false)
    | some '-' => (.default, orEmpty, false)
    | some '+' => (.alternative, orEmpty, false)
    | some '?' => (.require, orEmpty, false)
    | some '=' => (.assign, orEmpty, false)
    | _ => (.senseless, orEmpty, false)
  match after with
  | some ':' => pure (simple true (← takeOn))
  | some '#' | some '%' =>
    let second ← takeOn
    let longest := second == after
    unless longest do putBack second
    pure (if after == some '#' then .withoutStart longest else .withoutEnd longest, false, true)
  | c => pure (simple false c)

/-- The word that was read: what belongs to it is kept, and its token given. -/
def finishWord (w : Draft) : Reading Token :=
  modifyGet fun r =>
    (.word, { r with last := .word, word := w.symbols.reverse, quoted := w.quoted })

/-- Reads an operator that changes a descriptor, after its first character. -/
def operator (first : Char) : Reading Operator := do
  let c ← takeOn
  if first == '>' then
    match c with
    | some '>' => pure .append
    | some '|' => pure .clobber
    | some '&' => pure .duplicate
    | c =>
      putBack c
      pure .write
  else
    match c with
    | some '<' =>
      match ← takeOn with
      | some '-' => pure (.document true)
      | c =>
        putBack c
        pure (.document false)
    | some '&' => pure .duplicate
    | some '>' => pure .readWrite
    | c =>
      putBack c
      pure .read

/-- Whether a line of a document is its mark. If so the line is taken, otherwise nothing is. The
line's first character was taken. -/
def isMark (mark : Octets) (first : Option Char) : Reading Bool := do
  let saved ← get
  let matched ← mark.foldlM (fun (matched, c) m => do
    if matched && c == some m then pure (true, ← take) else pure (false, c)) (true, first)
  match matched with
  | (true, none) =>
    nextLine
    pure true
  | (true, some '\n') =>
    nextLine
    pure true
  | _ =>
    set saved
    pure false

/-- Takes tabs. -/
def skipTabs : Nat → Option Char → Reading (Option Char)
  | n + 1, some '\t' => do skipTabs n (← take)
  | _, c => pure c

/-- Takes the characters of a comment. -/
def skipComment : Reading Unit :=
  modify fun r =>
    match r.frames with
    | f :: others => { r with frames := { f with rest := f.rest.dropWhile (· != '\n') } :: others }
    | [] => r

/-- The text between backquotes: a backslash takes away the meaning of another one, of a backquote
and of a dollar sign, and between quotation marks of one of these. -/
def backquoted (quotes : Bool) : Nat → Octets → Reading Octets
  | 0, text => pure text.reverse
  | n + 1, text => do
    match ← takeOn with
    | none => refuse "EOF in backquote substitution"
    | some '\x60' => pure text.reverse
    | some '\\' =>
      match ← take with
      | none => backquoted quotes n ('\\' :: text)
      | some c =>
        if c == '\\' || c == '\x60' || c == '$' || (quotes && c == '"') then
          backquoted quotes n (c :: text)
        else backquoted quotes n (c :: '\\' :: text)
    | some '\n' =>
      nextLine
      backquoted quotes n ('\n' :: text)
    | some c => backquoted quotes n (c :: text)

/-! ### Simple commands -/

/-- What was read of a simple command. -/
structure SimpleDraft where
  assignments : List Word
  words : List Word
  /-- The text of the last word, if all of it stands for itself. -/
  lastText : Option Octets
  redirections : List Redirection

/-- The redirection of an operator to a word that was read. -/
def redirectionOf (d : Nat) (operator : Operator) (symbols : List Symbol) : Redirection :=
  let word := partsOf false symbols
  match operator with
  | .read => .read d word
  | .write => .write d word
  | .clobber => .clobber d word
  | .append => .append d word
  | .readWrite => .readWrite d word
  | .document _ => .document d 0
  | .duplicate =>
    match symbols with
    | [.char '-' false] => .close d
    | [.char c false] =>
      if c.isDigit then .duplicate d (c.toNat - '0'.toNat) else .duplicateWord d word
    | _ => .duplicateWord d word

/-- The documents that are awaited from now on. -/
def await (a : Awaited) : Reading Unit := modify fun r => { r with awaited := r.awaited ++ [a] }

/-- The text that a token's word is, if nothing in it is special and it is not quoted. -/
def lastText : Reading (Option Octets) := do
  let r ← get
  pure (if r.quoted then none else Symbol.plainText? r.word)

/-- The name of a parameter's mark at the start of the arguments of a command. -/
def allArguments : Word := [.mark, .parameter ['@'] .plain false true, .mark]

mutual

/-- Reads a word character by character, from the one given on. `lineStart` tells that a line of a
document begins. -/
def word (n : Nat) (document : DocumentEnd) (lineStart : Bool) (w : Draft) (c : Option Char) :
    Reading Token :=
  match n with
  | 0 => finishWord w
  | n + 1 => do
    if lineStart then
      if let some (mark, stripsTabs) := document then
        let c ← if stripsTabs then skipTabs n c else pure c
        if ← isMark mark c then return ← endWord w document none
        return ← word n document false w c
    let level := w.level
    let isDocument := document.isSome
    let onward (w : Draft) : Reading Token := do
      let c ← if w.level.surroundings == .single then take else takeOn
      word n document false w c
    match effect level.surroundings c, c with
    | .newline, _ =>
      if level.surroundings == .open && level.braces = 0 then endWord w document c
      else do
        nextLine
        word n document true (w.addChar '\n' false) (← take)
    | .plain, some c => onward (w.addChar c false)
    | .special, some c => onward (w.addChar c (!isDocument || level.quotes || level.braces > 0))
    | .backslash, _ => do
      match ← take with
      | none => onward (w.addChar '\\' true)
      | some c =>
        let keeps := level.quotes && c != '\\' && c != '\x60' && c != '$' &&
          (c != '"' || (isDocument && level.braces = 0)) && (c != '\x7d' || level.braces = 0)
        let w := if keeps then w.addChar '\\' true else w
        onward { w.addChar c true with quoted := true }
    | .singleMark, _ =>
      onward ({ w with level := { level with surroundings := .single } }.mark isDocument)
    | .doubleMark, _ =>
      let w := { w with level := { level with surroundings := .double, quotes := true } }
      onward (w.toggle.mark isDocument)
    | .endMark, some c =>
      if isDocument && level.braces = 0 then onward (w.addChar c false)
      else
        let level := if level.quotedBraces = 0 then
          { level with surroundings := .open, quotes := false } else level
        let w := { w with level, quoted := true }
        onward ((if c == '"' then w.toggle else w).mark isDocument)
    | .dollar, _ => do
      let w ← substitution n w
      onward w
    | .rightBrace, some c =>
      if !level.innerMark && level.braces > 0 then
        let level := { level with braces := level.braces - 1 }
        let w := { w with level }.add .endParameter
        if level.braces = 0 && level.ofBraces then onward w.leave
        else onward { w with level :=
          { level with quotedBraces := level.quotedBraces - 1 } }
      else onward (w.addChar c false)
    | .leftParen, some c =>
      onward ({ w with level := { level with parens := level.parens + 1 } }.addChar c false)
    | .rightParen, some c =>
      if level.parens > 0 then
        onward ({ w with level := { level with parens := level.parens - 1 } }.addChar c false)
      else do
        match ← takeOn with
        | some ')' => onward (w.add .endSum).leave
        | following =>
          putBack following
          onward (w.addChar ')' false)
    | .backquote, _ => do
      if (← get).attention.mark then onward (w.addChar '\x60' false)
      else
        let body ← oldSubstitution n level.quotes
        onward (w.add (.output body))
    | _, none => endWord w document none
    | .ends, some c =>
      if level.braces = 0 then endWord w document (some c) else onward (w.addChar c false)

/-- Ends a word at a character that is no part of it. -/
def endWord (w : Draft) (document : DocumentEnd) (c : Option Char) : Reading Token := do
  if w.level.surroundings == .sum then refuse "Missing '))'"
  if w.level.surroundings != .open && document.isNone then refuse "Unterminated quoted string"
  if w.level.braces > 0 then refuse "Missing '\x7d'"
  if document.isSome then finishWord w
  else
    let number : Option (Option Nat) := match w.symbols with
      | [] => some none
      | [.char d false] => if d.isDigit then some (some (d.toNat - '0'.toNat)) else none
      | _ => none
    match c, number, w.quoted with
    | some '<', some number, false => redirect '<' (number.getD 0)
    | some '>', some number, false => redirect '>' (number.getD 1)
    | c, _, _ =>
      putBack c
      finishWord w
where
  /-- Reads the rest of an operator that changes a descriptor. -/
  redirect (first : Char) (d : Nat) : Reading Token := do
    let op ← operator first
    modifyGet fun r => (.redirection, { r with last := .redirection, operator := (d, op) })

/-- Reads what follows a dollar sign. -/
def substitution (n : Nat) (w : Draft) : Reading Draft :=
  match n with
  | 0 => pure w
  | n + 1 => do
    let c ← takeOn
    let asItStands : Reading Draft := do
      putBack c
      pure (w.addChar '$' false)
    if (← get).attention.mark then return ← asItStands
    match c with
    | none => asItStands
    | some '(' =>
      match ← takeOn with
      | some '(' =>
        pure { w.add .sum with
          outer := w.level :: w.outer, level := .at .sum true }
      | following =>
        putBack following
        let body ← newSubstitution n
        pure (w.add (.output body))
    | some c =>
      if c != '\x7b' && !beginsName c && !isSpecialParameter c then return ← asItStands
      let braced := c == '\x7b'
      let first ← if braced then takeOn else pure (some c)
      let (name, known, after) ← match first with
        | some c => parameterName n braced c
        | none => pure ([], some UseKind.senseless, none)
      let (use, orEmpty, ownWord) ← match known with
        | none => parameterUse after
        | some use =>
          putBack after
          let use := if use == .length && after != some '\x7d' then .senseless else use
          pure (use, false, false)
      let w := w.add (.parameter name use orEmpty)
      if use == .plain then return w
      let inner : Surroundings :=
        if ownWord then .open
        else if w.level.surroundings == .sum then .double else w.level.surroundings
      let w :=
        if inner != w.level.surroundings || w.level.innerMark then
          { w with outer := w.level :: w.outer
                   level := { Level.at inner (inner != .open) with ofBraces := true } }
        else w
      let level := w.level
      pure { w with level := { level with
        braces := level.braces + 1
        quotedBraces := if level.quotes then level.quotedBraces + 1 else level.quotedBraces } }

/-- Reads commands in parentheses whose output is put in their place. -/
def newSubstitution (n : Nat) : Reading (Option Command) :=
  match n with
  | 0 => pure none
  | n + 1 => do
    let saved := (← get).awaited
    modify fun r => { r with awaited := [], putBack := false }
    let body ← list n 2
    if (← token n) != .rightParen then refuseToken (some .rightParen)
    readDocuments n
    modify fun r => { r with awaited := saved, putBack := false, attention := .none }
    pure body.join

/-- Reads commands in backquotes. -/
def oldSubstitution (n : Nat) (quotes : Bool) : Reading (Option Command) :=
  match n with
  | 0 => pure none
  | n + 1 => do
    let text ← backquoted quotes n []
    let saved ← get
    modify fun r => { r with
      awaited := [], putBack := false, line := 1, attention := .none
      frames := [⟨text, none, false⟩] }
    let body ← list n 2
    readDocuments n
    modify fun r => { saved with documents := r.documents, last := r.last, attention := .none }
    pure body.join

/-- Reads the texts of the documents that are awaited. -/
def readDocuments (n : Nat) : Reading Unit :=
  match n with
  | 0 => pure ()
  | n + 1 => do
    let awaited := (← get).awaited
    modify fun r => { r with awaited := [] }
    readEach n awaited

/-- Reads the texts of some documents. -/
def readEach (n : Nat) (awaited : List Awaited) : Reading Unit :=
  match n, awaited with
  | 0, _ => pure ()
  | _, [] => pure ()
  | n + 1, a :: rest => do
    let saved ← get
    let w : Draft := ⟨.at (if a.expands then .double else .single) a.expands, [], [], false⟩
    let _ ← word n (some (a.mark, a.stripsTabs)) true w (← take)
    modify fun r => { r with
      documents := r.documents.set! a.number ⟨partsOf true r.word, a.expands⟩
      last := saved.last, word := saved.word, quoted := saved.quoted }
    readEach n rest

/-- Reads the next token, without a look at reserved words and aliases. -/
def rawToken (n : Nat) : Reading Token :=
  match n with
  | 0 => pure .endOfFile
  | n + 1 => do
    if (← get).putBack then
      return ← modifyGet fun r => (r.last, { r with putBack := false })
    let is (t : Token) : Reading Token := modifyGet fun r => (t, { r with last := t })
    let doubled (c : Char) (double single : Token) : Reading Token := do
      let following ← takeOn
      if following == some c then is double
      else
        putBack following
        is single
    match ← takeOn with
    | none => is .endOfFile
    | some ' ' | some '\t' => rawToken n
    | some '#' =>
      skipComment
      rawToken n
    | some '\n' =>
      nextLine
      is .newline
    | some '&' => doubled '&' .andIf .background
    | some '|' => doubled '|' .orIf .pipe
    | some ';' => doubled ';' .endBranch .semicolon
    | some '(' => is .leftParen
    | some ')' => is .rightParen
    | c =>
      modify fun r => { r with ended := [] }
      word n none false ⟨.at .open false, [], [], false⟩ c

/-- Reads tokens up to the first that is no newline. -/
def afterNewlines (n : Nat) : Reading Token :=
  match n with
  | 0 => pure .endOfFile
  | n + 1 => do
    match ← rawToken n with
    | .newline =>
      readDocuments n
      attend .none
      afterNewlines n
    | t => pure t

/-- Reads the next token. -/
def token (n : Nat) : Reading Token :=
  match n with
  | 0 => pure .endOfFile
  | n + 1 => do lookedUp n (← get).attention

/-- Reads the next token, where what is looked out for is known. -/
def lookedUp (n : Nat) (asked : Attention) : Reading Token :=
  match n with
  | 0 => pure .endOfFile
  | n + 1 => do
    let t ← if asked.newlines then afterNewlines n else rawToken n
    let asked := asked.union (← get).attention
    attend .none
    let r ← get
    if t != .word || r.quoted then return t
    match Symbol.plainText? r.word with
    | none => pure t
    | some text =>
      match asked.reserved, Token.reserved.find? (·.1.toList == text) with
      | true, some (_, reserved) => modifyGet fun r => (reserved, { r with last := reserved })
      | _, _ =>
        match r.aliases.find? (·.1 == text) with
        | some (name, value) =>
          if asked.aliases && !r.isReading name then
            unless value.isEmpty do modify (·.enter name value)
            lookedUp n asked
          else pure t
        | none => pure t

/-- Reads a list of commands. Inside of a command it may begin after newlines (0) and may be empty
(2); outside it ends with its line (1). `none` is the end of the script. -/
def list (n : Nat) (kind : Nat) : Reading (Option (Option Command)) :=
  match n with
  | 0 => pure none
  | n + 1 => listFrom n kind (kind == 1) none

/-- Reads the rest of a list after some commands. -/
def listFrom (n : Nat) (kind : Nat) (oneLine : Bool) (sofar : Option Command) :
    Reading (Option (Option Command)) :=
  match n with
  | 0 => pure none
  | n + 1 => do
    attend (if oneLine then .command else .commandOnLines)
    match ← token n with
    | .newline =>
      readDocuments n
      pure (some sofar)
    | .endOfFile =>
      readDocuments n
      modify fun r => { r with putBack := true, last := .endOfFile }
      pure (if sofar.isNone && oneLine then none else some sofar)
    | t => do
      putBackToken
      if kind == 2 && t.endsList then return some sofar
      let kind := if kind == 0 then 2 else kind
      let first ← conditions n
      let t ← token n
      let c := if t == .background then inBackground first else first
      let sofar := match sofar with
        | none => c
        | some before => .sequence before c
      match t with
      | .newline | .endOfFile =>
        putBackToken
        listFrom n kind oneLine (some sofar)
      | .background | .semicolon => listFrom n kind oneLine (some sofar)
      | _ =>
        if oneLine then refuseToken none
        putBackToken
        pure (some (some sofar))
where
  /-- A command that is carried out beside the rest. -/
  inBackground : Command → Command
    | .pipeline _ stages => .pipeline true stages
    | .redirected line body redirections => .background line body redirections
    | c => .background 0 c []

/-- Reads pipelines that are joined by `&&` and `||`. -/
def conditions (n : Nat) : Reading Command :=
  match n with
  | 0 => pure default
  | n + 1 => do conditionsFrom n (← pipeline n)

/-- Reads what is joined to a pipeline. -/
def conditionsFrom (n : Nat) (first : Command) : Reading Command :=
  match n with
  | 0 => pure first
  | n + 1 => do
    match ← token n with
    | .andIf =>
      attend .commandOnLines
      let second ← pipeline n
      conditionsFrom n (.and first second)
    | .orIf =>
      attend .commandOnLines
      let second ← pipeline n
      conditionsFrom n (.or first second)
    | _ =>
      putBackToken
      pure first

/-- Reads a pipeline. -/
def pipeline (n : Nat) : Reading Command :=
  match n with
  | 0 => pure default
  | n + 1 => do
    let negated := (← token n) == .not
    if negated then attend .command else putBackToken
    let first ← command n
    let stages ← stagesFrom n [first]
    putBackToken
    let c := match stages with
      | [c] => c
      | stages => .pipeline false stages
    pure (if negated then .not c else c)

/-- Reads the stages of a pipeline after some of them. -/
def stagesFrom (n : Nat) (stages : List Command) : Reading (List Command) :=
  match n with
  | 0 => pure stages
  | n + 1 => do
    match ← token n with
    | .pipe =>
      attend .commandOnLines
      let c ← command n
      stagesFrom n (stages ++ [c])
    | _ => pure stages

/-- Reads a list that has a command in it. -/
def body (n : Nat) : Reading Command :=
  match n with
  | 0 => pure default
  | n + 1 => do pure (((← list n 0).join).getD default)

/-- Reads a token that must come now. -/
def expect (n : Nat) (t : Token) : Reading Unit :=
  match n with
  | 0 => pure ()
  | n + 1 => do if (← token n) != t then refuseToken (some t)

/-- Reads a command. -/
def command (n : Nat) : Reading Command :=
  match n with
  | 0 => pure default
  | n + 1 => do
    let line := (← get).line
    match ← token n with
    | .«if» =>
      let c ← choice n
      expect n .fi
      redirected n line c
    | .«while» =>
      let c ← loop n false
      redirected n line c
    | .«until» =>
      let c ← loop n true
      redirected n line c
    | .«for» =>
      let c ← each n line
      redirected n line c
    | .«case» =>
      let c ← select n line
      redirected n line c
    | .leftParen =>
      let c ← body n
      expect n .rightParen
      let redirections ← trailing n []
      pure (.subshell line c redirections)
    | .leftBrace =>
      let c ← body n
      expect n .rightBrace
      redirected n line c
    | .word | .redirection =>
      putBackToken
      simple n
    | _ => refuseToken none

/-- Adds the redirections that follow a command. -/
def redirected (n : Nat) (line : Nat) (c : Command) : Reading Command :=
  match n with
  | 0 => pure c
  | n + 1 => do
    match ← trailing n [] with
    | [] => pure c
    | redirections =>
      match c with
      | .subshell l c _ => pure (.subshell l c redirections)
      | c => pure (.redirected line c redirections)

/-- Reads the redirections that follow a command. -/
def trailing (n : Nat) (found : List Redirection) : Reading (List Redirection) :=
  match n with
  | 0 => pure found
  | n + 1 => do
    if found.isEmpty then attend .command
    match ← token n with
    | .redirection =>
      let r ← redirection n
      trailing n (found ++ [r])
    | _ =>
      putBackToken
      pure found

/-- Reads what an operator leads to. -/
def redirection (n : Nat) : Reading Redirection :=
  match n with
  | 0 => pure (.close 0)
  | n + 1 => do
    let (d, op) := (← get).operator
    match op with
    | .document stripsTabs =>
      attend .documentMark
      if (← token n) != .word then refuseToken none
      let r ← get
      let number := r.documents.size
      modify fun r => { r with documents := r.documents.push ⟨[], true⟩ }
      await ⟨number, Symbol.characters r.word, stripsTabs, !r.quoted⟩
      pure (.document d number)
    | op =>
      if (← token n) != .word then refuseToken none
      pure (redirectionOf d op (← get).word)

/-- Reads a choice after its `if` or `elif`. -/
def choice (n : Nat) : Reading Command :=
  match n with
  | 0 => pure default
  | n + 1 => do
    let condition ← body n
    expect n .«then»
    let consequence ← body n
    match ← token n with
    | .elif =>
      let alternative ← choice n
      pure (.choice condition consequence (some alternative))
    | .«else» =>
      let alternative ← body n
      pure (.choice condition consequence (some alternative))
    | _ =>
      putBackToken
      pure (.choice condition consequence none)

/-- Reads a repetition after its first word. -/
def loop (n : Nat) (isUntil : Bool) : Reading Command :=
  match n with
  | 0 => pure default
  | n + 1 => do
    let condition ← body n
    expect n .«do»
    let c ← body n
    expect n .done
    pure (.loop isUntil condition c)

/-- Reads a repetition for each field after its `for`. -/
def each (n : Nat) (line : Nat) : Reading Command :=
  match n with
  | 0 => pure default
  | n + 1 => do
    let t ← token n
    let name := (← lastText).getD []
    if t != .word || !isName name then refuse "Bad for loop variable"
    attend .commandOnLines
    let words ← match ← token n with
      | .«in» => do
        let words ← wordsFrom n []
        let last := (← get).last
        if last != .newline && last != .semicolon then refuseToken none
        pure words
      | t => do
        if t != .semicolon then putBackToken
        pure [allArguments]
    attend .commandOnLines
    expect n .«do»
    let c ← body n
    expect n .done
    pure (.each line name words c)

/-- Reads words up to the first other token. -/
def wordsFrom (n : Nat) (words : List Word) : Reading (List Word) :=
  match n with
  | 0 => pure words
  | n + 1 => do
    match ← token n with
    | .word =>
      let w := partsOf false (← get).word
      wordsFrom n (words ++ [w])
    | _ => pure words

/-- Reads a choice by patterns after its `case`. -/
def select (n : Nat) (line : Nat) : Reading Command :=
  match n with
  | 0 => pure default
  | n + 1 => do
    if (← token n) != .word then refuseToken (some .word)
    let w := partsOf false (← get).word
    attend .commandOnLines
    expect n .«in»
    let branches ← branchesFrom n []
    pure (.select line w branches)

/-- Reads the branches of a choice by patterns, up to its end. -/
def branchesFrom (n : Nat) (branches : List Branch) : Reading (List Branch) :=
  match n with
  | 0 => pure branches
  | n + 1 => do
    attend .reservedOnLines
    match ← token n with
    | .esac => pure branches
    | t => do
      if t == .leftParen then let _ ← token n
      let patterns ← patternsFrom n []
      if (← get).last != .rightParen then refuseToken (some .rightParen)
      let c ← list n 2
      let branches := branches ++ [.mk patterns c.join]
      attend .reservedOnLines
      match ← token n with
      | .esac => pure branches
      | .endBranch => branchesFrom n branches
      | _ => refuseToken (some .endBranch)

/-- Reads the patterns of a branch. The first was read already. -/
def patternsFrom (n : Nat) (patterns : List Word) : Reading (List Word) :=
  match n with
  | 0 => pure patterns
  | n + 1 => do
    let patterns := patterns ++ [partsOf false (← get).word]
    match ← token n with
    | .pipe =>
      let _ ← token n
      patternsFrom n patterns
    | _ => pure patterns

/-- Reads a simple command, or the definition of a function. -/
def simple (n : Nat) : Reading Command :=
  match n with
  | 0 => pure default
  | n + 1 => do simpleFrom n (← get).line true ⟨[], [], none, []⟩

/-- Reads the rest of a simple command. `leads` tells that only assignments and redirections came
so far. -/
def simpleFrom (n : Nat) (line : Nat) (leads : Bool) (s : SimpleDraft) : Reading Command :=
  match n with
  | 0 => pure default
  | n + 1 => do
    let finished : Reading Command := do
      putBackToken
      pure (.simple line s.assignments s.words s.redirections)
    attend (if leads then .aliasOnly else .none)
    match ← token n with
    | .word =>
      let r ← get
      let w := partsOf false r.word
      let isAssignment := (assignmentPrefix r.word).isSome
      if leads && isAssignment then
        simpleFrom n line true { s with assignments := s.assignments ++ [w] }
      else
        let text := if r.word.any isEscape then none else Symbol.plainText? r.word
        simpleFrom n line false { s with words := s.words ++ [w], lastText := text }
    | .redirection =>
      let r ← redirection n
      simpleFrom n line leads { s with redirections := s.redirections ++ [r] }
    | .leftParen =>
      if s.words.length == 1 && s.assignments.isEmpty && s.redirections.isEmpty then
        expect n .rightParen
        let name := s.lastText.getD []
        if !isName name || specialNames.any (·.toList == name) then refuse "Bad function name"
        attend .commandOnLines
        let c ← command n
        pure (.define name c)
      else finished
    | _ => finished
where
  /-- The name of an assignment that symbols begin with. -/
  assignmentPrefix (symbols : List Symbol) : Option Octets :=
    let plain := symbols.takeWhile fun
      | .char _ false => true
      | _ => false
    (assignment? (Symbol.characters plain)).map (·.1)
  /-- Whether a symbol is a character that lost its meaning. -/
  isEscape : Symbol → Bool
    | .char _ true => true
    | _ => false

end

end Reading

/-- The depth that no script reaches. -/
def readingDepth : Nat := 1000000000

/-- What comes next in a script: a command (`none` in it where a line has none), or the end. -/
inductive Next where
  | command (script : Option Script) (isLast : Bool) (rest : Reader)
  | finished
  | refused (e : SyntaxError) (rest : Reader)

/-- Reads the next line of commands. -/
def Reader.nextCommand (r : Reader) : Next :=
  let start := { r with putBack := false, attention := .none, awaited := [], documents := #[] }
  match (Reading.list readingDepth 1).run start with
  | (.error e, r) => .refused e r
  | (.ok none, _) => .finished
  | (.ok (some c), r) =>
    .command (c.map fun c => ⟨c, r.documents⟩) (r.putBack && r.last == .endOfFile) r

/-- What is left of a script after its next line. -/
def Next.reader : Next → Option Reader
  | .command _ _ rest => some rest
  | .refused _ rest => some rest
  | .finished => none

/-- The text that was read up to a later time. -/
def Reader.readSince (r : Reader) (later : Option Reader) : Octets :=
  let left (r : Reader) : Octets := r.frames.flatMap (·.rest)
  (left r).take ((left r).length - (later.map left |>.getD []).length)

/-- The word of a text in which places are filled, as in a document. -/
def Reader.documentOf (text : Octets) : Except SyntaxError Word :=
  let draft : Draft := ⟨.at .double true, [], [], false⟩
  let reading : Reading Word := do
    let _ ← Reading.word readingDepth (some (['\x00'], false)) false draft (← Reading.take)
    return partsOf true (← get).word
  (reading.run (.ofText text 1)).1

end Assay.Shell
