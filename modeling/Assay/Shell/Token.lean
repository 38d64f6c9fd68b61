import Assay.Shell.Syntax

/-!
# Tokens of a script

A script is read as a sequence of tokens: operators, words and, where a command may begin, reserved
words. A word is read as a sequence of symbols, which `partsOf` puts together to the parts of a
word.
-/

namespace Assay.Shell

open Text (Octets)

/-- A token. The content of a word or of a redirection is held beside it. -/
inductive Token where
  | endOfFile
  | newline
  | semicolon
  | background
  | andIf
  | orIf
  | pipe
  | leftParen
  | rightParen
  | endBranch
  | redirection
  | word
  | not
  | «case»
  | «do»
  | done
  | elif
  | «else»
  | esac
  | fi
  | «for»
  | «if»
  | «in»
  | «then»
  | «until»
  | «while»
  | leftBrace
  | rightBrace
deriving DecidableEq, Repr, Inhabited

namespace Token

/-- The reserved words. -/
def reserved : List (String × Token) :=
  [("!", not), ("case", «case»), ("do", «do»), ("done", done), ("elif", elif), ("else", «else»),
    ("esac", esac), ("fi", fi), ("for", «for»), ("if", «if»), ("in", «in»), ("then", «then»),
    ("until", «until»), ("while", «while»), ("\x7b", leftBrace), ("\x7d", rightBrace)]

/-- A token as messages show it. -/
def shown (t : Token) : String :=
  match reserved.find? (·.2 == t) with
  | some (text, _) => "\"" ++ text ++ "\""
  | none =>
    match t with
    | endOfFile => "end of file"
    | newline => "newline"
    | semicolon => "\";\""
    | background => "\"&\""
    | andIf => "\"&&\""
    | orIf => "\"||\""
    | pipe => "\"|\""
    | leftParen => "\"(\""
    | rightParen => "\")\""
    | endBranch => "\";;\""
    | redirection => "redirection"
    | _ => "word"

/-- Whether a token ends a list of commands inside of another command. -/
def endsList : Token → Bool
  | endOfFile | rightParen | endBranch | «do» | done | elif | «else» | esac | fi | «then»
  | rightBrace => true
  | _ => false

end Token

/-- How the value of a parameter is used, as it is known before the word is read that belongs to
it. -/
inductive UseKind where
  | plain
  | length
  | default
  | alternative
  | require
  | assign
  | withoutStart (longest : Bool)
  | withoutEnd (longest : Bool)
  | senseless
deriving DecidableEq, Repr

/-- What a word is read as. -/
inductive Symbol where
  /-- A character, which may have lost its meaning. -/
  | char (c : Char) (escaped : Bool)
  | mark
  /-- The beginning of a parameter. All but plain uses end by `endParameter`. -/
  | parameter (name : Octets) (use : UseKind) (orEmpty : Bool)
  | endParameter
  | output (body : Option Command)
  | sum
  | endSum

namespace Symbol

/-- The text of symbols that are nothing but characters with their meaning. -/
def plainText? (symbols : List Symbol) : Option Octets :=
  symbols.mapM fun
    | char c false => some c
    | _ => none

/-- The characters among symbols. -/
def characters (symbols : List Symbol) : Octets :=
  symbols.filterMap fun
    | char c _ => some c
    | _ => none

end Symbol

/-- Whether a character may begin a name. -/
def beginsName (c : Char) : Bool := c.isAlpha || c == '_'

/-- Whether a character may stand in a name. -/
def isNameChar (c : Char) : Bool := c.isAlphanum || c == '_'

/-- Whether a text is a name. -/
def isName : Octets → Bool
  | [] => false
  | c :: rest => beginsName c && rest.all isNameChar

/-- The name that an assignment begins with, and what follows its `=`. -/
def assignment? (s : Octets) : Option (Octets × Octets) :=
  let name := s.takeWhile (· != '=')
  match s.drop name.length with
  | _ :: value => if isName name then some (name, value) else none
  | [] => none

/-- Adds a character to the text that parts begin with. -/
def pushChar (c : Char) (quoted : Bool) : Word → Word
  | .text chars q :: rest =>
    if q == quoted then .text (c :: chars) q :: rest
    else .text [c] quoted :: .text chars q :: rest
  | parts => .text [c] quoted :: parts

/-- The use of a parameter, with its word. -/
def UseKind.withWord (use : UseKind) (word : Word) : Use :=
  match use with
  | plain => .plain
  | length => .length
  | default => .default word
  | alternative => .alternative word
  | require => .require word
  | assign => .assign word
  | withoutStart longest => .withoutStart longest word
  | withoutEnd longest => .withoutEnd longest word
  | senseless => .senseless word

/-- Whether the word of a use is quoted where the use is. Patterns and values to be assigned are
not. -/
def UseKind.passesQuotes : UseKind → Bool
  | default | alternative => true
  | _ => false

/-- The parts that symbols are, up to an end symbol, and the symbols after it. `around` tells that
all of it is quoted, `inside` that a quotation mark is open. -/
def partsUpTo : Nat → (around inside : Bool) → List Symbol → Word × List Symbol
  | 0, _, _, _ => ([], [])
  | _, _, _, [] => ([], [])
  | n + 1, around, inside, s :: rest =>
    match s with
    | .char c escaped =>
      let (parts, rest) := partsUpTo n around inside rest
      (pushChar c (around || inside || escaped) parts, rest)
    | .mark =>
      let (parts, rest) := partsUpTo n around (!inside) rest
      (.mark :: parts, rest)
    | .output body =>
      let (parts, rest) := partsUpTo n around inside rest
      (.output body (around || inside) :: parts, rest)
    | .parameter name .plain orEmpty =>
      let (parts, rest) := partsUpTo n around inside rest
      (.parameter name .plain orEmpty (around || inside) :: parts, rest)
    | .parameter name use orEmpty =>
      let (word, rest) := partsUpTo n ((around || inside) && use.passesQuotes) false rest
      let (parts, rest) := partsUpTo n around inside rest
      (.parameter name (use.withWord word) orEmpty (around || inside) :: parts, rest)
    | .sum =>
      let (body, rest) := partsUpTo n around false rest
      let (parts, rest) := partsUpTo n around inside rest
      (.sum body (around || inside) :: parts, rest)
    | .endParameter | .endSum => ([], rest)

/-- The word that symbols are. A word of a document is all quoted. -/
def partsOf (quoted : Bool) (symbols : List Symbol) : Word :=
  (partsUpTo (symbols.length + 1) quoted false symbols).1

end Assay.Shell
