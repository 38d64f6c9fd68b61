import Assay.Shell.Builtin.Option

/-!
# Conditions

A condition is a list of words: a word alone holds if it is not empty, an operator in front asks
about a text or a file, and one in the middle compares. Conditions are negated by `!`, grouped by
parentheses and joined by `-a` and `-o`.

A word that looks like an operator is none where the words around it need an operand.
-/

namespace Assay.Shell.Builtin

open Kernel (FileKind FileStatus Request)
open Text (Octets)

open Run

namespace Condition

/-- What a word can be. -/
inductive Operator where
  | unary
  | binary
  | not
  | and
  | or
  | leftParen
  | rightParen
deriving DecidableEq, Repr

/-- The operators in front of a word. -/
def unaryOnes : List String :=
  ["-r", "-w", "-x", "-e", "-f", "-d", "-c", "-b", "-p", "-h", "-L", "-S", "-s", "-t", "-z", "-n",
    "-u", "-g", "-k", "-O", "-G"]

/-- The operators between two words. -/
def binaryOnes : List String :=
  ["=", "!=", "<", ">", "-eq", "-ne", "-ge", "-gt", "-le", "-lt", "-nt", "-ot", "-ef"]

/-- The operator that a word can be. -/
def operator? (word : Octets) : Option Operator :=
  let isAmong (names : List String) : Bool := names.any (·.toList == word)
  if isAmong unaryOnes then some .unary
  else if isAmong binaryOnes then some .binary
  else
    match word with
    | ['!'] => some .not
    | ['-', 'a'] => some .and
    | ['-', 'o'] => some .or
    | ['('] => some .leftParen
    | [')'] => some .rightParen
    | _ => none

/-- What the word at hand is; an operand is none. -/
inductive Lexeme where
  | finish
  | operand
  | operator (o : Operator)
deriving DecidableEq, Repr

/-- Whether the words after an operator in front make it an operand. -/
def isOperand (rest : List Octets) : Bool :=
  match rest with
  | [] => true
  | [_] => false
  | word :: _ => operator? word == some .binary

/-- What the first of some words is. -/
def lexeme : List Octets → Lexeme
  | [] => .finish
  | word :: rest =>
    match operator? word with
    | none => .operand
    | some .unary => if isOperand rest then .operand else .operator .unary
    | some .leftParen => if rest.isEmpty then .operand else .operator .leftParen
    | some o => .operator o

/-- Ends with a message about a word. -/
def refuse {α : Type} (word : Octets) (message : String) : Run α :=
  fail (if word.isEmpty then octets message else word ++ octets (": " ++ message))

/-- The number of a word. -/
def number (s : Octets) : Run Int :=
  match Numeral.whole? true s with
  | some n => pure n
  | none => failNumber s

/-- What is known of a file. -/
def fileOf (follows : Bool) (path : Octets) : Run (Option FileStatus) :=
  return (← ask (.status path follows)).toOption

/-- Whether something holds of a file that is there. -/
def onFile (path : Octets) (p : FileStatus → Bool) : Run Bool := return (← fileOf true path).any p

/-- Judges an operator in front of a word. -/
def unary (op word : Octets) : Run Bool :=
  match String.ofList op with
  | "-n" => pure (!word.isEmpty)
  | "-z" => pure word.isEmpty
  | "-t" => do
    let _ ← number word
    pure false
  | "-h" | "-L" => return (← fileOf false word).any (·.kind == .link)
  | "-f" => onFile word (·.kind == .regular)
  | "-d" => onFile word (·.kind == .directory)
  | "-c" => onFile word (·.kind == .device)
  | "-p" => onFile word (·.kind == .pipe)
  | "-b" | "-S" => pure false
  | "-s" => onFile word (0 < ·.size)
  | "-x" => onFile word fun s => s.kind == .directory || s.mode &&& 0o111 != 0
  | "-u" => onFile word (·.mode &&& 0o4000 != 0)
  | "-g" => onFile word (·.mode &&& 0o2000 != 0)
  | "-k" => onFile word (·.mode &&& 0o1000 != 0)
  | _ => onFile word fun _ => true

/-- Whether one text stands before another one. -/
def precedes : Octets → Octets → Bool
  | [], [] => false
  | [], _ => true
  | _, [] => false
  | a :: as, b :: bs => a < b || (a == b && precedes as bs)

/-- Judges an operator between two words. -/
def binary (left op right : Octets) : Run Bool := do
  let compare (f : Int → Int → Bool) : Run Bool := return f (← number left) (← number right)
  match String.ofList op with
  | "=" => pure (left == right)
  | "!=" => pure (left != right)
  | "<" => pure (precedes left right)
  | ">" => pure (precedes right left)
  | "-eq" => compare (· == ·)
  | "-ne" => compare (· != ·)
  | "-lt" => compare (· < ·)
  | "-le" => compare (· ≤ ·)
  | "-gt" => compare (· > ·)
  | "-ge" => compare (· ≥ ·)
  | op => do
    let a ← fileOf true left
    let b ← fileOf true right
    match op, a, b with
    | "-ef", some a, some b => pure (a.identity == b.identity)
    | "-nt", some a, some b => pure (b.modified < a.modified)
    | "-ot", some a, some b => pure (a.modified < b.modified)
    | _, _, _ => pure false

mutual

/-- Judges conditions that are joined by `-o`. Gives the words from the last one judged on. -/
def disjunction : Nat → (result : Bool) → Lexeme → List Octets → Run (Bool × List Octets)
  | 0, result, _, words => pure (result, words)
  | n + 1, result, l, words => do
    let (b, words) ← conjunction n true l words
    let result := result || b
    match lexeme (words.drop 1) with
    | .operator .or => disjunction n result (lexeme (words.drop 2)) (words.drop 2)
    | _ => pure (result, words)

/-- Judges conditions that are joined by `-a`. -/
def conjunction : Nat → (result : Bool) → Lexeme → List Octets → Run (Bool × List Octets)
  | 0, result, _, words => pure (result, words)
  | n + 1, result, l, words => do
    let (b, words) ← negation n l words
    let result := result && b
    match lexeme (words.drop 1) with
    | .operator .and => conjunction n result (lexeme (words.drop 2)) (words.drop 2)
    | _ => pure (result, words)

/-- Judges a condition that may be negated. -/
def negation : Nat → Lexeme → List Octets → Run (Bool × List Octets)
  | 0, _, words => pure (false, words)
  | n + 1, l, words => do
    if l != .operator .not then return ← primary n l words
    let next := lexeme (words.drop 1)
    let (b, words) ← negation n next (if next == .finish then words else words.drop 1)
    pure (!b, words)

/-- Judges a condition without joins. -/
def primary : Nat → Lexeme → List Octets → Run (Bool × List Octets)
  | 0, _, words => pure (false, words)
  | n + 1, l, words => do
    match l with
    | .finish => pure (false, words)
    | .operator .leftParen =>
      let inner := words.drop 1
      if lexeme inner == .operator .rightParen then return (false, inner)
      let (b, words) ← disjunction n false (lexeme inner) inner
      if lexeme (words.drop 1) != .operator .rightParen then refuse [] "closing paren expected"
      pure (b, words.drop 1)
    | .operator .unary =>
      match words with
      | op :: word :: rest => return (← unary op word, word :: rest)
      | op :: _ => refuse op "argument expected"
      | [] => pure (false, [])
    | _ =>
      match words with
      | left :: op :: rest =>
        if lexeme (op :: rest) != .operator .binary then return (!left.isEmpty, words)
        match rest with
        | right :: _ => return (← binary left op right, rest)
        | [] => refuse op "argument expected"
      | left :: [] => pure (!left.isEmpty, words)
      | [] => pure (false, [])

end

/-- How words begin: whether the condition is negated, and its first lexeme. Of three words, the one
in the middle decides if it stands between two others. Of three or four words, parentheses around
them are left out, and `!` negates all that follows it, however often it stands there. -/
def beginning : List Octets → Bool × Lexeme × List Octets
  | [] => (false, .finish, [])
  | word :: rest =>
    let words := word :: rest
    let few : Bool := rest.length = 2 || rest.length = 3
    if rest.length = 2 && rest.head?.bind operator? == some .binary then (false, .operand, words)
    else if few && word == ['('] && rest.getLast? == some [')'] then
      (false, lexeme rest.dropLast, rest.dropLast)
    else if few && word == ['!'] then
      let (_, l, words) := beginning rest
      (true, l, words)
    else (false, lexeme words, words)

/-- Judges a condition. -/
def judge (words : List Octets) : Run Bool := do
  if words.isEmpty then return false
  let (negated, start, words) := beginning words
  let (b, rest) ← disjunction (8 * (words.length + 1)) false start words
  match rest with
  | word :: _ :: _ => refuse word "unexpected operator"
  | _ => pure (b != negated)

end Condition

/-- Judges a condition, as a status. -/
def condition (arguments : List Octets) : Run Nat := do
  pure (if ← Condition.judge arguments then 0 else 1)

/-- Judges a condition in brackets. -/
def bracket (arguments : List Octets) : Run Nat := do
  if arguments.getLast? != some [']'] then failPlain "missing ]"
  condition arguments.dropLast

end Assay.Shell.Builtin
