import Assay.Shell.Number
import Assay.Shell.Token
import Assay.Text.Decimal

/-!
# Sums

A sum is an expression over integers of 64 bits and variables, with the operators of C and their
precedence. It is reckoned while it is read, so what stands in front of a mistake has had its
effect; a part that does not count (after `&&`, `||` or `?`) is only read.

Values are cut to 64 bits. One division has a value that is too great even for that: the machine
traps it.
-/

namespace Assay.Shell.Sum

open Text (Octets)

/-- An operator between two sums. -/
inductive Binary where
  | times
  | divided
  | modulo
  | plus
  | minus
  | shiftLeft
  | shiftRight
  | less
  | lessEqual
  | greater
  | greaterEqual
  | equal
  | notEqual
  | bitAnd
  | bitXor
  | bitOr
deriving DecidableEq, Repr

namespace Binary

/-- How loosely an operator binds. -/
def level : Binary → Nat
  | times | divided | modulo => 0
  | plus | minus => 1
  | shiftLeft | shiftRight => 2
  | less | lessEqual | greater | greaterEqual => 3
  | equal | notEqual => 4
  | bitAnd => 5
  | bitXor => 6
  | bitOr => 7

/-- The level of no operator. -/
def loosest : Nat := 8

end Binary

/-- A symbol of a sum. -/
inductive Token where
  | finish
  | unknown
  | number (n : Int)
  | name (s : Octets)
  | binary (op : Binary)
  /-- `=`, or an operator in front of it. -/
  | assign (op : Option Binary)
  | both
  | either
  | question
  | colon
  | not
  | complement
  | leftParen
  | rightParen
deriving DecidableEq, Repr

/-- The texts of symbols, the longest first. -/
def symbols : List (String × Token) :=
  [("<<=", .assign (some .shiftLeft)), (">>=", .assign (some .shiftRight)),
    ("<<", .binary .shiftLeft), (">>", .binary .shiftRight), ("<=", .binary .lessEqual),
    (">=", .binary .greaterEqual), ("==", .binary .equal), ("!=", .binary .notEqual),
    ("&&", .both), ("||", .either), ("+=", .assign (some .plus)), ("-=", .assign (some .minus)),
    ("*=", .assign (some .times)), ("/=", .assign (some .divided)), ("%=", .assign (some .modulo)),
    ("&=", .assign (some .bitAnd)), ("^=", .assign (some .bitXor)),
    ("|=", .assign (some .bitOr)), ("+", .binary .plus), ("-", .binary .minus),
    ("*", .binary .times), ("/", .binary .divided), ("%", .binary .modulo), ("<", .binary .less),
    (">", .binary .greater), ("&", .binary .bitAnd), ("^", .binary .bitXor),
    ("|", .binary .bitOr), ("=", .assign none), ("!", .not), ("~", .complement), ("?", .question),
    (":", .colon), ("(", .leftParen), (")", .rightParen)]

/-- The first symbol of a text, and the text after it. -/
def lex (s : Octets) : Token × Octets :=
  match s.dropWhile fun c => c == ' ' || c == '\t' || c == '\n' with
  | [] => (.finish, [])
  | c :: rest =>
    if c.isDigit then
      let n := Numeral.signed false (c :: rest)
      (.number n.value, n.rest)
    else if beginsName c then
      let name := (c :: rest).takeWhile isNameChar
      (.name name, (c :: rest).drop name.length)
    else
      match symbols.find? fun (text, _) => text.toList.isPrefixOf (c :: rest) with
      | some (text, token) => (token, (c :: rest).drop text.length)
      | none => (.unknown, c :: rest)

/-! ### Values -/

/-- Why a sum has no value. -/
inductive Fault where
  /-- The text is no sum. -/
  | unreadable (message : String)
  /-- The value of a variable is no number. -/
  | noNumber (value : Octets)
  /-- The machine traps the division. -/
  | trapped
deriving DecidableEq, Repr

/-- An integer cut to 64 bits. -/
def wrap (n : Int) : Int := n.bmod 0x10000000000000000

/-- The number of a truth value. -/
def ofBool (b : Bool) : Int := if b then 1 else 0

/-- The bits of an integer. -/
def bits (n : Int) : BitVec 64 := BitVec.ofInt 64 n

/-- The value of an operator between two values. -/
def combine (op : Binary) (a b : Int) : Except Fault Int :=
  let divide (f : Int → Int → Int) : Except Fault Int :=
    if b = 0 then .error (.unreadable "division by zero")
    else if a = Numeral.least ∧ b = -1 then .error .trapped
    else .ok (f a b)
  match op with
  | .times => .ok (wrap (a * b))
  | .divided => divide Int.tdiv
  | .modulo => divide Int.tmod
  | .plus => .ok (wrap (a + b))
  | .minus => .ok (wrap (a - b))
  | .shiftLeft => .ok (bits a <<< (b % 64).toNat).toInt
  | .shiftRight => .ok (a >>> (b % 64).toNat)
  | .less => .ok (ofBool (a < b))
  | .lessEqual => .ok (ofBool (a ≤ b))
  | .greater => .ok (ofBool (b < a))
  | .greaterEqual => .ok (ofBool (b ≤ a))
  | .equal => .ok (ofBool (a == b))
  | .notEqual => .ok (ofBool (a != b))
  | .bitAnd => .ok (bits a &&& bits b).toInt
  | .bitXor => .ok (bits a ^^^ bits b).toInt
  | .bitOr => .ok (bits a ||| bits b).toInt

/-! ### Reckoning -/

/-- What is left of a sum: the symbol at hand and the text after it; and the variables that were
set, the last one first. -/
structure Progress where
  token : Token
  text : Octets
  values : List (Octets × Octets)

/-- A step of reckoning. -/
abbrev Reckoning := ExceptT Fault (StateM Progress)

/-- Takes the symbol at hand, and reads the next one. -/
def take : Reckoning Token :=
  modifyGet fun p =>
    let (token, text) := lex p.text
    (p.token, { p with token, text })

/-- Refuses the sum. -/
def refuse {α : Type} (message : String) : Reckoning α := throw (.unreadable message)

/-- The value of a variable: 0 if it is not set. -/
def valueOf (lookup : Octets → Option Octets) (name : Octets) : Reckoning Int := do
  let values := (← get).values
  let text := ((values.find? (·.1 == name)).map (·.2)).getD ((lookup name).getD [])
  match Numeral.whole? false text with
  | some n => pure n
  | none => throw (.noNumber text)

/-- Sets a variable. -/
def setValue (name : Octets) (n : Int) : Reckoning Int := do
  modify fun p => { p with values := (name, (Text.integer n).toList) :: p.values }
  pure n

mutual

/-- Reckons a number, a variable, a sum in parentheses, or one of these after signs. `counts` tells
whether it has an effect. -/
def primary (lookup : Octets → Option Octets) (counts : Bool) : Nat → Reckoning Int
  | 0 => pure 0
  | n + 1 => do
    match ← take with
    | .leftParen =>
      let value ← assignment lookup counts n
      if (← get).token != .rightParen then refuse "expecting ')'"
      let _ ← take
      pure value
    | .number value => pure value
    | .name name => if counts then valueOf lookup name else pure 0
    | .binary .plus => primary lookup counts n
    | .binary .minus => return wrap (-(← primary lookup counts n))
    | .not => return ofBool ((← primary lookup counts n) == 0)
    | .complement => return -(← primary lookup counts n) - 1
    | _ => refuse "expecting primary"

/-- Reckons the operators after a value that bind more tightly than a level. -/
def operators (lookup : Octets → Option Octets) (counts : Bool) (bound : Nat) :
    Nat → Int → Reckoning Int
  | 0, a => pure a
  | n + 1, a => do
    match (← get).token with
    | .binary op =>
      if bound ≤ op.level then pure a
      else
        let _ ← take
        let b ← primary lookup counts n
        let b ← operators lookup counts op.level n b
        let a ← if counts then ExceptT.mk (pure (combine op a b)) else pure b
        operators lookup counts bound n a
    | _ => pure a

/-- Reckons operands that are joined by `&&`. -/
def conjunction (lookup : Octets → Option Octets) (counts : Bool) : Nat → Reckoning Int
  | 0 => pure 0
  | n + 1 => do
    let a ← operators lookup counts Binary.loosest n (← primary lookup counts n)
    if (← get).token != .both then return a
    let _ ← take
    let b ← conjunction lookup (counts && a != 0) n
    pure (ofBool (a != 0 && b != 0))

/-- Reckons operands that are joined by `||`. -/
def disjunction (lookup : Octets → Option Octets) (counts : Bool) : Nat → Reckoning Int
  | 0 => pure 0
  | n + 1 => do
    let a ← conjunction lookup counts n
    if (← get).token != .either then return a
    let _ ← take
    let b ← disjunction lookup (counts && a == 0) n
    pure (ofBool (a != 0 || b != 0))

/-- Reckons a choice, or what may stand in place of one. -/
def choice (lookup : Octets → Option Octets) (counts : Bool) : Nat → Reckoning Int
  | 0 => pure 0
  | n + 1 => do
    let a ← disjunction lookup counts n
    if (← get).token != .question then return a
    let _ ← take
    let b ← assignment lookup (counts && a != 0) n
    if (← get).token != .colon then refuse "expecting ':'"
    let _ ← take
    let c ← choice lookup (counts && a == 0) n
    pure (if a != 0 then b else c)

/-- Reckons an assignment, or what may stand in place of one. -/
def assignment (lookup : Octets → Option Octets) (counts : Bool) : Nat → Reckoning Int
  | 0 => pure 0
  | n + 1 => do
    let p ← get
    match p.token, (lex p.text).1 with
    | .name name, .assign op =>
      let _ ← take
      let _ ← take
      let value ← assignment lookup counts n
      if !counts then return value
      match op with
      | none => setValue name value
      | some op => do
        let old ← valueOf lookup name
        setValue name (← ExceptT.mk (pure (combine op old value)))
    | _, _ => choice lookup counts n

end

/-- The value of a sum, or why it has none, and the variables that were set, in order. -/
def reckon (lookup : Octets → Option Octets) (text : Octets) :
    Except Fault Int × List (Octets × Octets) :=
  let whole : Reckoning Int := do
    let _ ← take
    let value ← assignment lookup true (16 * (text.length + 1))
    if (← get).token != .finish then refuse "expecting EOF"
    pure value
  let (value, p) := whole.run ⟨.finish, text, []⟩
  (value, p.values.reverse)

end Assay.Shell.Sum
