import ReactiveSheet.Binary64.Decimal
import ReactiveSheet.Text.Blank

/-!
Postfix expressions, and the operators in them with their keywords, how many operands they take, and
what they compute. An expression is a list of words, each an operator or a number literal, and is
computed from left to right on a stack that has to hold one number at the end.
-/

namespace ReactiveSheet

inductive UnaryOp
  | ln
  | sin
deriving DecidableEq, Repr

inductive BinaryOp
  | add
  | sub
  | mul
  | div
deriving DecidableEq, Repr

namespace UnaryOp

def eval : UnaryOp → Float → Float
  | ln, x => x.log
  | sin, x => x.sin

end UnaryOp

namespace BinaryOp

/-- The result for a left and a right operand. Only division by either zero has none. -/
def eval? : BinaryOp → Float → Float → Option Float
  | add, x, y => some (x + y)
  | sub, x, y => some (x - y)
  | mul, x, y => some (x * y)
  | div, x, y => if y == 0 then none else some (x / y)

end BinaryOp

inductive Operator
  | unary (op : UnaryOp)
  | binary (op : BinaryOp)
deriving DecidableEq, Repr

namespace Operator

def arity : Operator → Nat
  | unary _ => 1
  | binary _ => 2

/-- The word for an operator. The natural logarithm is written `lg`. -/
def keyword : Operator → String
  | binary .add => "+"
  | binary .sub => "-"
  | binary .mul => "*"
  | binary .div => "/"
  | unary .ln => "lg"
  | unary .sin => "sin"

def all : List Operator :=
  [binary .add, binary .sub, binary .mul, binary .div, unary .ln, unary .sin]

def ofKeyword? (word : String) : Option Operator :=
  all.find? fun op => op.keyword == word

theorem mem_all (op : Operator) : op ∈ all := by
  rcases op with op | op <;> cases op <;> decide

theorem ofKeyword?_keyword (op : Operator) : ofKeyword? op.keyword = some op := by
  rcases op with op | op <;> cases op <;> decide

theorem ofKeyword?_eq_some_iff {word : String} {op : Operator} :
    ofKeyword? word = some op ↔ word = op.keyword := by
  constructor
  · intro h
    have := List.find?_some h
    exact (beq_iff_eq.1 this).symm
  · rintro rfl
    exact ofKeyword?_keyword op

end Operator

namespace Postfix

/-- What is wrong with an expression that is not well formed. -/
inductive Fault
  | unknownWord (word : String)
  | missingOperand (op : Operator) (found : Nat)
  | empty
  | leftOver (count : Nat)
deriving DecidableEq, Repr

inductive EvalError
  | malformed (fault : Fault)
  | divisionByZero
deriving DecidableEq, Repr

namespace EvalError

def message : EvalError → String
  | malformed (.unknownWord word) => s!"Malformed expression: unrecognised token '{word}'"
  | malformed (.missingOperand op found) =>
    s!"Malformed expression: '{op.keyword}' needs {op.arity} operand(s), found {found}"
  | malformed .empty => "Malformed expression: empty expression"
  | malformed (.leftOver count) => s!"Malformed expression: {count} values left on the stack"
  | divisionByZero => "Division by zero"

end EvalError

inductive Token
  | number (x : Float)
  | operator (op : Operator)
deriving DecidableEq

/-- The token that a word writes. Operators come before number literals. -/
def Token.ofWord? (word : List Char) : Option Token :=
  match Operator.ofKeyword? (String.ofList word) with
  | some op => some (.operator op)
  | none => (Binary64.literal? word).map .number

/-- The tokens of a list of words, or the first word that is none. -/
def Token.ofWords : List (List Char) → Except EvalError (List Token)
  | [] => .ok []
  | w :: ws =>
    match ofWord? w with
    | some t => (ofWords ws).map (t :: ·)
    | none => .error (.malformed (.unknownWord (String.ofList w)))

def tokenize (expression : String) : Except EvalError (List Token) :=
  Token.ofWords (Text.words expression.toList)

/-- What a token does to the stack, whose top is the head of the list. -/
def step (stack : List Float) : Token → Except EvalError (List Float)
  | .number x => .ok (x :: stack)
  | .operator (.unary op) =>
    match stack with
    | x :: stack => .ok (op.eval x :: stack)
    | [] => .error (.malformed (.missingOperand (.unary op) 0))
  | .operator (.binary op) =>
    match stack with
    | y :: x :: stack =>
      match op.eval? x y with
      | some z => .ok (z :: stack)
      | none => .error .divisionByZero
    | stack => .error (.malformed (.missingOperand (.binary op) stack.length))

def run : List Float → List Token → Except EvalError (List Float)
  | stack, [] => .ok stack
  | stack, t :: ts =>
    match step stack t with
    | .ok stack => run stack ts
    | .error e => .error e

/-- The value that a stack holds at the end. -/
def result : List Float → Except EvalError Float
  | [x] => .ok x
  | [] => .error (.malformed .empty)
  | stack => .error (.malformed (.leftOver stack.length))

def compute (tokens : List Token) : Except EvalError Float :=
  match run [] tokens with
  | .ok stack => result stack
  | .error e => .error e

/-- The value of an expression. All of its words are read before anything is computed. -/
def evaluate (expression : String) : Except EvalError Float :=
  match tokenize expression with
  | .ok tokens => compute tokens
  | .error e => .error e

theorem run_append (stack : List Float) (ts us : List Token) :
    run stack (ts ++ us) =
      match run stack ts with
      | .ok stack => run stack us
      | .error e => .error e := by
  induction ts generalizing stack with
  | nil => rfl
  | cons t ts ih =>
    simp only [List.cons_append, run]
    cases step stack t with
    | ok stack => exact ih stack
    | error e => rfl

end Postfix
end ReactiveSheet
