import ReactiveSheet.Formula
import ReactiveSheet.Postfix

/-!
Cells. A cell holds its formula, the value last computed for it, and its two kinds of links: the
subjects, which its formula reads, and the observers, whose formulas read it.
-/

namespace ReactiveSheet

/-- Why a cell holds no number. -/
inductive CellError
  | cyclicDependency
  | malformedExpression
  | divisionByZero
deriving DecidableEq, Repr

namespace CellError

/-- The error of a cell whose formula has no value. -/
def ofEvalError : Postfix.EvalError → CellError
  | .malformed _ => malformedExpression
  | .divisionByZero => divisionByZero

def message : CellError → String
  | cyclicDependency => "cyclic dependency"
  | malformedExpression => "malformed expression"
  | divisionByZero => "division by zero"

end CellError

/-- What a cell holds. Values are equal when they are the same error or the same double, with all
NaNs the same and the two zeros apart. -/
inductive CellValue
  | number (x : Float)
  | error (e : CellError)
deriving DecidableEq

namespace CellValue

/-- The value of a cell that was never computed. -/
def initial : CellValue := number 0

instance : Inhabited CellValue := ⟨initial⟩

def number? : CellValue → Option Float
  | number x => some x
  | error _ => none

def error? : CellValue → Option CellError
  | number _ => none
  | error e => some e

def isError (v : CellValue) : Bool := v.error?.isSome

/-- Whether two values compare as equal. Numbers compare as IEEE 754 has it, so NaN is not equal to
itself and the two zeros are equal. -/
def agrees : CellValue → CellValue → Bool
  | number x, number y => x == y
  | error e, error f => e == f
  | _, _ => false

/-- The value of a formula after its evaluation. -/
def ofResult : Except Postfix.EvalError Float → CellValue
  | .ok x => number x
  | .error e => error (.ofEvalError e)

end CellValue

/-- A cell, apart from its name. -/
structure Cell where
  formula : String
  value : CellValue
  subjects : IdSet
  observers : IdSet
deriving DecidableEq

namespace Cell

/-- A cell that was never edited. -/
def fresh : Cell := ⟨Formula.default, .initial, ∅, ∅⟩

instance : Inhabited Cell := ⟨fresh⟩

end Cell

end ReactiveSheet
