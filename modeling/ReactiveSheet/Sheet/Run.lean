import ReactiveSheet.Sheet

/-!
Runs of a sheet: operations as data, and what a list of them comes to.
-/

namespace ReactiveSheet

inductive Operation
  | create (id : CellId)
  | edit (id : CellId) (input : String)
  | undo
  | recalculate
  | listen
deriving DecidableEq, Repr

/-- What an operation answers: a cell, the cells that changed, or the number of a listener. -/
inductive Answer
  | cell (id : CellId)
  | cells (ids : List CellId)
  | listener (n : Nat)
deriving DecidableEq, Repr

/-- The same outcome with another form of answer. -/
def Outcome.map {α β : Type} (f : α → β) (o : Outcome α) : Outcome β :=
  { o with answer := o.answer.map f }

namespace Sheet

def perform (s : Sheet) : Operation → Outcome Answer
  | .create id => (s.create id).map .cell
  | .edit id input => (s.edit id input).map .cells
  | .undo => s.undo.map .cell
  | .recalculate => s.recalculate.map .cells
  | .listen => s.listen.map .listener

/-- The sheet after a list of operations, of which some may fail. -/
def run (s : Sheet) : List Operation → Sheet
  | [] => s
  | op :: ops => run (s.perform op).sheet ops

def outcomes (s : Sheet) : List Operation → List (Outcome Answer)
  | [] => []
  | op :: ops =>
    let o := s.perform op
    o :: outcomes o.sheet ops

theorem run_append (s : Sheet) (ops more : List Operation) :
    s.run (ops ++ more) = (s.run ops).run more := by
  induction ops generalizing s with
  | nil => rfl
  | cons op ops ih => exact ih _

end Sheet
end ReactiveSheet
