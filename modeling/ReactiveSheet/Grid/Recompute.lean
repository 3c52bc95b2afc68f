import ReactiveSheet.Grid

/-!
Recomputing a set of cells. Each cell waits for those of its subjects that are in the set too, and of
the cells that wait for nothing the first in the order of the names goes next. A cell is computed
from its formula and the numbers of the cells that it refers to, a subject in error passes its error
on, and cells that wait for ever, on a cycle or behind one, are marked as cyclic.
-/

namespace ReactiveSheet.Grid

/-- The cells that have not had their turn, with how many subjects each of them waits for, and those
among them that wait for none. -/
structure Queue where
  waiting : Slots (Option Nat)
  ready : IdSet
deriving DecidableEq

namespace Queue

def start (g : Grid) (affected : IdSet) : Queue :=
  let count id := ((g.subjects id).filter (· ∈ affected)).size
  { waiting := .ofFn fun id => if id ∈ affected then some (count id) else none
    ready := affected.filter fun id => count id = 0 }

/-- Lets an observer wait for one subject less. -/
def release (q : Queue) (id : CellId) : Queue :=
  match q.waiting.get id with
  | none => q
  | some n =>
    { waiting := q.waiting.set id (some (n - 1))
      ready := if n - 1 = 0 then q.ready.insert id else q.ready }

/-- Takes the next cell out of the queue and releases its observers. -/
def pop? (g : Grid) (q : Queue) : Option (CellId × Queue) :=
  q.ready.first?.map fun id =>
    let rest : Queue := { waiting := q.waiting.set id none, ready := q.ready.erase id }
    (id, (g.observers id).toList.foldl release rest)

/-- Takes at most a number of cells out of the queue: the cells in order, and what is left. -/
def drain (g : Grid) : Nat → Queue → List CellId × Queue
  | 0, q => ([], q)
  | fuel + 1, q =>
    match q.pop? g with
    | none => ([], q)
    | some (id, q) =>
      let (order, q) := drain g fuel q
      (id :: order, q)

/-- The cells that have not had their turn, in the order of the names. -/
def remaining (q : Queue) : List CellId := CellId.all.filter fun id => (q.waiting.get id).isSome

end Queue

/-- The order in which a set of cells is recomputed, and the cells that never get their turn. Each
cell has at most one turn. -/
def schedule (g : Grid) (affected : IdSet) : List CellId × List CellId :=
  let (order, q) := (Queue.start g affected).drain g affected.size
  (order, q.remaining)

/-- The error of the first subject that has one. -/
def firstError? (g : Grid) (subjects : IdSet) : Option CellError :=
  subjects.toList.findSome? fun id => (g.value? id).bind CellValue.error?

/-- The value that a cell is to have, given the values of the others. -/
def compute (g : Grid) (id : CellId) : CellValue :=
  match g.get? id with
  | none => .error .malformedExpression
  | some cell =>
    match g.firstError? cell.subjects with
    | some e => .error e
    | none => .ofResult (Postfix.evaluate (Formula.substitute cell.formula g.number?))

/-- Whether a cell holds a value that compares as different. -/
def differs (g : Grid) (id : CellId) (value : CellValue) : Bool :=
  match g.get? id with
  | some cell => !cell.value.agrees value
  | none => false

/-- Stores a value, unless the cell holds one that compares as equal. -/
def store (g : Grid) (id : CellId) (value : CellValue) : Grid :=
  if g.differs id value then g.modify id fun cell => { cell with value } else g

/-- Notes a name, once. -/
def note (changed : List CellId) (id : CellId) : List CellId :=
  if id ∈ changed then changed else changed ++ [id]

/-- A grid under recomputation, and the cells that changed so far, in order. -/
structure Pass where
  grid : Grid
  changed : List CellId
deriving DecidableEq

namespace Pass

/-- Gives a cell a value, and notes it if that is a change. -/
def assign (p : Pass) (id : CellId) (value : CellValue) : Pass :=
  { grid := p.grid.store id value
    changed := if p.grid.differs id value then note p.changed id else p.changed }

def update (p : Pass) (id : CellId) : Pass := p.assign id (p.grid.compute id)

def markCyclic (p : Pass) (id : CellId) : Pass := p.assign id (.error .cyclicDependency)

/-- Recomputes a set of cells in order of dependency. -/
def recompute (p : Pass) (affected : IdSet) : Pass :=
  let (order, stuck) := p.grid.schedule affected
  stuck.foldl markCyclic (order.foldl update p)

end Pass
end ReactiveSheet.Grid
