import ReactiveSheet.Grid.Links
import ReactiveSheet.Grid.Recompute
import ReactiveSheet.Settings

/-!
Sheets: cells, the undo history, and listeners that are told which cells changed. Every accepted
edit adds to the history what the edited cell was before, and undo takes the newest entry off. An
operation gives the sheet after it, its answer, and the calls that it makes to the listeners.
-/

namespace ReactiveSheet

/-- What a cell was before an edit. -/
structure Snapshot where
  id : CellId
  formula : String
  value : CellValue
deriving DecidableEq

/-- What a cell is now. -/
def Cell.snapshot (cell : Cell) (id : CellId) : Snapshot := ⟨id, cell.formula, cell.value⟩

/-- The snapshots that can be undone, the newest first, and how many are kept at most. -/
structure History where
  entries : List Snapshot
  limit : Option Nat
deriving DecidableEq

namespace History

def withLimit (limit : Option Nat) : History := ⟨[], limit⟩

/-- The newest entries of a list, as many as a limit allows. -/
def keep (limit : Option Nat) (entries : List Snapshot) : List Snapshot :=
  match limit with
  | some n => entries.take n
  | none => entries

/-- Adds an entry. The oldest ones give way if there are too many. -/
def push (h : History) (s : Snapshot) : History :=
  { h with entries := keep h.limit (s :: h.entries) }

def pop? (h : History) : Option (Snapshot × History) :=
  match h.entries with
  | [] => none
  | s :: rest => some (s, { h with entries := rest })

def size (h : History) : Nat := h.entries.length

def isEmpty (h : History) : Bool := h.entries.isEmpty

theorem push_size (h : History) (s : Snapshot) :
    (h.push s).size = match h.limit with
      | some n => min n (h.size + 1)
      | none => h.size + 1 := by
  unfold push size keep
  cases h.limit <;> simp

end History

/-- A sheet. Listeners are numbered in the order in which they register. -/
structure Sheet where
  grid : Grid
  history : History
  listeners : Nat
deriving DecidableEq

inductive SheetError
  | unknownCell (id : CellId)
  | duplicateCell (id : CellId)
  | emptyHistory
  | settings (e : SettingsError)
deriving DecidableEq, Repr

namespace SheetError

def message : SheetError → String
  | unknownCell id => s!"Unknown cell: {id}"
  | duplicateCell id => s!"Cell already exists: {id}"
  | emptyHistory => "Nothing to undo"
  | settings e => s!"Config error: {e.message}"

end SheetError

/-- One call to a listener, which is shown a cell. -/
structure Call where
  listener : Nat
  view : CellView
deriving DecidableEq

structure Outcome (α : Type) where
  sheet : Sheet
  answer : Except SheetError α
  calls : List Call

namespace Sheet

/-- The sheet without cells, which keeps all of its history. -/
def empty : Sheet := ⟨∅, .withLimit none, 0⟩

instance : Inhabited Sheet := ⟨empty⟩

/-- An operation that fails, and leaves a sheet behind. -/
def fail {α : Type} (s : Sheet) (e : SheetError) : Outcome α := ⟨s, .error e, []⟩

/-- Gives a name a cell with the default formula. -/
def create (s : Sheet) (id : CellId) : Outcome CellId :=
  if s.grid.contains id then s.fail (.duplicateCell id)
  else ⟨{ s with grid := s.grid.insert id .fresh }, .ok id, []⟩

def createAll (s : Sheet) : List Nat → Except SheetError Sheet
  | [] => .ok s
  | n :: ns =>
    match CellId.ofIndex? n with
    | none => .error (.settings (.noName n))
    | some id =>
      let made := s.create id
      match made.answer with
      | .ok _ => createAll made.sheet ns
      | .error e => .error e

def ofSettings (settings : Settings) : Except SheetError Sheet :=
  match settings.validate with
  | .error e => .error (.settings e)
  | .ok settings =>
    createAll ⟨∅, .withLimit settings.historyLimit, 0⟩ (List.range settings.cells)

/-- Registers a listener, whose number is the answer. -/
def listen (s : Sheet) : Outcome Nat :=
  ⟨{ s with listeners := s.listeners + 1 }, .ok s.listeners, []⟩

def cell (s : Sheet) (id : CellId) : Except SheetError Cell :=
  match s.grid.get? id with
  | some cell => .ok cell
  | none => .error (.unknownCell id)

def view (s : Sheet) (id : CellId) : Except SheetError CellView := (s.cell id).map (·.view id)

/-- The calls for cells that changed: each is shown as it is now to all listeners in turn, before
the next one. -/
def calls (s : Sheet) (changed : List CellId) : List Call :=
  changed.flatMap fun id =>
    match s.grid.view? id with
    | some view => (List.range s.listeners).map fun n => ⟨n, view⟩
    | none => []

/-- Ends an operation that recomputed cells. -/
def finish {α : Type} (s : Sheet) (pass : Grid.Pass) (answer : α) : Outcome α :=
  let after := { s with grid := pass.grid }
  ⟨after, .ok answer, after.calls pass.changed⟩

/-- The grid in which a cell has a new formula, with its links and without its value. -/
def reformulate (g : Grid) (id : CellId) (formula : String) : Grid :=
  (g.rewire id (g.resolve formula)).modify id fun cell => { cell with formula }

/-- The value of a cell after an edit: an error if the edit leaves it on a cycle. -/
def editedValue (g : Grid) (id : CellId) : CellValue :=
  match g.findCycle? id with
  | some _ => .error .cyclicDependency
  | none => g.compute id

/-- Replaces the formula of a cell and brings the cells downstream of it up to date. An input that
stands for the formula that the cell has changes nothing. The answer lists the changed cells; the
edited one is always among them. -/
def edit (s : Sheet) (id : CellId) (input : String) : Outcome (List CellId) :=
  let formula := Formula.normalize input
  match s.grid.get? id with
  | none => s.fail (.unknownCell id)
  | some cell =>
    if cell.formula = formula then ⟨s, .ok [], []⟩
    else
      let history := s.history.push (cell.snapshot id)
      let grid := reformulate s.grid id formula
      let grid := grid.store id (editedValue grid id)
      let pass := Grid.Pass.recompute ⟨grid, [id]⟩ (grid.downstream id)
      finish { s with history } pass pass.changed

/-- Gives the cell that was edited last the formula and value that it had, and brings the cells
downstream of it up to date. Links stay as they are. The answer is that cell. -/
def undo (s : Sheet) : Outcome CellId :=
  match s.history.pop? with
  | none => s.fail .emptyHistory
  | some (snapshot, history) =>
    let s := { s with history }
    let id := snapshot.id
    match s.grid.get? id with
    | none => s.fail (.unknownCell id)
    | some cell =>
      let changed :=
        if cell.formula ≠ snapshot.formula ∨ !cell.value.agrees snapshot.value then [id] else []
      let grid := s.grid.modify id fun cell =>
        { cell with formula := snapshot.formula, value := snapshot.value }
      finish s (Grid.Pass.recompute ⟨grid, changed⟩ (grid.downstream id)) id

/-- Derives all links from the formulas and recomputes all cells in order of dependency. The answer
lists the changed cells. -/
def recalculate (s : Sheet) : Outcome (List CellId) :=
  let grid := s.grid.relink s.grid.ids
  let pass := Grid.Pass.recompute ⟨grid, []⟩ (.ofList s.grid.ids)
  finish s pass pass.changed

end Sheet
end ReactiveSheet
