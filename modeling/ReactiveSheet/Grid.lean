import ReactiveSheet.View

/-!
Grids: the cells of a sheet by name. A grid is known by the cell that each name has, and every
operation is described by what it does to that.
-/

namespace ReactiveSheet

/-- The cells of a sheet. Not every name has a cell. -/
structure Grid where
  cells : Slots (Option Cell)
deriving DecidableEq

namespace Grid

def get? (g : Grid) (id : CellId) : Option Cell := g.cells.get id

@[ext] theorem ext {g h : Grid} (hgh : ∀ id, g.get? id = h.get? id) : g = h := by
  cases g; cases h
  congr 1
  ext1 id
  exact hgh id

def ofFn (f : CellId → Option Cell) : Grid := ⟨.ofFn f⟩

@[simp] theorem get?_ofFn (f : CellId → Option Cell) (id : CellId) : (ofFn f).get? id = f id := by
  simp [get?, ofFn]

def empty : Grid := ofFn fun _ => none

instance : EmptyCollection Grid := ⟨empty⟩
instance : Inhabited Grid := ⟨empty⟩

@[simp] theorem get?_empty (id : CellId) : (∅ : Grid).get? id = none := by
  show empty.get? id = none
  simp [empty]

def contains (g : Grid) (id : CellId) : Bool := (g.get? id).isSome

/-- The names that have cells, in order. -/
def ids (g : Grid) : List CellId := CellId.all.filter g.contains

@[simp] theorem mem_ids {g : Grid} {id : CellId} : id ∈ g.ids ↔ g.contains id = true := by
  simp [ids]

def size (g : Grid) : Nat := g.ids.length

def insert (g : Grid) (id : CellId) (cell : Cell) : Grid := ⟨g.cells.set id (some cell)⟩

theorem get?_insert (g : Grid) (id other : CellId) (cell : Cell) :
    (g.insert id cell).get? other = if other = id then some cell else g.get? other :=
  Slots.get_set ..

def mapCells (g : Grid) (f : CellId → Cell → Cell) : Grid := ofFn fun id => (g.get? id).map (f id)

@[simp] theorem get?_mapCells (g : Grid) (f : CellId → Cell → Cell) (id : CellId) :
    (g.mapCells f).get? id = (g.get? id).map (f id) := by
  simp [mapCells]

/-- Changes the cell of a name, if it has one. -/
def modify (g : Grid) (id : CellId) (f : Cell → Cell) : Grid :=
  ⟨g.cells.set id ((g.get? id).map f)⟩

theorem get?_modify (g : Grid) (id other : CellId) (f : Cell → Cell) :
    (g.modify id f).get? other = if other = id then (g.get? id).map f else g.get? other :=
  Slots.get_set ..

/-- The subjects of a name, none if it has no cell. -/
def subjects (g : Grid) (id : CellId) : IdSet :=
  match g.get? id with
  | some cell => cell.subjects
  | none => ∅

/-- The observers of a name, none if it has no cell. -/
def observers (g : Grid) (id : CellId) : IdSet :=
  match g.get? id with
  | some cell => cell.observers
  | none => ∅

def value? (g : Grid) (id : CellId) : Option CellValue := (g.get? id).map Cell.value

def formula? (g : Grid) (id : CellId) : Option String := (g.get? id).map Cell.formula

def number? (g : Grid) (id : CellId) : Option Float := (g.value? id).bind CellValue.number?

def view? (g : Grid) (id : CellId) : Option CellView := (g.get? id).map (·.view id)

end Grid
end ReactiveSheet
