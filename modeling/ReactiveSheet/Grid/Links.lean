import ReactiveSheet.Grid

/-!
Links between cells, the cycles that they make, and the cells downstream of a cell. The subjects of a
cell are the cells that its formula refers to, and the observers of a cell are to be those that have
it among their subjects. A cycle through a cell is searched one step at a time in breadth, so that
the cycle found is a shortest one.
-/

namespace ReactiveSheet.Grid

/-- The existing cells that a formula refers to. -/
def resolve (g : Grid) (formula : String) : IdSet :=
  (Formula.references formula).filter g.contains

/-- Gives a cell new subjects, and takes it into the observers of those that it gains and out of
the observers of those that it loses. -/
def rewire (g : Grid) (id : CellId) (subjects : IdSet) : Grid :=
  match g.get? id with
  | none => g
  | some cell =>
    let old := cell.subjects
    g.mapCells fun other c =>
      { c with
        subjects := if other = id then subjects else c.subjects
        observers :=
          if other ∈ subjects ∧ other ∉ old then c.observers.insert id
          else if other ∈ old ∧ other ∉ subjects then c.observers.erase id
          else c.observers }

/-- Gives each of the named cells the subjects that its formula refers to. -/
def relink (g : Grid) : List CellId → Grid
  | [] => g
  | id :: ids =>
    match g.get? id with
    | none => relink g ids
    | some cell =>
      let subjects := g.resolve cell.formula
      relink (if subjects = cell.subjects then g else g.rewire id subjects) ids

/-- Whether every link is there in both directions and ends at a cell. -/
def linksConsistent (g : Grid) : Bool :=
  g.ids.all fun id =>
    ((g.observers id).toList.all fun o => id ∈ g.subjects o) &&
      ((g.subjects id).toList.all fun s => id ∈ g.observers s)

/-- Each cell has as observers those that have it as a subject, and all links end at cells. -/
structure Linked (g : Grid) : Prop where
  mem_observers_iff : ∀ a b, b ∈ g.observers a ↔ a ∈ g.subjects b
  contains_of_mem : ∀ a b, a ∈ g.subjects b → g.contains a = true

theorem contains_of_mem_subjects {g : Grid} {a b : CellId} (h : a ∈ g.subjects b) :
    g.contains b = true := by
  unfold subjects at h
  unfold contains
  split at h
  · simp_all
  · simp at h

theorem contains_of_mem_observers {g : Grid} {a b : CellId} (h : a ∈ g.observers b) :
    g.contains b = true := by
  unfold observers at h
  unfold contains
  split at h
  · simp_all
  · simp at h

theorem linksConsistent_iff {g : Grid} : g.linksConsistent = true ↔ g.Linked := by
  simp only [linksConsistent, List.all_eq_true, mem_ids, Bool.and_eq_true, IdSet.mem_toList,
    decide_eq_true_eq]
  constructor
  · intro h
    refine ⟨fun a b => ⟨fun hb => (h a (contains_of_mem_observers hb)).1 b hb,
      fun ha => (h b (contains_of_mem_subjects ha)).2 a ha⟩, fun a b ha => ?_⟩
    exact contains_of_mem_observers ((h b (contains_of_mem_subjects ha)).2 a ha)
  · intro h id _
    exact ⟨fun o ho => (h.mem_observers_iff id o).1 ho, fun s hs => (h.mem_observers_iff s id).2 hs⟩

/-- Adds to the trails of the next round those that lead on to a cell that no trail has reached. -/
def extendTrail (trail : List CellId) (acc : List (List CellId) × IdSet) (next : CellId) :
    List (List CellId) × IdSet :=
  if next ∈ acc.2 then acc else (acc.1 ++ [next :: trail], acc.2.insert next)

/-- The trails of the next round and the cells reached by then. A trail has its last cell first. -/
def nextTrails (g : Grid) (trails : List (List CellId)) (reached : IdSet) :
    List (List CellId) × IdSet :=
  trails.foldl
    (fun acc trail =>
      match trail with
      | [] => acc
      | last :: _ => (g.subjects last).toList.foldl (extendTrail trail) acc)
    ([], reached)

/-- Whether the last cell of a trail has the origin as a subject. -/
def closes (g : Grid) (origin : CellId) : List CellId → Bool
  | [] => false
  | last :: _ => origin ∈ g.subjects last

/-- Searches a number of rounds, each of which takes every trail one step further. -/
def searchCycle (g : Grid) (origin : CellId) :
    Nat → List (List CellId) → IdSet → Option (List CellId)
  | 0, _, _ => none
  | rounds + 1, trails, reached =>
    match trails.find? (g.closes origin) with
    | some trail => some (origin :: trail).reverse
    | none =>
      let (trails, reached) := g.nextTrails trails reached
      searchCycle g origin rounds trails reached

/-- A shortest cycle through a cell: it starts and ends there, and each cell has the next one as a
subject. Of several the first in the order of the names is taken, step by step. -/
def findCycle? (g : Grid) (origin : CellId) : Option (List CellId) :=
  if g.contains origin then
    searchCycle g origin CellId.count [[origin]] (IdSet.empty.insert origin)
  else none

/-- Marks an observer as found, and as one whose own observers are still to be found. -/
def discover (origin : CellId) (acc : List CellId × IdSet) (id : CellId) : List CellId × IdSet :=
  if id = origin ∨ id ∈ acc.2 then acc else (id :: acc.1, acc.2.insert id)

/-- Works off a number of cells whose observers are still to be found. -/
def collectObservers (g : Grid) (origin : CellId) : Nat → List CellId → IdSet → IdSet
  | 0, _, found => found
  | _, [], found => found
  | fuel + 1, id :: rest, found =>
    let (pending, found) := (g.observers id).toList.foldl (discover origin) (rest, found)
    collectObservers g origin fuel pending found

/-- The cells that read a cell directly or through others, without the cell itself. Every name is
worked off at most once. -/
def downstream (g : Grid) (origin : CellId) : IdSet :=
  collectObservers g origin CellId.count [origin] ∅

end ReactiveSheet.Grid
