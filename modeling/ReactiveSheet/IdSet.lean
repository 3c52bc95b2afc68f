import ReactiveSheet.CellId

/-!
Sets of cell names. Sets are equal when they have the same members, and are listed in the order of
the names.
-/

namespace ReactiveSheet

structure IdSet where
  has : Slots Bool
deriving DecidableEq

namespace IdSet

instance : Membership CellId IdSet := ⟨fun s id => s.has.get id = true⟩

instance (id : CellId) (s : IdSet) : Decidable (id ∈ s) :=
  inferInstanceAs (Decidable (s.has.get id = true))

def ofPred (p : CellId → Bool) : IdSet := ⟨.ofFn p⟩

@[simp] theorem mem_ofPred {p : CellId → Bool} {id : CellId} : id ∈ ofPred p ↔ p id = true := by
  show (Slots.ofFn p).get id = true ↔ _
  simp

@[ext] theorem ext {s t : IdSet} (h : ∀ id, id ∈ s ↔ id ∈ t) : s = t := by
  cases s; cases t
  congr 1
  ext id
  exact Bool.eq_iff_iff.2 (h id)

def empty : IdSet := ofPred fun _ => false

instance : EmptyCollection IdSet := ⟨empty⟩
instance : Inhabited IdSet := ⟨empty⟩

@[simp] theorem not_mem_empty (id : CellId) : id ∉ (∅ : IdSet) := by
  show id ∉ ofPred _
  simp

def insert (s : IdSet) (id : CellId) : IdSet := ofPred fun x => x = id ∨ x ∈ s

@[simp] theorem mem_insert {s : IdSet} {id x : CellId} : x ∈ s.insert id ↔ x = id ∨ x ∈ s := by
  simp [insert]

def erase (s : IdSet) (id : CellId) : IdSet := ofPred fun x => x ≠ id ∧ x ∈ s

@[simp] theorem mem_erase {s : IdSet} {id x : CellId} : x ∈ s.erase id ↔ x ≠ id ∧ x ∈ s := by
  simp [erase]

def filter (s : IdSet) (p : CellId → Bool) : IdSet := ofPred fun x => x ∈ s ∧ p x

@[simp] theorem mem_filter {s : IdSet} {p : CellId → Bool} {x : CellId} :
    x ∈ s.filter p ↔ x ∈ s ∧ p x = true := by
  simp [filter]

def ofList (ids : List CellId) : IdSet := ofPred ids.contains

@[simp] theorem mem_ofList {ids : List CellId} {x : CellId} : x ∈ ofList ids ↔ x ∈ ids := by
  simp [ofList]

def toList (s : IdSet) : List CellId := CellId.all.filter (· ∈ s)

@[simp] theorem mem_toList {s : IdSet} {x : CellId} : x ∈ s.toList ↔ x ∈ s := by
  simp [toList]

theorem toList_sorted (s : IdSet) : s.toList.Pairwise (· < ·) :=
  CellId.all_sorted.filter _

def size (s : IdSet) : Nat := s.toList.length

def first? (s : IdSet) : Option CellId := CellId.all.find? (· ∈ s)

theorem first?_mem {s : IdSet} {x : CellId} (h : s.first? = some x) : x ∈ s := by
  simpa using List.find?_some h

theorem first?_eq_none_iff {s : IdSet} : s.first? = none ↔ s = ∅ := by
  constructor
  · intro h
    ext x
    have := List.find?_eq_none.1 h x (CellId.mem_all x)
    simpa using this
  · rintro rfl
    simp [first?]

end IdSet
end ReactiveSheet
