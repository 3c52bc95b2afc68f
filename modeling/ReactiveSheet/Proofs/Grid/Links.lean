import ReactiveSheet.Proofs.Grid.Shape

/-!
Links under rewiring. Main statements: new subjects of a cell that name existing cells keep the
links inverse to each other (`linked_rewire`), and relinking gives each cell the subjects of its
formula (`relink_relinked`).
-/

namespace ReactiveSheet.Grid

variable {g : Grid} {a b id : CellId} {new : IdSet}

theorem mem_resolve {f : String} :
    a ∈ g.resolve f ↔ a ∈ Formula.references f ∧ g.contains a = true := by
  simp [resolve]

theorem resolve_eq {h : Grid} (hf : ∀ a, h.formula? a = g.formula? a) (f : String) :
    h.resolve f = g.resolve f := by
  ext a
  rw [mem_resolve, mem_resolve, contains_eq hf]

theorem formula?_rewire (g : Grid) (id a : CellId) (new : IdSet) :
    (g.rewire id new).formula? a = g.formula? a := by
  unfold rewire
  split
  · rfl
  · simp only [formula?, get?_mapCells, Option.map_map]
    rfl

theorem value?_rewire (g : Grid) (id a : CellId) (new : IdSet) :
    (g.rewire id new).value? a = g.value? a := by
  unfold rewire
  split
  · rfl
  · simp only [value?, get?_mapCells, Option.map_map]
    rfl

theorem subjects_rewire (hid : g.contains id = true) (a : CellId) :
    (g.rewire id new).subjects a = if a = id then new else g.subjects a := by
  obtain ⟨cell, hcell⟩ := exists_get? hid
  simp only [rewire, hcell, subjects, get?_mapCells]
  cases ha : g.get? a with
  | none =>
    have hne : a ≠ id := by
      rintro rfl
      rw [ha] at hcell
      cases hcell
    simp [hne]
  | some c => simp only [Option.map_some]

/-- Only the rewired cell comes or goes among the observers of a cell. -/
theorem mem_observers_rewire (hg : g.Linked) (hid : g.contains id = true)
    (hnew : ∀ s ∈ new, g.contains s = true) :
    b ∈ (g.rewire id new).observers a ↔ if b = id then a ∈ new else b ∈ g.observers a := by
  obtain ⟨cell, hcell⟩ := exists_get? hid
  have hold : id ∈ g.observers a ↔ a ∈ cell.subjects := by
    rw [hg.mem_observers_iff, subjects_of_get? hcell]
  simp only [rewire, hcell, observers, get?_mapCells]
  cases ha : g.get? a with
  | none =>
    have hnot : a ∉ new := fun h => by
      have := hnew a h
      simp [contains, ha] at this
    simp [hnot]
  | some c =>
    rw [observers_of_get? ha] at hold
    simp only [Option.map_some]
    by_cases hb : b = id
    · subst hb
      by_cases hn : a ∈ new <;> by_cases hs : a ∈ cell.subjects <;> simp [hn, hs, hold]
    · split_ifs <;> simp [hb]

theorem linked_rewire (hg : g.Linked) (hid : g.contains id = true)
    (hnew : ∀ s ∈ new, g.contains s = true) : (g.rewire id new).Linked := by
  refine .of_mem_iff fun a b => ?_
  rw [mem_observers_rewire hg hid hnew, subjects_rewire hid]
  split_ifs
  · rfl
  · exact hg.mem_observers_iff a b

/-- The subjects that a cell has already are no change. -/
theorem rewire_subjects {cell : Cell} (hcell : g.get? id = some cell) :
    g.rewire id cell.subjects = g := by
  ext1 a
  simp only [rewire, hcell, get?_mapCells]
  cases ha : g.get? a with
  | none => rfl
  | some c =>
    have hsub : (if a = id then cell.subjects else c.subjects) = c.subjects := by
      split_ifs with h
      · subst h
        rw [ha] at hcell
        cases hcell
        rfl
      · rfl
    have hobs : ∀ s : CellId, (if s ∈ cell.subjects ∧ s ∉ cell.subjects then c.observers.insert id
        else if s ∈ cell.subjects ∧ s ∉ cell.subjects then c.observers.erase id
        else c.observers) = c.observers := by
      intro s
      rw [if_neg fun h => h.2 h.1, if_neg fun h => h.2 h.1]
    rw [Option.map_some, hsub, hobs]

/-- Relinking rewires one cell after the other. -/
theorem relink_cons {cell : Cell} (hcell : g.get? id = some cell) (ids : List CellId) :
    g.relink (id :: ids) = (g.rewire id (g.resolve cell.formula)).relink ids := by
  simp only [relink, hcell]
  split_ifs with h
  · rw [h, rewire_subjects hcell]
  · rfl

/-- Relinking keeps formulas, values and the links of other cells, and gives each named cell the
subjects that its formula refers to. -/
structure Relinked (h g : Grid) (ids : List CellId) : Prop where
  linked : h.Linked
  formula? : ∀ a, h.formula? a = g.formula? a
  value? : ∀ a, h.value? a = g.value? a
  subjects : ∀ a f, g.formula? a = some f →
    h.subjects a = if a ∈ ids then g.resolve f else g.subjects a

theorem relink_relinked (hg : g.Linked) (ids : List CellId) : (g.relink ids).Relinked g ids := by
  induction ids generalizing g with
  | nil => exact ⟨hg, fun _ => rfl, fun _ => rfl, fun a f _ => by simp [relink]⟩
  | cons id ids ih =>
    cases hcell : g.get? id with
    | none =>
      have hg' : g.relink (id :: ids) = g.relink ids := by simp only [relink, hcell]
      rw [hg']
      obtain ⟨hl, hf, hv, hs⟩ := ih hg
      refine ⟨hl, hf, hv, fun a f ha => ?_⟩
      have hne : a ≠ id := by
        rintro rfl
        simp [formula?, hcell] at ha
      simp [hs a f ha, hne]
    | some cell =>
      have hid : g.contains id = true := by simp [contains, hcell]
      have hformula (a : CellId) := formula?_rewire g id a (g.resolve cell.formula)
      rw [relink_cons hcell]
      obtain ⟨hl, hf, hv, hs⟩ := ih (linked_rewire hg hid fun s hs => (mem_resolve.1 hs).2)
      refine ⟨hl, fun a => (hf a).trans (hformula a), fun a => (hv a).trans (value?_rewire ..), ?_⟩
      intro a f ha
      rw [hs a f ((hformula a).trans ha), resolve_eq hformula, subjects_rewire hid]
      by_cases hm : a ∈ ids
      · simp [hm]
      · by_cases hne : a = id
        · subst hne
          rw [formula?_of_get? hcell] at ha
          cases ha
          simp
        · simp [hm, hne]

end ReactiveSheet.Grid
