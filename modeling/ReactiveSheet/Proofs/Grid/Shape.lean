import ReactiveSheet.Proofs.Grid.Reads

/-!
What a grid shows of its cells, and grids of the same shape: with the same cells, formulas and
links, and maybe other values.
-/

namespace ReactiveSheet.Grid

variable {g h k : Grid} {a b : CellId} {cell : Cell}

theorem formula?_of_get? (hc : g.get? a = some cell) : g.formula? a = some cell.formula := by
  simp [formula?, hc]

theorem formula?_ne_of_get? {f : String} (hc : g.get? a = some cell) (hf : cell.formula ≠ f) :
    g.formula? a ≠ some f := by
  rw [formula?_of_get? hc]
  exact fun h => hf (Option.some.inj h)

theorem value?_of_get? (hc : g.get? a = some cell) : g.value? a = some cell.value := by
  simp [value?, hc]

theorem subjects_of_get? (hc : g.get? a = some cell) : g.subjects a = cell.subjects := by
  simp [subjects, hc]

theorem observers_of_get? (hc : g.get? a = some cell) : g.observers a = cell.observers := by
  simp [observers, hc]

theorem isSome_formula? (g : Grid) (a : CellId) : (g.formula? a).isSome = g.contains a := by
  simp [formula?, contains]

theorem isSome_value? (g : Grid) (a : CellId) : (g.value? a).isSome = g.contains a := by
  simp [value?, contains]

theorem contains_of_get? (hc : g.get? a = some cell) : g.contains a = true := by
  rw [contains, hc, Option.isSome_some]

theorem get?_eq_none (ha : ¬ g.contains a = true) : g.get? a = none :=
  Option.not_isSome_iff_eq_none.1 ha

theorem exists_get? (ha : g.contains a = true) : ∃ cell, g.get? a = some cell :=
  Option.isSome_iff_exists.1 ha

theorem exists_value? (ha : g.contains a = true) : ∃ v, g.value? a = some v := by
  rwa [← Option.isSome_iff_exists, isSome_value?]

theorem exists_formula? (ha : g.contains a = true) : ∃ f, g.formula? a = some f := by
  rwa [← Option.isSome_iff_exists, isSome_formula?]

theorem contains_of_value? {v : CellValue} (hv : g.value? a = some v) : g.contains a = true := by
  rw [← isSome_value?, hv, Option.isSome_some]

theorem contains_of_formula? {f : String} (hf : g.formula? a = some f) : g.contains a = true := by
  rw [← isSome_formula?, hf, Option.isSome_some]

theorem not_contains_of_formula? (hf : g.formula? a = none) : ¬ g.contains a = true := by
  rw [← isSome_formula?, hf]
  simp

theorem contains_eq (hf : ∀ a, h.formula? a = g.formula? a) (a : CellId) :
    h.contains a = g.contains a := by
  rw [← isSome_formula?, hf, isSome_formula?]

theorem value?_eq_none (ha : ¬ g.contains a = true) : g.value? a = none := by
  rw [value?, get?_eq_none ha, Option.map_none]

theorem subjects_eq_empty (ha : ¬ g.contains a = true) : g.subjects a = ∅ := by
  simp only [subjects, get?_eq_none ha]

/-- Links that are inverse to each other end at cells. -/
theorem Linked.of_mem_iff (hg : ∀ a b, b ∈ g.observers a ↔ a ∈ g.subjects b) : g.Linked where
  mem_observers_iff := hg
  contains_of_mem a b hab := contains_of_mem_observers ((hg a b).2 hab)

theorem Linked.of_links (hg : g.Linked) (hs : ∀ a, h.subjects a = g.subjects a)
    (ho : ∀ a, h.observers a = g.observers a) : h.Linked :=
  .of_mem_iff fun a b => by rw [hs, ho, hg.mem_observers_iff]

theorem Linked.observers_eq (hh : h.Linked) (hg : g.Linked)
    (hs : ∀ a, h.subjects a = g.subjects a) (a : CellId) : h.observers a = g.observers a := by
  ext b
  rw [hh.mem_observers_iff, hg.mem_observers_iff, hs]

/-- Two grids that differ in values only. -/
structure SameShape (h g : Grid) : Prop where
  formula? : ∀ a, h.formula? a = g.formula? a
  subjects : ∀ a, h.subjects a = g.subjects a
  observers : ∀ a, h.observers a = g.observers a

namespace SameShape

theorem refl (g : Grid) : g.SameShape g := ⟨fun _ => rfl, fun _ => rfl, fun _ => rfl⟩

theorem symm (hg : h.SameShape g) : g.SameShape h where
  formula? a := (hg.formula? a).symm
  subjects a := (hg.subjects a).symm
  observers a := (hg.observers a).symm

theorem trans (hk : h.SameShape k) (hg : k.SameShape g) : h.SameShape g where
  formula? a := (hk.formula? a).trans (hg.formula? a)
  subjects a := (hk.subjects a).trans (hg.subjects a)
  observers a := (hk.observers a).trans (hg.observers a)

theorem contains (hg : h.SameShape g) (a : CellId) : h.contains a = g.contains a :=
  contains_eq hg.formula? a

theorem linked (hg : h.SameShape g) (hl : g.Linked) : h.Linked :=
  hl.of_links hg.subjects hg.observers

theorem reads (hg : h.SameShape g) : h.Reads = g.Reads := reads_eq hg.subjects

theorem cyclic (hg : h.SameShape g) : h.Cyclic = g.Cyclic := cyclic_eq hg.subjects

theorem eq_of_value? (hg : h.SameShape g) (hv : ∀ a, h.value? a = g.value? a) : h = g := by
  ext1 a
  by_cases ha : g.contains a = true
  · obtain ⟨⟨f, v, s, o⟩, hc⟩ := exists_get? ha
    obtain ⟨⟨f', v', s', o'⟩, hc'⟩ := exists_get? ((hg.contains a).trans ha)
    have hformula := hg.formula? a
    have hvalue := hv a
    have hsubjects := hg.subjects a
    have hobservers := hg.observers a
    rw [formula?_of_get? hc, formula?_of_get? hc', Option.some.injEq] at hformula
    rw [value?_of_get? hc, value?_of_get? hc', Option.some.injEq] at hvalue
    rw [subjects_of_get? hc, subjects_of_get? hc'] at hsubjects
    rw [observers_of_get? hc, observers_of_get? hc'] at hobservers
    rw [hc, hc', Option.some.injEq, Cell.mk.injEq]
    exact ⟨hformula, hvalue, hsubjects, hobservers⟩
  · rw [get?_eq_none ha, get?_eq_none (by rwa [hg.contains])]

end SameShape

section Modify

variable {f : Cell → Cell}

theorem formula?_modify (hf : ∀ c, (f c).formula = c.formula) (b : CellId) :
    (g.modify a f).formula? b = g.formula? b := by
  simp only [formula?, get?_modify]
  split_ifs with hb
  · subst hb
    cases g.get? b <;> simp [hf]
  · rfl

theorem value?_modify (hv : ∀ c, (f c).value = c.value) (b : CellId) :
    (g.modify a f).value? b = g.value? b := by
  simp only [value?, get?_modify]
  split_ifs with hb
  · subst hb
    cases g.get? b <;> simp [hv]
  · rfl

theorem subjects_modify (hs : ∀ c, (f c).subjects = c.subjects) (b : CellId) :
    (g.modify a f).subjects b = g.subjects b := by
  simp only [subjects, get?_modify]
  split_ifs with hb
  · subst hb
    cases g.get? b <;> simp [hs]
  · rfl

theorem observers_modify (ho : ∀ c, (f c).observers = c.observers) (b : CellId) :
    (g.modify a f).observers b = g.observers b := by
  simp only [observers, get?_modify]
  split_ifs with hb
  · subst hb
    cases g.get? b <;> simp [ho]
  · rfl

/-- A change of a cell that leaves its links as they are. -/
theorem linked_modify (hs : ∀ c, (f c).subjects = c.subjects)
    (ho : ∀ c, (f c).observers = c.observers) (hg : g.Linked) : (g.modify a f).Linked :=
  hg.of_links (subjects_modify hs) (observers_modify ho)

/-- A change of a cell that leaves its formula and links as they are. -/
theorem sameShape_modify (hf : ∀ c, (f c).formula = c.formula)
    (hs : ∀ c, (f c).subjects = c.subjects) (ho : ∀ c, (f c).observers = c.observers) :
    (g.modify a f).SameShape g := ⟨formula?_modify hf, subjects_modify hs, observers_modify ho⟩

end Modify

end ReactiveSheet.Grid
