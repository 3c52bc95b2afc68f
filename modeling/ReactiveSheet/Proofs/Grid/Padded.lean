import ReactiveSheet.Proofs.Grid.Downstream
import ReactiveSheet.Proofs.Grid.Fresh

/-!
Grids that differ in cells which were never edited. Main statements: for the cells of the smaller
grid the larger one has the same cells downstream, cycles, order of recomputation and computed
values (`downstream_eq`, `onCycle_iff`, `schedule_eq`, `compute_eq`), and so a pass over such cells
does the same on both (`Pass.Padded.recompute`).
-/

namespace ReactiveSheet.Grid
open Relation

variable {g h g' h' : Grid} {a b o : CellId} {v : CellValue} {affected : IdSet}

/-- The second grid has the cells of the first one, with these formulas, and spare ones, which refer
to nothing. What cells of the first grid read besides each other are spare cells. -/
structure PaddedShape (g h : Grid) : Prop where
  formula? : ∀ a, g.contains a = true → h.formula? a = g.formula? a
  reads : ∀ a b, g.Reads a b ↔ h.Reads a b ∧ g.contains b = true
  spare_formula? : ∀ a, ¬ g.contains a = true → h.contains a = true →
    h.formula? a = some Formula.default
  spare_subjects : ∀ a, ¬ g.contains a = true → h.subjects a = ∅

/-- The cells hold the same, and the spare ones what they were made with. -/
structure Padded (g h : Grid) : Prop extends PaddedShape g h where
  value? : ∀ a, g.contains a = true → h.value? a = g.value? a
  spare_value? : ∀ a, ¬ g.contains a = true → h.contains a = true → h.value? a = some .initial

namespace PaddedShape

theorem contains (hp : g.PaddedShape h) (ha : g.contains a = true) : h.contains a = true := by
  rw [← isSome_formula?, hp.formula? a ha, isSome_formula?, ha]

theorem contains_of_reads (hp : g.PaddedShape h) (hab : h.Reads a b) : g.contains a = true := by
  by_contra ha
  rw [Reads, hp.spare_subjects a ha] at hab
  exact IdSet.not_mem_empty b hab

theorem congr (hp : g.PaddedShape h) (hg : g'.SameShape g) (hh : h'.SameShape h) :
    g'.PaddedShape h' where
  formula? a ha := by
    rw [hg.contains] at ha
    rw [hh.formula?, hp.formula? a ha, hg.formula?]
  reads a b := by
    rw [hg.reads, hh.reads, hg.contains]
    exact hp.reads a b
  spare_formula? a ha hk := by
    rw [hg.contains] at ha
    rw [hh.contains] at hk
    rw [hh.formula?, hp.spare_formula? a ha hk]
  spare_subjects a ha := by
    rw [hg.contains] at ha
    rw [hh.subjects, hp.spare_subjects a ha]

/-- No path leads through a spare cell, since these read nothing. -/
theorem transGen_iff (hp : g.PaddedShape h) (ho : g.contains o = true) :
    TransGen h.Reads a o ↔ TransGen g.Reads a o := by
  constructor
  · intro hao
    induction hao using TransGen.head_induction_on with
    | single hao => exact .single ((hp.reads _ o).2 ⟨hao, ho⟩)
    | head hac hco ih =>
      obtain ⟨d, hcd, _⟩ := TransGen.head'_iff.1 hco
      exact .head ((hp.reads _ _).2 ⟨hac, hp.contains_of_reads hcd⟩) ih
  · exact TransGen.mono (fun a b hab => ((hp.reads a b).1 hab).1) a o

theorem onCycle_iff (hp : g.PaddedShape h) : h.OnCycle a ↔ g.OnCycle a := by
  by_cases ha : g.contains a = true
  · exact hp.transGen_iff ha
  · have hnot : ∀ {k : Grid}, (∀ b, k.Reads a b → g.contains a = true) → ¬ k.OnCycle a := by
      intro k hk hc
      obtain ⟨b, hab, _⟩ := TransGen.head'_iff.1 hc
      exact ha (hk b hab)
    exact iff_of_false (hnot fun b => hp.contains_of_reads) (hnot fun b => Grid.contains_of_reads)

theorem cyclic_iff (hp : g.PaddedShape h) : h.Cyclic a ↔ g.Cyclic a := by
  refine exists_congr fun b => ?_
  rw [hp.onCycle_iff]
  refine and_congr_left fun hb => ?_
  obtain ⟨c, hbc, _⟩ := TransGen.head'_iff.1 hb
  rw [reflTransGen_iff_eq_or_transGen, reflTransGen_iff_eq_or_transGen,
    hp.transGen_iff (Grid.contains_of_reads hbc)]

theorem downstream_eq (hp : g.PaddedShape h) (hg : g.Linked) (hh : h.Linked)
    (ho : g.contains o = true) : h.downstream o = g.downstream o := by
  ext a
  rw [mem_downstream_iff hg, mem_downstream_iff hh, hp.transGen_iff ho]

theorem schedule_eq (hp : g.PaddedShape h) (hg : g.Linked) (hh : h.Linked)
    (haff : ∀ a ∈ affected, g.contains a = true) : h.schedule affected = g.schedule affected := by
  refine schedule_congr hg hh fun a _ b hb => ?_
  rw [hp.reads a b]
  exact (and_iff_left (haff b hb)).symm

/-- What is computed for a cell does not depend on whether what it refers to is missing or spare. -/
theorem compute_eq_of_value? (hp : g.PaddedShape h) (ha : g.contains a = true)
    (hreads : ∀ b, g.Reads a b → h.value? b = g.value? b)
    (hrefs : ∀ f, g.formula? a = some f → ∀ r ∈ Formula.references f, g.contains r = true →
      h.value? r = g.value? r)
    (hspare : ∀ b, ¬ g.contains b = true → h.contains b = true → h.value? b = some .initial) :
    h.compute a = g.compute a := by
  refine compute_congr_of_numbers (hp.formula? a ha) (fun b e => ?_) fun f hf r hr => ?_
  · rw [hp.reads, and_assoc]
    refine and_congr_right fun hab => ?_
    by_cases hb : g.contains b = true
    · rw [hreads b ((hp.reads a b).2 ⟨hab, hb⟩)]
      exact (and_iff_right hb).symm
    · refine iff_of_false (fun he => ?_) fun he => hb he.1
      rw [hspare b hb (contains_of_value? he)] at he
      cases he
  · by_cases hgr : g.contains r = true
    · rw [number?, number?, hrefs f hf r hr hgr]
    · rw [number?, number?, value?_eq_none hgr]
      by_cases hhr : h.contains r = true
      · rw [hspare r hgr hhr]
        rfl
      · rw [value?_eq_none hhr]

end PaddedShape

namespace Padded

theorem compute_eq (hp : g.Padded h) (ha : g.contains a = true) : h.compute a = g.compute a :=
  hp.compute_eq_of_value? ha (fun b hab => hp.value? b ((hp.reads a b).1 hab).2)
    (fun _ _ r _ hr => hp.value? r hr) hp.spare_value?

theorem cell_eq (hp : g.Padded h) {cell cell' : Cell} (hcell : g.get? a = some cell)
    (hcell' : h.get? a = some cell') :
    cell'.formula = cell.formula ∧ cell'.value = cell.value := by
  have ha := contains_of_get? hcell
  have hformula := hp.formula? a ha
  have hvalue := hp.value? a ha
  rw [formula?_of_get? hcell, formula?_of_get? hcell', Option.some.injEq] at hformula
  rw [value?_of_get? hcell, value?_of_get? hcell', Option.some.injEq] at hvalue
  exact ⟨hformula, hvalue⟩

theorem differs_eq (hp : g.Padded h) (ha : g.contains a = true) :
    h.differs a v = g.differs a v := by
  rw [Grid.differs_eq, Grid.differs_eq, hp.value? a ha]

theorem store (hp : g.Padded h) (ha : g.contains a = true) :
    (g.store a v).Padded (h.store a v) := by
  have hg := sameShape_store g a v
  have hh := sameShape_store h a v
  refine ⟨hp.congr hg hh, fun b hb => ?_, fun b hb hk => ?_⟩
  · rw [hg.contains] at hb
    rw [value?_store, value?_store, hp.value? a ha, hp.value? b hb]
  · rw [hg.contains] at hb
    rw [hh.contains] at hk
    have hne : b ≠ a := by
      rintro rfl
      exact hb ha
    rw [value?_store, if_neg hne, hp.spare_value? b hb hk]

theorem computed_eq (hp : g.Padded h) {ids : List CellId}
    (hids : ∀ a ∈ ids, g.contains a = true) : h.computed ids = g.computed ids := by
  induction ids generalizing g h with
  | nil => rfl
  | cons a ids ih =>
    obtain ⟨ha, hids⟩ := List.forall_mem_cons.1 hids
    have hstore := hp.store ha (v := g.compute a)
    have hkept : ∀ b ∈ ids, (g.store a (g.compute a)).contains b = true := fun b hb => by
      rw [(sameShape_store g a _).contains, hids b hb]
    rw [computed, computed, hp.compute_eq ha, ih hstore hkept]

theorem assignments_eq (hp : g.Padded h) (hg : g.Linked) (hh : h.Linked)
    (haff : ∀ a ∈ affected, g.contains a = true) :
    h.assignments affected = g.assignments affected := by
  obtain ⟨order, rest, hs, ht⟩ := schedule_turns hg affected
  have horder : ∀ a ∈ order, g.contains a = true := fun a ha =>
    haff a (ht.mem_left_iff.2 (.inl ha))
  simp only [assignments, hp.schedule_eq hg hh haff, hs, hp.computed_eq horder]

end Padded

/-- Links that formulas determine differ in spare cells if the formulas do. -/
theorem Tracked.paddedShape (hg : g.Tracked) (hh : h.Tracked)
    (hf : ∀ a, g.contains a = true → h.formula? a = g.formula? a)
    (hspare : ∀ a, ¬ g.contains a = true → h.contains a = true →
      h.formula? a = some Formula.default) : g.PaddedShape h := by
  have hcontains : ∀ {a}, g.contains a = true → h.contains a = true := by
    intro a ha
    rw [← isSome_formula?, hf a ha, isSome_formula?, ha]
  have hsubjects : ∀ a, ¬ g.contains a = true → h.subjects a = ∅ := by
    intro a ha
    by_cases hk : h.contains a = true
    · rw [hh a _ (hspare a ha hk), resolve_default]
    · exact subjects_eq_empty hk
  refine ⟨hf, fun a b => ?_, hspare, hsubjects⟩
  by_cases ha : g.contains a = true
  · obtain ⟨f, hfa⟩ := exists_formula? ha
    rw [Reads, Reads, hg a f hfa, hh a f ((hf a ha).trans hfa), mem_resolve, mem_resolve, and_assoc]
    exact and_congr_right fun _ => (and_iff_right_of_imp hcontains).symm
  · simp [Reads, subjects_eq_empty ha, hsubjects a ha]

theorem Fresh.padded (hg : g.Fresh) (hh : h.Fresh)
    (hsub : ∀ a, g.contains a = true → h.contains a = true) : g.Padded h := by
  have hheld : ∀ {k : Grid} {a}, k.Fresh → k.contains a = true →
      k.formula? a = some Formula.default ∧ k.value? a = some .initial := by
    intro k a hk ha
    obtain ⟨cell, hcell⟩ := exists_get? ha
    obtain rfl := hk a cell hcell
    exact ⟨formula?_of_get? hcell, value?_of_get? hcell⟩
  refine ⟨⟨fun a ha => ?_, fun a b => ?_, fun a _ ha => (hheld hh ha).1, fun a _ => hh.subjects a⟩,
    fun a ha => ?_, fun a _ ha => (hheld hh ha).2⟩
  · rw [(hheld hg ha).1, (hheld hh (hsub a ha)).1]
  · simp [Reads, hg.subjects, hh.subjects]
  · rw [(hheld hg ha).2, (hheld hh (hsub a ha)).2]

namespace Pass

variable {p q : Pass} {as : List (CellId × CellValue)}

/-- The same cells changed in both passes. -/
structure Padded (p q : Pass) : Prop where
  grid : p.grid.Padded q.grid
  changed : q.changed = p.changed

theorem Padded.assign (hp : p.Padded q) (ha : p.grid.contains a = true) :
    (p.assign a v).Padded (q.assign a v) :=
  ⟨hp.grid.store ha, by simp only [Pass.assign, hp.grid.differs_eq ha, hp.changed]⟩

theorem Padded.assignAll (hp : p.Padded q) (has : ∀ a ∈ as.map Prod.fst, p.grid.contains a = true) :
    (p.assignAll as).Padded (q.assignAll as) := by
  induction as generalizing p q with
  | nil => exact hp
  | cons c as ih =>
    rw [List.map_cons, List.forall_mem_cons] at has
    refine ih (hp.assign has.1) fun a ha => ?_
    exact ((sameShape_store p.grid c.1 c.2).contains a).trans (has.2 a ha)

theorem Padded.recompute (hp : p.Padded q) (hg : p.grid.Linked) (hh : q.grid.Linked)
    (haff : ∀ a ∈ affected, p.grid.contains a = true) :
    (p.recompute affected).Padded (q.recompute affected) := by
  rw [recompute_eq, recompute_eq, hp.grid.assignments_eq hg hh haff]
  exact hp.assignAll fun a ha => haff a ((mem_map_fst_assignments hg).1 ha)

end Pass
end ReactiveSheet.Grid
