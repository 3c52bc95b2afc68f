import ReactiveSheet.Proofs.Grid.Assignments

/-!
What recomputation leaves. Main statements: what a pass assigns to a cell is computed from the
values that the pass leaves (`compute_mem_assignments`), and so it changes values of affected cells
only, marks the affected cells that lead to a cycle within the affected ones, and brings all others
of them up to date (`recompute_recomputed`).
-/

namespace ReactiveSheet.Grid

variable {g h : Grid} {p : Pass} {left rest : IdSet} {order : List CellId} {a id : CellId}

theorem SameShape.covered (hg : h.SameShape g) (ha : g.Covered a) : h.Covered a := by
  intro f hf r hr hk
  rw [hg.reads]
  rw [hg.formula?] at hf
  rw [hg.contains] at hk
  exact ha f hf r hr hk

/-- What is computed for a covered cell depends on what is held by the cells that it reads. -/
theorem SameShape.compute_eq (hg : h.SameShape g) (ha : g.Covered a)
    (hv : ∀ s, g.Reads a s → h.value? s = g.value? s) : h.compute a = g.compute a :=
  ha.compute_eq hg.contains (hg.formula? a) (hg.subjects a) hv

/-- What is computed for a cell at its turn is computed from what the cells that it reads hold when
all turns are over: none of them is to have a turn any more. -/
theorem Turns.exists_computed (ht : g.Turns left order rest) (hp : p.grid.SameShape g)
    (ha : a ∈ order) : ∃ k : Grid, k.SameShape g ∧ (a, k.compute a) ∈ p.grid.computed order ∧
      ∀ s, g.Reads a s → (p.assignAll (p.grid.computed order)).grid.value? s = k.value? s := by
  induction ht generalizing p with
  | stop => exact absurd ha List.not_mem_nil
  | @next left rest order b hfirst later ih =>
    have hfree := (mem_free.1 (IdSet.first?_mem hfirst)).2
    have hupdate : (p.update b).grid.SameShape g := (sameShape_store ..).trans hp
    have hnext : p.assignAll (p.grid.computed (b :: order)) =
        (p.update b).assignAll ((p.update b).grid.computed order) := rfl
    rw [hnext]
    rcases List.mem_cons.1 ha with rfl | ha
    · -- The cell whose turn it is: what it reads has no turn from now on.
      refine ⟨p.grid, hp, List.mem_cons_self, fun s hs => ?_⟩
      have hleft : s ∉ left := hfree s hs
      have horder : s ∉ ((p.update a).grid.computed order).map Prod.fst := by
        rw [map_fst_computed]
        exact fun hm => hleft (IdSet.mem_erase.1 (later.mem_left_iff.2 (.inl hm))).2
      have hne : s ≠ a := by
        rintro rfl
        exact hleft (mem_free.1 (IdSet.first?_mem hfirst)).1
      rw [Pass.value?_assignAll_of_not_mem _ horder, Pass.update, Pass.value?_assign_of_ne hne]
    · obtain ⟨k, hk, hmem, hreads⟩ := ih hupdate ha
      exact ⟨k, hk, List.mem_cons_of_mem _ hmem, hreads⟩

theorem mark_mem_assignments (hg : g.Linked) {affected : IdSet}
    (ha : LeadsToCycle (g.ReadsWithin affected) a) :
    (a, .error .cyclicDependency) ∈ g.assignments affected := by
  obtain ⟨order, rest, hs, ht⟩ := schedule_turns hg affected
  have hrest : a ∈ rest := ht.mem_rest_iff.2 ha
  simp only [assignments, hs]
  exact List.mem_append_right _ (List.mem_map.2 ⟨a, IdSet.mem_toList.2 hrest, rfl⟩)

/-- A pass assigns to a cell what is computed for it from the values that the pass leaves in the
cells that it reads, unless the cell leads to a cycle. -/
theorem exists_compute_mem_assignments (hg : g.Linked) (hp : p.grid = g) {affected : IdSet}
    (ha : a ∈ affected) (hc : ¬ LeadsToCycle (g.ReadsWithin affected) a) :
    ∃ k : Grid, k.SameShape g ∧ (a, k.compute a) ∈ g.assignments affected ∧
      ∀ s, g.Reads a s → (p.recompute affected).grid.value? s = k.value? s := by
  subst hp
  obtain ⟨order, rest, hs, ht⟩ := schedule_turns hg affected
  have hrest : a ∉ rest := mt ht.mem_rest_iff.1 hc
  have horder : a ∈ order := (ht.mem_left_iff.1 ha).resolve_right hrest
  obtain ⟨k, hk, hmem, hreads⟩ := ht.exists_computed (.refl p.grid) horder
  simp only [Pass.recompute_eq, assignments, hs, Pass.assignAll_append]
  refine ⟨k, hk, List.mem_append_left _ hmem, fun s has => ?_⟩
  have hnot : s ∉ rest := fun hm =>
    hc (.of_step ⟨ha, ht.mem_left_iff.2 (.inr hm), has⟩ (ht.mem_rest_iff.1 hm))
  rw [← hreads s has]
  refine Pass.value?_assignAll_of_not_mem _ ?_
  rwa [map_fst_marks, IdSet.mem_toList]

/-- For a cell whose formula refers to no others than it reads, that is what would be computed for
it after the pass. -/
theorem compute_mem_assignments (hg : g.Linked) (hp : p.grid = g) {affected : IdSet}
    (ha : a ∈ affected) (hc : ¬ LeadsToCycle (g.ReadsWithin affected) a) (hcov : g.Covered a) :
    (a, (p.recompute affected).grid.compute a) ∈ g.assignments affected := by
  obtain ⟨k, hk, hmem, hreads⟩ := exists_compute_mem_assignments hg hp ha hc
  have hshape : (p.recompute affected).grid.SameShape g := by
    rw [Pass.recompute_eq, ← hp]
    exact Pass.sameShape_assignAll ..
  have hcompute : (p.recompute affected).grid.compute a = k.compute a := by
    refine (hk.covered hcov).compute_eq (fun b => ?_) ?_ ?_ fun s hs => hreads s (hk.reads ▸ hs)
    · rw [hshape.contains, hk.contains]
    · rw [hshape.formula?, hk.formula?]
    · rw [hshape.subjects, hk.subjects]
  rwa [hcompute]

/-- The grid that a pass over the affected cells leaves. -/
structure Recomputed (g : Grid) (affected : IdSet) (h : Grid) : Prop where
  shape : h.SameShape g
  frame : ∀ a, a ∉ affected → h.value? a = g.value? a
  stuck : ∀ a, LeadsToCycle (g.ReadsWithin affected) a → g.contains a = true →
    h.value? a = some (.error .cyclicDependency)
  turned : ∀ a, a ∈ affected → ¬ LeadsToCycle (g.ReadsWithin affected) a → g.Covered a →
    h.value? a = (g.value? a).map (·.revised (h.compute a))

theorem recompute_recomputed (hg : g.Linked) (hp : p.grid = g) (affected : IdSet) :
    g.Recomputed affected (p.recompute affected).grid := by
  subst hp
  have hn := nodup_assignments hg affected
  have hgiven : ∀ {a v}, (a, v) ∈ p.grid.assignments affected →
      (p.recompute affected).grid.value? a = (p.grid.value? a).map (·.revised v) := by
    intro a v hv
    rw [Pass.recompute_eq, Pass.value?_assignAll p hn hv]
  refine ⟨?_, fun a ha => ?_, fun a ha hk => ?_, fun a ha hc hcov => ?_⟩
  · rw [Pass.recompute_eq]
    exact Pass.sameShape_assignAll ..
  · rw [Pass.recompute_eq]
    exact Pass.value?_assignAll_of_not_mem p (mt (mem_map_fst_assignments hg).1 ha)
  · obtain ⟨v, hv⟩ := exists_value? hk
    rw [hgiven (mark_mem_assignments hg ha), hv, Option.map_some, CellValue.revised_error]
  · exact hgiven (compute_mem_assignments hg rfl ha hc hcov)

end ReactiveSheet.Grid
