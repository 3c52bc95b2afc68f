import ReactiveSheet.Proofs.Grid.CycleSearch
import ReactiveSheet.Proofs.Sheet.Links

/-!
Recalculation. Main statements: whatever values and links it starts from, recalculation gives all
cells the links of their formulas, marks those that are on a cycle or read one, and brings all
others up to date (`recalculatePass_refreshed`). A pass over any other set of cells does so within
the set, with the links that are there (`recompute_any_set`).
-/

namespace ReactiveSheet.Sheet

variable {g h : Grid} {a b : CellId}

/-- The grid that recalculation leaves. -/
structure Refreshed (g h : Grid) : Prop where
  formula? : ∀ a, h.formula? a = g.formula? a
  linked : h.Linked
  tracked : h.Tracked
  marked : ∀ a, h.Cyclic a → h.value? a = some (.error .cyclicDependency)
  computed : ∀ a, ¬ h.Cyclic a → h.value? a = (g.value? a).map (·.revised (h.compute a))

theorem tracked_relink (hg : g.Linked) : (g.relink g.ids).Tracked := by
  obtain ⟨_, hformula, _, hsubjects⟩ := Grid.relink_relinked hg g.ids
  intro a f hf
  have hgf : g.formula? a = some f := (hformula a).symm.trans hf
  have hmem : a ∈ g.ids := Grid.mem_ids.2 (Grid.contains_of_formula? hgf)
  rw [hsubjects a f hgf, if_pos hmem, Grid.resolve_eq hformula]

/-- Among all cells a path that leads to a cycle is one that stays within them. -/
theorem leadsToCycle_within_ids (hg : g.Linked) {ids : IdSet}
    (hids : ∀ a, a ∈ ids ↔ g.contains a = true) :
    LeadsToCycle (g.ReadsWithin ids) a ↔ g.Cyclic a := by
  have hwithin : g.ReadsWithin ids = g.Reads := by
    funext a b
    refine propext ⟨fun hab => hab.2.2, fun hab => ⟨?_, ?_, hab⟩⟩
    · exact (hids a).2 (Grid.contains_of_reads hab)
    · exact (hids b).2 (hg.contains_of_mem b a hab)
  rw [hwithin]
  rfl

theorem mem_ids_relink (hg : g.Linked) :
    a ∈ IdSet.ofList g.ids ↔ (g.relink g.ids).contains a = true := by
  rw [IdSet.mem_ofList, Grid.mem_ids, Grid.contains_eq (Grid.relink_relinked hg g.ids).formula?]

theorem recalculatePass_recomputed (hg : g.Linked) :
    (g.relink g.ids).Recomputed (.ofList g.ids) (recalculatePass g).grid := by
  unfold recalculatePass
  exact Grid.recompute_recomputed (Grid.relink_relinked hg g.ids).linked rfl _

/-- Recalculation leaves to the mark of cycles just the cyclic cells. -/
theorem leadsToCycle_iff_cyclic_recalculatePass (hg : g.Linked) :
    LeadsToCycle ((g.relink g.ids).ReadsWithin (.ofList g.ids)) a ↔
      (recalculatePass g).grid.Cyclic a := by
  rw [(recalculatePass_recomputed hg).shape.cyclic]
  exact leadsToCycle_within_ids (Grid.relink_relinked hg g.ids).linked fun _ => mem_ids_relink hg

theorem recalculatePass_refreshed (hg : g.Linked) : Refreshed g (recalculatePass g).grid := by
  obtain ⟨hlinked, hformula, hvalue, _⟩ := Grid.relink_relinked hg g.ids
  have htracked := tracked_relink hg
  obtain ⟨hshape, hframe, hstuck, hturned⟩ := recalculatePass_recomputed hg
  refine ⟨fun a => (hshape.formula? a).trans (hformula a), hshape.linked hlinked, ?_, ?_, ?_⟩
  · intro a f hf
    rw [hshape.formula?] at hf
    rw [hshape.subjects, htracked a f hf, Grid.resolve_eq hshape.formula?]
  · intro a ha
    obtain ⟨s, has, _⟩ := ha.exists_reads
    rw [hshape.reads] at has
    exact hstuck a ((leadsToCycle_iff_cyclic_recalculatePass hg).2 ha) (Grid.contains_of_reads has)
  · intro a ha
    rw [← hvalue]
    by_cases hmem : a ∈ IdSet.ofList g.ids
    · refine hturned a hmem ?_ (htracked.covered a)
      exact mt (leadsToCycle_iff_cyclic_recalculatePass hg).1 ha
    · have hnone := Grid.value?_eq_none (mt (mem_ids_relink hg).2 hmem)
      rw [hframe a hmem, hnone, Option.map_none]

namespace Refreshed

theorem upToDate (hr : Refreshed g h) (ha : ¬ h.Cyclic a) : h.UpToDate a :=
  Grid.upToDate_of_revised (hr.computed a ha)

theorem settled (hr : Refreshed g h) : h.Settled where
  linked := hr.linked
  tracked := hr.tracked
  settledAt a := ⟨fun ha => hr.upToDate ha, fun ha => .inl (hr.marked a ha)⟩

theorem value?_eq_cyclic_iff (hr : Refreshed g h) :
    h.value? a = some (.error .cyclicDependency) ↔ h.Cyclic a := by
  refine ⟨fun hv => ?_, hr.marked a⟩
  by_contra ha
  exact Grid.value?_ne_cyclic (fun b hb => hr.upToDate hb) ha hv

end Refreshed

/-- What recalculation makes of a sheet. -/
structure Recalculated (s t : Sheet) : Prop where
  formulas_kept : ∀ a, t.grid.formula? a = s.grid.formula? a
  history_kept : t.history = s.history
  subjects_derived : ∀ a f, t.grid.formula? a = some f →
    ∀ b, b ∈ t.grid.subjects a ↔ b ∈ Formula.references f ∧ t.grid.contains b = true
  observers_inverse : ∀ a b, b ∈ t.grid.observers a ↔ a ∈ t.grid.subjects b
  cycle_found : ∀ a, (t.grid.findCycle? a).isSome = true ↔ t.grid.OnCycle a
  cyclic_marked : ∀ a, t.grid.value? a = some (.error .cyclicDependency) ↔ t.grid.Cyclic a
  others_computed : ∀ a v, t.grid.value? a = some v → ¬ t.grid.Cyclic a →
    v.Matches (t.grid.compute a)

theorem recalculate_repairs {s : Sheet} (hs : s.Initial) (ops : List Operation) :
    Recalculated (s.run ops) (s.run ops).recalculate.sheet := by
  have hr := recalculatePass_refreshed (linked_run hs ops)
  rw [sheet_recalculate]
  refine ⟨hr.formula?, rfl, fun a f hf b => ?_, hr.linked.mem_observers_iff, fun a => ?_,
    fun a => ?_, fun a v hv ha => ?_⟩
  · rw [hr.tracked a f hf, Grid.mem_resolve]
  · exact Grid.findCycle?_isSome_iff
  · exact hr.value?_eq_cyclic_iff
  · exact hr.upToDate ha v hv

/-- Undo takes back a formula whose links stay, and a missing cell that is referred to is
created. -/
def staleLinks : List Operation :=
  [.edit (named 'A') "B D +", .edit (named 'B') "A", .undo, .create (named 'D'),
    .edit (named 'D') "D"]

theorem recalculate_repairs_stale_links :
    threeCells.Initial ∧
      Recalculated (threeCells.run staleLinks) (threeCells.run staleLinks).recalculate.sheet :=
  ⟨initial_threeCells, recalculate_repairs initial_threeCells staleLinks⟩

/-- The links need not be those that the formulas ask for, and cells outside of the set may be on
cycles or out of date. -/
theorem recompute_any_set {p : Grid.Pass} (hg : p.grid.Linked) {affected : IdSet}
    (haffected : ∀ a ∈ affected, p.grid.contains a = true) :
    (p.recompute affected).grid.SameShape p.grid ∧
      (∀ a, a ∉ affected → (p.recompute affected).grid.value? a = p.grid.value? a) ∧
      (∀ a ∈ affected, LeadsToCycle (p.grid.ReadsWithin affected) a →
        (p.recompute affected).grid.value? a = some (.error .cyclicDependency)) ∧
      ∀ a ∈ affected, ¬ LeadsToCycle (p.grid.ReadsWithin affected) a → p.grid.Covered a →
        ∃ v, (p.recompute affected).grid.value? a = some v ∧
          v.Matches ((p.recompute affected).grid.compute a) := by
  obtain ⟨hshape, hframe, hstuck, hturned⟩ := Grid.recompute_recomputed hg rfl affected
  refine ⟨hshape, hframe, fun a ha hc => hstuck a hc (haffected a ha), fun a ha hc hcov => ?_⟩
  obtain ⟨old, hold⟩ := Grid.exists_value? (haffected a ha)
  have hvalue := hturned a ha hc hcov
  rw [hold, Option.map_some] at hvalue
  exact ⟨_, hvalue, old.revised_matches _⟩

/-- `A` and `B` read each other, although the formula of `A` refers to no cell. `C` reads `D`. -/
def staleLoop : Grid :=
  ((((∅ : Grid).insert (named 'A')
      ⟨"0.0", .initial, .ofList [named 'B'], .ofList [named 'B']⟩).insert (named 'B')
      ⟨"A", .initial, .ofList [named 'A'], .ofList [named 'A']⟩).insert (named 'C')
      ⟨"D 3 *", .initial, .ofList [named 'D'], ∅⟩).insert (named 'D')
      ⟨"2", .number 2, ∅, .ofList [named 'C']⟩

/-- `D` is left out, so that `C` waits for no cell. -/
def besideSource : List CellId := [named 'A', named 'B', named 'C']

theorem recompute_stale_loop :
    staleLoop.Linked ∧ (∀ a ∈ IdSet.ofList besideSource, staleLoop.contains a = true) ∧
      ((⟨staleLoop, []⟩ : Grid.Pass).recompute (.ofList besideSource)).grid.value? (named 'A') =
        some (.error .cyclicDependency) ∧
      ∃ v, ((⟨staleLoop, []⟩ : Grid.Pass).recompute (.ofList besideSource)).grid.value?
          (named 'C') = some v ∧
        v.Matches (((⟨staleLoop, []⟩ : Grid.Pass).recompute (.ofList besideSource)).grid.compute
          (named 'C')) := by
  have hg : staleLoop.Linked := Grid.linksConsistent_iff.1 (by decide +kernel)
  have hcells : ∀ a ∈ besideSource, staleLoop.contains a = true ∧
      ¬ staleLoop.Reads (named 'C') a := by decide +kernel
  have haffected : ∀ a ∈ IdSet.ofList besideSource, staleLoop.contains a = true :=
    fun a ha => (hcells a (IdSet.mem_ofList.1 ha)).1
  obtain ⟨_, _, hcyclic, hfresh⟩ := recompute_any_set (p := ⟨staleLoop, []⟩) hg haffected
  have hloop : LeadsToCycle (staleLoop.ReadsWithin (.ofList besideSource)) (named 'A') := by
    refine .of_cycle (.tail (b := named 'B') (.single ?_) ?_)
    · exact ⟨by decide +kernel, by decide +kernel, by decide +kernel⟩
    · exact ⟨by decide +kernel, by decide +kernel, by decide +kernel⟩
  have hfree : ¬ LeadsToCycle (staleLoop.ReadsWithin (.ofList besideSource)) (named 'C') := by
    intro hc
    obtain ⟨b, ⟨_, hb, hread⟩, _⟩ := hc.exists_step
    exact (hcells b (IdSet.mem_ofList.1 hb)).2 hread
  have hcovered : staleLoop.Covered (named 'C') := by
    intro f hf r hr _
    have hreads : ∀ r ∈ CellId.all, r ∈ Formula.references "D 3 *" →
        staleLoop.Reads (named 'C') r := by decide +kernel
    cases hf
    exact hreads r (CellId.mem_all r) hr
  exact ⟨hg, haffected, hcyclic (named 'A') (by decide +kernel) hloop,
    hfresh (named 'C') (by decide +kernel) hfree hcovered⟩

end ReactiveSheet.Sheet
