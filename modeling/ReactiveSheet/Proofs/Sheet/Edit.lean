import ReactiveSheet.Proofs.Grid.CycleSearch
import ReactiveSheet.Proofs.Grid.Downstream
import ReactiveSheet.Proofs.Grid.Links
import ReactiveSheet.Sheet

/-!
The pass of an edit. Main statements: the grid with the new formula differs in that formula and the
links of it only (`formula?_reformulate`, `subjects_reformulate`, `value?_reformulate`), and the
pass leaves the edited cell and the cells behind it up to date or marked as cyclic, and other values
as they are (`editPass_edited`).
-/

namespace ReactiveSheet
open Relation

namespace Sheet

variable {g h k : Grid} {o a id : CellId} {formula : String}

section Reformulate

variable (hid : g.contains id = true)

include hid

theorem formula?_reformulate (a : CellId) :
    (reformulate g id formula).formula? a = if a = id then some formula else g.formula? a := by
  have hrewire (a : CellId) := g.formula?_rewire id a (g.resolve formula)
  obtain ⟨f, hf⟩ := Grid.exists_formula? hid
  rw [← hrewire] at hf
  rw [← hrewire a, reformulate]
  simp only [Grid.formula?, Grid.get?_modify] at hf ⊢
  split_ifs
  · obtain ⟨c, hc, _⟩ := Option.map_eq_some_iff.1 hf
    rw [hc]
    rfl
  · rfl

theorem contains_reformulate (a : CellId) :
    (reformulate g id formula).contains a = g.contains a := by
  rw [← Grid.isSome_formula?, formula?_reformulate hid]
  split_ifs with ha
  · rw [ha, hid, Option.isSome_some]
  · exact Grid.isSome_formula? g a

theorem subjects_reformulate (a : CellId) :
    (reformulate g id formula).subjects a = if a = id then g.resolve formula else g.subjects a := by
  rw [reformulate, ← Grid.subjects_rewire hid]
  refine Grid.subjects_modify (fun c => ?_) a
  rfl

theorem linked_reformulate (hg : g.Linked) : (reformulate g id formula).Linked := by
  have hresolve : ∀ s ∈ g.resolve formula, g.contains s = true := fun s hs =>
    (Grid.mem_resolve.1 hs).2
  have hrewire := Grid.linked_rewire hg hid hresolve
  exact Grid.linked_modify (fun _ => rfl) (fun _ => rfl) hrewire

end Reformulate

theorem value?_reformulate (g : Grid) (id a : CellId) (formula : String) :
    (reformulate g id formula).value? a = g.value? a := by
  rw [reformulate, ← g.value?_rewire id a (g.resolve formula)]
  refine Grid.value?_modify (fun c => ?_) a
  rfl

/-- The pass in which a cell is given a new formula. -/
@[irreducible]
def editPass (g : Grid) (id : CellId) (formula : String) : Grid.Pass :=
  let grid := reformulate g id formula
  let grid := grid.store id (editedValue grid id)
  Grid.Pass.recompute ⟨grid, [id]⟩ (grid.downstream id)

/-- What the pass of an edit of a cell leaves, given the grid with the new formula and links and the
old values. -/
structure Edited (k : Grid) (o : CellId) (h : Grid) : Prop where
  shape : h.SameShape k
  frame : ∀ a, ¬ ReflTransGen k.Reads a o → h.value? a = k.value? a
  origin : h.value? o = (k.value? o).map (·.revised (editedValue k o))
  stuck : ∀ a, LeadsToCycle (k.ReadsWithin (k.downstream o)) a →
    h.value? a = some (.error .cyclicDependency)
  turned : ∀ a, a ∈ k.downstream o → ¬ LeadsToCycle (k.ReadsWithin (k.downstream o)) a →
    k.Covered a → h.value? a = (k.value? a).map (·.revised (h.compute a))

theorem Edited.of_recomputed {stored : Grid} (hk : k.Linked)
    (hstored : stored = k.store o (editedValue k o))
    (hpass : stored.Recomputed (stored.downstream o) h) : Edited k o h := by
  have hshape : stored.SameShape k := hstored ▸ Grid.sameShape_store k o (editedValue k o)
  have hother : ∀ a, a ≠ o → stored.value? a = k.value? a := by
    intro a ha
    rw [hstored, Grid.value?_store, if_neg ha]
  rw [hshape.downstream hk] at hpass
  have hwithin := hshape.readsWithin (k.downstream o)
  refine ⟨hpass.shape.trans hshape, fun a ha => ?_, ?_, fun a ha => ?_, fun a ha hc hcov => ?_⟩
  · rw [Grid.reflTransGen_reads_iff hk] at ha
    push Not at ha
    rw [hpass.frame a ha.2, hother a ha.1]
  · have ho : o ∉ k.downstream o := fun hm => ((Grid.mem_downstream_iff hk).1 hm).1 rfl
    rw [hpass.frame o ho, hstored, Grid.value?_store, if_pos rfl]
  · obtain ⟨_, ⟨_, _, has⟩, _⟩ := ha.exists_step
    refine hpass.stuck a (hwithin ▸ ha) ?_
    rw [hshape.contains]
    exact Grid.contains_of_reads has
  · have hne : a ≠ o := ((Grid.mem_downstream_iff hk).1 ha).1
    rw [hpass.turned a ha (hwithin ▸ hc) (hshape.covered hcov), hother a hne]

theorem editPass_edited (hg : g.Linked) (hid : g.contains id = true) :
    Edited (reformulate g id formula) id (editPass g id formula).grid := by
  have hk : (reformulate g id formula).Linked := linked_reformulate hid hg
  have hstored := (Grid.sameShape_store (reformulate g id formula) id
    (editedValue (reformulate g id formula) id)).linked hk
  unfold editPass
  exact .of_recomputed hk rfl (Grid.recompute_recomputed hstored rfl _)

namespace Edited

/-- No cell that the edited one reads is recomputed, unless the edit leaves it on a cycle. -/
theorem compute_origin (he : Edited k o h) (hcov : k.Covered o) (ho : ¬ k.OnCycle o) :
    h.compute o = editedValue k o := by
  have hvalue : editedValue k o = k.compute o := by
    have hnone : k.findCycle? o = none := by
      rw [← Option.not_isSome_iff_eq_none, Grid.findCycle?_isSome_iff]
      exact ho
    simp only [editedValue, hnone]
  have hreads : ∀ s, k.Reads o s → h.value? s = k.value? s := fun s hs =>
    he.frame s fun hso => ho (TransGen.head' hs hso)
  rw [hvalue, he.shape.compute_eq hcov hreads]

/-- A cell that the edit does not leave on a cycle holds what is computed for it after the pass. -/
theorem origin_computed (he : Edited k o h) (hcov : k.Covered o)
    (ho : ¬ k.OnCycle o) : h.value? o = (k.value? o).map (·.revised (h.compute o)) := by
  rw [he.origin, he.compute_origin hcov ho]

theorem origin_marked (he : Edited k o h) (ho : k.OnCycle o) :
    h.value? o = some (.error .cyclicDependency) := by
  obtain ⟨path, hpath⟩ := Option.isSome_iff_exists.1 (Grid.findCycle?_isSome_iff.2 ho)
  have hvalue : editedValue k o = .error .cyclicDependency := by simp only [editedValue, hpath]
  obtain ⟨s, hs, _⟩ := TransGen.head'_iff.1 ho
  obtain ⟨v, hv⟩ := Grid.exists_value? (Grid.contains_of_reads hs)
  rw [he.origin, hvalue, hv, Option.map_some, CellValue.revised_error]

end Edited
end Sheet
end ReactiveSheet
