import ReactiveSheet.Proofs.Sheet.Effects
import ReactiveSheet.Proofs.Sheet.RoundTrip

/-!
Links against formulas in runs without undo. Main statement: a formula is linked to each existing
cell that it refers to unless that cell was created later, in which case the link is missing until
the formula is replaced or all is recalculated (`links_follow_formulas`).
-/

namespace ReactiveSheet
open Relation

namespace Grid

variable {g : Grid} {a b : CellId} {late late' : CellId → CellId → Prop}

/-- Each cell has as subjects the existing cells that its formula refers to, less some that came too
late for it. -/
def TrackedBut (g : Grid) (late : CellId → CellId → Prop) : Prop :=
  ∀ a f, g.formula? a = some f →
    ∀ b, b ∈ g.subjects a ↔ (b ∈ Formula.references f ∧ g.contains b = true) ∧ ¬ late a b

theorem Tracked.trackedBut (hg : g.Tracked) (hlate : ∀ a b, ¬ late a b) : g.TrackedBut late := by
  intro a f hf b
  rw [hg a f hf, mem_resolve, and_iff_left (hlate a b)]

theorem TrackedBut.congr (hg : g.TrackedBut late)
    (h : ∀ a b, g.contains b = true → (late' a b ↔ late a b)) : g.TrackedBut late' := by
  intro a f hf b
  rw [hg a f hf]
  exact and_congr_right fun hb => not_congr (h a b hb.2).symm

/-- The formula of one cell refers to another one, which is missing. -/
def Dangling (g : Grid) (a b : CellId) : Prop :=
  ¬ g.contains b = true ∧ ∃ f, g.formula? a = some f ∧ b ∈ Formula.references f

end Grid

namespace Sheet

variable {s : Sheet} {g : Grid} {a b id : CellId} {f formula input : String} {op : Operation}
  {ops : List Operation} {late : CellId → CellId → Prop}

/-- An operation derives the links of a cell from its formula. -/
def Relinks (s : Sheet) (a : CellId) : Operation → Prop
  | .edit id input => id = a ∧ s.Rewrites (.edit id input)
  | .recalculate => True
  | .create _ | .undo | .listen => False

/-- The formula of one cell referred to another one already when that was created in a run, and its
links were not derived since. -/
def CreatedLate (s : Sheet) (ops : List Operation) (a b : CellId) : Prop :=
  ∃ before after, ops = before ++ .create b :: after ∧ (s.run before).grid.Dangling a b ∧
    (s.run (before ++ [.create b])).Admits (fun t op => ¬ t.Relinks a op) after

theorem createdLate_iff_since :
    s.CreatedLate ops a b ↔
      s.Since ops (fun t op => op = .create b ∧ t.grid.Dangling a b)
        fun t op => t.Relinks a op := by
  constructor
  · rintro ⟨before, after, heq, hdangling, hafter⟩
    exact ⟨before, _, after, heq, ⟨rfl, hdangling⟩, hafter⟩
  · rintro ⟨before, _, after, heq, ⟨rfl, hdangling⟩, hafter⟩
    exact ⟨before, after, heq, hdangling, hafter⟩

/-- One more operation may create the cell, or leave it late. -/
theorem createdLate_append_singleton :
    s.CreatedLate (ops ++ [op]) a b ↔
      op = .create b ∧ (s.run ops).grid.Dangling a b ∨
        s.CreatedLate ops a b ∧ ¬ (s.run ops).Relinks a op := by
  rw [createdLate_iff_since, createdLate_iff_since, since_append_singleton]

theorem trackedBut_create (hid : ¬ g.contains id = true) (hl : g.Linked) (hg : g.TrackedBut late) :
    (g.insert id .fresh).TrackedBut fun a b => id = b ∧ g.Dangling a b ∨ late a b := by
  intro a f hf b
  rw [Grid.subjects_insert_fresh hid, Grid.contains_insert_fresh]
  rw [Grid.formula?_insert_fresh] at hf
  split_ifs at hf with ha
  · obtain rfl := Option.some.inj hf
    rw [ha, Grid.subjects_eq_empty hid, Grid.references_default]
    simp
  · by_cases hb : b = id
    · subst hb
      -- The new cell is late for all formulas that refer to it.
      refine iff_of_false (fun h => hid (hl.contains_of_mem _ a h)) fun h => h.2 (.inl ?_)
      exact ⟨rfl, hid, f, hf, h.1.1⟩
    · rw [hg a f hf]
      simp [hb, Ne.symm hb]

theorem trackedBut_editPass (hl : g.Linked) (hid : g.contains id = true)
    (hg : g.TrackedBut late) :
    (editPass g id formula).grid.TrackedBut fun a b => late a b ∧ id ≠ a := by
  have hshape : (editPass g id formula).grid.SameShape _ := (editPass_edited hl hid).shape
  intro a f hf b
  rw [hshape.formula?, formula?_reformulate hid] at hf
  rw [hshape.subjects, subjects_reformulate hid, hshape.contains, contains_reformulate hid]
  split_ifs at hf ⊢ with ha
  · obtain rfl := Option.some.inj hf
    rw [Grid.mem_resolve, ha]
    simp
  · rw [hg a f hf]
    simp [Ne.symm ha]

/-- What an operation other than undo makes of the exceptions. -/
theorem trackedBut_perform (hop : op ≠ .undo) (hl : s.grid.Linked) (hg : s.grid.TrackedBut late) :
    (s.perform op).sheet.grid.TrackedBut fun a b =>
      op = .create b ∧ s.grid.Dangling a b ∨ late a b ∧ ¬ s.Relinks a op := by
  cases op with
  | create id =>
    rw [perform, Outcome.sheet_map, sheet_create]
    simp only [Operation.create.injEq, Relinks, not_false_eq_true, and_true]
    split_ifs with hid
    · refine hg.congr fun a b hb => or_iff_right ?_
      exact fun h => h.2.1 hb
    · exact trackedBut_create hid hl hg
  | edit id input =>
    simp only [reduceCtorEq, false_and, false_or, Relinks]
    by_cases hrewrites : s.Rewrites (.edit id input)
    · obtain ⟨cell, hcell, hne⟩ := hrewrites.exists_cell
      rw [sheet_edit hcell hne]
      refine (trackedBut_editPass hl (Grid.contains_of_get? hcell) hg).congr fun a b _ => ?_
      simp only [hrewrites, and_true, ne_eq]
    · rw [sheet_edit_of_not_rewrites hrewrites]
      exact hg.congr fun a b _ => by simp only [hrewrites, and_false, not_false_eq_true, and_true]
  | undo => exact absurd rfl hop
  | recalculate =>
    rw [perform, Outcome.sheet_map, sheet_recalculate]
    refine (recalculatePass_refreshed hl).tracked.trackedBut fun a b => ?_
    simp [Relinks]
  | listen =>
    rw [perform, Outcome.sheet_map]
    exact hg.congr fun a b _ => by simp [Relinks]

theorem trackedBut_run (hs : s.Initial) (hops : Operation.undo ∉ ops) :
    (s.run ops).grid.TrackedBut (s.CreatedLate ops) := by
  induction ops using List.reverseRecOn with
  | nil =>
    refine hs.fresh.settled.tracked.trackedBut ?_
    rintro a b ⟨before, after, heq, _⟩
    simp at heq
  | append_singleton ops op ih =>
    rw [List.mem_append, not_or, List.mem_singleton] at hops
    have hstep := trackedBut_perform (Ne.symm hops.2) (linked_run hs ops) (ih hops.1)
    rw [run_append, run, run]
    exact hstep.congr fun a b _ => createdLate_append_singleton

theorem mem_map_fst_editAssignments (hl : g.Linked) (hid : g.contains id = true) :
    a ∈ (editAssignments g id formula).map Prod.fst ↔ ReflTransGen g.Reads a id := by
  have hk : (reformulate g id formula).Linked := linked_reformulate hid hl
  have hshape := Grid.sameShape_store (reformulate g id formula) id
    (editedValue (reformulate g id formula) id)
  have hsub : ∀ a, a ≠ id → (reformulate g id formula).subjects a = g.subjects a := by
    intro a ha
    rw [subjects_reformulate hid, if_neg ha]
  unfold editAssignments
  rw [List.map_cons, List.mem_cons, Grid.mem_map_fst_assignments (hshape.linked hk),
    hshape.downstream hk, ← Grid.reflTransGen_reads_iff hk, Grid.reflTransGen_origin_iff hsub]

/-- An edit recomputes the cells that read the edited one, directly or through others. -/
theorem mem_map_fst_assignments_edit (hl : s.grid.Linked) (h : s.Rewrites (.edit id input)) :
    a ∈ (s.assignments (.edit id input)).map Prod.fst ↔ ReflTransGen s.grid.Reads a id := by
  obtain ⟨cell, hcell, hne⟩ := h.exists_cell
  rw [assignments_edit hcell hne, mem_map_fst_editAssignments hl h.1]

theorem links_follow_formulas (hs : s.Initial) (hops : Operation.undo ∉ ops)
    (hf : (s.run ops).grid.formula? a = some f) :
    (∀ b, b ∈ (s.run ops).grid.subjects a ↔
      (b ∈ Formula.references f ∧ (s.run ops).grid.contains b = true) ∧ ¬ s.CreatedLate ops a b) ∧
    ∀ b input, (s.run ops).Rewrites (.edit b input) → b ∈ Formula.references f →
      ¬ s.CreatedLate ops a b → a ∈ ((s.run ops).assignments (.edit b input)).map Prod.fst := by
  have htracked := trackedBut_run hs hops a f hf
  refine ⟨htracked, fun b input hrewrites hb hlate => ?_⟩
  rw [mem_map_fst_assignments_edit (linked_run hs ops) hrewrites]
  exact .single ((htracked b).2 ⟨⟨hb, hrewrites.1⟩, hlate⟩)

/-- A formula refers to a cell that is there and to one that is created afterwards. -/
def lateReference : List Operation := [.edit (named 'A') "B D +", .create (named 'D')]

theorem formula?_lateReference :
    (threeCells.run lateReference).grid.formula? (named 'A') = some "B D +" := by decide +kernel

theorem mem_subjects_lateReference :
    named 'B' ∈ (threeCells.run lateReference).grid.subjects (named 'A') ∧
      named 'D' ∉ (threeCells.run lateReference).grid.subjects (named 'A') := by decide +kernel

theorem mem_references_lateReference :
    named 'B' ∈ Formula.references "B D +" ∧ named 'D' ∈ Formula.references "B D +" := by
  decide +kernel

/-- The formula follows edits of the one cell, and not those of the other one. -/
theorem links_follow_formulas_but_late_one :
    threeCells.Initial ∧ Operation.undo ∉ lateReference ∧
      (threeCells.run lateReference).grid.formula? (named 'A') = some "B D +" ∧
      ¬ threeCells.CreatedLate lateReference (named 'A') (named 'B') ∧
      (threeCells.run lateReference).Rewrites (.edit (named 'B') "3") ∧
      named 'A' ∈
        ((threeCells.run lateReference).assignments (.edit (named 'B') "3")).map Prod.fst := by
  have hops : Operation.undo ∉ lateReference := by decide
  have hrewrites : (threeCells.run lateReference).Rewrites (.edit (named 'B') "3") := by
    decide +kernel
  obtain ⟨hsubjects, hrecomputed⟩ :=
    links_follow_formulas initial_threeCells hops formula?_lateReference
  have hlate := ((hsubjects (named 'B')).1 mem_subjects_lateReference.1).2
  exact ⟨initial_threeCells, hops, formula?_lateReference, hlate, hrewrites,
    hrecomputed _ _ hrewrites mem_references_lateReference.1 hlate⟩

/-- The late cell is no subject of the formula, and its edit leaves what was computed before. -/
theorem late_cell_is_no_subject :
    threeCells.Initial ∧ Operation.undo ∉ lateReference ∧
      (threeCells.run lateReference).grid.formula? (named 'A') = some "B D +" ∧
      named 'D' ∈ Formula.references "B D +" ∧
      (threeCells.run lateReference).grid.contains (named 'D') = true ∧
      named 'D' ∉ (threeCells.run lateReference).grid.subjects (named 'A') ∧
      (threeCells.run (lateReference ++ [.edit (named 'D') "2"])).grid.value? (named 'A') =
        some (.number 0) ∧
      (threeCells.run (lateReference ++ [.edit (named 'D') "2"])).grid.compute (named 'A') =
        .number 2 :=
  ⟨initial_threeCells, by decide, formula?_lateReference, mem_references_lateReference.2,
    by decide +kernel, mem_subjects_lateReference.2, by decide +kernel, by decide +kernel⟩

end Sheet
end ReactiveSheet
