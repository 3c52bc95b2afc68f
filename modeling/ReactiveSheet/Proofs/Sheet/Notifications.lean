import ReactiveSheet.Proofs.Grid.Changes
import ReactiveSheet.Proofs.Sheet.CycleMarks
import ReactiveSheet.Proofs.Sheet.Effects
import ReactiveSheet.Proofs.Sheet.History

/-!
What operations report. Main statements: an operation reports the cells that look different after
it, in its answer as in its calls (`announces_perform`), and besides them only cells that hold NaN
before and after it (`only_changes_or_nan_reported`).
-/

namespace ReactiveSheet

/-- A cell is shown to a listener, or is among those in the answer. -/
def Outcome.Reports (o : Outcome Answer) (a : CellId) : Prop :=
  (∃ c ∈ o.calls, c.view.id = a) ∨ ∃ ids, o.answer = .ok (.cells ids) ∧ a ∈ ids

namespace Sheet

variable {s t : Sheet} {g h k : Grid} {a id : CellId} {formula : String} {cell : Cell}
  {snapshot : Snapshot} {ids : List CellId} {o : Outcome Answer}

/-- No cell is downstream of itself, so that a pass does not note its origin again. -/
theorem not_mem_of_mem_downstream (hg : g.Linked) (ha : a ∈ g.downstream id) : a ∉ [id] :=
  fun hmem => ((Grid.mem_downstream_iff hg).1 ha).1 (List.mem_singleton.1 hmem)

theorem reports_editPass (hg : g.Linked) (hid : g.contains id = true)
    (hne : g.formula? id ≠ some formula) : Grid.Pass.Reports g (editPass g id formula) := by
  have hshape := Grid.sameShape_store (reformulate g id formula) id
    (editedValue (reformulate g id formula) id)
  have hl := hshape.linked (linked_reformulate hid hg)
  have hstart : Grid.Pass.Reports g ⟨(reformulate g id formula).store id
      (editedValue (reformulate g id formula) id), [id]⟩ := by
    refine .single ?_ ?_ fun a ha => Grid.view?_eq_iff.2 ⟨?_, ?_⟩
    · rw [hshape.contains, contains_reformulate hid, hid]
    · rw [hshape.formula?, formula?_reformulate hid, if_pos rfl]
      exact hne.symm
    · rw [hshape.formula?, formula?_reformulate hid, if_neg ha]
    · rw [Grid.value?_store, if_neg ha, value?_reformulate]
  unfold editPass
  exact hstart.recompute hl fun a => not_mem_of_mem_downstream hl

theorem reports_undoPass (hg : g.Linked) (hcell : g.get? snapshot.id = some cell)
    (hne : cell.formula ≠ snapshot.formula) : Grid.Pass.Reports g (undoPass g cell snapshot) := by
  have hl := linked_restored hg snapshot
  have hformula := formula?_restored hcell
  have hstart : Grid.Pass.Reports g ⟨restored g snapshot, [snapshot.id]⟩ := by
    refine .single ?_ ?_ fun a ha => ?_
    · rw [contains_restored, Grid.contains_of_get? hcell]
    · rw [hformula, Function.update_self, Grid.formula?_of_get? hcell]
      exact fun heq => hne (Option.some.inj heq).symm
    · rw [view?_restored hcell, if_neg ha]
  unfold undoPass
  dsimp only
  rw [if_pos (.inl hne)]
  exact hstart.recompute hl fun a => not_mem_of_mem_downstream hl

theorem reports_recalculatePass (hg : g.Linked) : Grid.Pass.Reports g (recalculatePass g) := by
  obtain ⟨hlinked, hformula, hvalue, _⟩ := Grid.relink_relinked hg g.ids
  unfold recalculatePass
  refine .recompute (.nil fun a => ?_) hlinked fun a _ => List.not_mem_nil
  exact Grid.view?_eq_iff.2 ⟨hformula a, hvalue a⟩

theorem mem_calls {c : Call} : c ∈ s.calls ids ↔
    c.listener < s.listeners ∧ c.view.id ∈ ids ∧ s.grid.view? c.view.id = some c.view := by
  simp only [calls, List.mem_flatMap]
  constructor
  · rintro ⟨id, hid, hc⟩
    cases hview : s.grid.view? id with
    | none => simp [hview] at hc
    | some view =>
      simp only [hview, List.mem_map, List.mem_range] at hc
      obtain ⟨n, hn, rfl⟩ := hc
      obtain rfl := Grid.id_of_view? hview
      exact ⟨hn, hid, hview⟩
  · rintro ⟨hn, hid, hview⟩
    refine ⟨c.view.id, hid, ?_⟩
    simp only [hview, List.mem_map, List.mem_range]
    exact ⟨c.listener, hn, rfl⟩

theorem exists_mem_calls {n : Nat} (hn : n < s.listeners) (ha : a ∈ ids)
    (hk : s.grid.contains a = true) : ∃ c ∈ s.calls ids, c.listener = n ∧ c.view.id = a := by
  obtain ⟨view, hview, hid⟩ := Grid.exists_view? hk
  refine ⟨⟨n, view⟩, mem_calls.2 ⟨hn, ?_, ?_⟩, rfl, hid⟩
  · rwa [hid]
  · rwa [hid]

/-- An operation reports some cells in its answer and in its calls: those that look different from
how they looked in a grid, and maybe cells that hold NaN. -/
structure Announces (g : Grid) (o : Outcome Answer) (ids : List CellId) : Prop where
  calls : o.calls = o.sheet.calls ids
  answer : ∀ ids', o.answer = .ok (.cells ids') → ids' = ids
  reports : Grid.Pass.Reports g ⟨o.sheet.grid, ids⟩

namespace Announces

theorem mem_of_reports (ho : Announces g o ids) (ha : o.Reports a) : a ∈ ids := by
  rcases ha with ⟨c, hc, rfl⟩ | ⟨ids', hans, ha⟩
  · rw [ho.calls] at hc
    exact (mem_calls.1 hc).2.1
  · rwa [← ho.answer ids' hans]

theorem finish {α : Type} {pass : Grid.Pass} {answer : α} {f : α → Answer}
    (hp : Grid.Pass.Reports g pass) (hans : ∀ ids, f answer = .cells ids → ids = pass.changed) :
    Announces g ((t.finish pass answer).map f) pass.changed where
  calls := rfl
  answer ids h := hans ids (Except.ok.inj h)
  reports := hp

theorem failed {α : Type} {e : SheetError} {f : α → Answer} (hgrid : t.grid = g) :
    Announces g ((t.fail e).map f) [] := by
  subst hgrid
  refine ⟨rfl, fun ids h => ?_, .nil fun _ => rfl⟩
  simp only [Outcome.map, fail, Except.map, reduceCtorEq] at h

theorem quiet {α : Type} {answer : α} {f : α → Answer} (hgrid : t.grid = g)
    (hans : ∀ ids, f answer = .cells ids → ids = []) :
    Announces g (Outcome.map f ⟨t, .ok answer, []⟩) [] := by
  subst hgrid
  exact ⟨rfl, fun ids h => hans ids (Except.ok.inj h), .nil fun _ => rfl⟩

end Announces

/-- The grid before an operation, and with the cell that the operation creates. -/
def created (s : Sheet) : Operation → Grid
  | .create id => (s.create id).sheet.grid
  | .edit _ _ | .undo | .recalculate | .listen => s.grid

theorem announces_edit (hs : s.Sound) (id : CellId) (input : String) :
    ∃ ids, Announces s.grid (s.perform (.edit id input)) ids := by
  rw [perform]
  cases hcell : s.grid.get? id with
  | none =>
    rw [edit_of_none hcell]
    exact ⟨[], .failed rfl⟩
  | some cell =>
    by_cases hf : cell.formula = Formula.normalize input
    · rw [edit_of_formula_eq hcell hf]
      exact ⟨[], .quiet rfl fun ids h => (Answer.cells.inj h).symm⟩
    · rw [edit_of_formula_ne hcell hf]
      refine ⟨_, .finish (reports_editPass hs.linked (Grid.contains_of_get? hcell) ?_) ?_⟩
      · rw [Grid.formula?_of_get? hcell]
        exact fun h => hf (Option.some.inj h)
      · exact fun ids h => (Answer.cells.inj h).symm

/-- The entry that is undone has another formula than its cell, so that the cell changes. -/
theorem announces_undo (hs : s.Sound) : ∃ ids, Announces s.grid (s.perform .undo) ids := by
  rw [perform]
  cases hpop : s.history.pop? with
  | none =>
    rw [undo_of_empty hpop]
    exact ⟨[], .failed rfl⟩
  | some entry =>
    obtain ⟨snapshot, history⟩ := entry
    cases hcell : s.grid.get? snapshot.id with
    | none =>
      rw [undo_of_none hpop hcell]
      exact ⟨[], .failed rfl⟩
    | some cell =>
      obtain ⟨⟨f, hf, hne⟩, _⟩ := hs.retraceable_pop hpop
      rw [Grid.formula?_of_get? hcell, Option.some.injEq] at hf
      rw [undo_of_get? hpop hcell]
      have hreports := reports_undoPass hs.linked hcell (hf ▸ hne)
      exact ⟨_, .finish hreports fun _ h => Answer.noConfusion h⟩

theorem announces_recalculate (hs : s.grid.Linked) :
    Announces s.grid (s.perform .recalculate) (recalculatePass s.grid).changed := by
  rw [perform, recalculate_eq]
  exact .finish (reports_recalculatePass hs) fun ids h => (Answer.cells.inj h).symm

theorem announces_perform (hs : s.Sound) (op : Operation) :
    ∃ ids, Announces (s.created op) (s.perform op) ids := by
  cases op with
  | create id =>
    rw [created, perform, create]
    split_ifs
    · exact ⟨[], .failed rfl⟩
    · exact ⟨[], .quiet rfl fun _ h => Answer.noConfusion h⟩
  | edit id input => exact announces_edit hs id input
  | undo => exact announces_undo hs
  | recalculate => exact ⟨_, announces_recalculate hs.linked⟩
  | listen => exact ⟨[], .quiet rfl fun _ h => Answer.noConfusion h⟩

/-- Recalculation reports a cell that holds NaN whatever it computes for it. -/
theorem mem_changed_of_nan (hg : g.Linked) (hv : g.value? a = some (.number Binary64.nan)) :
    a ∈ (recalculatePass g).changed := by
  obtain ⟨hlinked, _, hvalue, _⟩ := Grid.relink_relinked hg g.ids
  have hmem : a ∈ IdSet.ofList g.ids := by
    rw [IdSet.mem_ofList, Grid.mem_ids]
    exact Grid.contains_of_value? hv
  unfold recalculatePass
  exact Grid.Pass.mem_changed_recompute_of_nan hlinked hmem ((hvalue a).trans hv)

theorem recalculate_reports_nan (hl : s.grid.Linked)
    (hv : s.grid.value? a = some (.number Binary64.nan)) :
    (∃ ids, s.recalculate.answer = .ok ids ∧ a ∈ ids) ∧
      ∀ n, n < s.listeners → ∃ c ∈ s.recalculate.calls, c.listener = n ∧ c.view.id = a := by
  have hmem := mem_changed_of_nan hl hv
  have hk := (reports_recalculatePass hl).contains a hmem
  rw [recalculate_eq]
  exact ⟨⟨_, rfl, hmem⟩, fun n hn => exists_mem_calls hn hmem hk⟩

/-- A second recalculation finds all values as it is to leave them. -/
theorem Refreshed.value?_again (hr : Refreshed g h) (hk : Refreshed h k) (a : CellId) :
    k.value? a = h.value? a := by
  by_cases ha : h.Cyclic a
  · rw [hr.marked a ha, hk.marked a (hk.cyclic_eq hr.tracked ▸ ha)]
  · exact hk.value?_eq_of_settled hr.settled ha

theorem Refreshed.view?_again (hr : Refreshed g h) (hk : Refreshed h k) (a : CellId) :
    k.view? a = h.view? a :=
  Grid.view?_eq_iff.2 ⟨hk.formula? a, hr.value?_again hk a⟩

theorem mem_changed_again_iff (hg : g.Linked) :
    a ∈ (recalculatePass (recalculatePass g).grid).changed ↔
      (recalculatePass g).grid.value? a = some (.number Binary64.nan) := by
  have hr := recalculatePass_refreshed hg
  have hk := recalculatePass_refreshed hr.linked
  refine ⟨fun ha => ?_, mem_changed_of_nan hr.linked⟩
  rcases (reports_recalculatePass hr.linked).changed a ha with hview | hv
  · exact absurd (hr.view?_again hk a) hview
  · rwa [hr.value?_again hk] at hv

theorem created_cases (s : Sheet) (op : Operation) :
    s.created op = s.grid ∨ s.created op = (s.perform op).sheet.grid := by
  cases op with
  | create id => exact .inr rfl
  | edit | undo | recalculate | listen => exact .inl rfl

/-- A reported cell that looks the same holds NaN. -/
theorem Announces.value?_of_view?_eq {op : Operation}
    (ho : Announces (s.created op) (s.perform op) ids) (ha : a ∈ ids)
    (hview : (s.perform op).sheet.grid.view? a = s.grid.view? a) :
    (s.perform op).sheet.grid.value? a = some (.number Binary64.nan) := by
  rcases ho.reports.changed a ha with hne | hnan
  · rcases s.created_cases op with h | h
    · rw [h] at hne
      exact absurd hview hne
    · rw [h] at hne
      exact absurd rfl hne
  · exact hnan

theorem only_changes_or_nan_reported (hs : s.Initial) (ops : List Operation) :
    (∀ op a, ((s.run ops).perform op).Reports a →
      ((s.run ops).perform op).sheet.grid.view? a ≠ (s.run ops).grid.view? a ∨
        (s.run ops).grid.value? a = some (.number Binary64.nan) ∧
          ((s.run ops).perform op).sheet.grid.value? a = some (.number Binary64.nan)) ∧
      ∃ ids, (s.run ops).recalculate.sheet.recalculate.answer = .ok ids ∧ ids.Nodup ∧
        ∀ a, a ∈ ids ↔
          (s.run ops).recalculate.sheet.grid.value? a = some (.number Binary64.nan) := by
  have hsound := sound_run hs ops
  have hlinked := linked_recalculatePass hsound.linked
  constructor
  · intro op a ha
    obtain ⟨ids, hids⟩ := announces_perform hsound op
    have hmem : a ∈ ids := hids.mem_of_reports ha
    by_cases hview : ((s.run ops).perform op).sheet.grid.view? a = (s.run ops).grid.view? a
    · have hnan := hids.value?_of_view?_eq hmem hview
      exact .inr ⟨(Grid.view?_eq_iff.1 hview).2.symm.trans hnan, hnan⟩
    · exact .inl hview
  · refine ⟨_, ?_, (reports_recalculatePass hlinked).nodup, fun a => ?_⟩
    · rw [sheet_recalculate, recalculate_eq, finish]
    · rw [grid_recalculate]
      exact mem_changed_again_iff hsound.linked

theorem view?_recalculate_of_settled (hs : s.grid.Settled) (ha : ¬ s.grid.Cyclic a) :
    s.recalculate.sheet.grid.view? a = s.grid.view? a := by
  have hr := recalculatePass_refreshed hs.linked
  rw [grid_recalculate]
  exact Grid.view?_eq_iff.2 ⟨hr.formula? a, hr.value?_eq_of_settled hs ha⟩

/-- A listener registers, and a cell comes to hold NaN. -/
@[irreducible]
def shownNaN : List Operation := [.listen, .edit (named 'A') "nan"]

theorem value?_shownNaN :
    (threeCells.run shownNaN).grid.value? (named 'A') = some (.number Binary64.nan) ∧
      (threeCells.run shownNaN).grid.subjects (named 'A') = ∅ ∧
      (threeCells.run shownNaN).listeners = 1 := by decide +kernel

/-- Recalculation reports a cell that it leaves as it is, and does so again and again. -/
theorem unchanged_nan_reported :
    ofSettings ⟨3, none⟩ = .ok threeCells ∧
      (threeCells.run shownNaN).grid.value? (named 'A') = some (.number Binary64.nan) ∧
      (threeCells.run shownNaN).recalculate.sheet.grid.view? (named 'A') =
        (threeCells.run shownNaN).grid.view? (named 'A') ∧
      (∃ ids, (threeCells.run shownNaN).recalculate.answer = .ok ids ∧ named 'A' ∈ ids) ∧
      (∃ c ∈ (threeCells.run shownNaN).recalculate.calls, c.listener = 0 ∧
        c.view.id = named 'A') ∧
      ∃ ids, (threeCells.run shownNaN).recalculate.sheet.recalculate.answer = .ok ids ∧
        named 'A' ∈ ids := by
  obtain ⟨hv, hsubjects, hlisteners⟩ := value?_shownNaN
  have hops : threeCells.Admits KeepsTrack shownNaN := by decide +kernel
  have hsettled := settled_run initial_threeCells hops
  have hview := view?_recalculate_of_settled hsettled (Grid.not_cyclic_of_subjects hsubjects)
  have hreports := recalculate_reports_nan hsettled.linked hv
  have hagain := recalculate_reports_nan (linked_perform hsettled.linked .recalculate)
    ((Grid.view?_eq_iff.1 hview).2.trans hv)
  have hlistener : 0 < (threeCells.run shownNaN).listeners := by
    rw [hlisteners]
    exact Nat.zero_lt_one
  exact ⟨ofSettings_three, hv, hview, hreports.1, hreports.2 0 hlistener, hagain.1⟩

/-- Another cell comes to read the one that holds NaN. -/
def readNaN : Operation := .edit (named 'B') "A 1 +"

theorem changes_reported_beside_nan :
    threeCells.Initial ∧ ((threeCells.run shownNaN).perform readNaN).Reports (named 'B') ∧
      (((threeCells.run shownNaN).perform readNaN).sheet.grid.view? (named 'B') ≠
          (threeCells.run shownNaN).grid.view? (named 'B') ∨
        (threeCells.run shownNaN).grid.value? (named 'B') = some (.number Binary64.nan) ∧
          ((threeCells.run shownNaN).perform readNaN).sheet.grid.value? (named 'B') =
            some (.number Binary64.nan)) := by
  have hanswer : ((threeCells.run shownNaN).perform readNaN).answer =
      .ok (.cells [named 'B']) := by decide +kernel
  have hreports : ((threeCells.run shownNaN).perform readNaN).Reports (named 'B') :=
    .inr ⟨_, hanswer, List.mem_singleton_self _⟩
  exact ⟨initial_threeCells, hreports,
    (only_changes_or_nan_reported initial_threeCells shownNaN).1 _ _ hreports⟩

end Sheet
end ReactiveSheet
