import ReactiveSheet.Proofs.Formula.Normal
import ReactiveSheet.Proofs.Sheet.History

/-!
The formulas that a sheet stores, in its cells and in its history. Main statements: an operation
stores no other formulas than those that were there, the default one, and what an edit is given
(`stores_perform`), so that in every run all of them are normal (`normal_run`), and an edit that
submits a shown formula again does nothing (`shown_formula_changes_nothing`).
-/

namespace ReactiveSheet.Sheet

variable {s : Sheet} {id : CellId} {input f : String} {op : Operation}

/-- The formula is that of a cell, or an undo may bring it back. -/
def Stores (s : Sheet) (f : String) : Prop :=
  (∃ a, s.grid.formula? a = some f) ∨ ∃ e ∈ s.history.entries, e.formula = f

theorem stores_create (h : (s.create id).sheet.Stores f) : s.Stores f ∨ f = Formula.default := by
  rw [sheet_create] at h
  split_ifs at h with hid
  · exact .inl h
  · rcases h with ⟨a, hf⟩ | hentry
    · rw [Grid.formula?_insert_fresh] at hf
      split_ifs at hf
      · exact .inr (Option.some.inj hf).symm
      · exact .inl (.inl ⟨a, hf⟩)
    · exact .inl (.inr hentry)

theorem stores_edit (hg : s.grid.Linked) (h : (s.edit id input).sheet.Stores f) :
    s.Stores f ∨ f = Formula.normalize input := by
  rcases s.edit_cases id input with hsame | ⟨cell, hcell, _, hsheet⟩
  · exact .inl (hsame ▸ h)
  · rw [hsheet] at h
    rcases h with ⟨a, hf⟩ | ⟨e, he, rfl⟩
    · rw [formula?_editPass hg (Grid.contains_of_get? hcell), Function.update_apply] at hf
      split_ifs at hf
      · exact .inr (Option.some.inj hf).symm
      · exact .inl (.inl ⟨a, hf⟩)
    · -- The new entry has the formula that the cell had.
      rcases History.eq_or_mem_of_mem_push he with rfl | he
      · exact .inl (.inl ⟨id, Grid.formula?_of_get? hcell⟩)
      · exact .inl (.inr ⟨e, he, rfl⟩)

theorem stores_undo (hg : s.grid.Linked) (h : s.undo.sheet.Stores f) : s.Stores f := by
  rcases s.undo_cases with ⟨_, hsame⟩ | ⟨e, history, hpop, hcases⟩
  · exact hsame ▸ h
  · have hentries := (History.pop?_eq_some_iff.1 hpop).1
    have holder : ∀ e' ∈ history.entries, e' ∈ s.history.entries := by
      intro e' he'
      simp [hentries, he']
    rcases hcases with ⟨_, hsheet⟩ | ⟨cell, hcell, hsheet⟩
    · rw [hsheet] at h
      exact h.imp_right fun ⟨e', he', hf⟩ => ⟨e', holder e' he', hf⟩
    · rw [hsheet] at h
      rcases h with ⟨a, hf⟩ | ⟨e', he', hf⟩
      · rw [formula?_undoPass hg hcell, Function.update_apply] at hf
        split_ifs at hf
        · exact .inr ⟨e, by simp [hentries], Option.some.inj hf⟩
        · exact .inl ⟨a, hf⟩
      · exact .inr ⟨e', holder e' he', hf⟩

theorem stores_recalculate (hg : s.grid.Linked) (h : s.recalculate.sheet.Stores f) :
    s.Stores f := by
  rw [sheet_recalculate] at h
  rcases h with ⟨a, hf⟩ | hentry
  · exact .inl ⟨a, ((recalculatePass_refreshed hg).formula? a).symm.trans hf⟩
  · exact .inr hentry

/-- A formula that an operation stores was there before, or is the default one, or is what an edit
was given. -/
theorem stores_perform (hg : s.grid.Linked) (h : (s.perform op).sheet.Stores f) :
    s.Stores f ∨ f = Formula.default ∨ ∃ id input, op = .edit id input ∧
      f = Formula.normalize input := by
  cases op with
  | create id => exact (stores_create h).imp_right .inl
  | edit id input => exact (stores_edit hg h).imp_right fun hf => .inr ⟨id, input, rfl, hf⟩
  | undo => exact .inl (stores_undo hg h)
  | recalculate => exact .inl (stores_recalculate hg h)
  | listen => exact .inl h

theorem Initial.eq_default (hs : s.Initial) (h : s.Stores f) : f = Formula.default := by
  rcases h with ⟨a, hf⟩ | ⟨e, he, _⟩
  · obtain ⟨cell, hcell⟩ := Grid.exists_get? (Grid.contains_of_formula? hf)
    rw [Grid.formula?_of_get? hcell, hs.fresh a cell hcell] at hf
    exact (Option.some.inj hf).symm
  · simp [hs.entries_eq_nil] at he

theorem normal_run (hs : s.Initial) (ops : List Operation) (h : (s.run ops).Stores f) :
    Formula.Normal f := by
  have hdefault : Formula.Normal Formula.default := Formula.normal_normalize ""
  have hrun : (s.run ops).grid.Linked ∧ ∀ f, (s.run ops).Stores f → Formula.Normal f := by
    apply run_induction (P := fun s => s.grid.Linked ∧ ∀ f, s.Stores f → Formula.Normal f)
    · rintro s op ⟨hg, hnormal⟩
      refine ⟨linked_perform hg op, fun f hf => ?_⟩
      rcases stores_perform hg hf with hbefore | rfl | ⟨_, input, _, rfl⟩
      · exact hnormal f hbefore
      · exact hdefault
      · exact Formula.normal_normalize input
    · exact ⟨hs.fresh.linked, fun f hf => hs.eq_default hf ▸ hdefault⟩
  exact hrun.2 f h

theorem edit_of_formula?_eq (hf : s.grid.formula? id = some (Formula.normalize input)) :
    s.edit id input = ⟨s, .ok [], []⟩ := by
  obtain ⟨cell, hcell⟩ := Grid.exists_get? (Grid.contains_of_formula? hf)
  rw [Grid.formula?_of_get? hcell] at hf
  exact edit_of_formula_eq hcell (Option.some.inj hf)

/-- Submitting the formula of a cell as it is shown does nothing, with any white space around it, and
neither does a blank input for a cell with the default formula. All formulas in the cells and in the
history are nonempty texts without white space at their ends, and stand for themselves. -/
theorem shown_formula_changes_nothing (hs : s.Initial) (ops : List Operation) :
    (∀ a f, (s.run ops).grid.formula? a = some f → ∀ before after,
      Text.Blank before → Text.Blank after →
        (s.run ops).edit a (before ++ f ++ after) = ⟨s.run ops, .ok [], []⟩) ∧
    (∀ a, (s.run ops).grid.formula? a = some Formula.default → ∀ blank, Text.Blank blank →
      (s.run ops).edit a blank = ⟨s.run ops, .ok [], []⟩) ∧
    ∀ f, (s.run ops).Stores f →
      f ≠ "" ∧ Text.Trimmed f.toList ∧ Text.trim f.toList = f.toList ∧ Formula.normalize f = f := by
  refine ⟨fun a f hf before after hbefore hafter => ?_, fun a hf blank hblank => ?_,
    fun f hf => ?_⟩
  · apply edit_of_formula?_eq
    rw [(normal_run hs ops (.inl ⟨a, hf⟩)).normalize_surrounded hbefore hafter, hf]
  · apply edit_of_formula?_eq
    rw [Formula.normalize_blank hblank, hf]
  · have hnormal := normal_run hs ops hf
    exact ⟨hnormal.ne_empty, hnormal.trimmed, hnormal.trimmed.trim_eq_self,
      hnormal.normalize_eq_self⟩

/-- A formula in white space that is replaced and comes back. -/
def undoneReplacement : List Operation :=
  [.edit (named 'A') "\u3000 1 2 + \t", .edit (named 'A') "B", .undo]

theorem undone_replacement_submitted_again :
    threeCells.Initial ∧
      (threeCells.run undoneReplacement).grid.formula? (named 'A') = some "1 2 +" ∧
      (threeCells.run undoneReplacement).edit (named 'A') ("\u2003" ++ "1 2 +" ++ " \u00a0") =
        ⟨threeCells.run undoneReplacement, .ok [], []⟩ ∧
      (threeCells.run undoneReplacement).grid.formula? (named 'B') = some Formula.default ∧
      (threeCells.run undoneReplacement).edit (named 'B') "\n\u1680" =
        ⟨threeCells.run undoneReplacement, .ok [], []⟩ ∧
      (threeCells.run undoneReplacement).Stores "0.0" ∧ Formula.normalize "0.0" = "0.0" := by
  obtain ⟨hshown, hblank, hstored⟩ :=
    shown_formula_changes_nothing initial_threeCells undoneReplacement
  have ha : (threeCells.run undoneReplacement).grid.formula? (named 'A') = some "1 2 +" := by
    decide +kernel
  have hb : (threeCells.run undoneReplacement).grid.formula? (named 'B') =
      some Formula.default := by decide +kernel
  have hs : (threeCells.run undoneReplacement).Stores "0.0" := .inr (by decide +kernel)
  exact ⟨initial_threeCells, ha, hshown _ _ ha _ _ (by decide) (by decide), hb,
    hblank _ hb _ (by decide), hs, (hstored _ hs).2.2.2⟩

end ReactiveSheet.Sheet
