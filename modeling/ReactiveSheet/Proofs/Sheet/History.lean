import Mathlib.Logic.Function.Basic
import ReactiveSheet.Proofs.Sheet.Recalculate

/-!
The undo history against the formulas. Main statement: in every run each entry of the history has
another formula than its cell has when the entry is undone, also after old entries gave way
(`sound_run`).
-/

namespace ReactiveSheet

variable {formulas formulas' : CellId → Option String} {entries : List Snapshot}

namespace History

variable {h rest : History} {e e' : Snapshot}

theorem pop?_eq_some_iff :
    h.pop? = some (e, rest) ↔ h.entries = e :: rest.entries ∧ rest.limit = h.limit := by
  obtain ⟨entries, limit⟩ := h
  obtain ⟨restEntries, restLimit⟩ := rest
  cases entries <;> simp [pop?, and_assoc, eq_comm]

theorem eq_or_mem_of_mem_push (h' : e' ∈ (h.push e).entries) : e' = e ∨ e' ∈ h.entries := by
  unfold push keep at h'
  split at h'
  · exact List.mem_cons.1 (List.mem_of_mem_take h')
  · exact List.mem_cons.1 h'

end History

/-- Undoing the entries, the newest first, gives the cell of each one another formula. -/
def Retraceable (formulas : CellId → Option String) : List Snapshot → Prop
  | [] => True
  | e :: entries =>
    (∃ f, formulas e.id = some f ∧ f ≠ e.formula) ∧
      Retraceable (Function.update formulas e.id (some e.formula)) entries

namespace Retraceable

theorem take (h : Retraceable formulas entries) (n : Nat) :
    Retraceable formulas (entries.take n) := by
  induction entries generalizing formulas n with
  | nil =>
    rw [List.take_nil]
    trivial
  | cons e entries ih =>
    cases n with
    | zero => trivial
    | succ n => exact ⟨h.1, ih h.2 n⟩

theorem keep (h : Retraceable formulas entries) (limit : Option Nat) :
    Retraceable formulas (History.keep limit entries) := by
  cases limit with
  | none => exact h
  | some n => exact h.take n

/-- More cells do not matter. -/
theorem mono (h : Retraceable formulas entries)
    (hsub : ∀ a f, formulas a = some f → formulas' a = some f) : Retraceable formulas' entries := by
  induction entries generalizing formulas formulas' with
  | nil => trivial
  | cons e entries ih =>
    obtain ⟨⟨f, hf, hne⟩, hrest⟩ := h
    refine ⟨⟨f, hsub e.id f hf, hne⟩, ih hrest fun a f' hf' => ?_⟩
    by_cases ha : a = e.id
    · subst ha
      rwa [Function.update_self] at hf' ⊢
    · rw [Function.update_of_ne ha] at hf' ⊢
      exact hsub a f' hf'

/-- What a cell was goes on top of the history when its formula is replaced by another one. -/
theorem push (h : Retraceable formulas entries) {id : CellId} {old new : String} {v : CellValue}
    (hold : formulas id = some old) (hne : old ≠ new) :
    Retraceable (Function.update formulas id (some new)) (⟨id, old, v⟩ :: entries) := by
  refine ⟨⟨new, Function.update_self .., hne.symm⟩, ?_⟩
  -- Undoing the new entry leads back to the formulas that the others are to retrace.
  rwa [Function.update_idem, ← hold, Function.update_eq_self]

end Retraceable

namespace Sheet

variable {s : Sheet} {g : Grid} {id : CellId} {formula : String} {cell : Cell}
  {snapshot : Snapshot}

theorem formula?_editPass (hg : g.Linked) (hid : g.contains id = true) :
    (editPass g id formula).grid.formula? = Function.update g.formula? id (some formula) := by
  funext a
  rw [(editPass_edited hg hid).shape.formula?, formula?_reformulate hid, Function.update_apply]

/-- What is restored differs in the formula and the value of one cell. -/
theorem view?_restored (hcell : g.get? snapshot.id = some cell) (a : CellId) :
    (restored g snapshot).view? a =
      if a = snapshot.id then some ⟨a, snapshot.formula, snapshot.value⟩ else g.view? a := by
  simp only [restored, Grid.view?, Grid.get?_modify, hcell]
  split_ifs with ha
  · rw [ha]
    rfl
  · rfl

theorem formula?_restored (hcell : g.get? snapshot.id = some cell) :
    (restored g snapshot).formula? =
      Function.update g.formula? snapshot.id (some snapshot.formula) := by
  funext a
  rw [Function.update_apply]
  simp only [restored, Grid.formula?, Grid.get?_modify, hcell]
  split_ifs <;> rfl

theorem value?_restored (hcell : g.get? snapshot.id = some cell) (a : CellId) :
    (restored g snapshot).value? a =
      if a = snapshot.id then some snapshot.value else g.value? a := by
  simp only [restored, Grid.value?, Grid.get?_modify, hcell]
  split_ifs <;> rfl

theorem formula?_undoPass (hg : g.Linked) (hcell : g.get? snapshot.id = some cell) :
    (undoPass g cell snapshot).grid.formula? =
      Function.update g.formula? snapshot.id (some snapshot.formula) := by
  rw [← formula?_restored hcell]
  exact funext (undoPass_recomputed hg cell snapshot).shape.formula?

theorem undo_of_entries (hentries : s.history.entries = snapshot :: entries)
    (hcell : s.grid.get? snapshot.id = some cell) :
    s.undo = finish { s with history := { s.history with entries } }
      (undoPass s.grid cell snapshot) snapshot.id := by
  have hpop : s.history.pop? = some (snapshot, { s.history with entries }) :=
    History.pop?_eq_some_iff.2 ⟨hentries, rfl⟩
  rw [undo_of_get? hpop hcell]

/-- No pass changes the value of the cell from which it starts, even if that cell is on a cycle. -/
theorem value?_undoPass_self (hg : g.Linked) (hcell : g.get? snapshot.id = some cell) :
    (undoPass g cell snapshot).grid.value? snapshot.id = some snapshot.value := by
  have hout : snapshot.id ∉ (restored g snapshot).downstream snapshot.id := fun hm =>
    ((Grid.mem_downstream_iff (linked_restored hg _)).1 hm).1 rfl
  rw [(undoPass_recomputed hg cell snapshot).frame _ hout, value?_restored hcell, if_pos rfl]

/-- The history can be undone entry by entry, and each entry makes a difference to a formula. -/
structure Sound (s : Sheet) : Prop where
  linked : s.grid.Linked
  retraceable : Retraceable s.grid.formula? s.history.entries

theorem Sound.create (hs : s.Sound) (id : CellId) : (s.create id).sheet.Sound := by
  rw [sheet_create]
  split_ifs with hid
  · exact hs
  · refine ⟨Grid.linked_insert_fresh hid hs.linked, hs.retraceable.mono fun a f hf => ?_⟩
    have hne : a ≠ id := by
      rintro rfl
      exact hid (Grid.contains_of_formula? hf)
    rwa [Grid.formula?_insert_fresh, if_neg hne]

theorem Sound.edit (hs : s.Sound) (id : CellId) (input : String) :
    (s.edit id input).sheet.Sound := by
  rcases s.edit_cases id input with h | ⟨cell, hcell, hf, h⟩
  · rwa [h]
  · rw [h]
    have hid : s.grid.contains id = true := Grid.contains_of_get? hcell
    refine ⟨linked_editPass hs.linked hid _, ?_⟩
    rw [formula?_editPass hs.linked hid]
    exact (hs.retraceable.push (Grid.formula?_of_get? hcell) hf).keep s.history.limit

theorem Sound.retraceable_pop (hs : s.Sound) {history : History}
    (hpop : s.history.pop? = some (snapshot, history)) :
    (∃ f, s.grid.formula? snapshot.id = some f ∧ f ≠ snapshot.formula) ∧
      Retraceable (Function.update s.grid.formula? snapshot.id (some snapshot.formula))
        history.entries := by
  have hentries := hs.retraceable
  rw [(History.pop?_eq_some_iff.1 hpop).1] at hentries
  exact hentries

theorem Sound.undo (hs : s.Sound) : s.undo.sheet.Sound := by
  rcases s.undo_cases with ⟨_, h⟩ | ⟨snapshot, history, hpop, hcases⟩
  · rwa [h]
  · obtain ⟨⟨f, hf, _⟩, hrest⟩ := hs.retraceable_pop hpop
    rcases hcases with ⟨hnone, _⟩ | ⟨cell, hcell, h⟩
    · rw [Grid.formula?, hnone] at hf
      cases hf
    · rw [h]
      refine ⟨linked_undoPass hs.linked cell snapshot, ?_⟩
      rwa [formula?_undoPass hs.linked hcell]

theorem Sound.recalculate (hs : s.Sound) : s.recalculate.sheet.Sound := by
  rw [sheet_recalculate]
  have hformula : (recalculatePass s.grid).grid.formula? = s.grid.formula? :=
    funext (recalculatePass_refreshed hs.linked).formula?
  exact ⟨linked_recalculatePass hs.linked, hformula ▸ hs.retraceable⟩

theorem sound_perform (hs : s.Sound) (op : Operation) : (s.perform op).sheet.Sound := by
  cases op with
  | create id => exact hs.create id
  | edit id input => exact hs.edit id input
  | undo => exact hs.undo
  | recalculate => exact hs.recalculate
  | listen => exact ⟨hs.linked, hs.retraceable⟩

/-- Cells that are created change nothing but the grid. -/
theorem createAll_eq {t : Sheet} {ns : List Nat} (ht : s.createAll ns = .ok t) :
    t = { s with grid := t.grid } := by
  induction ns generalizing s with
  | nil =>
    cases ht
    rfl
  | cons n ns ih =>
    simp only [createAll] at ht
    split at ht
    · cases ht
    · split at ht
      · refine (ih ht).trans ?_
        rw [sheet_create]
        split_ifs <;> rfl
      · cases ht

theorem history_createAll {t : Sheet} {ns : List Nat} (ht : s.createAll ns = .ok t) :
    t.history = s.history := by
  rw [createAll_eq ht]

theorem Initial.entries_eq_nil (hs : s.Initial) : s.history.entries = [] := by
  rcases hs with rfl | ⟨settings, hs⟩
  · rfl
  · rw [history_createAll (createAll_of_ofSettings hs)]
    rfl

theorem Initial.sound (hs : s.Initial) : s.Sound := by
  refine ⟨hs.fresh.linked, ?_⟩
  rw [hs.entries_eq_nil]
  trivial

theorem sound_run (hs : s.Initial) (ops : List Operation) : (s.run ops).Sound :=
  run_induction (P := Sound) (fun _ op hs => sound_perform hs op) hs.sound ops

end Sheet
end ReactiveSheet
