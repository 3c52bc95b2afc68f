import ReactiveSheet.Proofs.Grid.Pass

/-!
The cells that a pass notes. Main statement: recomputing notes the cells that look different after
it, and besides them only some that hold NaN (`Reports.recompute`).
-/

namespace ReactiveSheet.Grid

variable {g h : Grid} {p : Pass} {a : CellId}

theorem view?_eq_iff :
    h.view? a = g.view? a ↔ h.formula? a = g.formula? a ∧ h.value? a = g.value? a := by
  unfold view? formula? value?
  cases h.get? a <;> cases g.get? a <;> simp [Cell.view]

theorem view?_eq_some {f : String} {v : CellValue} (hf : g.formula? a = some f)
    (hv : g.value? a = some v) : g.view? a = some ⟨a, f, v⟩ := by
  obtain ⟨cell, hcell⟩ := exists_get? (contains_of_formula? hf)
  rw [formula?_of_get? hcell] at hf
  rw [value?_of_get? hcell] at hv
  simp [view?, hcell, Cell.view, Option.some.inj hf, Option.some.inj hv]

theorem id_of_view? {view : CellView} (hv : g.view? a = some view) : view.id = a := by
  obtain ⟨cell, _, rfl⟩ := Option.map_eq_some_iff.1 hv
  rfl

theorem exists_view? (ha : g.contains a = true) : ∃ view, g.view? a = some view ∧ view.id = a := by
  obtain ⟨cell, hcell⟩ := exists_get? ha
  have hview : g.view? a = some (cell.view a) := by rw [view?, hcell, Option.map_some]
  exact ⟨cell.view a, hview, id_of_view? hview⟩

theorem contains_of_differs {v : CellValue} (hd : g.differs a v = true) : g.contains a = true := by
  rw [differs_eq, Option.any_eq_true] at hd
  obtain ⟨old, hold, _⟩ := hd
  exact contains_of_value? hold

/-- A value that compares as different is held once it is stored, and was not held before unless it
is NaN. -/
theorem value?_store_of_differs {v : CellValue} (hd : g.differs a v = true) :
    (g.store a v).value? a = some v ∧ (g.value? a = some v → v = .number Binary64.nan) := by
  rw [differs_eq, Option.any_eq_true] at hd
  obtain ⟨old, hold, hd⟩ := hd
  rw [Bool.not_eq_true'] at hd
  refine ⟨?_, fun hv => ?_⟩
  · rw [value?_store, if_pos rfl, hold, Option.map_some, CellValue.revised, if_neg (by simp [hd])]
  · obtain rfl := Option.some.inj (hold.symm.trans hv)
    exact CellValue.agrees_self_eq_false_iff.1 hd

namespace Pass

variable {id : CellId} {v : CellValue} {as : List (CellId × CellValue)}

theorem assign_of_not_differs (hd : ¬ p.grid.differs id v = true) : p.assign id v = p := by
  rw [assign, store, if_neg hd, if_neg hd]

theorem changed_assign (hid : id ∉ p.changed) (hd : p.grid.differs id v = true) :
    (p.assign id v).changed = p.changed ++ [id] := by
  rw [assign, if_pos hd, note, if_neg hid]

theorem mem_changed_assign :
    a ∈ (p.assign id v).changed ↔ a ∈ p.changed ∨ a = id ∧ p.grid.differs id v = true := by
  by_cases hd : p.grid.differs id v = true
  · by_cases hid : id ∈ p.changed
    · have hkept : (p.assign id v).changed = p.changed := by
        rw [assign, if_pos hd, note, if_pos hid]
      rw [hkept]
      refine (or_iff_left_of_imp ?_).symm
      rintro ⟨rfl, _⟩
      exact hid
    · rw [changed_assign hid hd]
      simp [hd]
  · rw [assign_of_not_differs hd]
    simp [hd]

/-- The cells that a pass has noted are those that look different from how they looked in a grid,
except that cells which hold NaN may be among them in any case. -/
structure Reports (g : Grid) (p : Pass) : Prop where
  nodup : p.changed.Nodup
  contains : ∀ a ∈ p.changed, p.grid.contains a = true
  unchanged : ∀ a, a ∉ p.changed → p.grid.view? a = g.view? a
  changed : ∀ a ∈ p.changed,
    p.grid.view? a ≠ g.view? a ∨ p.grid.value? a = some (.number Binary64.nan)

/-- A cell that is given a value, and was not noted before, is noted if it comes to look
different. -/
theorem Reports.assign (hp : Reports g p) (hid : id ∉ p.changed) : Reports g (p.assign id v) := by
  by_cases hd : p.grid.differs id v = true
  · have hshape : (p.assign id v).grid.SameShape p.grid := sameShape_store p.grid id v
    have hkept : ∀ a, a ≠ id → (p.assign id v).grid.view? a = p.grid.view? a := fun a ha =>
      view?_eq_iff.2 ⟨hshape.formula? a, value?_assign_of_ne ha⟩
    refine ⟨?_, fun a ha => ?_, fun a ha => ?_, fun a ha => ?_⟩
    · rw [changed_assign hid hd]
      exact hp.nodup.append (List.nodup_singleton id) (by simpa using hid)
    · rw [hshape.contains]
      rcases mem_changed_assign.1 ha with ha | ⟨rfl, _⟩
      · exact hp.contains a ha
      · exact contains_of_differs hd
    · rw [mem_changed_assign, not_or] at ha
      rw [hkept a fun heq => ha.2 ⟨heq, hd⟩, hp.unchanged a ha.1]
    · rcases mem_changed_assign.1 ha with ha | ⟨rfl, _⟩
      · have hsame := hkept a (ne_of_mem_of_not_mem ha hid)
        rw [hsame, (view?_eq_iff.1 hsame).2]
        exact hp.changed a ha
      · -- The noted cell looked as in `g` before, so that only NaN over NaN leaves it the same.
        have hnew := value?_store_of_differs hd
        rw [or_iff_not_imp_left, not_not, ← hp.unchanged a hid]
        intro hsame
        have hold : p.grid.value? a = some v := (view?_eq_iff.1 hsame).2.symm.trans hnew.1
        exact hnew.1.trans (congrArg some (hnew.2 hold))
  · rwa [assign_of_not_differs hd]

theorem Reports.assignAll (hp : Reports g p) (hn : (as.map Prod.fst).Nodup)
    (hd : ∀ a ∈ as.map Prod.fst, a ∉ p.changed) : Reports g (p.assignAll as) := by
  induction as generalizing p with
  | nil => exact hp
  | cons c as ih =>
    obtain ⟨hc, hn⟩ := List.nodup_cons.1 hn
    rw [assignAll_cons]
    refine ih (hp.assign (hd c.1 List.mem_cons_self)) hn fun a ha hmem => ?_
    rcases mem_changed_assign.1 hmem with hmem | ⟨rfl, _⟩
    · exact hd a (List.mem_cons_of_mem _ ha) hmem
    · exact hc ha

theorem Reports.nil (hview : ∀ a, h.view? a = g.view? a) : Reports g ⟨h, []⟩ :=
  ⟨List.nodup_nil, nofun, fun a _ => hview a, nofun⟩

/-- A cell that has another formula than in a grid is all that is noted. -/
theorem Reports.single {id : CellId} (hid : h.contains id = true)
    (hf : h.formula? id ≠ g.formula? id) (hother : ∀ a, a ≠ id → h.view? a = g.view? a) :
    Reports g ⟨h, [id]⟩ := by
  refine ⟨List.nodup_singleton id, fun a ha => ?_, fun a ha => ?_, fun a ha => .inl ?_⟩
  · rwa [List.mem_singleton.1 ha]
  · exact hother a fun heq => ha (List.mem_singleton.2 heq)
  · rw [List.mem_singleton.1 ha]
    exact fun heq => hf (view?_eq_iff.1 heq).1

/-- Recomputing cells that are not noted yet notes those that come to look different. -/
theorem Reports.recompute (hp : Reports g p) (hl : p.grid.Linked) {affected : IdSet}
    (hd : ∀ a ∈ affected, a ∉ p.changed) : Reports g (p.recompute affected) := by
  rw [recompute_eq]
  refine hp.assignAll (nodup_assignments hl affected) fun a ha => ?_
  exact hd a ((mem_map_fst_assignments hl).1 ha)

theorem mem_changed_assignAll_of_mem (ha : a ∈ p.changed) (as : List (CellId × CellValue)) :
    a ∈ (p.assignAll as).changed := by
  induction as generalizing p with
  | nil => exact ha
  | cons c as ih => exact ih (mem_changed_assign.2 (.inl ha))

/-- A cell that holds NaN is noted whatever it is given. -/
theorem mem_changed_assignAll_of_nan (ha : a ∈ as.map Prod.fst)
    (hv : p.grid.value? a = some (.number Binary64.nan)) : a ∈ (p.assignAll as).changed := by
  induction as generalizing p with
  | nil => exact absurd ha List.not_mem_nil
  | cons c as ih =>
    rw [assignAll_cons]
    by_cases hc : a = c.1
    · have hd : p.grid.differs a c.2 = true := by
        rw [differs_eq, hv, Option.any_some, CellValue.nan_agrees, Bool.not_false]
      exact mem_changed_assignAll_of_mem (mem_changed_assign.2 (.inr ⟨hc, hc ▸ hd⟩)) as
    · refine ih ((List.mem_cons.1 ha).resolve_left hc) ?_
      rw [value?_assign_of_ne hc, hv]

theorem mem_changed_recompute_of_nan (hl : p.grid.Linked) {affected : IdSet} (ha : a ∈ affected)
    (hv : p.grid.value? a = some (.number Binary64.nan)) : a ∈ (p.recompute affected).changed := by
  rw [recompute_eq]
  exact mem_changed_assignAll_of_nan ((mem_map_fst_assignments hl).2 ha) hv

end Pass
end ReactiveSheet.Grid
