import Mathlib.Data.List.Basic
import ReactiveSheet.Grid.Recompute
import ReactiveSheet.Proofs.CellValue
import ReactiveSheet.Proofs.Grid.Shape

/-!
What the value of a cell depends on. Main statements: it depends on the formula, the subjects and
what is held by the cells that the formula refers to (`compute_congr`), and it is an error that is
read or the result of the formula (`compute_cases`).
-/

namespace ReactiveSheet

theorem Formula.replace_congr {formula : String} {u v : CellId → List Char}
    (h : ∀ r ∈ references formula, u r = v r) : replace formula u = replace formula v := by
  have hrender : ∀ p ∈ pieces formula.toList, p.render u = p.render v := by
    intro p hp
    cases p with
    | char c => rfl
    | reference r =>
      refine h r (IdSet.mem_ofList.2 (List.mem_filterMap.2 ⟨_, hp, rfl⟩))
  rw [replace, List.flatMap_congr hrender, replace]

theorem Formula.substitute_congr {formula : String} {u v : CellId → Option Float}
    (h : ∀ r ∈ references formula, (u r).getD 0 = (v r).getD 0) :
    substitute formula u = substitute formula v :=
  replace_congr fun r hr => by rw [h r hr]

namespace Grid

variable {g h : Grid} {a b id : CellId} {v : CellValue}

theorem value?_modify_value (g : Grid) (id a : CellId) (v : CellValue) :
    (g.modify id fun cell => { cell with value := v }).value? a =
      if a = id then (g.value? id).map fun _ => v else g.value? a := by
  simp only [value?, get?_modify]
  split_ifs
  · cases g.get? id <;> rfl
  · rfl

theorem value?_store (g : Grid) (id a : CellId) (v : CellValue) :
    (g.store id v).value? a = if a = id then (g.value? id).map (·.revised v) else g.value? a := by
  unfold store differs
  cases hc : g.get? id with
  | none =>
    have hnone : g.value? id = none := by simp [value?, hc]
    simp only [Bool.false_eq_true, if_false, hnone, Option.map_none]
    split_ifs with ha
    · rw [ha, hnone]
    · rfl
  | some cell =>
    have hv := value?_of_get? hc
    by_cases hd : cell.value.agrees v = true
    · simp only [hd, Bool.not_true, Bool.false_eq_true, if_false, hv, Option.map_some,
        CellValue.revised, if_true]
      split_ifs with ha
      · rw [ha, hv]
      · rfl
    · simp only [hd, Bool.not_false, if_true, value?_modify_value, hv, Option.map_some,
        CellValue.revised, if_false, Bool.false_eq_true]

theorem sameShape_store (g : Grid) (id : CellId) (v : CellValue) : (g.store id v).SameShape g := by
  unfold store
  split_ifs
  · exact sameShape_modify (fun _ => rfl) (fun _ => rfl) (fun _ => rfl)
  · exact .refl g

theorem compute_eq {f : String} (hf : g.formula? a = some f) :
    g.compute a = match g.firstError? (g.subjects a) with
      | some e => .error e
      | none => .ofResult (Postfix.evaluate (Formula.substitute f g.number?)) := by
  obtain ⟨cell, hc⟩ := exists_get? (contains_of_formula? hf)
  have hcell : cell.formula = f := Option.some.inj ((formula?_of_get? hc).symm.trans hf)
  have hs := subjects_of_get? hc
  cases he : g.firstError? cell.subjects with
  | none => simp only [compute, hc, hs, he, hcell]
  | some e => simp only [compute, hc, hs, he]

theorem compute_of_not_contains (ha : ¬ g.contains a = true) :
    g.compute a = .error .malformedExpression := by
  simp only [compute, get?_eq_none ha]

theorem firstError?_eq_findSome? (g : Grid) (s : IdSet) :
    g.firstError? s =
      CellId.all.findSome? fun b => if b ∈ s then (g.value? b).bind CellValue.error? else none := by
  unfold firstError? IdSet.toList
  generalize CellId.all = bs
  induction bs with
  | nil => rfl
  | cons b bs ih =>
    by_cases hb : b ∈ s <;> simp [hb, ih, List.findSome?_cons]

/-- Which error is the first one depends on which cells of the set hold an error. -/
theorem firstError?_congr {s t : IdSet}
    (he : ∀ b e, b ∈ t ∧ h.value? b = some (.error e) ↔ b ∈ s ∧ g.value? b = some (.error e)) :
    h.firstError? t = g.firstError? s := by
  rw [firstError?_eq_findSome?, firstError?_eq_findSome?]
  congr 1
  funext b
  ext e
  simpa [Option.bind_eq_some_iff, CellValue.error?_eq_some_iff] using he b e

/-- A cell is computed from its formula, the errors of the cells that it reads and the numbers of
those to which it refers, zero if they have none. -/
theorem compute_congr_of_numbers (hf : h.formula? a = g.formula? a)
    (he : ∀ b e, h.Reads a b ∧ h.value? b = some (.error e) ↔
      g.Reads a b ∧ g.value? b = some (.error e))
    (hr : ∀ f, g.formula? a = some f → ∀ r ∈ Formula.references f,
      (h.number? r).getD 0 = (g.number? r).getD 0) : h.compute a = g.compute a := by
  cases hformula : g.formula? a with
  | none =>
    rw [compute_of_not_contains (not_contains_of_formula? hformula),
      compute_of_not_contains (not_contains_of_formula? (hf.trans hformula))]
  | some f =>
    rw [compute_eq hformula, compute_eq (hf.trans hformula), firstError?_congr he,
      Formula.substitute_congr (hr f hformula)]

/-- A cell is computed from its formula, its subjects and what the cells hold that it refers to. -/
theorem compute_congr (hf : h.formula? a = g.formula? a) (hs : h.subjects a = g.subjects a)
    (hv : ∀ s, g.Reads a s → h.value? s = g.value? s)
    (hr : ∀ f, g.formula? a = some f → ∀ r ∈ Formula.references f, h.value? r = g.value? r) :
    h.compute a = g.compute a := by
  refine compute_congr_of_numbers hf (fun b e => ?_) fun f hformula r hm => ?_
  · rw [Reads, hs]
    exact and_congr_right fun hb => by rw [hv b hb]
  · simp only [number?, hr f hformula r hm]

/-- The subjects of a cell take in all existing cells that its formula refers to. -/
def Covered (g : Grid) (a : CellId) : Prop :=
  ∀ f, g.formula? a = some f → ∀ r ∈ Formula.references f, g.contains r = true → g.Reads a r

/-- A covered cell is computed from its formula, its subjects and what these hold. -/
theorem Covered.compute_eq (ha : g.Covered a) (hk : ∀ b, h.contains b = g.contains b)
    (hf : h.formula? a = g.formula? a) (hs : h.subjects a = g.subjects a)
    (hv : ∀ s, g.Reads a s → h.value? s = g.value? s) : h.compute a = g.compute a := by
  refine compute_congr hf hs hv fun f hformula r hr => ?_
  by_cases hc : g.contains r = true
  · exact hv r (ha f hformula r hr hc)
  · rw [value?_eq_none hc, value?_eq_none (by rwa [hk])]

theorem firstError?_eq_none_iff {s : IdSet} :
    g.firstError? s = none ↔ ∀ b ∈ s, ∀ e, g.value? b ≠ some (.error e) := by
  unfold firstError?
  rw [List.findSome?_eq_none_iff]
  refine forall_congr' fun b => ?_
  rw [IdSet.mem_toList]
  refine imp_congr_right fun _ => ?_
  cases g.value? b with
  | none => simp
  | some v => cases v <;> simp [CellValue.error?]

theorem exists_of_firstError?_eq_some {s : IdSet} {e : CellError} (he : g.firstError? s = some e) :
    ∃ b ∈ s, g.value? b = some (.error e) := by
  obtain ⟨b, hb, hbe⟩ := List.exists_of_findSome?_eq_some he
  obtain ⟨v, hv, hve⟩ := Option.bind_eq_some_iff.1 hbe
  rw [CellValue.error?_eq_some_iff] at hve
  exact ⟨b, IdSet.mem_toList.1 hb, hve ▸ hv⟩

/-- A number is the value of the formula, with no error among what is read. -/
theorem compute_eq_number_iff {f : String} {x : Float} (hf : g.formula? a = some f) :
    g.compute a = .number x ↔ (∀ b e, g.Reads a b → g.value? b ≠ some (.error e)) ∧
      Postfix.evaluate (Formula.substitute f g.number?) = .ok x := by
  rw [compute_eq hf]
  cases he : g.firstError? (g.subjects a) with
  | some e =>
    obtain ⟨b, hb, hv⟩ := exists_of_firstError?_eq_some he
    exact iff_of_false nofun fun h => h.1 b e hb hv
  | none =>
    have hnone : ∀ b e, g.Reads a b → g.value? b ≠ some (.error e) := fun b e hb =>
      firstError?_eq_none_iff.1 he b hb e
    rw [and_iff_right hnone]
    cases Postfix.evaluate (Formula.substitute f g.number?) <;> simp [CellValue.ofResult]

/-- A value that is computed is the error of a cell that is read, or no such cell is in error and
the value is not the error of a cycle. -/
theorem compute_cases (g : Grid) (a : CellId) :
    (∃ s e, g.Reads a s ∧ g.value? s = some (.error e) ∧ g.compute a = .error e) ∨
      ((∀ s e, g.Reads a s → g.value? s ≠ some (.error e)) ∧
        g.compute a ≠ .error .cyclicDependency) := by
  cases hf : g.formula? a with
  | none =>
    have ha := not_contains_of_formula? hf
    refine .inr ⟨fun s e hs => absurd (contains_of_reads hs) ha, ?_⟩
    simp [compute_of_not_contains ha]
  | some f =>
    rw [compute_eq hf]
    cases he : g.firstError? (g.subjects a) with
    | none =>
      exact .inr ⟨fun s e hs => firstError?_eq_none_iff.1 he s hs e, CellValue.ofResult_ne_cyclic _⟩
    | some e =>
      obtain ⟨s, hs, hv⟩ := exists_of_firstError?_eq_some he
      exact .inl ⟨s, e, hs, hv, rfl⟩

end Grid
end ReactiveSheet
