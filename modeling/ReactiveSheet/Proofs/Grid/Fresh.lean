import ReactiveSheet.Proofs.Grid.Settled

/-!
Cells that were never edited: they have no links, nothing of a grid depends on them as long as no
formula refers to them, and they hold the zero that is computed for them.
-/

namespace ReactiveSheet.Grid

variable {g : Grid} {a id : CellId}

theorem formula?_insert_fresh (g : Grid) (id a : CellId) :
    (g.insert id .fresh).formula? a = if a = id then some Formula.default else g.formula? a := by
  simp only [formula?, get?_insert]
  split_ifs <;> rfl

theorem value?_insert_fresh (g : Grid) (id a : CellId) :
    (g.insert id .fresh).value? a = if a = id then some .initial else g.value? a := by
  simp only [value?, get?_insert]
  split_ifs <;> rfl

theorem contains_insert_fresh (g : Grid) (id a : CellId) :
    (g.insert id .fresh).contains a = true ↔ a = id ∨ g.contains a = true := by
  simp only [contains, get?_insert]
  split_ifs with ha <;> simp [ha]

section Insert

variable (hid : ¬ g.contains id = true)

include hid

theorem subjects_insert_fresh (a : CellId) : (g.insert id .fresh).subjects a = g.subjects a := by
  simp only [subjects, get?_insert]
  split_ifs with ha
  · rw [ha, get?_eq_none hid]
    rfl
  · rfl

theorem observers_insert_fresh (a : CellId) : (g.insert id .fresh).observers a = g.observers a := by
  simp only [observers, get?_insert]
  split_ifs with ha
  · rw [ha, get?_eq_none hid]
    rfl
  · rfl

theorem linked_insert_fresh (hg : g.Linked) : (g.insert id .fresh).Linked :=
  hg.of_links (subjects_insert_fresh hid) (observers_insert_fresh hid)

end Insert

theorem references_default : Formula.references Formula.default = ∅ := by decide +kernel

theorem substitute_default (u : CellId → Option Float) :
    Formula.substitute Formula.default u = Formula.default := rfl

theorem evaluate_default : Postfix.evaluate Formula.default = .ok 0 := rfl

theorem resolve_default (g : Grid) : g.resolve Formula.default = ∅ := by
  ext a
  rw [mem_resolve, references_default]
  simp

theorem compute_of_default (hf : g.formula? a = some Formula.default) (hs : g.subjects a = ∅) :
    g.compute a = .initial := by
  have hnone : g.firstError? ∅ = none := firstError?_eq_none_iff.2 fun b hb =>
    absurd hb (IdSet.not_mem_empty b)
  rw [compute_eq hf, hs, hnone]
  simp only [substitute_default, evaluate_default]
  rfl

theorem settledAt_of_default (hf : g.formula? a = some Formula.default) (hs : g.subjects a = ∅)
    (hv : g.value? a = some .initial) : g.SettledAt a := by
  refine .of_reads (fun v hv' => ?_) fun s has => ?_
  · rw [compute_of_default hf hs, ← Option.some.inj (hv.symm.trans hv')]
    exact .refl _
  · rw [Reads, hs] at has
    exact absurd has (IdSet.not_mem_empty s)

/-- A grid in which no cell was ever edited. -/
def Fresh (g : Grid) : Prop := ∀ a cell, g.get? a = some cell → cell = .fresh

namespace Fresh

theorem empty : Fresh ∅ := by
  intro a cell hc
  simp at hc

theorem insert (hg : g.Fresh) (id : CellId) : (g.insert id .fresh).Fresh := by
  intro a cell hc
  rw [get?_insert] at hc
  split_ifs at hc
  · exact (Option.some.inj hc).symm
  · exact hg a cell hc

theorem subjects (hg : g.Fresh) (a : CellId) : g.subjects a = ∅ := by
  cases hc : g.get? a with
  | none => simp only [Grid.subjects, hc]
  | some cell =>
    rw [subjects_of_get? hc, hg a cell hc]
    rfl

theorem observers (hg : g.Fresh) (a : CellId) : g.observers a = ∅ := by
  cases hc : g.get? a with
  | none => simp only [Grid.observers, hc]
  | some cell =>
    rw [observers_of_get? hc, hg a cell hc]
    rfl

theorem linked (hg : g.Fresh) : g.Linked :=
  .of_mem_iff fun a b => by rw [hg.subjects, hg.observers]; simp

theorem settledAt (hg : g.Fresh) (a : CellId) : g.SettledAt a := by
  by_cases ha : g.contains a = true
  · obtain ⟨cell, hc⟩ := exists_get? ha
    have hcell := hg a cell hc
    subst hcell
    exact settledAt_of_default (formula?_of_get? hc) (hg.subjects a) (value?_of_get? hc)
  · refine .of_reads (fun v hv => absurd (contains_of_value? hv) ha) fun s hs => ?_
    exact absurd (contains_of_reads hs) ha

theorem settled (hg : g.Fresh) : g.Settled where
  linked := hg.linked
  tracked a f hf := by
    obtain ⟨cell, hc⟩ := exists_get? (contains_of_formula? hf)
    rw [formula?_of_get? hc, hg a cell hc] at hf
    rw [hg.subjects, ← Option.some.inj hf]
    exact (resolve_default g).symm
  settledAt := hg.settledAt

end Fresh

section Create

variable (hid : ¬ g.contains id = true)
  (href : ∀ a f, g.formula? a = some f → id ∉ Formula.references f)

include hid href

theorem tracked_insert_fresh (hg : g.Tracked) : (g.insert id .fresh).Tracked := by
  intro a f hf
  rw [subjects_insert_fresh hid]
  rw [formula?_insert_fresh] at hf
  split_ifs at hf with ha
  · rw [ha, subjects_eq_empty hid, ← Option.some.inj hf, resolve_default]
  · rw [hg a f hf]
    ext r
    rw [mem_resolve, mem_resolve, contains_insert_fresh]
    refine and_congr_right fun hr => (or_iff_right ?_).symm
    rintro rfl
    exact href a f hf hr

/-- A cell does not come to read a new one to which no formula refers. -/
theorem undisturbed_insert_fresh (hg : g.Linked) (ha : a ≠ id) :
    Undisturbed g (g.insert id .fresh) a := by
  have hsub := subjects_insert_fresh hid
  have hval : ∀ b, b ≠ id → (g.insert id .fresh).value? b = g.value? b := by
    intro b hb
    rw [value?_insert_fresh, if_neg hb]
  have hne : ∀ b, Relation.ReflTransGen g.Reads a b → b ≠ id := by
    rintro b hab rfl
    rcases Relation.reflTransGen_iff_eq_or_transGen.1 hab with h | h
    · exact ha h.symm
    · exact hid (hg.contains_of_transGen h)
  refine ⟨fun b _ => hsub b, fun b hb => hval b (hne b hb), ?_⟩
  refine compute_congr ?_ (hsub a) (fun s hs => hval s (hne s (.single hs))) ?_
  · rw [formula?_insert_fresh, if_neg ha]
  · intro f hf r hr
    refine hval r ?_
    rintro rfl
    exact href a f hf hr

theorem Settled.insert_fresh (hg : g.Settled) : (g.insert id .fresh).Settled := by
  refine ⟨linked_insert_fresh hid hg.linked, tracked_insert_fresh hid href hg.tracked, fun a => ?_⟩
  by_cases ha : a = id
  · subst ha
    refine settledAt_of_default ?_ ?_ ?_
    · rw [formula?_insert_fresh, if_pos rfl]
    · rw [subjects_insert_fresh hid, subjects_eq_empty hid]
    · rw [value?_insert_fresh, if_pos rfl]
  · exact (hg.settledAt a).congr (undisturbed_insert_fresh hid href hg.linked ha)

end Create

end ReactiveSheet.Grid
