import ReactiveSheet.Proofs.Grid.Links
import ReactiveSheet.Proofs.Grid.Values

/-!
Settled cells: those that hold what is computed for them, or are cyclic and in error. Main
statements: a cell that holds what is computed for it is settled if all cells that it reads are
(`SettledAt.of_reads`), and a cell stays settled if nothing changes that it reads, directly or
through others (`SettledAt.congr`).
-/

namespace ReactiveSheet.Grid
open Relation

variable {g h : Grid} {a b : CellId}

/-- Each cell has as subjects the existing cells that its formula refers to. -/
def Tracked (g : Grid) : Prop := ∀ a f, g.formula? a = some f → g.subjects a = g.resolve f

theorem Tracked.covered (hg : g.Tracked) (a : CellId) : g.Covered a := by
  intro f hf r hr hk
  rw [Reads, hg a f hf]
  exact mem_resolve.2 ⟨hr, hk⟩

/-- Links that formulas determine are the same for the same formulas. -/
theorem Tracked.subjects_eq (hh : h.Tracked) (hg : g.Tracked)
    (hf : ∀ a, h.formula? a = g.formula? a) (a : CellId) : h.subjects a = g.subjects a := by
  cases hgf : g.formula? a with
  | some f => rw [hh a f ((hf a).trans hgf), hg a f hgf, resolve_eq hf]
  | none =>
    rw [subjects_eq_empty (not_contains_of_formula? hgf),
      subjects_eq_empty (not_contains_of_formula? ((hf a).trans hgf))]

theorem Tracked.sameShape (hh : h.Tracked) (hg : g.Tracked) (hlh : h.Linked) (hlg : g.Linked)
    (hf : ∀ a, h.formula? a = g.formula? a) : h.SameShape g where
  formula? := hf
  subjects := hh.subjects_eq hg hf
  observers := hlh.observers_eq hlg (hh.subjects_eq hg hf)

/-- A name without a cell has no value that could be out of date. -/
def UpToDate (g : Grid) (a : CellId) : Prop := ∀ v, g.value? a = some v → v.Matches (g.compute a)

theorem upToDate_of_revised {old : Option CellValue}
    (ha : g.value? a = old.map (·.revised (g.compute a))) : g.UpToDate a := by
  intro v hv
  rw [ha] at hv
  obtain ⟨w, _, rfl⟩ := Option.map_eq_some_iff.1 hv
  exact w.revised_matches _

/-- Nothing changes of what a cell depends on: what is computed for it, and the subjects and values
of the cells that it reads, directly or through others. -/
structure Undisturbed (g h : Grid) (a : CellId) : Prop where
  subjects : ∀ b, ReflTransGen g.Reads a b → h.subjects b = g.subjects b
  value? : ∀ b, ReflTransGen g.Reads a b → h.value? b = g.value? b
  compute : h.compute a = g.compute a

theorem Undisturbed.cyclic (hk : Undisturbed g h a) : g.Cyclic a ↔ h.Cyclic a :=
  cyclic_congr hk.subjects

/-- The error of a cyclic cell is that of cycles, or one that is computed for the cell and comes
from a cell that is not cyclic. -/
def Spoiled (g : Grid) (a : CellId) : Prop :=
  g.value? a = some (.error .cyclicDependency) ∨
    ∃ e b, g.value? a = some (.error e) ∧ g.compute a = .error e ∧ TransGen g.Reads a b ∧
      ¬ g.Cyclic b ∧ g.value? b = some (.error e)

theorem Spoiled.exists_error (ha : g.Spoiled a) : ∃ e, g.value? a = some (.error e) := by
  rcases ha with ha | ⟨e, _, ha, _⟩
  · exact ⟨_, ha⟩
  · exact ⟨e, ha⟩

/-- A cell that is not cyclic is up to date, and a cyclic one is in error. -/
structure SettledAt (g : Grid) (a : CellId) : Prop where
  upToDate : ¬ g.Cyclic a → g.UpToDate a
  spoiled : g.Cyclic a → g.Spoiled a

namespace SettledAt

theorem of_marked (hc : g.Cyclic a) (hv : g.value? a = some (.error .cyclicDependency)) :
    g.SettledAt a := ⟨fun hn => absurd hc hn, fun _ => .inl hv⟩

/-- A cyclic cell reads one, which is in error, so that an error is computed for it too. That one
need not be the cell from which the error comes. -/
theorem of_reads (hu : g.UpToDate a) (hs : ∀ s, g.Reads a s → g.SettledAt s) : g.SettledAt a := by
  refine ⟨fun _ => hu, fun hc => ?_⟩
  obtain ⟨s, has, hcs⟩ := hc.exists_reads
  obtain ⟨v, hv⟩ := exists_value? (contains_of_reads has)
  rcases g.compute_cases a with ⟨t, e, hat, ht, he⟩ | ⟨hnone, _⟩
  · have hve : v = .error e := CellValue.matches_error_iff.1 (he ▸ hu v hv)
    subst hve
    by_cases hct : g.Cyclic t
    · rcases (hs t hat).spoiled hct with hmark | ⟨e', b, htv, _, htb, hb, hbv⟩
      · rw [ht] at hmark
        exact .inl (hv.trans hmark)
      · have hee : some (CellValue.error e) = some (.error e') := ht.symm.trans htv
        exact .inr ⟨e, b, hv, he, .head hat htb, hb, hbv.trans hee.symm⟩
    · exact .inr ⟨e, t, hv, he, .single hat, hct, ht⟩
  · obtain ⟨e, hse⟩ := ((hs s has).spoiled hcs).exists_error
    exact absurd hse (hnone s e has)

/-- A cell stays as settled as it is if nothing changes that it depends on. -/
theorem congr (hk : Undisturbed g h a) (ha : g.SettledAt a) : h.SettledAt a := by
  have hcyclic : ∀ b, ReflTransGen g.Reads a b → (g.Cyclic b ↔ h.Cyclic b) := fun b hb =>
    cyclic_congr fun c hc => hk.subjects c (hb.trans hc)
  have hva := hk.value? a .refl
  refine ⟨fun hc v hv => ?_, fun hc => ?_⟩
  · rw [hk.compute]
    exact ha.upToDate (mt (hcyclic a .refl).1 hc) v (hva.symm.trans hv)
  · rcases ha.spoiled ((hcyclic a .refl).2 hc) with hm | ⟨e, b, hae, hce, hab, hb, hbe⟩
    · exact .inl (hva.trans hm)
    · have hr := hab.to_reflTransGen
      have hreads : TransGen g.Reads a b ↔ TransGen h.Reads a b :=
        transGen_congr fun c hc d => by simp only [Reads, hk.subjects c hc]
      exact .inr ⟨e, b, hva.trans hae, hk.compute.trans hce, hreads.1 hab, mt (hcyclic b hr).2 hb,
        (hk.value? b hr).trans hbe⟩

end SettledAt

/-- The error of cycles is not computed for a cell unless the cell reads another one that holds it,
so that it starts from a cell that is cyclic. -/
theorem value?_ne_cyclic (hu : ∀ b, ¬ g.Cyclic b → g.UpToDate b) (ha : ¬ g.Cyclic a) :
    g.value? a ≠ some (.error .cyclicDependency) := by
  refine not_cyclic_induction (P := fun a => g.value? a ≠ some (.error .cyclicDependency)) ?_ ha
  intro a ha ih hv
  have hcomp : g.compute a = .error .cyclicDependency :=
    CellValue.error_matches_iff.1 (hu a ha _ hv)
  rcases g.compute_cases a with ⟨s, e, has, hs, he⟩ | ⟨_, hne⟩
  · rw [he] at hcomp
    rw [hcomp] at hs
    exact ih s has hs
  · exact hne hcomp

/-- A grid in order: links as the formulas have it and inverse to each other, and all cells
settled. -/
structure Settled (g : Grid) : Prop where
  linked : g.Linked
  tracked : g.Tracked
  settledAt : ∀ a, g.SettledAt a

theorem Settled.not_cyclic_of_number {x : Float} (hg : g.Settled)
    (hx : g.value? a = some (.number x)) : ¬ g.Cyclic a := by
  intro hc
  obtain ⟨e, he⟩ := ((hg.settledAt a).spoiled hc).exists_error
  rw [hx] at he
  cases he

end ReactiveSheet.Grid
