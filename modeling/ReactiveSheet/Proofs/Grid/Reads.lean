import Mathlib.Data.List.FinRange
import Mathlib.Data.Fintype.EquivFin
import ReactiveSheet.Grid.Links
import ReactiveSheet.Proofs.Reach

/-!
How many members a set of cells has, which cells a cell reads, directly or through others, and
cycles of reading cells.
-/

namespace ReactiveSheet

namespace CellId

instance : Finite CellId :=
  .of_injective CellId.index fun _ _ h => CellId.ext h

theorem all_nodup : all.Nodup :=
  (List.nodup_finRange 26).map fun _ _ h => congrArg CellId.index h

end CellId

namespace IdSet

variable {s t : IdSet} {a : CellId}

theorem toList_nodup (s : IdSet) : s.toList.Nodup := CellId.all_nodup.filter _

theorem size_le_count (s : IdSet) : s.size ≤ CellId.count := List.length_filter_le ..

theorem size_eq_zero_iff : s.size = 0 ↔ ∀ a, a ∉ s := by
  simp [size, List.eq_nil_iff_forall_not_mem]

theorem size_mono (h : ∀ a, a ∈ s → a ∈ t) : s.size ≤ t.size := by
  refine (List.subperm_of_subset s.toList_nodup fun a ha => ?_).length_le
  simp only [mem_toList] at ha ⊢
  exact h a ha

theorem size_insert (h : a ∉ s) : (s.insert a).size = s.size + 1 := by
  have hn : (a :: s.toList).Nodup := by
    simp [toList_nodup, h]
  have hp : (s.insert a).toList.Perm (a :: s.toList) := by
    rw [List.perm_ext_iff_of_nodup (toList_nodup _) hn]
    simp
  exact hp.length_eq

theorem insert_erase (h : a ∈ s) : (s.erase a).insert a = s := by
  ext x
  by_cases hx : x = a <;> simp [hx, h]

theorem size_erase (h : a ∈ s) : (s.erase a).size + 1 = s.size := by
  rw [← size_insert (by simp : a ∉ s.erase a), insert_erase h]

end IdSet

namespace Grid
open Relation

variable {g h : Grid} {a b : CellId}

/-- A cell reads its subjects. -/
def Reads (g : Grid) (a b : CellId) : Prop := b ∈ g.subjects a

instance (g : Grid) (a b : CellId) : Decidable (g.Reads a b) :=
  inferInstanceAs (Decidable (b ∈ g.subjects a))

/-- A cell is on a cycle if it reads itself, directly or through others. -/
def OnCycle (g : Grid) (a : CellId) : Prop := TransGen g.Reads a a

/-- A cell is cyclic if it is on a cycle or reads one, directly or through others. -/
def Cyclic (g : Grid) (a : CellId) : Prop := ∃ b, ReflTransGen g.Reads a b ∧ g.OnCycle b

theorem OnCycle.cyclic (ha : g.OnCycle a) : g.Cyclic a := LeadsToCycle.of_cycle ha

theorem Cyclic.of_reads (hab : g.Reads a b) (hb : g.Cyclic b) : g.Cyclic a :=
  LeadsToCycle.of_step hab hb

theorem Cyclic.exists_reads (ha : g.Cyclic a) : ∃ b, g.Reads a b ∧ g.Cyclic b :=
  LeadsToCycle.exists_step ha

theorem not_cyclic_of_subjects (ha : g.subjects a = ∅) : ¬ g.Cyclic a := by
  intro hc
  obtain ⟨b, hb, _⟩ := hc.exists_reads
  rw [Reads, ha] at hb
  exact IdSet.not_mem_empty b hb

/-- Induction over what a cell reads, for cells that are not cyclic. -/
theorem not_cyclic_induction {P : CellId → Prop}
    (step : ∀ a, ¬ g.Cyclic a → (∀ b, g.Reads a b → P b) → P a) (ha : ¬ g.Cyclic a) : P a :=
  LeadsToCycle.not_induction step ha

theorem reads_eq (hs : ∀ a, h.subjects a = g.subjects a) : h.Reads = g.Reads := by
  funext a b
  simp only [Reads, hs]

theorem onCycle_eq (hs : ∀ a, h.subjects a = g.subjects a) : h.OnCycle = g.OnCycle := by
  funext a
  simp only [OnCycle, reads_eq hs]

theorem cyclic_eq (hs : ∀ a, h.subjects a = g.subjects a) : h.Cyclic = g.Cyclic := by
  funext a
  simp only [Cyclic, reads_eq hs, onCycle_eq hs]

/-- Whether a cell is cyclic depends on the subjects of the cells that it reads, directly or through
others. -/
theorem cyclic_congr (hs : ∀ b, ReflTransGen g.Reads a b → h.subjects b = g.subjects b) :
    g.Cyclic a ↔ h.Cyclic a :=
  LeadsToCycle.congr fun b hb c => by simp only [Reads, hs b hb]

section Frame

variable {o : CellId} (hs : ∀ a, a ≠ o → h.subjects a = g.subjects a)

include hs

/-- New subjects of a cell do not matter to the cells that do not read it. -/
theorem reads_iff_of_not_reads (ha : ¬ ReflTransGen g.Reads a o) (hab : ReflTransGen g.Reads a b)
    (c : CellId) : g.Reads b c ↔ h.Reads b c := by
  have hb : b ≠ o := by
    rintro rfl
    exact ha hab
  simp only [Reads, hs b hb]

theorem reflTransGen_iff_of_not_reads (ha : ¬ ReflTransGen g.Reads a o) :
    ReflTransGen g.Reads a b ↔ ReflTransGen h.Reads a b :=
  reflTransGen_congr fun _ hab => reads_iff_of_not_reads hs ha hab

theorem reflTransGen_origin_iff : ReflTransGen g.Reads a o ↔ ReflTransGen h.Reads a o := by
  constructor
  · intro hg
    by_contra hh
    exact hh ((reflTransGen_iff_of_not_reads (fun b hb => (hs b hb).symm) hh).2 hg)
  · intro hh
    by_contra hg
    exact hg ((reflTransGen_iff_of_not_reads hs hg).2 hh)

end Frame

theorem contains_of_reads (hab : g.Reads a b) : g.contains a = true := contains_of_mem_subjects hab

theorem Linked.reads_iff (hg : g.Linked) : g.Reads a b ↔ a ∈ g.observers b :=
  (hg.mem_observers_iff b a).symm

theorem Linked.contains_of_transGen (hg : g.Linked) (hab : TransGen g.Reads a b) :
    g.contains b = true := by
  obtain ⟨c, _, hcb⟩ := TransGen.tail'_iff.1 hab
  exact hg.contains_of_mem b c hcb

end Grid
end ReactiveSheet
