import ReactiveSheet.Grid.Links
import ReactiveSheet.Proofs.Grid.Reads

/-!
The search for a cycle through a cell. Main statement: it finds one exactly if the cell is on a
cycle (`findCycle?_isSome_iff`). The links need not be inverse to each other.
-/

namespace ReactiveSheet.Grid
open Relation

variable {g : Grid} {origin : CellId} {trails : List (List CellId)} {reached : IdSet}

/-- The cells by which a trail can go on. -/
def continuations (g : Grid) : List CellId → List CellId
  | [] => []
  | last :: _ => (g.subjects last).toList

theorem mem_continuations {t : List CellId} {b : CellId} :
    b ∈ g.continuations t ↔ ∃ a, t.head? = some a ∧ g.Reads a b := by
  cases t <;> simp [continuations, Reads]

theorem closes_iff {t : List CellId} :
    g.closes origin t = true ↔ ∃ a, t.head? = some a ∧ g.Reads a origin := by
  cases t <;> simp [closes, Reads]

/-- Goes on along pairs of a trail and a next cell. -/
def extendTrails (pairs : List (List CellId × CellId)) (acc : List (List CellId) × IdSet) :
    List (List CellId) × IdSet :=
  pairs.foldl (fun acc p => extendTrail p.1 acc p.2) acc

/-- All trails with the cells by which they can go on. -/
def extensions (g : Grid) (trails : List (List CellId)) : List (List CellId × CellId) :=
  trails.flatMap fun t => (g.continuations t).map (t, ·)

theorem mem_extensions {t : List CellId} {b : CellId} :
    (t, b) ∈ g.extensions trails ↔ t ∈ trails ∧ ∃ a, t.head? = some a ∧ g.Reads a b := by
  simp [extensions, mem_continuations]

theorem nextTrails_eq :
    g.nextTrails trails reached = extendTrails (g.extensions trails) ([], reached) := by
  simp only [extendTrails, extensions, List.foldl_flatMap, List.foldl_map]
  unfold nextTrails
  congr 1
  funext acc t
  cases t <;> rfl

theorem extendTrail_old {t : List CellId} {acc : List (List CellId) × IdSet} {b : CellId}
    (h : b ∈ acc.2) : extendTrail t acc b = acc := if_pos h

theorem extendTrail_new {t : List CellId} {acc : List (List CellId) × IdSet} {b : CellId}
    (h : b ∉ acc.2) : extendTrail t acc b = (acc.1 ++ [b :: t], acc.2.insert b) := if_neg h

theorem mem_extendTrails_snd (pairs : List (List CellId × CellId))
    (acc : List (List CellId) × IdSet) (b : CellId) :
    b ∈ (extendTrails pairs acc).2 ↔ b ∈ acc.2 ∨ ∃ t, (t, b) ∈ pairs := by
  induction pairs generalizing acc with
  | nil => simp [extendTrails]
  | cons p pairs ih =>
    rw [extendTrails, List.foldl_cons, ← extendTrails, ih]
    by_cases h : p.2 ∈ acc.2
    · rw [extendTrail_old h]
      grind
    · rw [extendTrail_new h]
      grind [IdSet.mem_insert]

/-- A trail that is kept, or made from a pair whose cell was not reached before. -/
theorem of_mem_extendTrails_fst (pairs : List (List CellId × CellId))
    (acc : List (List CellId) × IdSet) {t : List CellId} (ht : t ∈ (extendTrails pairs acc).1) :
    t ∈ acc.1 ∨ ∃ p ∈ pairs, t = p.2 :: p.1 ∧ p.2 ∉ acc.2 := by
  induction pairs generalizing acc with
  | nil => exact .inl ht
  | cons p pairs ih =>
    rw [extendTrails, List.foldl_cons, ← extendTrails] at ht
    by_cases h : p.2 ∈ acc.2
    · rw [extendTrail_old h] at ht
      exact (ih acc ht).imp_right fun ⟨q, hq, hqt⟩ => ⟨q, List.mem_cons_of_mem p hq, hqt⟩
    · rw [extendTrail_new h] at ht
      rcases ih _ ht with ht | ⟨q, hq, rfl, hn⟩
      · rcases List.mem_append.1 ht with ht | ht
        · exact .inl ht
        · exact .inr ⟨p, List.mem_cons_self, List.mem_singleton.1 ht, h⟩
      · exact .inr ⟨q, List.mem_cons_of_mem p hq, rfl, fun hm => hn (IdSet.mem_insert.2 (.inr hm))⟩

/-- Every cell that is reached for the first time has a trail that leads there. -/
theorem exists_trail_of_mem_snd (pairs : List (List CellId × CellId))
    (acc : List (List CellId) × IdSet)
    (hacc : ∀ b ∈ acc.2, b ∈ reached ∨ ∃ t ∈ acc.1, t.head? = some b) :
    ∀ b ∈ (extendTrails pairs acc).2,
      b ∈ reached ∨ ∃ t ∈ (extendTrails pairs acc).1, t.head? = some b := by
  induction pairs generalizing acc with
  | nil => exact hacc
  | cons p pairs ih =>
    rw [extendTrails, List.foldl_cons, ← extendTrails]
    apply ih
    by_cases h : p.2 ∈ acc.2
    · rw [extendTrail_old h]
      exact hacc
    · rw [extendTrail_new h]
      intro b hb
      rcases IdSet.mem_insert.1 hb with rfl | hb
      · exact .inr ⟨p.2 :: p.1, by simp, rfl⟩
      · refine (hacc b hb).imp_right fun ⟨t, ht, hb⟩ => ⟨t, ?_, hb⟩
        exact List.mem_append_left _ ht

theorem mem_nextTrails_snd {b : CellId} :
    b ∈ (g.nextTrails trails reached).2 ↔
      b ∈ reached ∨ ∃ t ∈ trails, ∃ a, t.head? = some a ∧ g.Reads a b := by
  rw [nextTrails_eq, mem_extendTrails_snd]
  simp only [mem_extensions]

theorem of_mem_nextTrails_fst {t : List CellId} (ht : t ∈ (g.nextTrails trails reached).1) :
    ∃ trail ∈ trails, ∃ a b, trail.head? = some a ∧ g.Reads a b ∧ t = b :: trail ∧ b ∉ reached := by
  rw [nextTrails_eq] at ht
  rcases of_mem_extendTrails_fst _ _ ht with ht | ⟨p, hp, ht, hn⟩
  · exact absurd ht List.not_mem_nil
  · obtain ⟨hm, a, ha, hab⟩ := mem_extensions.1 hp
    exact ⟨p.1, hm, a, p.2, ha, hab, ht, hn⟩

theorem exists_trail_of_mem_nextTrails {b : CellId} (hb : b ∈ (g.nextTrails trails reached).2) :
    b ∈ reached ∨ ∃ t ∈ (g.nextTrails trails reached).1, t.head? = some b := by
  rw [nextTrails_eq] at hb ⊢
  exact exists_trail_of_mem_snd _ _ (fun _ h => .inl h) b hb

/-- A round that leads to new trails reaches a new cell. -/
theorem size_nextTrails (h : (g.nextTrails trails reached).1 ≠ []) :
    reached.size + 1 ≤ (g.nextTrails trails reached).2.size := by
  obtain ⟨t, ht⟩ := List.exists_mem_of_ne_nil _ h
  obtain ⟨trail, htr, a, b, ha, hab, -, hb⟩ := of_mem_nextTrails_fst ht
  rw [← IdSet.size_insert hb]
  refine IdSet.size_mono fun x hx => mem_nextTrails_snd.2 ?_
  rcases IdSet.mem_insert.1 hx with rfl | hx
  · exact .inr ⟨trail, htr, a, ha, hab⟩
  · exact .inl hx

/-- A search for a cycle through `origin`: each trail leads to a cell that `origin` reads, and a
reached cell where no trail ends does not close a cycle and leads to reached cells only. -/
structure Searching (g : Grid) (origin : CellId) (trails : List (List CellId)) (reached : IdSet) :
    Prop where
  origin_mem : origin ∈ reached
  trail : ∀ t ∈ trails, ∀ a, t.head? = some a → ReflTransGen g.Reads origin a
  closed : ∀ a ∈ reached, (∃ t ∈ trails, t.head? = some a) ∨
    (¬ g.Reads a origin ∧ ∀ b, g.Reads a b → b ∈ reached)

theorem Searching.start : Searching g origin [[origin]] (IdSet.empty.insert origin) where
  origin_mem := IdSet.mem_insert.2 (.inl rfl)
  trail t ht a ha := by
    rw [List.mem_singleton] at ht
    subst ht
    cases ha
    exact .refl
  closed a ha := by
    rcases IdSet.mem_insert.1 ha with rfl | ha
    · exact .inl ⟨[a], List.mem_singleton_self _, rfl⟩
    · exact absurd ha (IdSet.not_mem_empty a)

theorem Searching.next (h : Searching g origin trails reached)
    (hn : trails.find? (g.closes origin) = none) :
    Searching g origin (g.nextTrails trails reached).1 (g.nextTrails trails reached).2 where
  origin_mem := mem_nextTrails_snd.2 (.inl h.origin_mem)
  trail t ht b hb := by
    obtain ⟨trail, htr, a, c, ha, hac, rfl, -⟩ := of_mem_nextTrails_fst ht
    cases hb
    exact (h.trail trail htr a ha).tail hac
  closed a ha := by
    rcases exists_trail_of_mem_nextTrails ha with ha | ha
    · right
      rcases h.closed a ha with ⟨t, ht, hta⟩ | ⟨hc, hb⟩
      · refine ⟨fun hao => ?_, fun b hab => mem_nextTrails_snd.2 (.inr ⟨t, ht, a, hta, hab⟩)⟩
        exact List.find?_eq_none.1 hn t ht (closes_iff.2 ⟨a, hta, hao⟩)
      · exact ⟨hc, fun b hab => mem_nextTrails_snd.2 (.inl (hb b hab))⟩
    · exact .inl ha

/-- A search without trails has seen all that `origin` reads. -/
theorem Searching.not_onCycle (h : Searching g origin [] reached) : ¬ g.OnCycle origin := by
  have hclosed : ∀ a ∈ reached, ¬ g.Reads a origin ∧ ∀ b, g.Reads a b → b ∈ reached := by
    intro a ha
    rcases h.closed a ha with ⟨t, ht, -⟩ | hc
    · exact absurd ht List.not_mem_nil
    · exact hc
  have hreach : ∀ a, ReflTransGen g.Reads origin a → a ∈ reached := by
    intro a ha
    induction ha with
    | refl => exact h.origin_mem
    | tail _ hbc ih => exact (hclosed _ ih).2 _ hbc
  intro hc
  obtain ⟨a, hoa, hao⟩ := TransGen.tail'_iff.1 hc
  exact (hclosed a (hreach a hoa)).1 hao

theorem Searching.onCycle {rounds : Nat} (h : Searching g origin trails reached)
    (hs : (g.searchCycle origin rounds trails reached).isSome = true) : g.OnCycle origin := by
  induction rounds generalizing trails reached with
  | zero => cases hs
  | succ rounds ih =>
    rw [searchCycle] at hs
    cases hf : trails.find? (g.closes origin) with
    | none =>
      rw [hf] at hs
      exact ih (h.next hf) hs
    | some t =>
      obtain ⟨a, hta, hao⟩ := closes_iff.1 (List.find?_some hf)
      exact TransGen.tail' (h.trail t (List.mem_of_find?_eq_some hf) a hta) hao

/-- The rounds suffice, since each one reaches a new cell as long as there are trails. -/
theorem Searching.not_onCycle_of_none {rounds : Nat} (h : Searching g origin trails reached)
    (hrounds : trails = [] ∨ CellId.count < rounds + reached.size)
    (hs : g.searchCycle origin rounds trails reached = none) : ¬ g.OnCycle origin := by
  induction rounds generalizing trails reached with
  | zero =>
    have hle := reached.size_le_count
    obtain rfl : trails = [] := hrounds.resolve_right (by omega)
    exact h.not_onCycle
  | succ rounds ih =>
    rw [searchCycle] at hs
    cases hf : trails.find? (g.closes origin) with
    | none =>
      rw [hf] at hs
      refine ih (h.next hf) ?_ hs
      by_cases hnil : (g.nextTrails trails reached).1 = []
      · exact .inl hnil
      · have hsize := size_nextTrails hnil
        have hne : trails ≠ [] := by
          rintro rfl
          exact hnil rfl
        exact .inr (by have := hrounds.resolve_left hne; omega)
    | some t =>
      rw [hf] at hs
      cases hs

theorem findCycle?_isSome_iff {a : CellId} : (g.findCycle? a).isSome = true ↔ g.OnCycle a := by
  unfold findCycle?
  constructor
  · intro h
    split at h
    · exact Searching.start.onCycle h
    · cases h
  · intro h
    obtain ⟨b, hab, -⟩ := TransGen.head'_iff.1 h
    rw [if_pos (contains_of_reads hab)]
    by_contra hs
    rw [Option.not_isSome_iff_eq_none] at hs
    refine Searching.start.not_onCycle_of_none (.inr ?_) hs h
    have hsize : (IdSet.empty.insert a).size = (∅ : IdSet).size + 1 :=
      IdSet.size_insert (IdSet.not_mem_empty a)
    omega

end ReactiveSheet.Grid
