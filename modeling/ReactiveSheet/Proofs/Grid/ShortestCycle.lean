import Mathlib.Data.List.Chain
import ReactiveSheet.Proofs.Grid.CycleSearch
import ReactiveSheet.Proofs.Sheet.Run

/-!
The cycle that the search finds. Main statement: it is one of those through the cell that have the
fewest steps, and there is none only if the cell is on no cycle (`findCycle?_shortest`). The trails
of a round all have the same number of steps, and none to the cells where they end has fewer
(`Levelled`).
-/

namespace ReactiveSheet.Grid
open Relation
open Sheet (named)

variable {g : Grid} {origin a : CellId} {n : Nat} {t between : List CellId}
  {trails : List (List CellId)} {reached : IdSet}

/-- Cells that one comes to from the origin, each by reading it from the one before. The last cell
is first, as in the search. -/
inductive Trail (g : Grid) (origin : CellId) : List CellId → Prop
  | start : Trail g origin [origin]
  | next {a b : CellId} {t : List CellId} (trail : Trail g origin (a :: t)) (reads : g.Reads a b) :
      Trail g origin (b :: a :: t)

namespace Trail

theorem cons {b : CellId} (h : g.Trail origin t) (ha : t.head? = some a) (hab : g.Reads a b) :
    g.Trail origin (b :: t) := by
  obtain ⟨s, rfl⟩ := List.head?_eq_some_iff.1 ha
  exact h.next hab

theorem exists_eq_append (h : g.Trail origin t) : ∃ s, t = s ++ [origin] := by
  induction h with
  | start => exact ⟨[], rfl⟩
  | @next a b t _ _ ih =>
    obtain ⟨s, hs⟩ := ih
    exact ⟨b :: s, by rw [hs, List.cons_append]⟩

theorem reflTransGen (h : g.Trail origin t) (ha : t.head? = some a) :
    ReflTransGen g.Reads origin a := by
  induction h generalizing a with
  | start =>
    cases ha
    exact .refl
  | next _ hab ih =>
    cases ha
    exact (ih rfl).tail hab

theorem onCycle (h : g.Trail origin t) (hc : g.closes origin t = true) : g.OnCycle origin := by
  obtain ⟨a, ha, hao⟩ := closes_iff.1 hc
  exact TransGen.tail' (h.reflTransGen ha) hao

end Trail

theorem exists_append_singleton_eq_cons (s : List CellId) (b : CellId) :
    ∃ a t, s ++ [b] = a :: t := by
  cases s with
  | nil => exact ⟨b, [], rfl⟩
  | cons a s => exact ⟨a, s ++ [b], rfl⟩

theorem trail_append_iff {s : List CellId} :
    g.Trail origin (s ++ [origin]) ↔
      List.IsChain (fun b a => g.Reads a b) (s ++ [origin]) := by
  induction s with
  | nil => exact iff_of_true .start (.singleton origin)
  | cons b s ih =>
    obtain ⟨a, t, ht⟩ := exists_append_singleton_eq_cons s origin
    rw [List.cons_append, ht, List.isChain_cons_cons, ← ht, ← ih, ht]
    constructor
    · rintro (_ | ⟨h, hab⟩)
      exact ⟨hab, h⟩
    · rintro ⟨hab, h⟩
      exact h.next hab

/-- A cycle through a cell, by the cells that it goes through in between: they are cells of the
grid, and each one has the next one as a subject. -/
structure IsCycle (g : Grid) (origin : CellId) (between : List CellId) : Prop where
  contains : ∀ b ∈ between, g.contains b = true
  reads : List.IsChain g.Reads (origin :: (between ++ [origin]))

theorem contains_of_isChain {c : CellId} (h : List.IsChain g.Reads (between ++ [c])) :
    ∀ b ∈ between, g.contains b = true := by
  induction between with
  | nil => exact fun b hb => absurd hb List.not_mem_nil
  | cons a between ih =>
    rw [List.cons_append, List.isChain_cons] at h
    rw [List.forall_mem_cons]
    refine ⟨?_, ih h.2⟩
    obtain ⟨b, t, ht⟩ := exists_append_singleton_eq_cons between c
    exact contains_of_reads (h.1 b (by rw [ht, List.head?_cons, Option.mem_some]))

/-- The trail of a cycle is read backwards from the cell before its end. -/
theorem isCycle_iff :
    g.IsCycle origin between ↔
      g.Trail origin (between.reverse ++ [origin]) ∧
        g.closes origin (between.reverse ++ [origin]) = true := by
  have hreverse : origin :: (between ++ [origin]) =
      (origin :: (between.reverse ++ [origin])).reverse := by simp
  have hchain : List.IsChain g.Reads (origin :: (between ++ [origin])) ↔
      g.Trail origin (between.reverse ++ [origin]) ∧
        g.closes origin (between.reverse ++ [origin]) = true := by
    rw [hreverse, List.isChain_reverse, List.isChain_cons, trail_append_iff, closes_iff, and_comm]
    refine and_congr_right fun _ => ?_
    obtain ⟨a, t, ht⟩ := exists_append_singleton_eq_cons between.reverse origin
    simp [ht]
  rw [← hchain]
  refine ⟨IsCycle.reads, fun h => ⟨?_, h⟩⟩
  exact contains_of_isChain (List.isChain_cons.1 h).2

/-- A search whose trails have all taken `n` steps. They come to no cell twice, and no trail comes
to their last cells in fewer steps. -/
structure Levelled (g : Grid) (origin : CellId) (n : Nat) (trails : List (List CellId))
    (reached : IdSet) : Prop extends Searching g origin trails reached where
  isTrail : ∀ t ∈ trails, g.Trail origin t
  length_eq : ∀ t ∈ trails, t.length = n + 1
  nodup : ∀ t ∈ trails, t.Nodup
  visited : ∀ t ∈ trails, ∀ a ∈ t, a ∈ reached
  shortest : ∀ t ∈ trails, ∀ u, g.Trail origin u → u.head? = t.head? → n + 1 ≤ u.length

namespace Levelled

theorem start : Levelled g origin 0 [[origin]] (IdSet.empty.insert origin) where
  toSearching := .start
  isTrail := List.forall_mem_singleton.2 .start
  length_eq := List.forall_mem_singleton.2 rfl
  nodup := List.forall_mem_singleton.2 (List.nodup_singleton origin)
  visited := by
    simp only [List.forall_mem_singleton]
    exact IdSet.mem_insert.2 (.inl rfl)
  shortest := by
    intro _ _ u hu _
    cases hu <;> simp

/-- All cells that a trail comes to in `n` steps are reached. -/
theorem mem_reached (h : Levelled g origin n trails reached) (ht : g.Trail origin t)
    (hlen : t.length ≤ n + 1) (ha : t.head? = some a) : a ∈ reached := by
  induction ht generalizing a with
  | start =>
    cases ha
    exact h.origin_mem
  | @next c b s hs hcb ih =>
    cases ha
    rw [List.length_cons] at hlen
    rcases h.closed c (ih (by omega) rfl) with ⟨t, ht, hc⟩ | ⟨-, hc⟩
    · -- a trail of this round ends in `c`, which one of fewer steps comes to
      have := h.shortest t ht _ hs hc.symm
      omega
    · exact hc b hcb

theorem next (h : Levelled g origin n trails reached)
    (hn : trails.find? (g.closes origin) = none) :
    Levelled g origin (n + 1) (g.nextTrails trails reached).1 (g.nextTrails trails reached).2 where
  toSearching := h.toSearching.next hn
  isTrail t ht := by
    obtain ⟨trail, htr, a, b, ha, hab, rfl, -⟩ := of_mem_nextTrails_fst ht
    exact (h.isTrail trail htr).cons ha hab
  length_eq t ht := by
    obtain ⟨trail, htr, a, b, -, -, rfl, -⟩ := of_mem_nextTrails_fst ht
    rw [List.length_cons, h.length_eq trail htr]
  nodup t ht := by
    obtain ⟨trail, htr, a, b, -, -, rfl, hb⟩ := of_mem_nextTrails_fst ht
    exact List.nodup_cons.2 ⟨fun hm => hb (h.visited trail htr b hm), h.nodup trail htr⟩
  visited t ht := by
    obtain ⟨trail, htr, a, b, ha, hab, rfl, -⟩ := of_mem_nextTrails_fst ht
    refine List.forall_mem_cons.2 ⟨mem_nextTrails_snd.2 (.inr ⟨trail, htr, a, ha, hab⟩), ?_⟩
    exact fun c hc => mem_nextTrails_snd.2 (.inl (h.visited trail htr c hc))
  shortest t ht u hu hut := by
    obtain ⟨trail, htr, a, b, -, -, rfl, hb⟩ := of_mem_nextTrails_fst ht
    by_contra hlen
    exact hb (h.mem_reached hu (by omega) hut)

/-- No trail closes a cycle before the round of its length. -/
theorem length_le (h : Levelled g origin n trails reached) (ht : g.Trail origin t)
    (hc : g.closes origin t = true) : n + 1 ≤ t.length := by
  by_contra hlen
  obtain ⟨a, ha, hao⟩ := closes_iff.1 hc
  rcases h.closed a (h.mem_reached ht (by omega) ha) with ⟨u, hu, hua⟩ | ⟨hna, -⟩
  · exact hlen (h.shortest u hu t ht (ha.trans hua.symm))
  · exact hna hao

/-- The search ends with a trail that closes a cycle in as few steps as any. -/
theorem exists_trail {rounds : Nat} {path : List CellId} (h : Levelled g origin n trails reached)
    (hs : g.searchCycle origin rounds trails reached = some path) :
    ∃ t, path = (origin :: t).reverse ∧ g.Trail origin t ∧ g.closes origin t = true ∧ t.Nodup ∧
      ∀ u, g.Trail origin u → g.closes origin u = true → t.length ≤ u.length := by
  induction rounds generalizing n trails reached with
  | zero => cases hs
  | succ rounds ih =>
    rw [searchCycle] at hs
    cases hf : trails.find? (g.closes origin) with
    | none =>
      rw [hf] at hs
      exact ih (h.next hf) hs
    | some t =>
      rw [hf] at hs
      have ht := List.mem_of_find?_eq_some hf
      refine ⟨t, (Option.some.inj hs).symm, h.isTrail t ht, List.find?_some hf, h.nodup t ht, ?_⟩
      intro u hu hc
      rw [h.length_eq t ht]
      exact h.length_le hu hc

end Levelled

/-- What is found starts and ends in the origin, and is a cycle that comes to no cell twice and has
no more steps than any other. -/
theorem exists_isCycle_of_findCycle? {path : List CellId} (h : g.findCycle? origin = some path) :
    ∃ between, path = origin :: (between ++ [origin]) ∧ g.IsCycle origin between ∧
      (origin :: between).Nodup ∧
      ∀ other, g.IsCycle origin other → between.length ≤ other.length := by
  unfold findCycle? at h
  split at h
  · obtain ⟨t, rfl, ht, hc, hnodup, hle⟩ := Levelled.start.exists_trail h
    obtain ⟨s, rfl⟩ := ht.exists_eq_append
    refine ⟨s.reverse, by simp, isCycle_iff.2 ?_, ?_, fun other ho => ?_⟩
    · rw [List.reverse_reverse]
      exact ⟨ht, hc⟩
    · have hperm : (s ++ [origin]).Perm (origin :: s.reverse) :=
        List.perm_append_singleton origin s |>.trans ((List.reverse_perm s).symm.cons origin)
      exact hperm.nodup hnodup
    · have := hle _ (isCycle_iff.1 ho).1 (isCycle_iff.1 ho).2
      simpa using this
  · cases h

theorem onCycle_iff : g.OnCycle origin ↔ ∃ between, g.IsCycle origin between := by
  constructor
  · intro h
    obtain ⟨path, hpath⟩ := Option.isSome_iff_exists.1 (findCycle?_isSome_iff.2 h)
    obtain ⟨between, -, hc, -⟩ := exists_isCycle_of_findCycle? hpath
    exact ⟨between, hc⟩
  · rintro ⟨between, hc⟩
    exact (isCycle_iff.1 hc).1.onCycle (isCycle_iff.1 hc).2

/-- The search finds nothing exactly if there is no such cell or no cycle through it. Otherwise it
finds a path from the cell back to it on which each cell has the next one as a subject and the cells
in between exist and are different from each other and from the origin, and no cycle through the
origin has fewer steps. The subjects may be any, also cells that the grid does not have. -/
theorem findCycle?_shortest (g : Grid) (origin : CellId) :
    (g.findCycle? origin = none ↔
      g.contains origin = false ∨ ¬ ∃ between, g.IsCycle origin between) ∧
    ∀ path, g.findCycle? origin = some path →
      ∃ between, path = origin :: (between ++ [origin]) ∧ List.IsChain g.Reads path ∧
        between.Nodup ∧ (∀ b ∈ between, g.contains b = true ∧ b ≠ origin) ∧
        ∀ other, g.IsCycle origin other → between.length ≤ other.length := by
  constructor
  · rw [← Option.not_isSome_iff_eq_none, findCycle?_isSome_iff, ← onCycle_iff]
    refine ⟨.inr, ?_⟩
    rintro (hno | h)
    · intro h
      obtain ⟨b, hb, -⟩ := TransGen.head'_iff.1 h
      rw [contains_of_reads hb] at hno
      cases hno
    · exact h
  · intro path hpath
    obtain ⟨between, rfl, hc, hnodup, hle⟩ := exists_isCycle_of_findCycle? hpath
    obtain ⟨hnot, hnodup⟩ := List.nodup_cons.1 hnodup
    refine ⟨between, rfl, hc.reads, hnodup, fun b hb => ⟨hc.contains b hb, ?_⟩, hle⟩
    rintro rfl
    exact hnot hb

/-- `A` reads `B`, which leads back to it through `C`, and `D`, which reads it. It also reads `Z`,
which is no cell. -/
def twoWaysBack : Grid :=
  ((((∅ : Grid).insert (named 'A')
      ⟨"", .initial, .ofList [named 'B', named 'D', named 'Z'], ∅⟩).insert (named 'B')
      ⟨"", .initial, .ofList [named 'C'], ∅⟩).insert (named 'C')
      ⟨"", .initial, .ofList [named 'A'], ∅⟩).insert (named 'D')
      ⟨"", .initial, .ofList [named 'A'], ∅⟩

theorem findCycle?_two_ways_back :
    twoWaysBack.IsCycle (named 'A') [named 'B', named 'C'] ∧
      twoWaysBack.findCycle? (named 'A') = some [named 'A', named 'D', named 'A'] ∧
      ∀ other, twoWaysBack.IsCycle (named 'A') other → 1 ≤ other.length := by
  have hfound : twoWaysBack.findCycle? (named 'A') = some [named 'A', named 'D', named 'A'] := by
    decide +kernel
  obtain ⟨between, hpath, -, -, -, hle⟩ := (findCycle?_shortest twoWaysBack (named 'A')).2 _ hfound
  obtain rfl : between = [named 'D'] := (List.append_left_injective _ (List.cons.inj hpath).2).symm
  exact ⟨⟨by decide +kernel, by decide +kernel⟩, hfound, hle⟩

end ReactiveSheet.Grid
