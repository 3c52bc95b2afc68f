import ReactiveSheet.Proofs.Grid.Pass

/-!
The cells downstream of a cell. Main statements: in a grid whose links are inverse to each other they
are the other cells that read it, directly or through others (`mem_downstream_iff`), a pass from the
cell looks for cycles among just these cells behind it (`readsWithin_downstream`), and what the cell
reads itself does not matter to them (`behind_iff_of_subjects`).
-/

namespace ReactiveSheet.Grid
open Relation

variable {g : Grid} {origin : CellId}

/-- A search for the cells that read `origin`, with some cells found of which some are pending: what
is found reads `origin`, and the observers of what is not pending are found. -/
structure Collecting (g : Grid) (origin : CellId) (pending : List CellId) (found : IdSet) :
    Prop where
  origin_not_mem : origin ∉ found
  reads : ∀ a ∈ found, TransGen g.Reads a origin
  found_of_pending : ∀ a ∈ pending, a = origin ∨ a ∈ found
  closed : ∀ a, a = origin ∨ a ∈ found → a ∈ pending ∨ ∀ b ∈ g.observers a, b = origin ∨ b ∈ found

theorem Collecting.start : Collecting g origin [origin] ∅ where
  origin_not_mem := IdSet.not_mem_empty origin
  reads a ha := absurd ha (IdSet.not_mem_empty a)
  found_of_pending a ha := .inl (List.mem_singleton.1 ha)
  closed a ha := by
    rcases ha with rfl | ha
    · exact .inl (List.mem_singleton_self a)
    · exact absurd ha (IdSet.not_mem_empty a)

theorem discover_old {acc : List CellId × IdSet} {id : CellId} (h : id = origin ∨ id ∈ acc.2) :
    discover origin acc id = acc := if_pos h

theorem discover_new {acc : List CellId × IdSet} {id : CellId} (h : ¬ (id = origin ∨ id ∈ acc.2)) :
    discover origin acc id = (id :: acc.1, acc.2.insert id) := if_neg h

theorem mem_foldl_discover_snd (ids : List CellId) (acc : List CellId × IdSet) (x : CellId) :
    x ∈ (ids.foldl (discover origin) acc).2 ↔ x ∈ acc.2 ∨ (x ∈ ids ∧ x ≠ origin) := by
  induction ids generalizing acc with
  | nil => simp
  | cons id ids ih =>
    rw [List.foldl_cons, ih]
    by_cases h : id = origin ∨ id ∈ acc.2
    · rw [discover_old h]
      grind
    · rw [discover_new h]
      grind [IdSet.mem_insert]

theorem mem_foldl_discover_fst (ids : List CellId) (acc : List CellId × IdSet) (x : CellId) :
    x ∈ (ids.foldl (discover origin) acc).1 ↔
      x ∈ acc.1 ∨ (x ∈ ids ∧ x ≠ origin ∧ x ∉ acc.2) := by
  induction ids generalizing acc with
  | nil => simp
  | cons id ids ih =>
    rw [List.foldl_cons, ih]
    by_cases h : id = origin ∨ id ∈ acc.2
    · rw [discover_old h]
      grind
    · rw [discover_new h]
      grind [IdSet.mem_insert]

/-- Each cell that is found gets pending once. -/
theorem length_foldl_discover (origin : CellId) (ids : List CellId) (acc : List CellId × IdSet) :
    (ids.foldl (discover origin) acc).1.length + acc.2.size =
      acc.1.length + (ids.foldl (discover origin) acc).2.size := by
  induction ids generalizing acc with
  | nil => rfl
  | cons id ids ih =>
    rw [List.foldl_cons]
    by_cases h : id = origin ∨ id ∈ acc.2
    · rw [discover_old h]
      exact ih acc
    · rw [discover_new h]
      have := ih (id :: acc.1, acc.2.insert id)
      rw [IdSet.size_insert fun hm => h (.inr hm)] at this
      simp only [List.length_cons] at this
      omega

/-- Working off one pending cell keeps the search sound and closed. -/
theorem Collecting.step (hg : g.Linked) {id : CellId} {rest : List CellId} {found : IdSet}
    (h : Collecting g origin (id :: rest) found) :
    Collecting g origin ((g.observers id).toList.foldl (discover origin) (rest, found)).1
      ((g.observers id).toList.foldl (discover origin) (rest, found)).2 where
  origin_not_mem := by
    simp [mem_foldl_discover_snd, h.origin_not_mem]
  reads a ha := by
    rw [mem_foldl_discover_snd, IdSet.mem_toList] at ha
    rcases ha with ha | ⟨ha, _⟩
    · exact h.reads a ha
    · have hr : g.Reads a id := hg.reads_iff.2 ha
      rcases h.found_of_pending id List.mem_cons_self with rfl | hid
      · exact .single hr
      · exact .head hr (h.reads id hid)
  found_of_pending a ha := by
    rw [mem_foldl_discover_fst, IdSet.mem_toList] at ha
    rw [mem_foldl_discover_snd, IdSet.mem_toList]
    rcases ha with ha | ⟨ha, hne, _⟩
    · exact (h.found_of_pending a (List.mem_cons_of_mem id ha)).imp_right .inl
    · exact .inr (.inr ⟨ha, hne⟩)
  closed a ha := by
    simp only [mem_foldl_discover_fst, mem_foldl_discover_snd, IdSet.mem_toList] at ha ⊢
    by_cases hid : a = id
    · subst hid
      right
      intro b hb
      by_cases hb' : b = origin
      · exact .inl hb'
      · exact .inr (.inr ⟨hb, hb'⟩)
    · by_cases hnew : a = origin ∨ a ∈ found
      · rcases h.closed a hnew with hp | hc
        · rcases List.mem_cons.1 hp with hp | hp
          · exact absurd hp hid
          · exact .inl (.inl hp)
        · exact .inr fun b hb => (hc b hb).imp_right .inl
      · grind

/-- The rounds suffice, since every cell but the origin is found at most once. -/
theorem Collecting.run (hg : g.Linked) {fuel : Nat} {pending : List CellId} {found : IdSet}
    (h : Collecting g origin pending found)
    (hfuel : pending.length + CellId.count ≤ fuel + (found.size + 1)) :
    Collecting g origin [] (collectObservers g origin fuel pending found) := by
  induction fuel generalizing pending found with
  | zero =>
    have hle := (found.insert origin).size_le_count
    rw [IdSet.size_insert h.origin_not_mem] at hle
    have hnil : pending = [] := List.eq_nil_of_length_eq_zero (by omega)
    subst hnil
    exact h
  | succ fuel ih =>
    cases pending with
    | nil => exact h
    | cons id rest =>
      have hlen := length_foldl_discover origin (g.observers id).toList (rest, found)
      simp only [List.length_cons] at hfuel hlen
      exact ih (h.step hg) (by omega)

/-- Once nothing is pending, all cells that read the origin are found. -/
theorem Collecting.complete (hg : g.Linked) {found : IdSet} (h : Collecting g origin [] found)
    {a : CellId} (ha : ReflTransGen g.Reads a origin) : a = origin ∨ a ∈ found := by
  induction ha using ReflTransGen.head_induction_on with
  | refl => exact .inl rfl
  | head hab _ ih =>
    rcases h.closed _ ih with hp | hc
    · exact absurd hp List.not_mem_nil
    · exact hc _ (hg.reads_iff.1 hab)

theorem mem_downstream_iff (hg : g.Linked) {a : CellId} :
    a ∈ g.downstream origin ↔ a ≠ origin ∧ TransGen g.Reads a origin := by
  have hsize : (∅ : IdSet).size = 0 := IdSet.size_eq_zero_iff.2 IdSet.not_mem_empty
  have h : Collecting g origin [] (g.downstream origin) :=
    Collecting.start.run hg (by rw [hsize, List.length_singleton]; omega)
  constructor
  · intro ha
    refine ⟨?_, h.reads a ha⟩
    rintro rfl
    exact h.origin_not_mem ha
  · rintro ⟨hne, ha⟩
    exact (h.complete hg ha.to_reflTransGen).resolve_left hne

theorem contains_of_mem_downstream (hg : g.Linked) {a : CellId} (ha : a ∈ g.downstream origin) :
    g.contains a = true := by
  obtain ⟨_, hao⟩ := (mem_downstream_iff hg).1 ha
  obtain ⟨b, hab, _⟩ := TransGen.head'_iff.1 hao
  exact contains_of_reads hab

variable {h : Grid} {o a : CellId}

theorem SameShape.downstream (hg : h.SameShape g) (hl : g.Linked) (o : CellId) :
    h.downstream o = g.downstream o := by
  ext a
  rw [mem_downstream_iff (hg.linked hl), mem_downstream_iff hl, hg.reads]

theorem SameShape.readsWithin (hg : h.SameShape g) (affected : IdSet) :
    h.ReadsWithin affected = g.ReadsWithin affected := by
  funext a b
  rw [ReadsWithin, hg.reads, ReadsWithin]

/-- A cell reads another one, directly or through others, if it is that one or downstream of it. -/
theorem reflTransGen_reads_iff (hl : g.Linked) :
    ReflTransGen g.Reads a o ↔ a = o ∨ a ∈ g.downstream o := by
  rw [reflTransGen_iff_eq_or_transGen, mem_downstream_iff hl]
  by_cases ha : a = o
  · simp [ha]
  · simp [ha, Ne.symm ha]

/-- A cell is behind another one if it reads that one, directly or through others. -/
def Behind (g : Grid) (o a : CellId) : Prop := a ≠ o ∧ TransGen g.Reads a o

/-- One cell reads another one, and both are behind the same one. -/
def ReadsBehind (g : Grid) (o a b : CellId) : Prop :=
  g.Behind o a ∧ g.Behind o b ∧ g.Reads a b

theorem readsWithin_downstream (hg : g.Linked) :
    g.ReadsWithin (g.downstream o) = g.ReadsBehind o := by
  funext a b
  simp [ReadsWithin, ReadsBehind, mem_downstream_iff hg, Behind]

theorem behind_eq (hs : ∀ a, h.subjects a = g.subjects a) : h.Behind = g.Behind := by
  funext o a
  simp only [Behind, reads_eq hs]

theorem readsBehind_eq (hs : ∀ a, h.subjects a = g.subjects a) :
    h.ReadsBehind = g.ReadsBehind := by
  funext o a b
  simp only [ReadsBehind, behind_eq hs, reads_eq hs]

theorem eq_or_behind_of_reflTransGen (h : ReflTransGen g.Reads a o) : a = o ∨ g.Behind o a := by
  by_cases ha : a = o
  · exact .inl ha
  · right
    exact ⟨ha, (reflTransGen_iff_eq_or_transGen.1 h).resolve_left (Ne.symm ha)⟩

/-- What a cell reads itself does not matter to the cells behind it. -/
theorem behind_iff_of_subjects (hs : ∀ b, b ≠ o → h.subjects b = g.subjects b) :
    h.Behind o a ↔ g.Behind o a := by
  have hreads := reflTransGen_origin_iff (a := a) hs
  constructor
  · intro ha
    exact (eq_or_behind_of_reflTransGen (hreads.2 ha.2.to_reflTransGen)).resolve_left ha.1
  · intro ha
    exact (eq_or_behind_of_reflTransGen (hreads.1 ha.2.to_reflTransGen)).resolve_left ha.1

/-- The cells downstream of a cell do not depend on its own links. -/
theorem Linked.downstream_eq (hh : h.Linked) (hg : g.Linked)
    (hs : ∀ b, b ≠ o → h.subjects b = g.subjects b) : h.downstream o = g.downstream o := by
  ext a
  rw [mem_downstream_iff hh, mem_downstream_iff hg]
  exact behind_iff_of_subjects hs

end ReactiveSheet.Grid
