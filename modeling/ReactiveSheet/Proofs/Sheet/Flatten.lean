import ReactiveSheet.Proofs.Formula.Words
import ReactiveSheet.Proofs.Sheet.Effects
import ReactiveSheet.Proofs.Stack

/-!
Flattened formulas: references replaced by formulas until none is left. Main statements: this comes
to an end for the formulas of the cells that are not cyclic (`exists_flattensTo_iff`), with one text
only (`FlattensTo.unique`), and the number that a cell holds is the value of its flattened formula
(`number_is_value_of_flattened_formula`).
-/

namespace ReactiveSheet

variable {f : String} {u v : CellId → List Char}

/-- Formulas with texts in the place of references stand for each other if the texts do. -/
theorem Postfix.Stands.replace (hwhole : Formula.WholeReferences f.toList)
    (h : ∀ r ∈ Formula.references f, Stands (Text.words (u r)) (Text.words (v r))) :
    Stands (Text.words (Formula.replace f u).toList) (Text.words (Formula.replace f v).toList) := by
  rw [Formula.words_replace hwhole, Formula.words_replace hwhole]
  refine .flatMap fun w hw => ?_
  rcases Formula.letter_or_no_reference (hwhole w hw) with ⟨r, hr, rfl⟩ | hnone
  · rw [Formula.replaceWord_letter, Formula.replaceWord_letter]
    exact h r (Formula.mem_references_iff.2 ⟨_, hw, hr⟩)
  · rw [Formula.replaceWord_of_forall hnone, Formula.replaceWord_of_forall hnone]
    exact .refl [w]

namespace Grid

variable {g : Grid} {a : CellId} {text : String} {x : Float}

/-- Replacing each reference by the flattened formula of its cell, or by `0` if there is no such
cell, comes to an end with a text. -/
inductive FlattensTo (g : Grid) : String → String → Prop
  | replace {f : String} (u : CellId → String)
      (missing : ∀ r ∈ Formula.references f, g.formula? r = none → u r = "0")
      (flattened : ∀ r ∈ Formula.references f, ∀ e, g.formula? r = some e → FlattensTo g e (u r)) :
      FlattensTo g f (Formula.replace f fun r => (u r).toList)

/-- In all formulas, each reference is a word by itself. -/
def WholeReferences (g : Grid) : Prop :=
  ∀ a f, g.formula? a = some f → Formula.WholeReferences f.toList

instance (g : Grid) : Decidable g.WholeReferences :=
  decidable_of_iff
    (∀ a ∈ CellId.all, ∀ f ∈ g.formula? a, Formula.WholeReferences f.toList)
    ⟨fun h a f hf => h a (CellId.mem_all a) f hf, fun h a _ f hf => h a f hf⟩

theorem exists_flattensTo (hg : g.Tracked) (ha : ¬ g.Cyclic a) (hf : g.formula? a = some f) :
    ∃ text, g.FlattensTo f text := by
  refine not_cyclic_induction
    (P := fun a => ∀ f, g.formula? a = some f → ∃ text, g.FlattensTo f text) ?_ ha f hf
  intro a _ ih f hf
  -- Only texts for the references matter, and any text does for the other names.
  have htext : ∀ r, ∃ text, (g.formula? r = none → text = "0") ∧
      ∀ e, g.formula? r = some e → r ∈ Formula.references f → g.FlattensTo e text := by
    intro r
    cases he : g.formula? r with
    | none => exact ⟨"0", fun _ => rfl, nofun⟩
    | some e =>
      by_cases hr : r ∈ Formula.references f
      · obtain ⟨text, htext⟩ := ih r (hg.covered a f hf r hr (contains_of_formula? he)) e he
        exact ⟨text, nofun, fun _ h _ => Option.some.inj h ▸ htext⟩
      · exact ⟨"0", nofun, fun _ _ h => absurd h hr⟩
  choose u hmissing hflattened using htext
  exact ⟨_, .replace u (fun r _ => hmissing r) fun r hr e he => hflattened r e he hr⟩

namespace FlattensTo

theorem unique {other : String} (h : g.FlattensTo f text) (h' : g.FlattensTo f other) :
    text = other := by
  induction h generalizing other with
  | replace u missing _ ih =>
    obtain ⟨w, missing', flattened'⟩ := h'
    refine Formula.replace_congr fun r hr => congrArg String.toList ?_
    cases he : g.formula? r with
    | none => rw [missing r hr he, missing' r hr he]
    | some e => exact ih r hr e he (flattened' r hr e he)

theorem not_cyclic (h : g.FlattensTo f text) (hg : g.Tracked) (hf : g.formula? a = some f) :
    ¬ g.Cyclic a := by
  induction h generalizing a with
  | @replace f u _ _ ih =>
    intro hc
    obtain ⟨r, har, hr⟩ := hc.exists_reads
    rw [Reads, hg a f hf, mem_resolve] at har
    obtain ⟨cell, hcell⟩ := exists_get? har.2
    exact ih r har.1 cell.formula (formula?_of_get? hcell) (formula?_of_get? hcell) hr

theorem references_eq_empty (h : g.FlattensTo f text) (hg : g.WholeReferences)
    (hf : g.formula? a = some f) : Formula.references text = ∅ := by
  induction h generalizing a with
  | @replace f u missing _ ih =>
    refine Formula.references_replace (hg a f hf) fun r hr id hid => ?_
    rw [← Formula.mem_references] at hid
    cases he : g.formula? r with
    | none =>
      have hzero : ∀ id ∈ CellId.all, id ∉ Formula.references "0" := by decide +kernel
      rw [missing r hr he] at hid
      exact hzero id (CellId.mem_all id) hid
    | some e =>
      rw [ih r hr e he he] at hid
      exact IdSet.not_mem_empty id hid

end FlattensTo

theorem exists_flattensTo_iff (hg : g.Tracked) (hf : g.formula? a = some f) :
    (∃ text, g.FlattensTo f text) ↔ ¬ g.Cyclic a :=
  ⟨fun ⟨_, h⟩ => h.not_cyclic hg hf, fun ha => exists_flattensTo hg ha hf⟩

/-- Where a formula has the text of a number, its flattened formula has words that compute it. -/
theorem FlattensTo.evaluate (h : g.FlattensTo f text) (hg : g.Settled) (eg : g.Exact)
    (hwhole : g.WholeReferences) (hf : g.formula? a = some f)
    (hx : g.value? a = some (.number x)) : Postfix.evaluate text = .ok x := by
  induction h generalizing a x with
  | @replace f u missing _ ih =>
    have hcompute : g.compute a = .number x :=
      (eg.eq_compute a (hg.not_cyclic_of_number hx) _ hx).symm
    obtain ⟨hnone, hvalue⟩ := (compute_eq_number_iff hf).1 hcompute
    refine Postfix.Stands.evaluate (.replace (hwhole a f hf) fun r hr => ?_) hvalue
    -- In the place of a reference stands the text of a number, which the flattened formula gives.
    refine Postfix.stands_text ?_
    cases he : g.formula? r with
    | none =>
      have hzero : g.number? r = none := by
        rw [number?, value?_eq_none (not_contains_of_formula? he), Option.bind_none]
      rw [missing r hr he, hzero]
      decide +kernel
    | some e =>
      have hread : g.Reads a r := hg.tracked.covered a f hf r hr (contains_of_formula? he)
      obtain ⟨v, hv⟩ := exists_value? (contains_of_formula? he)
      cases v with
      | error e => exact absurd hv (hnone r e hread)
      | number y =>
        have hnumber : g.number? r = some y := by
          rw [number?, hv]
          rfl
        rw [hnumber]
        exact ih r hr e he he hv

end Grid

namespace Sheet

variable {s : Sheet} {ops : List Operation} {a : CellId} {x : Float}

theorem number_is_value_of_flattened_formula (hs : s.Initial) (hops : s.Admits KeepsTrack ops)
    (hz : s.Admits AvoidsNegativeZero ops) (hwhole : (s.run ops).grid.WholeReferences)
    (hf : (s.run ops).grid.formula? a = some f)
    (hx : (s.run ops).grid.value? a = some (.number x)) :
    (∃ text, (s.run ops).grid.FlattensTo f text) ∧
      ∀ text, (s.run ops).grid.FlattensTo f text →
        Formula.references text = ∅ ∧ Postfix.evaluate text = .ok x := by
  have hsettled := settled_run hs hops
  refine ⟨?_, fun text htext => ⟨htext.references_eq_empty hwhole hf, ?_⟩⟩
  · exact (Grid.exists_flattensTo_iff hsettled.tracked hf).2 (hsettled.not_cyclic_of_number hx)
  · exact htext.evaluate hsettled (exact_run hs hops hz) hwhole hf hx

/-- A cell that reads another one directly and through a third, which refers to a missing one. -/
@[irreducible]
def diamond : List Operation :=
  [.edit (named 'A') "2", .edit (named 'B') "A Z 1 + +", .edit (named 'C') "A B *"]

theorem flattened_diamond :
    threeCells.Initial ∧ threeCells.Admits KeepsTrack diamond ∧
      threeCells.Admits AvoidsNegativeZero diamond ∧
      (threeCells.run diamond).grid.WholeReferences ∧
      (threeCells.run diamond).grid.formula? (named 'C') = some "A B *" ∧
      (threeCells.run diamond).grid.value? (named 'C') = some (.number 6) ∧
      (∃ text, (threeCells.run diamond).grid.FlattensTo "A B *" text) ∧
      ∀ text, (threeCells.run diamond).grid.FlattensTo "A B *" text →
        Formula.references text = ∅ ∧ Postfix.evaluate text = .ok 6 := by
  have hops : threeCells.Admits KeepsTrack diamond := by decide +kernel
  have hz : threeCells.Admits AvoidsNegativeZero diamond := by decide +kernel
  have hwhole : (threeCells.run diamond).grid.WholeReferences := by decide +kernel
  have hf : (threeCells.run diamond).grid.formula? (named 'C') = some "A B *" := by
    decide +kernel
  have hx : (threeCells.run diamond).grid.value? (named 'C') = some (.number 6) := by
    decide +kernel
  exact ⟨initial_threeCells, hops, hz, hwhole, hf, hx,
    number_is_value_of_flattened_formula initial_threeCells hops hz hwhole hf hx⟩

end Sheet
end ReactiveSheet
