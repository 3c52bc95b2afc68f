import Mathlib.Algebra.Order.BigOperators.Group.List
import ReactiveSheet.Proofs.Formula.Kinds
import ReactiveSheet.Proofs.Grid.Values

/-!
A formula is tracked by the references that are read. Main statements: the text with numbers in it
has no references (`references_substitute`), two texts of one formula agree only where the numbers
do (`textOf_eq_of_substitute_eq`), and both for all formulas and numbers
(`tracked_references_are_read`).
-/

namespace ReactiveSheet.Formula

variable {id : CellId} {c : Char} {cs : List Char} {afterWord afterWord' : Bool} {f : String}
  {u v : CellId → List Char} {number? other? : CellId → Option Float}

theorem text_eq_nan_or_no_letter (x : Float) :
    Binary64.text x = "NaN".toList ∨ ∀ c ∈ Binary64.text x, CellId.ofLetter? c = none := by
  have hothers : ∀ c ∈ "-.inf".toList, CellId.ofLetter? c = none := by
    simp [CellId.ofLetter?, CellId.ofIndex?]
  apply (Binary64.text_cases x).imp_right
  intro h c hc
  exact (h c hc).elim ofLetter?_of_isDigit (hothers c)

/-- The text of a number has no reference, whatever stands around it. -/
theorem reference_mem_piecesAfter_text (x : Float) :
    .reference id ∈ piecesAfter afterWord (Binary64.text x ++ cs) ↔
      .reference id ∈ piecesAfter (wordAfter afterWord (Binary64.text x)) cs := by
  rcases text_eq_nan_or_no_letter x with htext | hletters
  · have hword : Text.isWord 'a' = true ∧ Text.isWord 'N' = true := by decide
    have ha : CellId.ofLetter? 'a' = none := by decide
    simp [htext, reference_mem_piecesAfter_cons, startsWord, hword, ne_letter ha, wordAfter]
  · exact reference_mem_piecesAfter_append hletters

theorem startsWord_replaced (hcs : startsWord cs = true) :
    startsWord ((piecesAfter true cs).flatMap (Piece.render u)) = true := by
  cases cs with
  | nil => simp [startsWord] at hcs
  | cons c cs => simpa [piecesAfter_true_cons, Piece.render, startsWord] using hcs

/-- Numbers in the place of references give rise to no reference. A word character that touches what
follows must be there in both texts. -/
theorem not_reference_mem_replaced
    (h : startsWord cs = true → afterWord = true → afterWord' = true) :
    .reference id ∉
      piecesAfter afterWord' ((piecesAfter afterWord cs).flatMap (Piece.render (textOf number?))) := by
  induction cs generalizing afterWord afterWord' with
  | nil => simp [piecesAfter]
  | cons c cs ih =>
    rcases piecesAfter_cons_cases afterWord c cs with ⟨r, _, _, hcs, hpieces⟩ | ⟨hletter, hpieces⟩
    · rw [hpieces, List.flatMap_cons, Piece.render, textOf, reference_mem_piecesAfter_text]
      apply ih
      simp [hcs]
    · rw [hpieces, List.flatMap_cons, Piece.render, List.singleton_append,
        reference_mem_piecesAfter_cons, not_or]
      constructor
      · rintro ⟨rfl, hbefore, hafter⟩
        rcases hletter id rfl with hword | hword
        · simp [h (isWord_letter id) hword] at hbefore
        · simp [isWord_letter, startsWord_replaced hword] at hafter
      · exact ih fun _ hword => hword

theorem not_reference_mem_substitute :
    .reference id ∉ pieces (substitute f number?).toList := by
  rw [substitute_toList]
  apply not_reference_mem_replaced
  simp

theorem references_substitute (f : String) (number? : CellId → Option Float) :
    references (substitute f number?) = ∅ := by
  ext id
  simp [mem_references, not_reference_mem_substitute, IdSet.not_mem_empty]

/-- What is in a formula in the place of references is never replaced again. -/
theorem substitute_substitute (f : String) (number? other? : CellId → Option Float) :
    substitute (substitute f number?) other? = substitute f number? := by
  apply String.toList_inj.1
  rw [substitute_toList]
  exact replaceIn_of_forall fun _ => not_reference_mem_substitute

/-- Two texts made of parts that are never longer in the first one agree part by part. -/
theorem eq_of_flatMap_eq {α β : Type} {ps : List α} {a b : α → List β}
    (hle : ∀ p ∈ ps, (a p).length ≤ (b p).length) (h : ps.flatMap a = ps.flatMap b) :
    ∀ p ∈ ps, a p = b p := by
  induction ps with
  | nil => simp
  | cons p ps ih =>
    obtain ⟨hp, hps⟩ := List.forall_mem_cons.1 hle
    rw [List.flatMap_cons, List.flatMap_cons] at h
    have htotal := congrArg List.length h
    have hrest : (ps.flatMap a).length ≤ (ps.flatMap b).length := by
      simpa [List.length_flatMap] using List.sum_le_sum hps
    have hlength : (a p).length = (b p).length := by
      simp only [List.length_append] at htotal
      omega
    obtain ⟨hfirst, hothers⟩ := List.append_inj h hlength
    exact List.forall_mem_cons.2 ⟨hfirst, ih hps hothers⟩

/-- If a formula comes out the same with two texts for one of its references, they are the same. -/
theorem eq_of_replaceIn_eq (hid : .reference id ∈ pieces cs) (hothers : ∀ r, r ≠ id → u r = v r)
    (h : replaceIn u cs = replaceIn v cs) : u id = v id := by
  -- The other parts are the same, so all parts of one text are at most as long as in the other.
  have hle : ∀ u v : CellId → List Char, (∀ r, r ≠ id → u r = v r) →
      (u id).length ≤ (v id).length → ∀ p : Piece, (p.render u).length ≤ (p.render v).length := by
    intro u v hothers hle p
    cases p with
    | char c => simp [Piece.render]
    | reference r =>
      by_cases hr : r = id
      · simpa [Piece.render, hr] using hle
      · simp [Piece.render, hothers r hr]
  rcases Nat.le_total (u id).length (v id).length with hlength | hlength
  · exact eq_of_flatMap_eq (fun p _ => hle u v hothers hlength p) h _ hid
  · have hsymm : ∀ r, r ≠ id → v r = u r := fun r hr => (hothers r hr).symm
    exact (eq_of_flatMap_eq (fun p _ => hle v u hsymm hlength p) h.symm _ hid).symm

theorem textOf_eq_of_substitute_eq (hid : id ∈ references f)
    (hothers : ∀ r, r ≠ id → number? r = other? r)
    (h : substitute f number? = substitute f other?) : textOf number? id = textOf other? id := by
  have htexts := congrArg String.toList h
  rw [substitute_toList, substitute_toList] at htexts
  apply eq_of_replaceIn_eq (mem_references.1 hid) ?_ htexts
  intro r hr
  simp [textOf, hothers r hr]

/-- A formula is tracked by exactly the references that are read. Its text with numbers in it is the
same for numbers that agree on the references, it differs for numbers that differ at one of them
alone, if they are written differently, and it has no references left. -/
theorem tracked_references_are_read (f : String) :
    (∀ number? other?, (∀ r ∈ references f, number? r = other? r) →
      substitute f number? = substitute f other?) ∧
    (∀ id ∈ references f, ∀ number? other?, (∀ r, r ≠ id → number? r = other? r) →
      textOf number? id ≠ textOf other? id → substitute f number? ≠ substitute f other?) ∧
    ∀ number?, references (substitute f number?) = ∅ ∧
      ∀ other?, substitute (substitute f number?) other? = substitute f number? := by
  refine ⟨fun number? other? h => ?_, fun id hid number? other? hothers htext h => ?_,
    fun number? => ⟨references_substitute f number?, substitute_substitute f number?⟩⟩
  · apply substitute_congr
    intro r hr
    rw [h r hr]
  · exact htext (textOf_eq_of_substitute_eq hid hothers h)

/-- A number for one cell, and NaN for the others. -/
def nanBut (letter : Char) (x : Float) (id : CellId) : Option Float :=
  some (if id.letter = letter then x else Binary64.nan)

/-- Two letters between a sign, a point and a blank, and two that touch each other. -/
theorem tracked_references_beside_signs :
    references "-A.B AB" = .ofList ("AB".toList.filterMap CellId.ofLetter?) ∧
      substitute "-A.B AB" (nanBut 'B' (-2)) = "-NaN.-2 AB" ∧
      substitute "-A.B AB" (nanBut 'B' (-2)) ≠ substitute "-A.B AB" (nanBut 'B' Binary64.nan) ∧
      substitute "-A.B AB" (nanBut 'Z' 1) = substitute "-A.B AB" (nanBut 'B' Binary64.nan) ∧
      references "-NaN.-2 AB" = ∅ ∧ substitute "-NaN.-2 AB" (nanBut 'A' 3) = "-NaN.-2 AB" := by
  have htext : substitute "-A.B AB" (nanBut 'B' (-2)) = "-NaN.-2 AB" := by decide +kernel
  have hz : ∀ r ∈ CellId.all, r ∈ references "-A.B AB" → r.letter ≠ 'Z' := by decide +kernel
  have hb : ∃ r ∈ CellId.all, r ∈ references "-A.B AB" ∧ r.letter = 'B' := by decide +kernel
  obtain ⟨b, _, hmem, hletter⟩ := hb
  obtain ⟨hsame, hdiffer, hnone⟩ := tracked_references_are_read "-A.B AB"
  obtain ⟨hreferences, hagain⟩ := htext ▸ hnone (nanBut 'B' (-2))
  refine ⟨by decide +kernel, htext, ?_, ?_, hreferences, hagain _⟩
  · apply hdiffer b hmem
    · intro r hr
      have hne : r.letter ≠ 'B' := fun h => hr (CellId.letter_inj (h.trans hletter.symm))
      simp [nanBut, hne]
    · have hwritten : Binary64.text (-2) ≠ Binary64.text Binary64.nan := by decide +kernel
      simpa [textOf, nanBut, hletter] using hwritten
  · apply hsame
    intro r hr
    simp [nanBut, hz r r.mem_all hr]

end ReactiveSheet.Formula
