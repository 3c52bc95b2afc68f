import ReactiveSheet.Proofs.Formula.Words
import ReactiveSheet.Proofs.Stack

/-!
Formulas computed from the numbers of the cells that they refer to, without writing the numbers
into the text. Main statement: where each reference is a word by itself, a formula with the texts of
the numbers in it has the same outcome (`evaluate_substitute`).
-/

namespace ReactiveSheet.Postfix

variable {w : List Char} {ws : List (List Char)} {id : CellId} {f : String}
  {number? : CellId → Option Float}

/-- The token of a word in a formula. The name of a cell stands for the number of the cell, or for
zero if it has none. -/
def Token.ofWordIn? (number? : CellId → Option Float) (word : List Char) : Option Token :=
  match CellId.parse? (String.ofList word) with
  | some id => some (.number ((number? id).getD 0))
  | none => ofWord? word

def Token.ofWordsIn (number? : CellId → Option Float) :
    List (List Char) → Except EvalError (List Token)
  | [] => .ok []
  | w :: ws =>
    match ofWordIn? number? w with
    | some t => (ofWordsIn number? ws).map (t :: ·)
    | none => .error (.malformed (.unknownWord (String.ofList w)))

/-- The value of a formula, computed from its own words. -/
def evaluateIn (number? : CellId → Option Float) (formula : String) : Except EvalError Float :=
  match Token.ofWordsIn number? (Text.words formula.toList) with
  | .ok tokens => compute tokens
  | .error e => .error e

theorem ofWordIn?_letter :
    Token.ofWordIn? number? [id.letter] = some (.number ((number? id).getD 0)) := by
  simp [Token.ofWordIn?, CellId.parse?, CellId.ofLetter?_letter]

theorem ofWordIn?_of_forall (h : ∀ id, .reference id ∉ Formula.pieces w) :
    Token.ofWordIn? number? w = Token.ofWord? w := by
  unfold Token.ofWordIn?
  cases hid : CellId.parse? (String.ofList w) with
  | none => rfl
  | some id =>
    have hw : w = [id.letter] := by
      simpa [← String.toList_inj, CellId.text] using CellId.parse?_eq_some_iff.1 hid
    simp [hw, Formula.pieces_letter] at h

/-- Words read in place of the words of a formula, one by one. -/
theorem ofWords_flatMap_replaceWord
    (hwhole : ∀ w ∈ ws, ∀ id, .reference id ∈ Formula.pieces w → w = [id.letter]) :
    Token.ofWords (ws.flatMap (Formula.replaceWord fun id => Binary64.text ((number? id).getD 0))) =
      Token.ofWordsIn number? ws := by
  induction ws with
  | nil => rfl
  | cons w ws ih =>
    obtain ⟨hw, hws⟩ := List.forall_mem_cons.1 hwhole
    rcases Formula.letter_or_no_reference hw with ⟨id, _, rfl⟩ | hnone
    · simp [Formula.replaceWord_letter, Binary64.words_text, Token.ofWords, Token.ofWordsIn,
        ofWord?_text, ofWordIn?_letter, ih hws]
    · cases ht : Token.ofWord? w <;>
        simp [Formula.replaceWord_of_forall hnone, Token.ofWords, Token.ofWordsIn,
          ofWordIn?_of_forall hnone, ht, ih hws]

theorem tokenize_substitute (hwhole : Formula.WholeReferences f.toList) :
    tokenize (Formula.substitute f number?) =
      Token.ofWordsIn number? (Text.words f.toList) := by
  rw [tokenize, Formula.substitute, Formula.words_replace hwhole, ofWords_flatMap_replaceWord hwhole]

/-- Putting the texts of numbers in the place of references and reading the result is the same as
reading the formula with the numbers at hand, also where it fails. -/
theorem evaluate_substitute (hwhole : Formula.WholeReferences f.toList)
    (number? : CellId → Option Float) :
    evaluate (Formula.substitute f number?) = evaluateIn number? f := by
  cases h : Token.ofWordsIn number? (Text.words f.toList) <;>
    simp [evaluate, evaluateIn, tokenize_substitute hwhole, h]

/-- Negative zero for one cell, negative infinity for another one, and no number for the others. -/
def negatives (id : CellId) : Option Float :=
  if id.letter = 'A' then some (-0)
  else if id.letter = 'B' then some (Binary64.Magnitude.infinity.toFloat true)
  else none

theorem evaluate_substitute_negatives :
    Formula.WholeReferences "A B - Z +".toList ∧
      Formula.substitute "A B - Z +" negatives = "-0 -inf - 0 +" ∧
      evaluate (Formula.substitute "A B - Z +" negatives) = evaluateIn negatives "A B - Z +" ∧
      evaluateIn negatives "A B - Z +" = .ok (Binary64.Magnitude.infinity.toFloat false) := by
  have hwhole : Formula.WholeReferences "A B - Z +".toList := by decide +kernel
  refine ⟨hwhole, ?_, evaluate_substitute hwhole negatives, ?_⟩
  · decide +kernel
  · decide +kernel

end ReactiveSheet.Postfix
