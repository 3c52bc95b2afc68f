import Mathlib.Data.List.Infix
import ReactiveSheet.Proofs.Formula.Literals

/-!
How a formula is read with numbers in the place of its references. Main statement: two readings
have operators and numbers at the same places, and whether there is a reading depends on the numbers
only where a reference is a part of a word (`kinds_of_substitute`).
-/

namespace ReactiveSheet

variable {id : CellId} {w cs : List Char} {ws : List (List Char)} {x : Float} {e f : String}
  {ks ks' : List (Option Operator)} {number? other? : CellId → Option Float}

namespace Postfix

/-- What a token is: one of the operators, or a number, whichever it is. -/
def Token.operator? : Token → Option Operator
  | .number _ => none
  | .operator op => some op

/-- The kinds of the tokens of an expression, if all of its words are tokens. -/
def kinds? (expression : String) : Option (List (Option Operator)) :=
  match tokenize expression with
  | .ok tokens => some (tokens.map Token.operator?)
  | .error _ => none

def wordKind? (word : List Char) : Option (Option Operator) :=
  (Token.ofWord? word).map Token.operator?

theorem map_wordKind?_eq_iff :
    ws.map wordKind? = ks.map some ↔
      ∃ ts, Token.ofWords ws = .ok ts ∧ ts.map Token.operator? = ks := by
  simp only [ofWords_eq_ok_iff]
  induction ws generalizing ks with
  | nil => cases ks <;> simp
  | cons w ws ih =>
    cases ks with
    | nil => simp
    | cons k ks =>
      simp only [List.map_cons, List.cons.injEq, ih, wordKind?, Option.map_eq_some_iff]
      constructor
      · rintro ⟨⟨t, ht, rfl⟩, ts, hts, rfl⟩
        exact ⟨t :: ts, by simp [ht, hts], rfl⟩
      · rintro ⟨_ | ⟨t, ts⟩, hts, hks⟩
        · cases hts
        · obtain ⟨ht, hts⟩ := List.cons.inj hts
          obtain ⟨rfl, rfl⟩ := List.cons.inj hks
          exact ⟨⟨t, ht, rfl⟩, ts, hts, rfl⟩

theorem kinds?_eq_some_iff :
    kinds? e = some ks ↔ (Text.words e.toList).map wordKind? = ks.map some := by
  rw [map_wordKind?_eq_iff, kinds?, tokenize]
  cases Token.ofWords (Text.words e.toList) <;> simp

/-- No part of a keyword is a number. -/
theorem not_infix_keyword (op : Operator) : ¬ Binary64.text x <:+: op.keyword.toList := by
  have h : ∀ op ∈ Operator.all, ∀ tail ∈ op.keyword.toList.tails, ∀ v ∈ tail.inits,
      Binary64.literal? v = none := by
    decide +kernel
  intro hinfix
  obtain ⟨tail, hprefix, hsuffix⟩ := List.infix_iff_prefix_suffix.1 hinfix
  have hnone := h op op.mem_all tail ((List.mem_tails ..).2 hsuffix) _
    ((List.mem_inits ..).2 hprefix)
  simp [Binary64.literal?_text] at hnone

theorem wordKind?_of_infix (h : Binary64.text x <:+: w) {k : Option Operator}
    (hk : wordKind? w = some k) : k = none := by
  obtain ⟨t, ht, rfl⟩ := Option.map_eq_some_iff.1 hk
  cases t with
  | number y => rfl
  | operator op =>
    rw [ofWord?_eq_operator_iff.1 ht] at h
    exact absurd h (not_infix_keyword op)

theorem wordKind?_text (x : Float) : wordKind? (Binary64.text x) = some none := by
  simp [wordKind?, ofWord?_text, Token.operator?]

end Postfix

namespace Formula

open Postfix

/-- The text that takes the place of a reference. -/
def textOf (number? : CellId → Option Float) (id : CellId) : List Char :=
  Binary64.text ((number? id).getD 0)

theorem substitute_toList (f : String) (number? : CellId → Option Float) :
    (substitute f number?).toList = replaceIn (textOf number?) f.toList :=
  replace_toList f (textOf number?)

theorem words_substitute (f : String) (number? : CellId → Option Float) :
    Text.words (substitute f number?).toList =
      (Text.words f.toList).map (replaceIn (textOf number?)) := by
  rw [substitute_toList]
  exact words_replaceIn (fun _ => Binary64.text_ne_nil _) fun _ => Binary64.isBlank_of_mem_text _

theorem kinds?_substitute_eq_some_iff :
    kinds? (substitute f number?) = some ks ↔
      (Text.words f.toList).map (fun w => wordKind? (replaceIn (textOf number?) w)) =
        ks.map some := by
  simp [kinds?_eq_some_iff, words_substitute, Function.comp_def]

/-- A word with a reference in it is never an operator. -/
theorem wordKind?_replaceIn (hid : .reference id ∈ pieces w) {k : Option Operator}
    (hk : wordKind? (replaceIn (textOf number?) w) = some k) : k = none :=
  wordKind?_of_infix (infix_replaceIn (u := textOf number?) hid) hk

theorem kinds_unique (h : kinds? (substitute f number?) = some ks)
    (h' : kinds? (substitute f other?) = some ks') : ks = ks' := by
  rw [kinds?_substitute_eq_some_iff] at h h'
  refine List.map_injective_iff.2 (Option.some_injective _) ?_
  rw [← h, ← h']
  refine List.map_congr_left fun w hw => ?_
  obtain ⟨k, _, hk⟩ := List.mem_map.1 (h ▸ List.mem_map_of_mem hw)
  obtain ⟨k', _, hk'⟩ := List.mem_map.1 (h' ▸ List.mem_map_of_mem hw)
  by_cases href : ∃ id, .reference id ∈ pieces w
  · obtain ⟨id, hid⟩ := href
    rw [← hk, ← hk', wordKind?_replaceIn hid hk.symm, wordKind?_replaceIn hid hk'.symm]
  · have hnone := not_exists.1 href
    rw [replaceIn_of_forall hnone, replaceIn_of_forall hnone]

theorem kinds?_of_wholeReferences (hwhole : WholeReferences f.toList) :
    kinds? (substitute f number?) = kinds? (substitute f other?) := by
  have hword : ∀ w ∈ Text.words f.toList, wordKind? (replaceIn (textOf number?) w) =
      wordKind? (replaceIn (textOf other?) w) := by
    intro w hw
    rcases letter_or_no_reference (hwhole w hw) with ⟨id, _, rfl⟩ | hnone
    · simp [replaceIn_letter, textOf, wordKind?_text]
    · rw [replaceIn_of_forall hnone, replaceIn_of_forall hnone]
  ext ks
  rw [kinds?_substitute_eq_some_iff, kinds?_substitute_eq_some_iff, List.map_congr_left hword]

/-- In a literal nothing stands before the sign of negative infinity, and only word characters come
after it. -/
theorem eq_nil_of_spelled {before after : List Char}
    (h : Binary64.Spelled (before ++ "-inf".toList ++ after)) :
    before = [] ∧ ∀ c ∈ after, Text.isWord c = true := by
  generalize hv : before ++ "-inf".toList ++ after = v at h
  cases h with
  | @name sign cs hsign hname =>
    have hwords := (isWord_of_name hname).2
    have hminus : '-' ∉ cs := by
      intro hmem
      have hword := hwords _ hmem
      revert hword
      decide
    rcases hsign with rfl | rfl | rfl
    · rw [List.nil_append] at hv
      simp [← hv] at hminus
    · cases before with
      | nil => simp at hv
      | cons b before =>
        simp only [List.cons_append, List.nil_append, List.cons.injEq] at hv
        simp [← hv.2] at hminus
    · cases before with
      | nil =>
        have hcs : 'i' :: 'n' :: 'f' :: after = cs := by simpa using hv
        exact ⟨rfl, fun c hc => hwords c (by simp [← hcs, hc])⟩
      | cons b before =>
        simp only [List.cons_append, List.nil_append, List.cons.injEq] at hv
        simp [← hv.2] at hminus
  | @numeral sign cs hsign hcs =>
    have hmem : 'i' ∈ sign ++ cs := by simp [← hv]
    have hnumeral := (List.mem_append.1 hmem).elim hsign.inNumerals hcs.inNumerals
    simp [Binary64.InNumerals] at hnumeral

/-- Negative infinity for every cell. -/
def negativeInfinity (_ : CellId) : Option Float :=
  some (Binary64.Magnitude.infinity.toFloat true)

theorem textOf_negativeInfinity (id : CellId) : textOf negativeInfinity id = "-inf".toList := by
  have h : Binary64.text (Binary64.Magnitude.infinity.toFloat true) = "-inf".toList := by
    decide +kernel
  exact h

/-- Where a reference is a part of a word, negative infinity in its place leaves no token. -/
theorem eq_letter_of_wordKind? (hid : .reference id ∈ pieces w) {k : Option Operator}
    (h : wordKind? (replaceIn (textOf negativeInfinity) w) = some k) : w = [id.letter] := by
  obtain ⟨t, ht, hkind⟩ := Option.map_eq_some_iff.1 h
  obtain rfl := wordKind?_replaceIn hid h
  have hspelled : Binary64.Spelled (replaceIn (textOf negativeInfinity) w) := by
    cases t with
    | number x => exact Binary64.spelled_of_literal? (ofWord?_eq_number_iff.1 ht)
    | operator op => cases hkind
  obtain ⟨pre, post, before, rfl, hpost, _, hlength, hpieces⟩ := exists_of_reference_mem hid
  rw [replaceIn, pieces, hpieces, List.flatMap_append, List.flatMap_cons, Piece.render,
    textOf_negativeInfinity, ← List.append_assoc] at hspelled
  obtain ⟨hbefore, hafter⟩ := eq_nil_of_spelled hspelled
  have hnopre : pre = [] := by
    cases before with
    | nil => simpa [eq_comm] using hlength
    | cons p before =>
      rw [List.flatMap_cons, List.append_eq_nil_iff] at hbefore
      exact absurd hbefore.1 (render_ne_nil (fun _ => Binary64.text_ne_nil _) p)
  have hnopost : post = [] := by
    cases post with
    | nil => rfl
    | cons c post =>
      have hword := hafter c (by simp [piecesAfter_true_cons, Piece.render])
      simp [startsWord, hword] at hpost
  simp [hnopre, hnopost]

/-- Numbers put in the place of references never make an operator out of a number, and they decide
whether there are tokens at all only where a reference is a part of a word. -/
theorem kinds_of_substitute (f : String) :
    (∀ number? other? ks ks', kinds? (substitute f number?) = some ks →
      kinds? (substitute f other?) = some ks' → ks = ks') ∧
    ((∀ number? other?, kinds? (substitute f number?) = kinds? (substitute f other?)) ↔
      WholeReferences f.toList ∨ ∀ number?, kinds? (substitute f number?) = none) := by
  refine ⟨fun _ _ _ _ => kinds_unique, fun hsame => ?_, ?_⟩
  · refine or_iff_not_imp_right.2 fun hsome w hw id hid => ?_
    rw [not_forall] at hsome
    obtain ⟨number?, hsome⟩ := hsome
    obtain ⟨ks, hks⟩ := Option.ne_none_iff_exists'.1 hsome
    -- If any numbers give tokens, negative infinity for all cells does.
    rw [hsame number? negativeInfinity, kinds?_substitute_eq_some_iff] at hks
    obtain ⟨k, _, hk⟩ := List.mem_map.1 (hks ▸ List.mem_map_of_mem hw)
    exact eq_letter_of_wordKind? hid hk.symm
  · rintro (hwhole | hnone) number? other?
    · exact kinds?_of_wholeReferences hwhole
    · rw [hnone, hnone]

/-- Two references that are words, whichever their numbers are. -/
theorem kinds_of_difference (number? : CellId → Option Float) :
    WholeReferences "A B - lg 2 +".toList ∧
      kinds? (substitute "A B - lg 2 +" number?) =
        some [none, none, some (.binary .sub), some (.unary .ln), none, some (.binary .add)] := by
  have hwhole : WholeReferences "A B - lg 2 +".toList := by decide +kernel
  refine ⟨hwhole, ((kinds_of_substitute _).2.2 (.inl hwhole) number? negativeInfinity).trans ?_⟩
  decide +kernel

/-- A sign before a reference makes a literal with a positive number and none with a negative
one. -/
theorem kinds_of_signed_reference :
    kinds? (substitute "-A" fun _ => some 5) = some [none] ∧
      substitute "-A" (fun _ => some (-5)) = "--5" ∧
      tokenize "--5" = .error (.malformed (.unknownWord "--5")) ∧
      kinds? (substitute "-A" fun _ => some (-5)) = none := by
  decide +kernel

end Formula
end ReactiveSheet
