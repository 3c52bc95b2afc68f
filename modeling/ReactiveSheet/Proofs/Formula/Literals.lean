import ReactiveSheet.Proofs.Binary64.Spelling
import ReactiveSheet.Proofs.Formula.Pieces
import ReactiveSheet.Proofs.Stack

/-!
References in the words of expressions. Main statement: where all words are operators and literals,
the only reference is the `E` of an exponent that has a sign and stands right after the point
(`reference_of_tokens_iff`).
-/

namespace ReactiveSheet

variable {c : Char} {w cs e : List Char} {id : CellId} {afterWord : Bool} {f : String}

namespace Text

theorem isWord_toLower (c : Char) : isWord c.toLower = isWord c := by
  by_cases hc : c.toNat < 0x80
  · have h : ∀ n < 0x80, isWord (Char.ofNat n).toLower = isWord (Char.ofNat n) := by decide +kernel
    exact of_forall_lt (P := fun c => isWord c.toLower = isWord c) h hc
  · unfold Char.toLower
    rw [dif_neg]
    rintro ⟨_, hupper⟩
    have hle : c.toNat ≤ 'Z'.toNat := UInt32.le_iff_toNat_le.1 hupper
    exact hc (hle.trans_lt (by decide))

theorem isWord_of_isDigit (hc : c.isDigit = true) : isWord c = true := by
  have h : ∀ n < 0x3A, (!(Char.ofNat n).isDigit || isWord (Char.ofNat n)) = true := by
    decide +kernel
  have hword := of_forall_lt (P := fun c => (!c.isDigit || isWord c) = true) h
    (Nat.lt_succ_of_le (Char.isDigit_iff_toNat.1 hc).2)
  simpa [hc] using hword

/-- A word is a part of the text. -/
theorem isInfix_of_mem_words (hw : w ∈ words cs) : w <:+: cs := by
  induction cs using words_induction with
  | word v hv =>
    by_cases hnil : v = []
    · simp [hnil, words, fields] at hw
    · rw [words_of_not_blank hnil hv, List.mem_singleton] at hw
      simp [hw]
  | append v b cs hb ihv ihcs =>
    rw [words_append_blank v hb, List.mem_append] at hw
    rcases hw with hw | hw
    · exact (ihv hw).trans (List.infix_append_left ..)
    · exact (ihcs hw).trans ((List.suffix_cons b cs).isInfix.trans (List.suffix_append v _).isInfix)

end Text

namespace Formula

open Binary64

theorem ofLetter?_of_isDigit (hc : c.isDigit = true) : CellId.ofLetter? c = none :=
  ofLetter?_eq_none (p := Char.isDigit) (by decide) hc

theorem ofLetter?_of_isSign (hw : IsSign w) : ∀ c ∈ w, CellId.ofLetter? c = none := by
  rcases hw with rfl | rfl | rfl <;> simp <;> decide

theorem wordAfter_of_isDigits (hne : w ≠ []) (hw : IsDigits w) : wordAfter afterWord w = true := by
  obtain ⟨w, c, rfl⟩ := (List.eq_nil_or_concat' w).resolve_left hne
  rw [wordAfter_append_singleton]
  exact Text.isWord_of_isDigit (hw c (by simp))

/-- A letter is no reference where other word characters stand around it. -/
theorem eq_letter_of_reference_mem (hw : ∀ c ∈ w, Text.isWord c = true)
    (h : .reference id ∈ piecesAfter afterWord w) : w = [id.letter] := by
  obtain ⟨pre, post, _, rfl, hpost, hpre, _⟩ := exists_of_reference_mem h
  have hnopost : post = [] := by
    cases post with
    | nil => rfl
    | cons c post => simp [startsWord, hw c] at hpost
  have hnopre : pre = [] := by
    rcases List.eq_nil_or_concat' pre with hnil | ⟨pre, c, rfl⟩
    · exact hnil
    · simp [wordAfter_append_singleton, hw c] at hpre
  simp [hnopre, hnopost]

/-- The words for infinity and for what is not a number are longer than a letter and have only word
characters, in any case. -/
theorem isWord_of_name
    (hname : w.map Char.toLower ∈ ["nan".toList, "inf".toList, "infinity".toList]) :
    w.length ≠ 1 ∧ ∀ c ∈ w, Text.isWord c = true := by
  have hlower : ∀ name ∈ ["nan".toList, "inf".toList, "infinity".toList],
      name.length ≠ 1 ∧ ∀ c ∈ name, Text.isWord c = true := by
    simp
    decide
  obtain ⟨hlength, hwords⟩ := hlower _ hname
  refine ⟨by simpa using hlength, fun c hc => ?_⟩
  simpa [Text.isWord_toLower] using hwords _ (List.mem_map_of_mem hc)

theorem not_reference_mem_name
    (hname : w.map Char.toLower ∈ ["nan".toList, "inf".toList, "infinity".toList]) :
    .reference id ∉ piecesAfter afterWord w := by
  intro h
  obtain ⟨hlength, hwords⟩ := isWord_of_name hname
  simp [eq_letter_of_reference_mem hwords h] at hlength

/-- The `E` of an exponent with a sign is a reference, unless a word character stands before it. -/
theorem exponent_of_reference_mem (he : Exponent e) (h : .reference id ∈ piecesAfter afterWord e) :
    afterWord = false ∧ id.letter = 'E' ∧ ∃ ds, e = 'E' :: '+' :: ds ∨ e = 'E' :: '-' :: ds := by
  cases he with
  | absent => cases h
  | @present e sign ds letter hsign hne hds =>
    have hrest : ∀ c ∈ sign ++ ds, CellId.ofLetter? c = none := by
      intro c hc
      rcases List.mem_append.1 hc with hc | hc
      · exact ofLetter?_of_isSign hsign c hc
      · exact ofLetter?_of_isDigit (hds c hc)
    rcases reference_mem_piecesAfter_cons.1 h with ⟨rfl, hword, hstarts⟩ | h
    · have hletter : id.letter = 'E' := by
        exact letter.resolve_left (ne_letter (by decide)).symm
      refine ⟨hword, hletter, ds, ?_⟩
      rcases hsign with rfl | rfl | rfl
      · obtain ⟨d, ds, rfl⟩ := List.exists_cons_of_ne_nil hne
        simp [startsWord, Text.isWord_of_isDigit, hds d] at hstarts
      · simp [hletter]
      · simp [hletter]
    · exact absurd h (not_reference_mem_piecesAfter hrest)

/-- An exponent that has a sign and comes right after the point. -/
def PointedExponent (cs : List Char) : Prop :=
  ['.', 'E', '+'] <:+: cs ∨ ['.', 'E', '-'] <:+: cs

instance (cs : List Char) : Decidable (PointedExponent cs) :=
  inferInstanceAs (Decidable (_ ∨ _))

theorem PointedExponent.of_infix (h : PointedExponent w) (hw : w <:+: cs) : PointedExponent cs :=
  h.imp (·.trans hw) (·.trans hw)

theorem pointedExponent_of_numeral (hw : Numeral w) (h : .reference id ∈ piecesAfter afterWord w) :
    id.letter = 'E' ∧ PointedExponent w := by
  have hdigits : ∀ {ds}, IsDigits ds → ∀ c ∈ ds, CellId.ofLetter? c = none :=
    fun hds c hc => ofLetter?_of_isDigit (hds c hc)
  cases hw with
  | whole hne hds he =>
    rw [reference_mem_piecesAfter_append (hdigits hds)] at h
    have hword := (exponent_of_reference_mem he h).1
    simp [wordAfter_of_isDigits hne hds] at hword
  | @point ds fs e _ hds hfs he =>
    rw [reference_mem_piecesAfter_append (hdigits hds), reference_mem_piecesAfter_cons,
      reference_mem_piecesAfter_append (hdigits hfs)] at h
    obtain ⟨hword, hletter, n, hexponent⟩ :=
      exponent_of_reference_mem he (h.resolve_left fun hpoint => ne_letter (by decide) hpoint.1)
    have hfraction : fs = [] := by
      by_contra hne
      simp [wordAfter_of_isDigits hne hfs] at hword
    subst hfraction
    refine ⟨hletter, hexponent.imp ?_ ?_⟩ <;> rintro rfl <;> exact ⟨ds, n, by simp⟩

theorem pointedExponent_of_spelled (hw : Spelled w) (h : .reference id ∈ pieces w) :
    id.letter = 'E' ∧ PointedExponent w := by
  cases hw with
  | name hsign hname =>
    rw [pieces, reference_mem_piecesAfter_append (ofLetter?_of_isSign hsign)] at h
    exact absurd h (not_reference_mem_name hname)
  | @numeral sign cs hsign hcs =>
    rw [pieces, reference_mem_piecesAfter_append (ofLetter?_of_isSign hsign)] at h
    obtain ⟨hletter, hpointed⟩ := pointedExponent_of_numeral hcs h
    exact ⟨hletter, hpointed.of_infix (List.suffix_append sign cs).isInfix⟩

theorem not_reference_mem_keyword (op : Operator) : .reference id ∉ pieces op.keyword.toList := by
  have h : ∀ op ∈ Operator.all, ∀ id ∈ CellId.all, .reference id ∉ pieces op.keyword.toList := by
    decide +kernel
  exact h op op.mem_all id (CellId.mem_all id)

theorem pointedExponent_of_token {t : Postfix.Token} (ht : Postfix.Token.ofWord? w = some t)
    (h : .reference id ∈ pieces w) : id.letter = 'E' ∧ PointedExponent w := by
  cases t with
  | operator op =>
    rw [Postfix.ofWord?_eq_operator_iff.1 ht] at h
    exact absurd h (not_reference_mem_keyword op)
  | number x =>
    exact pointedExponent_of_spelled (spelled_of_literal? (Postfix.ofWord?_eq_number_iff.1 ht)) h

theorem reference_mem_of_pointedExponent (hletter : id.letter = 'E') (h : PointedExponent cs) :
    .reference id ∈ pieces cs := by
  have hbefore : ∀ pre post, startsWord post = false →
      .reference id ∈ pieces (pre ++ '.' :: 'E' :: post) := by
    intro pre post hpost
    have hsuffix := piecesAfter_isSuffix false (pre ++ ['.']) ('E' :: post)
    rw [wordAfter_append_singleton, List.append_assoc, List.singleton_append] at hsuffix
    refine hsuffix.subset (reference_mem_piecesAfter_cons.2 (.inl ⟨hletter.symm, ?_, hpost⟩))
    decide
  rcases h with ⟨pre, post, rfl⟩ | ⟨pre, post, rfl⟩
  · simpa using hbefore pre ('+' :: post) (by simp [startsWord]; decide)
  · simpa using hbefore pre ('-' :: post) (by simp [startsWord]; decide)

/-- In the words of an expression nothing is a reference but the `E` of an exponent that has a sign
and comes right after the point. Without such an exponent an expression is left as it is. -/
theorem reference_of_tokens_iff {ts : List Postfix.Token} (h : Postfix.tokenize f = .ok ts) :
    (∀ id, id ∈ references f ↔ id.letter = 'E' ∧ PointedExponent f.toList) ∧
      (¬ PointedExponent f.toList → ∀ number?, substitute f number? = f) := by
  have hreference : ∀ id, .reference id ∈ pieces f.toList ↔
      id.letter = 'E' ∧ PointedExponent f.toList := by
    intro id
    constructor
    · intro hid
      obtain ⟨w, hw, hid⟩ := reference_mem_pieces_iff.1 hid
      obtain ⟨t, _, ht⟩ := List.mem_map.1
        (Postfix.ofWords_eq_ok_iff.1 h ▸ List.mem_map_of_mem (f := Postfix.Token.ofWord?) hw)
      obtain ⟨hletter, hpointed⟩ := pointedExponent_of_token ht.symm hid
      exact ⟨hletter, hpointed.of_infix (Text.isInfix_of_mem_words hw)⟩
    · exact fun hid => reference_mem_of_pointedExponent hid.1 hid.2
  refine ⟨fun id => mem_references.trans (hreference id), fun hpointed number? => ?_⟩
  have hnone : ∀ id, .reference id ∉ pieces f.toList :=
    fun id hid => hpointed ((hreference id).1 hid).2
  rw [← String.toList_inj, substitute, replace_toList, replaceIn_of_forall hnone]

/-- Capital exponents, also one with a sign, and a name in capitals. -/
theorem no_reference_in_capitals :
    Postfix.tokenize "1E+5 .5E-3 2.E4 -INF lg *" =
        .ok [.number 100000, .number 0.0005, .number 20000,
          .number (Magnitude.infinity.toFloat true), .operator (.unary .ln),
          .operator (.binary .mul)] ∧
      (∀ id, id ∉ references "1E+5 .5E-3 2.E4 -INF lg *") ∧
      ∀ number?, substitute "1E+5 .5E-3 2.E4 -INF lg *" number? = "1E+5 .5E-3 2.E4 -INF lg *" := by
  have htokens : Postfix.tokenize "1E+5 .5E-3 2.E4 -INF lg *" =
      .ok [.number 100000, .number 0.0005, .number 20000,
        .number (Magnitude.infinity.toFloat true), .operator (.unary .ln),
        .operator (.binary .mul)] := by
    decide +kernel
  have hpointed : ¬ PointedExponent "1E+5 .5E-3 2.E4 -INF lg *".toList := by decide +kernel
  obtain ⟨hreferences, hunchanged⟩ := reference_of_tokens_iff htokens
  exact ⟨htokens, fun id hid => hpointed ((hreferences id).1 hid).2, hunchanged hpointed⟩

/-- The exponent of a literal is taken for a reference, and its replacement is no literal. -/
theorem reference_in_literal :
    Postfix.tokenize "1.E+5" = .ok [.number 100000] ∧
      references "1.E+5" = .ofList (CellId.ofLetter? 'E').toList ∧
      substitute "1.E+5" (fun _ => none) = "1.0+5" ∧
      Postfix.tokenize "1.0+5" = .error (.malformed (.unknownWord "1.0+5")) := by
  decide +kernel

end Formula
end ReactiveSheet
