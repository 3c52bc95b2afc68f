import ReactiveSheet.Proofs.Formula.Words

/-!
Where the references of a text stand. Main statements: each character gives one piece
(`piecesAfter_cons_cases`), the pieces of the end of a text are the last ones of the text
(`piecesAfter_isSuffix`), a reference is a letter with no word character on either side
(`exists_of_reference_mem`), and replacing references by words leaves the words apart
(`words_replaceIn`).
-/

namespace ReactiveSheet.Formula

variable {afterWord : Bool} {c : Char} {w cs : List Char} {id : CellId} {u : CellId → List Char}

theorem isWord_letter (id : CellId) : Text.isWord id.letter = true := by
  have h : ∀ id ∈ CellId.all, Text.isWord id.letter = true := by decide
  exact h id (CellId.mem_all id)

theorem ne_letter (hc : CellId.ofLetter? c = none) : c ≠ id.letter := by
  rintro rfl
  simp [CellId.ofLetter?_letter] at hc

/-- A character is a letter that is a reference, or one that no reference comes of. -/
theorem piecesAfter_cons_cases (afterWord : Bool) (c : Char) (cs : List Char) :
    (∃ id : CellId, c = id.letter ∧ afterWord = false ∧ startsWord cs = false ∧
      piecesAfter afterWord (c :: cs) = .reference id :: piecesAfter true cs) ∨
    ((∀ id : CellId, c = id.letter → afterWord = true ∨ startsWord cs = true) ∧
      piecesAfter afterWord (c :: cs) = .char c :: piecesAfter (Text.isWord c) cs) := by
  cases hc : CellId.ofLetter? c with
  | none =>
    right
    simp [piecesAfter, hc, ne_letter hc]
  | some id =>
    obtain rfl := CellId.ofLetter?_eq_some hc
    cases afterWord <;> cases hcs : startsWord cs <;> simp [piecesAfter, hc, hcs, isWord_letter]

theorem exists_piecesAfter_cons (afterWord : Bool) (c : Char) (cs : List Char) :
    ∃ piece, piecesAfter afterWord (c :: cs) = piece :: piecesAfter (Text.isWord c) cs ∧
      ∀ id, piece = .reference id ↔
        c = id.letter ∧ afterWord = false ∧ startsWord cs = false := by
  rcases piecesAfter_cons_cases afterWord c cs with ⟨r, rfl, hword, hcs, h⟩ | ⟨hletter, h⟩
  · refine ⟨.reference r, by rw [h, isWord_letter], fun id => ?_⟩
    have hinj : r.letter = id.letter ↔ r = id := ⟨CellId.letter_inj, congrArg _⟩
    simp [hinj, hword, hcs]
  · refine ⟨.char c, h, fun id => ?_⟩
    have hnot := hletter id
    simp only [reduceCtorEq, false_iff]
    grind

theorem reference_mem_piecesAfter_cons :
    .reference id ∈ piecesAfter afterWord (c :: cs) ↔
      (c = id.letter ∧ afterWord = false ∧ startsWord cs = false) ∨
        .reference id ∈ piecesAfter (Text.isWord c) cs := by
  obtain ⟨piece, hpieces, hpiece⟩ := exists_piecesAfter_cons afterWord c cs
  rw [hpieces, List.mem_cons, eq_comm, hpiece]

/-- After a word character no letter is a reference. -/
theorem piecesAfter_true_cons (c : Char) (cs : List Char) :
    piecesAfter true (c :: cs) = .char c :: piecesAfter (Text.isWord c) cs := by
  rw [piecesAfter]
  cases CellId.ofLetter? c <;> simp

/-- Whether a word character stands right before the end of a text, given whether one stands before
the text. -/
def wordAfter (afterWord : Bool) (w : List Char) : Bool :=
  w.foldl (fun _ c => Text.isWord c) afterWord

theorem wordAfter_append_singleton (afterWord : Bool) (w : List Char) (c : Char) :
    wordAfter afterWord (w ++ [c]) = Text.isWord c := by
  simp [wordAfter]

theorem piecesAfter_isSuffix (afterWord : Bool) (w cs : List Char) :
    piecesAfter (wordAfter afterWord w) cs <:+ piecesAfter afterWord (w ++ cs) := by
  induction w generalizing afterWord with
  | nil => exact List.suffix_rfl
  | cons c w ih => exact (ih (Text.isWord c)).trans (List.suffix_cons _ _)

/-- Characters that are no letters only tell whether a word character stands before the others. -/
theorem reference_mem_piecesAfter_append (hw : ∀ c ∈ w, CellId.ofLetter? c = none) :
    .reference id ∈ piecesAfter afterWord (w ++ cs) ↔
      .reference id ∈ piecesAfter (wordAfter afterWord w) cs := by
  induction w generalizing afterWord with
  | nil => rfl
  | cons c w ih =>
    obtain ⟨hc, hw⟩ := List.forall_mem_cons.1 hw
    rw [List.cons_append, reference_mem_piecesAfter_cons, ih hw]
    simp [ne_letter hc, wordAfter]

theorem not_reference_mem_piecesAfter (hw : ∀ c ∈ w, CellId.ofLetter? c = none) :
    .reference id ∉ piecesAfter afterWord w := by
  rw [← List.append_nil w, reference_mem_piecesAfter_append hw]
  exact List.not_mem_nil

/-- What stands before a reference and what follows it, in characters and in pieces. -/
theorem exists_of_reference_mem (h : .reference id ∈ piecesAfter afterWord cs) :
    ∃ pre post before, cs = pre ++ id.letter :: post ∧ startsWord post = false ∧
      wordAfter afterWord pre = false ∧ before.length = pre.length ∧
      piecesAfter afterWord cs = before ++ .reference id :: piecesAfter true post := by
  induction cs generalizing afterWord with
  | nil => cases h
  | cons c cs ih =>
    obtain ⟨piece, hpieces, hpiece⟩ := exists_piecesAfter_cons afterWord c cs
    rw [hpieces] at h ⊢
    rcases List.mem_cons.1 h with rfl | hlater
    · obtain ⟨rfl, hword, hpost⟩ := (hpiece id).1 rfl
      refine ⟨[], cs, [], rfl, hpost, hword, rfl, ?_⟩
      rw [isWord_letter, List.nil_append]
    · obtain ⟨pre, post, before, rfl, hpost, hpre, hlength, hlater⟩ := ih hlater
      refine ⟨c :: pre, post, piece :: before, rfl, hpost, hpre, ?_, ?_⟩
      · simp [hlength]
      · rw [hlater, List.cons_append]

theorem infix_replaceIn (h : .reference id ∈ pieces w) : u id <:+: replaceIn u w := by
  obtain ⟨before, after, hpieces⟩ := List.append_of_mem h
  exact ⟨before.flatMap (Piece.render u), after.flatMap (Piece.render u), by
    simp [replaceIn, hpieces, Piece.render]⟩

theorem render_ne_nil (hne : ∀ id, u id ≠ []) (p : Piece) : p.render u ≠ [] := by
  cases p with
  | reference id => exact hne id
  | char c => exact List.cons_ne_nil c []

theorem mem_of_mem_render (hc : c ∈ (piecesAfter afterWord cs).flatMap (Piece.render u)) :
    c ∈ cs ∨ ∃ id, c ∈ u id := by
  induction cs generalizing afterWord with
  | nil => cases hc
  | cons d cs ih =>
    rw [piecesAfter, List.flatMap_cons, List.mem_append] at hc
    rcases hc with hc | hc
    · split at hc
      · split_ifs at hc
        · simp_all [Piece.render]
        · exact .inr ⟨_, hc⟩
      · simp_all [Piece.render]
    · exact (ih hc).imp_left (List.mem_cons_of_mem d)

/-- Words in the place of references join with what stands around them, so that the words of the
text are replaced one by one. -/
theorem words_replaceIn (hne : ∀ id, u id ≠ []) (hu : ∀ id, ∀ c ∈ u id, Text.isBlank c = false) :
    Text.words (replaceIn u cs) = (Text.words cs).map (replaceIn u) := by
  induction cs using Text.words_induction with
  | word w hw =>
    cases w with
    | nil => rfl
    | cons c w =>
      have hblank : ∀ d ∈ replaceIn u (c :: w), Text.isBlank d = false := by
        intro d hd
        rcases mem_of_mem_render hd with hd | ⟨id, hd⟩
        · exact hw d hd
        · exact hu id d hd
      have hnonempty : replaceIn u (c :: w) ≠ [] := by
        simp [replaceIn, pieces, piecesAfter, render_ne_nil hne]
      rw [Text.words_of_not_blank hnonempty hblank,
        Text.words_of_not_blank (List.cons_ne_nil c w) hw, List.map_singleton]
  | append w b cs hb ihw ihcs =>
    rw [replaceIn_append_blank hb, Text.words_append_blank _ hb, Text.words_append_blank _ hb, ihw,
      ihcs, List.map_append]

end ReactiveSheet.Formula
