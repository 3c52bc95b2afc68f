import Mathlib.Data.List.Basic
import ReactiveSheet.Formula

/-!
Formulas word by word. Main statements: a reference belongs to one of the words that white space
separates (`mem_references_iff`), and where each reference is a whole word, replacing references is
replacing words (`words_replace`).
-/

namespace ReactiveSheet

variable {b : Char} {cs w : List Char} {id : CellId} {u : CellId → List Char} {f : String}

namespace Text

/-- Induction over a text that white space parts into shorter ones. -/
theorem words_induction {P : List Char → Prop} (word : ∀ w, (∀ c ∈ w, isBlank c = false) → P w)
    (append : ∀ w b cs, isBlank b = true → P w → P cs → P (w ++ b :: cs)) (cs : List Char) :
    P cs := by
  -- The induction is on what is left of the text after the beginning of its first word.
  have hprefix : ∀ w, (∀ c ∈ w, isBlank c = false) → P (w ++ cs) := by
    induction cs with
    | nil =>
      intro w hw
      rw [List.append_nil]
      exact word w hw
    | cons c cs ih =>
      intro w hw
      by_cases hc : isBlank c = true
      · exact append w c cs hc (word w hw) (ih [] (List.forall_mem_nil _))
      · have hlonger := ih (w ++ [c]) fun d hd => by
          rcases List.mem_append.1 hd with hd | hd
          · exact hw d hd
          · rw [List.mem_singleton.1 hd]
            exact Bool.eq_false_iff.2 hc
        rwa [List.append_assoc] at hlonger
  exact hprefix [] (List.forall_mem_nil _)

/-- What holds of the first characters one by one holds of all characters below a code point. -/
theorem of_forall_lt {P : Char → Prop} {n : Nat} (h : ∀ k < n, P (Char.ofNat k)) {c : Char}
    (hc : c.toNat < n) : P c := by
  simpa using h c.toNat hc

/-- No word character beyond ASCII is white space. -/
theorem disjoint_wordRanges :
    ∀ r ∈ wordRanges.toList, ∀ q ∈ blankRanges, r.2 < q.1 ∨ q.2 < r.1 := by decide +kernel

theorem isWord_of_isBlank (hb : isBlank b = true) : isWord b = false := by
  obtain ⟨q, hq, hblank⟩ := List.any_eq_true.1 hb
  rw [Bool.and_eq_true, decide_eq_true_eq, decide_eq_true_eq] at hblank
  by_contra hword
  rw [Bool.not_eq_false, isWord] at hword
  split_ifs at hword with hascii
  · have h : ∀ n < 0x80,
        (isBlank (Char.ofNat n) && ((Char.ofNat n).isAlphanum || Char.ofNat n == '_')) = false := by
      decide +kernel
    have hnot :=
      of_forall_lt (P := fun c => (isBlank c && (c.isAlphanum || c == '_')) = false) h hascii
    simp [hb, hword] at hnot
  · rw [← Array.any_toList] at hword
    obtain ⟨r, hr, hrange⟩ := List.any_eq_true.1 hword
    rw [Bool.and_eq_true, decide_eq_true_eq, decide_eq_true_eq] at hrange
    have := disjoint_wordRanges r hr q hq
    omega

end Text

namespace Formula

/-- A character of a kind that no letter is of names no cell. -/
theorem ofLetter?_eq_none {p : Char → Bool} (hp : ∀ id ∈ CellId.all, p id.letter = false)
    (hb : p b = true) : CellId.ofLetter? b = none := by
  cases hid : CellId.ofLetter? b with
  | none => rfl
  | some id =>
    rw [CellId.ofLetter?_eq_some hid, hp id (CellId.mem_all id)] at hb
    cases hb

theorem ofLetter?_of_isBlank (hb : Text.isBlank b = true) : CellId.ofLetter? b = none :=
  ofLetter?_eq_none (p := Text.isBlank) (by decide) hb

theorem piecesAfter_append_blank (hb : Text.isBlank b = true) (afterWord : Bool)
    (w cs : List Char) :
    piecesAfter afterWord (w ++ b :: cs) = piecesAfter afterWord w ++ .char b :: pieces cs := by
  have hword : Text.isWord b = false := Text.isWord_of_isBlank hb
  induction w generalizing afterWord with
  | nil => simp [piecesAfter, pieces, ofLetter?_of_isBlank hb, hword]
  | cons c w ih =>
    have hstarts : startsWord (w ++ b :: cs) = startsWord w := by
      cases w with
      | nil => exact hword
      | cons => rfl
    simp only [List.cons_append, piecesAfter, ih, hstarts]

theorem pieces_append_blank (hb : Text.isBlank b = true) (w cs : List Char) :
    pieces (w ++ b :: cs) = pieces w ++ .char b :: pieces cs :=
  piecesAfter_append_blank hb false w cs

theorem pieces_letter (id : CellId) : pieces [id.letter] = [.reference id] := by
  simp [pieces, piecesAfter, CellId.ofLetter?_letter, startsWord]

theorem mem_references : id ∈ references f ↔ .reference id ∈ pieces f.toList := by
  rw [references, IdSet.mem_ofList, List.mem_filterMap]
  constructor
  · rintro ⟨p, hp, hid⟩
    cases p with
    | char c => cases hid
    | reference r => rwa [Option.some.inj hid] at hp
  · exact fun h => ⟨_, h, rfl⟩

/-- A piece that is a reference belongs to one of the words. -/
theorem reference_mem_pieces_iff :
    .reference id ∈ pieces cs ↔ ∃ w ∈ Text.words cs, .reference id ∈ pieces w := by
  induction cs using Text.words_induction with
  | word w hw =>
    by_cases hnil : w = []
    · subst hnil
      simp [pieces, piecesAfter, Text.words, Text.fields]
    · simp [Text.words_of_not_blank hnil hw]
  | append w b cs hb ihw ihcs =>
    rw [pieces_append_blank hb, Text.words_append_blank w hb]
    simp [ihw, ihcs, or_and_right, exists_or]

theorem mem_references_iff :
    id ∈ references f ↔ ∃ w ∈ Text.words f.toList, .reference id ∈ pieces w := by
  rw [mem_references, reference_mem_pieces_iff]

/-- A text with other texts in the place of its references. -/
def replaceIn (u : CellId → List Char) (cs : List Char) : List Char :=
  (pieces cs).flatMap (Piece.render u)

theorem replace_toList (f : String) (u : CellId → List Char) :
    (replace f u).toList = replaceIn u f.toList :=
  String.toList_ofList

theorem replaceIn_letter (id : CellId) : replaceIn u [id.letter] = u id := by
  simp [replaceIn, pieces_letter, Piece.render]

theorem replaceIn_append_blank (hb : Text.isBlank b = true) (w cs : List Char) :
    replaceIn u (w ++ b :: cs) = replaceIn u w ++ b :: replaceIn u cs := by
  simp [replaceIn, pieces_append_blank hb, Piece.render]

/-- A text without references is what it was after replacement. -/
theorem replaceIn_of_forall (h : ∀ id, .reference id ∉ pieces cs) : replaceIn u cs = cs := by
  have hrender : ∀ p ∈ pieces cs, p.render u = p.render fun id => [id.letter] := by
    intro p hp
    cases p with
    | char c => rfl
    | reference id => exact absurd hp (h id)
  rw [replaceIn, List.flatMap_congr hrender, pieces, piecesAfter_render]

/-- Each reference of a text is a word by itself. -/
def WholeReferences (cs : List Char) : Prop :=
  ∀ w ∈ Text.words cs, ∀ id, .reference id ∈ pieces w → w = [id.letter]

instance (cs : List Char) : Decidable (WholeReferences cs) :=
  decidable_of_iff
    (∀ w ∈ Text.words cs, ∀ id ∈ CellId.all, .reference id ∈ pieces w → w = [id.letter])
    ⟨fun h w hw id => h w hw id (CellId.mem_all id), fun h w hw id _ => h w hw id⟩

/-- Where references are words, a word is one of them or has none. -/
theorem letter_or_no_reference (hw : ∀ id, .reference id ∈ pieces w → w = [id.letter]) :
    (∃ id, .reference id ∈ pieces w ∧ w = [id.letter]) ∨ ∀ id, .reference id ∉ pieces w := by
  rw [or_iff_not_imp_left]
  exact fun hnot id hid => hnot ⟨id, hid, hw id hid⟩

/-- The words in the place of a word: those of the text for it, if it is a reference. -/
def replaceWord (u : CellId → List Char) (w : List Char) : List (List Char) :=
  match pieces w with
  | [.reference id] => Text.words (u id)
  | _ => [w]

theorem replaceWord_letter (id : CellId) : replaceWord u [id.letter] = Text.words (u id) := by
  simp only [replaceWord, pieces_letter]

theorem replaceWord_of_forall (h : ∀ id, .reference id ∉ pieces w) : replaceWord u w = [w] := by
  unfold replaceWord
  split
  · rename_i id hid
    exact absurd (hid ▸ List.mem_singleton_self _) (h id)
  · rfl

/-- Where references are words, replacing them is replacing words. -/
theorem words_replaceIn_of_whole (hwhole : WholeReferences cs) :
    Text.words (replaceIn u cs) = (Text.words cs).flatMap (replaceWord u) := by
  induction cs using Text.words_induction with
  | word w hw =>
    by_cases hnil : w = []
    · subst hnil
      rfl
    · have hwords := Text.words_of_not_blank hnil hw
      rw [hwords, List.flatMap_singleton]
      rcases letter_or_no_reference (hwhole w (hwords ▸ List.mem_singleton_self w)) with
        ⟨id, _, rfl⟩ | hnone
      · rw [replaceIn_letter, replaceWord_letter]
      · rw [replaceIn_of_forall hnone, replaceWord_of_forall hnone, hwords]
  | append w b cs hb ihw ihcs =>
    have hparts := Text.words_append_blank w hb cs
    have hw : WholeReferences w := fun v hv => hwhole v (hparts ▸ List.mem_append_left _ hv)
    have hcs : WholeReferences cs := fun v hv => hwhole v (hparts ▸ List.mem_append_right _ hv)
    rw [replaceIn_append_blank hb, Text.words_append_blank _ hb, ihw hw, ihcs hcs, hparts,
      List.flatMap_append]

theorem words_replace (hwhole : WholeReferences f.toList) (u : CellId → List Char) :
    Text.words (replace f u).toList = (Text.words f.toList).flatMap (replaceWord u) := by
  rw [replace_toList, words_replaceIn_of_whole hwhole]

/-- Texts without references leave no reference. -/
theorem references_replace (hwhole : WholeReferences f.toList)
    (hu : ∀ r ∈ references f, ∀ id, .reference id ∉ pieces (u r)) :
    references (replace f u) = ∅ := by
  ext id
  refine iff_of_false ?_ (IdSet.not_mem_empty id)
  rw [mem_references_iff, words_replace hwhole]
  rintro ⟨v, hv, hid⟩
  obtain ⟨w, hw, hv⟩ := List.mem_flatMap.1 hv
  rcases letter_or_no_reference (hwhole w hw) with ⟨r, hr, rfl⟩ | hnone
  · rw [replaceWord_letter] at hv
    exact hu r (mem_references_iff.2 ⟨_, hw, hr⟩) id (reference_mem_pieces_iff.2 ⟨v, hv, hid⟩)
  · rw [replaceWord_of_forall hnone, List.mem_singleton] at hv
    exact hnone id (hv ▸ hid)

end Formula
end ReactiveSheet
