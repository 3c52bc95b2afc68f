/-!
White space, and the two things that texts are asked with it: the text without the white space
around it, and the words that white space separates. The characters are those of the Unicode
property `White_Space`.
-/

namespace ReactiveSheet.Text

/-- The ranges of the Unicode property `White_Space`. -/
def blankRanges : List (Nat × Nat) :=
  [(0x09, 0x0D), (0x20, 0x20), (0x85, 0x85), (0xA0, 0xA0), (0x1680, 0x1680), (0x2000, 0x200A),
    (0x2028, 0x2029), (0x202F, 0x202F), (0x205F, 0x205F), (0x3000, 0x3000)]

def isBlank (c : Char) : Bool :=
  blankRanges.any fun r => r.1 ≤ c.toNat && c.toNat ≤ r.2

def trim (cs : List Char) : List Char :=
  ((cs.dropWhile isBlank).reverse.dropWhile isBlank).reverse

/-- The pieces between white-space characters, empty ones included. -/
def fields : List Char → List (List Char)
  | [] => [[]]
  | c :: cs =>
    if isBlank c then [] :: fields cs
    else
      match fields cs with
      | [] => [[c]]
      | f :: fs => (c :: f) :: fs

/-- The words that white space separates, in order. -/
def words (cs : List Char) : List (List Char) :=
  (fields cs).filter fun f => !f.isEmpty

theorem fields_ne_nil (cs : List Char) : fields cs ≠ [] := by
  fun_cases fields cs <;> simp

theorem fields_append_blank (a : List Char) {b : Char} (hb : isBlank b = true) (c : List Char) :
    fields (a ++ b :: c) = fields a ++ fields c := by
  induction a with
  | nil => simp [fields, hb]
  | cons x a ih =>
    by_cases hx : isBlank x = true
    · simp [fields, hx, ih]
    · have hne := fields_ne_nil a
      match h : fields a with
      | [] => exact absurd h hne
      | f :: fs => simp [fields, hx, ih, h]

/-- White space parts a text into texts whose words stand side by side. -/
theorem words_append_blank (a : List Char) {b : Char} (hb : isBlank b = true) (c : List Char) :
    words (a ++ b :: c) = words a ++ words c := by
  simp [words, fields_append_blank a hb c]

theorem fields_of_not_blank {w : List Char} (h : ∀ c ∈ w, isBlank c = false) : fields w = [w] := by
  induction w with
  | nil => rfl
  | cons c w ih =>
    have hc := h c (by simp)
    simp [fields, hc, ih fun d hd => h d (by simp [hd])]

theorem words_of_not_blank {w : List Char} (hne : w ≠ []) (h : ∀ c ∈ w, isBlank c = false) :
    words w = [w] := by
  simp [words, fields_of_not_blank h, hne]

end ReactiveSheet.Text
