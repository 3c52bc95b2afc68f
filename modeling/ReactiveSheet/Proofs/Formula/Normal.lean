import Mathlib.Data.List.DropRight
import ReactiveSheet.Formula

/-!
Normal formulas: texts that are not empty and have no white space at their ends. Main statements: an
input always stands for a normal formula (`normal_normalize`), and a normal formula stands for itself
with any white space around it (`Normal.normalize_surrounded`).
-/

namespace ReactiveSheet

variable {cs before after : List Char} {f : String}

namespace Text

/-- A text without white space at its ends. -/
structure Trimmed (cs : List Char) : Prop where
  first : ∀ c ∈ cs.head?, isBlank c = false
  last : ∀ c ∈ cs.getLast?, isBlank c = false

def Blank (s : String) : Prop := ∀ c ∈ s.toList, isBlank c = true

instance (s : String) : Decidable (Blank s) :=
  decidable_of_iff (s.toList.all isBlank = true) List.all_eq_true

theorem trim_eq (cs : List Char) : trim cs = (cs.dropWhile isBlank).rdropWhile isBlank := rfl

theorem trim_blank_append (h : ∀ c ∈ before, isBlank c = true) : trim (before ++ cs) = trim cs := by
  rw [trim, trim, List.dropWhile_append_of_pos h]

theorem trim_append_blank (h : ∀ c ∈ after, isBlank c = true) : trim (cs ++ after) = trim cs := by
  have hreverse : ∀ c ∈ after.reverse, isBlank c = true := by simpa using h
  have hafter : after.dropWhile isBlank = [] := List.dropWhile_eq_nil_iff.2 h
  simp only [trim, List.dropWhile_append]
  split_ifs with hcs
  · rw [List.isEmpty_iff] at hcs
    simp [hcs, hafter]
  · rw [List.reverse_append, List.dropWhile_append_of_pos hreverse]

theorem not_blank_of_mem_head?_dropWhile {c : Char} (hc : c ∈ (cs.dropWhile isBlank).head?) :
    isBlank c = false := by
  have h := List.head?_dropWhile_not isBlank cs
  simpa [Option.mem_def.1 hc] using h

theorem trimmed_trim (cs : List Char) : Trimmed (trim cs) := by
  rw [trim_eq]
  constructor
  · intro c hc
    obtain ⟨rest, hrest⟩ := List.rdropWhile_prefix isBlank (l := cs.dropWhile isBlank)
    have hhead : c ∈ (cs.dropWhile isBlank).head? := by
      rw [← hrest, List.head?_append, Option.mem_def.1 hc]
      rfl
    exact not_blank_of_mem_head?_dropWhile hhead
  · intro c hc
    rw [List.rdropWhile, List.getLast?_reverse] at hc
    exact not_blank_of_mem_head?_dropWhile hc

theorem Trimmed.trim_eq_self (h : Trimmed cs) : trim cs = cs := by
  have hfirst : cs.dropWhile isBlank = cs := by
    cases cs with
    | nil => rfl
    | cons c cs => simp [h.first c rfl]
  rw [trim_eq, hfirst, List.rdropWhile_eq_self_iff]
  intro hne
  simp [h.last _ (List.getLast?_eq_some_getLast hne)]

/-- White space around a text that has none at its ends is cut off, whatever it is. -/
theorem Trimmed.trim_surrounded (h : Trimmed cs) (hbefore : ∀ c ∈ before, isBlank c = true)
    (hafter : ∀ c ∈ after, isBlank c = true) : trim (before ++ cs ++ after) = cs := by
  rw [trim_append_blank hafter, trim_blank_append hbefore, h.trim_eq_self]

end Text

namespace Formula

/-- What the formula of a cell is like. -/
structure Normal (f : String) : Prop where
  ne_empty : f ≠ ""
  trimmed : Text.Trimmed f.toList

theorem normal_normalize (input : String) : Normal (normalize input) := by
  unfold normalize
  split
  · constructor
    · decide
    · constructor <;> simp [default, Text.isBlank, Text.blankRanges]
  · rename_i hne
    constructor
    · simpa using hne
    · simpa using Text.trimmed_trim input.toList

/-- White space around a normal formula makes no difference. -/
theorem Normal.normalize_surrounded {before after : String} (hf : Normal f)
    (hbefore : Text.Blank before) (hafter : Text.Blank after) :
    normalize (before ++ f ++ after) = f := by
  have htrim : Text.trim (before ++ f ++ after).toList = f.toList := by
    simpa using hf.trimmed.trim_surrounded hbefore hafter
  unfold normalize
  split
  · rename_i hnil
    rw [htrim] at hnil
    have hempty : f = "" := by simpa using hnil
    exact absurd hempty hf.ne_empty
  · rw [htrim, String.ofList_toList]

theorem Normal.normalize_eq_self (hf : Normal f) : normalize f = f := by
  have hempty : Text.Blank "" := by decide
  simpa using hf.normalize_surrounded hempty hempty

theorem normalize_blank {blank : String} (h : Text.Blank blank) : normalize blank = default := by
  have htrim : Text.trim blank.toList = [] := by
    rw [← List.nil_append blank.toList, Text.trim_append_blank h]
    rfl
  simp [normalize, htrim]

end Formula
end ReactiveSheet
