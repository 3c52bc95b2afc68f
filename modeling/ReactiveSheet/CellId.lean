/-!
Cell names, and tables with one entry for each of them. A cell is named by one of the letters `A` to
`Z`, and its name gives its place in every listing. All that is known of a table is what `get` says.
-/

namespace ReactiveSheet

/-- The name of a cell, counted from `A`. -/
structure CellId where
  index : Fin 26
deriving DecidableEq, Repr

namespace CellId

def count : Nat := 26

/-- The name at a position, if there are that many. -/
def ofIndex? (n : Nat) : Option CellId :=
  if h : n < 26 then some ⟨⟨n, h⟩⟩ else none

/-- The name written by a letter, which has to be an upper-case ASCII letter. -/
def ofLetter? (c : Char) : Option CellId :=
  if 'A'.toNat ≤ c.toNat then ofIndex? (c.toNat - 'A'.toNat) else none

/-- The name written by a text, which has to be that one letter and nothing else. -/
def parse? (text : String) : Option CellId :=
  match text.toList with
  | [c] => ofLetter? c
  | _ => none

def letter (id : CellId) : Char := Char.ofNat ('A'.toNat + id.index)

def text (id : CellId) : String := String.singleton id.letter

instance : ToString CellId := ⟨text⟩

instance : Inhabited CellId := ⟨⟨0⟩⟩

def all : List CellId := (List.finRange 26).map CellId.mk

/-- Names are ordered as their letters are. -/
instance : LT CellId := ⟨fun a b => a.index < b.index⟩

instance (a b : CellId) : Decidable (a < b) := inferInstanceAs (Decidable (a.index < b.index))

@[ext] theorem ext {a b : CellId} (h : a.index = b.index) : a = b := by
  cases a; cases b; exact congrArg mk h

@[simp] theorem mem_all (id : CellId) : id ∈ all := by
  simp [all, List.mem_map]

theorem all_length : all.length = count := by decide

theorem all_sorted : all.Pairwise (· < ·) := by decide

theorem ofIndex?_index (id : CellId) : ofIndex? id.index = some id := by
  simp [ofIndex?]

theorem ofIndex?_eq_some_iff {n : Nat} {id : CellId} : ofIndex? n = some id ↔ id.index = n := by
  constructor
  · intro h
    unfold ofIndex? at h
    split at h
    · cases h
      rfl
    · cases h
  · rintro rfl
    exact ofIndex?_index id

theorem ofLetter?_letter (id : CellId) : ofLetter? id.letter = some id := by
  have h : ∀ id ∈ all, ofLetter? id.letter = some id := by decide
  exact h id (mem_all id)

theorem ofLetter?_eq_some {c : Char} {id : CellId} (h : ofLetter? c = some id) :
    c = id.letter := by
  unfold ofLetter? at h
  split at h
  · rename_i hA
    unfold ofIndex? at h
    split at h
    · cases h
      have : 'A'.toNat + (c.toNat - 'A'.toNat) = c.toNat := by omega
      simp only [letter, this, Char.ofNat_toNat]
    · cases h
  · cases h

theorem letter_inj {a b : CellId} (h : a.letter = b.letter) : a = b := by
  have := ofLetter?_letter a
  rw [h, ofLetter?_letter] at this
  exact (Option.some.inj this).symm

theorem parse?_text (id : CellId) : parse? id.text = some id := by
  simp [parse?, text, ofLetter?_letter]

theorem parse?_eq_some_iff {s : String} {id : CellId} : parse? s = some id ↔ s = id.text := by
  constructor
  · intro h
    unfold parse? at h
    split at h
    · rename_i c hc
      rw [text, ← ofLetter?_eq_some h, ← String.toList_inj]
      simpa using hc
    · cases h
  · rintro rfl
    exact parse?_text id

end CellId

/-- One entry for every cell name. -/
structure Slots (α : Type) where
  entries : Vector α 26
deriving DecidableEq

namespace Slots

variable {α β : Type}

def get (s : Slots α) (id : CellId) : α := s.entries[id.index]

def ofFn (f : CellId → α) : Slots α := ⟨Vector.ofFn fun i => f ⟨i⟩⟩

def set (s : Slots α) (id : CellId) (a : α) : Slots α := ⟨s.entries.set id.index a⟩

@[simp] theorem get_ofFn (f : CellId → α) (id : CellId) : (ofFn f).get id = f id := by
  simp [get, ofFn]

theorem get_set (s : Slots α) (id other : CellId) (a : α) :
    (s.set id a).get other = if other = id then a else s.get other := by
  have : id.index.val = other.index.val ↔ other = id := by
    rw [CellId.ext_iff, Fin.ext_iff, eq_comm]
  simp [get, set, Vector.getElem_set, this]

@[ext] theorem ext {s t : Slots α} (h : ∀ id, s.get id = t.get id) : s = t := by
  cases s; cases t
  congr 1
  apply Vector.ext
  intro i hi
  exact h ⟨⟨i, hi⟩⟩

end Slots
end ReactiveSheet
