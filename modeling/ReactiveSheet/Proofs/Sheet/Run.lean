import ReactiveSheet.Proofs.Grid.Fresh
import ReactiveSheet.Proofs.Sheet.Edit
import ReactiveSheet.Sheet.Run

/-!
Runs of operations on a new sheet. Main statements: what each operation makes of a sheet
(`sheet_create`, `edit_cases`, `undo_cases`, `sheet_recalculate`), and that a property which the
operations of a run preserve holds after the run (`run_induction`, `Admits.run_induction`).
-/

namespace ReactiveSheet

@[simp] theorem Outcome.sheet_map {α β : Type} (f : α → β) (o : Outcome α) :
    (o.map f).sheet = o.sheet := rfl

namespace Sheet

variable {s t : Sheet} {id : CellId} {input : String} {ops : List Operation}

/-- A sheet as it is made: without cells, or with those that settings ask for. -/
def Initial (s : Sheet) : Prop := s = empty ∨ ∃ settings, ofSettings settings = .ok s

theorem sheet_create (s : Sheet) (id : CellId) :
    (s.create id).sheet =
      if s.grid.contains id then s else { s with grid := s.grid.insert id .fresh } := by
  unfold create
  split_ifs <;> rfl

theorem fresh_createAll {ns : List Nat} (hs : s.grid.Fresh) (ht : s.createAll ns = .ok t) :
    t.grid.Fresh := by
  induction ns generalizing s with
  | nil =>
    cases ht
    exact hs
  | cons n ns ih =>
    simp only [createAll] at ht
    split at ht
    · cases ht
    · rename_i id _
      split at ht
      · refine ih ?_ ht
        rw [sheet_create]
        split_ifs
        · exact hs
        · exact hs.insert id
      · cases ht

theorem contains_createAll {ns : List Nat} (ht : s.createAll ns = .ok t) (a : CellId) :
    t.grid.contains a = true ↔ s.grid.contains a = true ∨ a.index.val ∈ ns := by
  induction ns generalizing s with
  | nil =>
    cases ht
    simp
  | cons n ns ih =>
    simp only [createAll] at ht
    split at ht
    · cases ht
    · rename_i id hid
      split at ht
      · have hindex : a.index.val = n ↔ a = id := by
          rw [← CellId.ofIndex?_eq_some_iff, hid, Option.some.injEq, eq_comm]
        rw [ih ht, sheet_create, List.mem_cons, hindex]
        split_ifs with hk
        · grind
        · rw [Grid.contains_insert_fresh, or_assoc, or_left_comm]
      · cases ht

theorem createAll_of_ofSettings {settings : Settings} (hs : ofSettings settings = .ok s) :
    createAll ⟨∅, .withLimit settings.historyLimit, 0⟩ (List.range settings.cells) = .ok s := by
  unfold ofSettings Settings.validate at hs
  split at hs
  · cases hs
  · rename_i valid hvalid
    split at hvalid
    · cases hvalid
    · cases hvalid
      exact hs

theorem fresh_ofSettings {settings : Settings} (hs : ofSettings settings = .ok s) :
    s.grid.Fresh :=
  fresh_createAll .empty (createAll_of_ofSettings hs)

theorem Initial.fresh (hs : s.Initial) : s.grid.Fresh := by
  rcases hs with rfl | ⟨settings, hs⟩
  · exact .empty
  · exact fresh_ofSettings hs

/-- The cell that a letter names, in examples. -/
def named (letter : Char) : CellId := (CellId.ofLetter? letter).getD default

/-- A new sheet with three cells. -/
def threeCells : Sheet where
  grid :=
    (((∅ : Grid).insert (named 'A') .fresh).insert (named 'B') .fresh).insert (named 'C') .fresh
  history := .withLimit none
  listeners := 0

theorem ofSettings_three : ofSettings ⟨3, none⟩ = .ok threeCells := rfl

theorem initial_threeCells : threeCells.Initial := .inr ⟨_, ofSettings_three⟩

/-- A new sheet with one cell. -/
def oneCell (limit : Option Nat) : Sheet where
  grid := (∅ : Grid).insert (named 'A') .fresh
  history := .withLimit limit
  listeners := 0

theorem ofSettings_one : ofSettings ⟨1, none⟩ = .ok (oneCell none) := rfl

theorem edit_of_none (hcell : s.grid.get? id = none) :
    s.edit id input = s.fail (.unknownCell id) := by
  simp only [edit, hcell]

theorem edit_of_formula_eq {cell : Cell} (hcell : s.grid.get? id = some cell)
    (hf : cell.formula = Formula.normalize input) : s.edit id input = ⟨s, .ok [], []⟩ := by
  simp only [edit, hcell, if_pos hf]

theorem edit_of_formula_ne {cell : Cell} (hcell : s.grid.get? id = some cell)
    (hf : cell.formula ≠ Formula.normalize input) :
    s.edit id input = finish { s with history := s.history.push (cell.snapshot id) }
      (editPass s.grid id (Formula.normalize input))
      (editPass s.grid id (Formula.normalize input)).changed := by
  simp only [edit, hcell, if_neg hf]
  unfold editPass
  rfl

/-- An edit does nothing, or keeps what the cell was and brings the grid up to date with the new
formula. -/
theorem edit_cases (s : Sheet) (id : CellId) (input : String) :
    (s.edit id input).sheet = s ∨
      ∃ cell, s.grid.get? id = some cell ∧ cell.formula ≠ Formula.normalize input ∧
        (s.edit id input).sheet =
          { s with
            grid := (editPass s.grid id (Formula.normalize input)).grid
            history := s.history.push (cell.snapshot id) } := by
  cases hcell : s.grid.get? id with
  | none => exact .inl (by rw [edit_of_none hcell, fail])
  | some cell =>
    by_cases hf : cell.formula = Formula.normalize input
    · exact .inl (by rw [edit_of_formula_eq hcell hf])
    · exact .inr ⟨cell, rfl, hf, by rw [edit_of_formula_ne hcell hf, finish]⟩

/-- The grid in which a cell has the formula and the value that it had. Its links stay. -/
def restored (g : Grid) (snapshot : Snapshot) : Grid :=
  g.modify snapshot.id fun cell =>
    { cell with formula := snapshot.formula, value := snapshot.value }

/-- The pass in which a cell is given back a formula and a value. -/
@[irreducible]
def undoPass (g : Grid) (cell : Cell) (snapshot : Snapshot) : Grid.Pass :=
  let id := snapshot.id
  let changed :=
    if cell.formula ≠ snapshot.formula ∨ !cell.value.agrees snapshot.value then [id] else []
  let grid := restored g snapshot
  Grid.Pass.recompute ⟨grid, changed⟩ (grid.downstream id)

theorem undo_of_empty (hpop : s.history.pop? = none) : s.undo = s.fail .emptyHistory := by
  simp only [undo, hpop]

section Undo

variable {snapshot : Snapshot} {history : History}
  (hpop : s.history.pop? = some (snapshot, history))

include hpop

theorem undo_of_none (hcell : s.grid.get? snapshot.id = none) :
    s.undo = fail { s with history } (.unknownCell snapshot.id) := by
  simp only [undo, hpop, hcell]

theorem undo_of_get? {cell : Cell} (hcell : s.grid.get? snapshot.id = some cell) :
    s.undo = finish { s with history } (undoPass s.grid cell snapshot) snapshot.id := by
  simp only [undo, hpop, hcell]
  unfold undoPass
  rfl

end Undo

/-- An undo does nothing, or takes an entry off the history and leaves the cells alone, or takes it
off and gives the cell back what it was. -/
theorem undo_cases (s : Sheet) :
    s.history.pop? = none ∧ s.undo.sheet = s ∨
      ∃ snapshot history, s.history.pop? = some (snapshot, history) ∧
        (s.grid.get? snapshot.id = none ∧ s.undo.sheet = { s with history } ∨
          ∃ cell, s.grid.get? snapshot.id = some cell ∧
            s.undo.sheet = { s with grid := (undoPass s.grid cell snapshot).grid, history }) := by
  cases hpop : s.history.pop? with
  | none => exact .inl ⟨rfl, by rw [undo_of_empty hpop, fail]⟩
  | some entry =>
    obtain ⟨snapshot, history⟩ := entry
    refine .inr ⟨snapshot, history, rfl, ?_⟩
    cases hcell : s.grid.get? snapshot.id with
    | none => exact .inl ⟨rfl, by rw [undo_of_none hpop hcell, fail]⟩
    | some cell => exact .inr ⟨cell, rfl, by rw [undo_of_get? hpop hcell, finish]⟩

theorem sheet_perform_undo (s : Sheet) : (s.perform .undo).sheet = s.undo.sheet := rfl

/-- The pass in which all links are derived anew and all cells are recomputed. -/
@[irreducible]
def recalculatePass (g : Grid) : Grid.Pass :=
  Grid.Pass.recompute ⟨g.relink g.ids, []⟩ (.ofList g.ids)

theorem recalculate_eq (s : Sheet) :
    s.recalculate = finish s (recalculatePass s.grid) (recalculatePass s.grid).changed := by
  unfold recalculate recalculatePass
  rfl

theorem sheet_recalculate (s : Sheet) :
    s.recalculate.sheet = { s with grid := (recalculatePass s.grid).grid } := by
  rw [recalculate_eq, finish]

theorem grid_recalculate (s : Sheet) :
    s.recalculate.sheet.grid = (recalculatePass s.grid).grid := by
  rw [sheet_recalculate]

theorem run_induction {P : Sheet → Prop} (step : ∀ s op, P s → P (s.perform op).sheet) (hs : P s)
    (ops : List Operation) : P (s.run ops) := by
  induction ops generalizing s with
  | nil => exact hs
  | cons op ops ih => exact ih (step s op hs)

/-- A property that the operations of a run preserve holds between any two of them. -/
theorem outcomes_induction {P : Sheet → Prop} (step : ∀ s op, P s → P (s.perform op).sheet)
    (hs : P s) {ops : List Operation} : ∀ o ∈ s.outcomes ops, P o.sheet := by
  induction ops generalizing s with
  | nil => exact fun o ho => absurd ho List.not_mem_nil
  | cons op ops ih =>
    intro o ho
    rcases List.mem_cons.1 ho with rfl | ho
    · exact step s op hs
    · exact ih (step s op hs) o ho

/-- Each operation of a run is allowed where it is performed. -/
def Admits (allowed : Sheet → Operation → Prop) : Sheet → List Operation → Prop
  | _, [] => True
  | s, op :: ops => allowed s op ∧ Admits allowed (s.perform op).sheet ops

instance decidableAdmits {allowed : Sheet → Operation → Prop} [∀ s op, Decidable (allowed s op)] :
    (s : Sheet) → (ops : List Operation) → Decidable (s.Admits allowed ops)
  | _, [] => inferInstanceAs (Decidable True)
  | s, op :: ops =>
    have : Decidable (Admits allowed (s.perform op).sheet ops) := decidableAdmits _ ops
    inferInstanceAs (Decidable (allowed s op ∧ Admits allowed (s.perform op).sheet ops))

theorem outcomes_append (s : Sheet) (ops more : List Operation) :
    s.outcomes (ops ++ more) = s.outcomes ops ++ (s.run ops).outcomes more := by
  induction ops generalizing s with
  | nil => rfl
  | cons op ops ih => exact congrArg (s.perform op :: ·) (ih _)

theorem admits_append {allowed : Sheet → Operation → Prop} {more : List Operation} :
    s.Admits allowed (ops ++ more) ↔ s.Admits allowed ops ∧ (s.run ops).Admits allowed more := by
  induction ops generalizing s with
  | nil => simp only [List.nil_append, Admits, run, true_and]
  | cons op ops ih => simp only [List.cons_append, Admits, run, ih, and_assoc]

theorem Admits.mono {allowed also : Sheet → Operation → Prop} (h : s.Admits allowed ops)
    (himp : ∀ s op, allowed s op → also s op) : s.Admits also ops := by
  induction ops generalizing s with
  | nil => trivial
  | cons op ops ih => exact ⟨himp s op h.1, ih h.2⟩

theorem admits_of_forall_mem {allowed : Sheet → Operation → Prop}
    (h : ∀ op ∈ ops, ∀ s, allowed s op) : s.Admits allowed ops := by
  induction ops generalizing s with
  | nil => trivial
  | cons op ops ih =>
    exact ⟨h op List.mem_cons_self s, ih fun op hop => h op (List.mem_cons_of_mem _ hop)⟩

theorem Admits.and {allowed also : Sheet → Operation → Prop} (h : s.Admits allowed ops)
    (h' : s.Admits also ops) : s.Admits (fun s op => allowed s op ∧ also s op) ops := by
  induction ops generalizing s with
  | nil => trivial
  | cons op ops ih => exact ⟨⟨h.1, h'.1⟩, ih h.2 h'.2⟩

theorem Admits.run_induction {allowed : Sheet → Operation → Prop} {P : Sheet → Prop}
    (step : ∀ s op, allowed s op → P s → P (s.perform op).sheet) (hs : P s)
    (hops : s.Admits allowed ops) : P (s.run ops) := by
  induction ops generalizing s with
  | nil => exact hs
  | cons op ops ih => exact ih (step s op hops.1 hs) hops.2

/-- Each operation is allowed where two sheets perform the same ones side by side. -/
def AdmitsBeside (allowed : Sheet → Sheet → Operation → Prop) :
    Sheet → Sheet → List Operation → Prop
  | _, _, [] => True
  | s, t, op :: ops =>
    allowed s t op ∧ AdmitsBeside allowed (s.perform op).sheet (t.perform op).sheet ops

instance decidableAdmitsBeside {allowed : Sheet → Sheet → Operation → Prop}
    [∀ s t op, Decidable (allowed s t op)] :
    (s t : Sheet) → (ops : List Operation) → Decidable (s.AdmitsBeside allowed t ops)
  | _, _, [] => inferInstanceAs (Decidable True)
  | s, t, op :: ops =>
    have : Decidable (AdmitsBeside allowed (s.perform op).sheet (t.perform op).sheet ops) :=
      decidableAdmitsBeside _ _ ops
    inferInstanceAs (Decidable (allowed s t op ∧
      AdmitsBeside allowed (s.perform op).sheet (t.perform op).sheet ops))

/-- What relates the outcomes of one operation on related sheets relates those of a run. -/
theorem AdmitsBeside.outcomes {allowed : Sheet → Sheet → Operation → Prop}
    {R : Sheet → Sheet → Prop} {Q : Outcome Answer → Outcome Answer → Prop}
    (step : ∀ s t op, allowed s t op → R s t → Q (s.perform op) (t.perform op))
    (sheet : ∀ o o', Q o o' → R o.sheet o'.sheet) (hR : R s t)
    (hops : s.AdmitsBeside allowed t ops) : List.Forall₂ Q (s.outcomes ops) (t.outcomes ops) := by
  induction ops generalizing s t with
  | nil => exact .nil
  | cons op ops ih =>
    have hstep := step s t op hops.1 hR
    exact .cons hstep (ih (sheet _ _ hstep) hops.2)

/-- Something happened in a run, and nothing that ends it did since. -/
def Since (s : Sheet) (ops : List Operation) (event ends : Sheet → Operation → Prop) : Prop :=
  ∃ before op after, ops = before ++ op :: after ∧ event (s.run before) op ∧
    (s.run (before ++ [op])).Admits (fun t op => ¬ ends t op) after

/-- One more operation may be what happens, or may not end it. -/
theorem since_append_singleton {event ends : Sheet → Operation → Prop} {op : Operation} :
    s.Since (ops ++ [op]) event ends ↔
      event (s.run ops) op ∨ s.Since ops event ends ∧ ¬ ends (s.run ops) op := by
  constructor
  · rintro ⟨before, first, after, heq, hevent, hafter⟩
    rcases List.eq_nil_or_concat after with rfl | ⟨after, last, rfl⟩
    · -- It happens in the last operation.
      obtain ⟨rfl, hop⟩ := List.append_inj' heq rfl
      obtain rfl := List.singleton_inj.1 hop
      exact .inl hevent
    · rw [List.concat_eq_append] at heq hafter
      rw [← List.cons_append, ← List.append_assoc] at heq
      obtain ⟨rfl, hop⟩ := List.append_inj' heq rfl
      obtain rfl := List.singleton_inj.1 hop
      obtain ⟨hafter, hlast, _⟩ := admits_append.1 hafter
      rw [← run_append, List.append_assoc] at hlast
      exact .inr ⟨⟨before, first, after, rfl, hevent, hafter⟩, hlast⟩
  · rintro (hevent | ⟨⟨before, first, after, rfl, hevent, hafter⟩, hop⟩)
    · exact ⟨ops, op, [], rfl, hevent, trivial⟩
    · refine ⟨before, first, after ++ [op], by simp, hevent, admits_append.2 ⟨hafter, ?_, trivial⟩⟩
      rwa [← run_append, List.append_assoc]

end Sheet
end ReactiveSheet
