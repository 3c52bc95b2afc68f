import ReactiveSheet.CellId

/-!
Settings of a new sheet, and what can be wrong with them.
-/

namespace ReactiveSheet

/-- How many cells a new sheet has, and how many undo entries it keeps; `none` keeps all. -/
structure Settings where
  cells : Nat
  historyLimit : Option Nat
deriving DecidableEq, Repr

/-- Why settings cannot be used. The last two say that a settings text is no TOML document, and that
its contents are no settings. -/
inductive SettingsError
  | tooManyCells (cells : Nat)
  | zeroHistoryLimit
  | noName (index : Nat)
  | syntaxFault
  | schema (reason : String)
deriving DecidableEq, Repr

namespace SettingsError

def message : SettingsError → String
  | tooManyCells cells => s!"cells must be at most {CellId.count}, got {cells}"
  | zeroHistoryLimit => "history_limit must be positive; omit it for unbounded history"
  | noName index => s!"no cell name for index {index}"
  | syntaxFault => "TOML syntax"
  | schema reason => s!"TOML schema: {reason}"

end SettingsError

namespace Settings

/-- The settings of a sheet for which none are given. -/
def default : Settings := ⟨9, none⟩

instance : Inhabited Settings := ⟨default⟩

/-- What is wrong with settings, if anything. The cells are looked at first. -/
def fault? (s : Settings) : Option SettingsError :=
  if CellId.count < s.cells then some (.tooManyCells s.cells)
  else if s.historyLimit = some 0 then some .zeroHistoryLimit
  else none

def validate (s : Settings) : Except SettingsError Settings :=
  match s.fault? with
  | some e => .error e
  | none => .ok s

theorem fault?_eq_none_iff {s : Settings} :
    s.fault? = none ↔ s.cells ≤ CellId.count ∧ s.historyLimit ≠ some 0 := by
  unfold fault?
  split
  · simp; omega
  · split <;> simp_all

end Settings
end ReactiveSheet
