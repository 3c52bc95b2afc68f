import ReactiveSheet.Proofs.Sheet.History
import ReactiveSheet.Settings.File

/-!
Settings files and the sheets made of them. Main statements: settings make a sheet exactly if
nothing is wrong with them (`exists_ofSettings`), with the cells of the first letters
(`madeOf_ofSettings`), and whatever a settings file holds and whichever parser takes the settings
from its text, it gives settings that make a sheet (`settings_files_make_sheets`).
-/

namespace ReactiveSheet

namespace Settings

variable {settings valid : Settings} {parse : String → Except SettingsError Settings}
  {text : String}

theorem validate_eq_ok_iff :
    settings.validate = .ok valid ↔ settings.fault? = none ∧ valid = settings := by
  rw [validate]
  cases settings.fault? <;> simp [eq_comm]

/-- Settings that are read have been validated, whatever the parser made of the text. -/
theorem fault?_of_readBy (h : readBy parse text = .ok settings) : settings.fault? = none := by
  unfold readBy at h
  split at h
  · obtain ⟨hfault, rfl⟩ := validate_eq_ok_iff.1 h
    exact hfault
  · cases h

theorem fault?_default : Settings.default.fault? = none := by decide

end Settings

namespace Sheet

variable {s t : Sheet} {settings : Settings} {ns : List Nat}

/-- Positions that have names, and whose names have no cells yet, are given cells. -/
theorem exists_createAll (hn : ns.Nodup) (hnames : ∀ n ∈ ns, n < CellId.count)
    (hfree : ∀ a : CellId, a.index.val ∈ ns → ¬ s.grid.contains a = true) :
    ∃ t, s.createAll ns = .ok t := by
  induction ns generalizing s with
  | nil => exact ⟨s, rfl⟩
  | cons n ns ih =>
    obtain ⟨hnot, hn⟩ := List.nodup_cons.1 hn
    obtain ⟨hname, hnames⟩ := List.forall_mem_cons.1 hnames
    have hid : CellId.ofIndex? n = some ⟨⟨n, hname⟩⟩ := dif_pos hname
    have hnew : ¬ s.grid.contains ⟨⟨n, hname⟩⟩ = true := hfree _ List.mem_cons_self
    simp only [createAll, hid, create, if_neg hnew]
    apply ih hn hnames
    intro a ha
    rw [Grid.contains_insert_fresh, not_or]
    refine ⟨?_, hfree a (List.mem_cons_of_mem n ha)⟩
    rintro rfl
    exact hnot ha

theorem exists_ofSettings (h : settings.fault? = none) : ∃ t, ofSettings settings = .ok t := by
  have hvalid : settings.validate = .ok settings := Settings.validate_eq_ok_iff.2 ⟨h, rfl⟩
  have hcells : settings.cells ≤ CellId.count := (Settings.fault?_eq_none_iff.1 h).1
  simp only [ofSettings, hvalid]
  apply exists_createAll List.nodup_range
  · intro n hn
    have hlt := List.mem_range.1 hn
    omega
  · simp [Grid.contains]

/-- What is made of settings: as many cells as they ask for, named by the first letters in order,
none of which was ever edited, and an empty history with the limit that they set. -/
structure MadeOf (t : Sheet) (settings : Settings) : Prop where
  size : t.grid.size = settings.cells
  letters : t.grid.ids.map CellId.letter =
    "ABCDEFGHIJKLMNOPQRSTUVWXYZ".toList.take settings.cells
  cells : ∀ a ∈ t.grid.ids, t.grid.get? a = some ⟨"0.0", .number 0, ∅, ∅⟩
  entries : t.history.entries = []
  limit : t.history.limit = settings.historyLimit

theorem letters_filter_index {n : Nat} (hn : n ≤ CellId.count) :
    (CellId.all.filter (·.index.val < n)).map CellId.letter =
      "ABCDEFGHIJKLMNOPQRSTUVWXYZ".toList.take n := by
  have h : ∀ n ≤ CellId.count, (CellId.all.filter (·.index.val < n)).map CellId.letter =
      "ABCDEFGHIJKLMNOPQRSTUVWXYZ".toList.take n := by decide +kernel
  exact h n hn

theorem madeOf_ofSettings (h : ofSettings settings = .ok t) : t.MadeOf settings := by
  have hcells : settings.cells ≤ CellId.count := by
    by_contra hmany
    have hfault : settings.fault? = some (.tooManyCells settings.cells) := if_pos (by omega)
    simp [ofSettings, Settings.validate, hfault] at h
  have hcreated := createAll_of_ofSettings h
  have hids : t.grid.ids = CellId.all.filter (·.index.val < settings.cells) := by
    apply List.filter_congr
    intro a _
    rw [Bool.eq_iff_iff, contains_createAll hcreated, List.mem_range]
    simp [Grid.contains]
  have hletters := letters_filter_index hcells
  rw [← hids] at hletters
  refine ⟨?_, hletters, fun a ha => ?_, ?_, ?_⟩
  · have hlength := congrArg List.length hletters
    have hcount : CellId.count = 26 := rfl
    simp at hlength
    rw [Grid.size]
    omega
  · obtain ⟨cell, hcell⟩ := Grid.exists_get? (Grid.mem_ids.1 ha)
    rw [hcell, fresh_ofSettings h a cell hcell]
    rfl
  · rw [history_createAll hcreated]
    rfl
  · rw [history_createAll hcreated]
    rfl

end Sheet

namespace SettingsFile

variable {parse : String → Except SettingsError Settings} {content : ByteArray} {text : String}
  {settings : Settings} {file : SettingsFile}

theorem fromUTF8?_eq_some_iff : String.fromUTF8? content = some text ↔ content = text.toUTF8 := by
  rw [String.fromUTF8?]
  constructor
  · intro h
    split_ifs at h with hvalid
    cases h
    rfl
  · rintro rfl
    exact dif_pos text.isValidUTF8

/-- The file is not too large, and its bytes are a text from which the parser takes settings that
nothing is wrong with. -/
def Holds (parse : String → Except SettingsError Settings) (file : SettingsFile)
    (settings : Settings) : Prop :=
  ∃ text : String, file = .bytes text.toUTF8 ∧ text.toUTF8.size ≤ 65536 ∧
    Settings.readBy parse text = .ok settings

theorem contentsBy_eq_ok_iff :
    contentsBy parse content = .ok settings ↔ (bytes content).Holds parse settings := by
  unfold contentsBy
  constructor
  · intro h
    split_ifs at h with hsize
    split at h
    · cases h
    · rename_i text htext
      obtain rfl := fromUTF8?_eq_some_iff.1 htext
      split at h
      · cases h
        exact ⟨text, rfl, not_lt.1 hsize, by assumption⟩
      · cases h
  · rintro ⟨text, hbytes, hsize, hread⟩
    cases hbytes
    have hsmall : ¬ maxSize < text.toUTF8.size := not_lt.2 hsize
    rw [if_neg hsmall]
    simp only [fromUTF8?_eq_some_iff.2 rfl, hread]

theorem loadBy_of_holds (h : file.Holds parse settings) : file.loadBy parse = (settings, []) := by
  obtain ⟨text, rfl, hrest⟩ := h
  simp only [loadBy, contentsBy_eq_ok_iff.2 ⟨text, rfl, hrest⟩]

theorem loadBy_of_not_holds (hfile : file ≠ .absent)
    (h : ∀ settings, ¬ file.Holds parse settings) :
    ∃ w, file.loadBy parse = (.default, [w]) := by
  cases file with
  | absent => exact absurd rfl hfile
  | directory => exact ⟨.isDirectory, rfl⟩
  | bytes content =>
    cases hcontents : contentsBy parse content with
    | ok settings => exact absurd (contentsBy_eq_ok_iff.1 hcontents) (h settings)
    | error w => exact ⟨w, by simp only [loadBy, hcontents]⟩

/-- The settings of a file are the default ones or have been read. -/
theorem fault?_loadBy (parse : String → Except SettingsError Settings) (file : SettingsFile) :
    (file.loadBy parse).1.fault? = none := by
  by_cases hholds : ∃ settings, file.Holds parse settings
  · obtain ⟨settings, hholds⟩ := hholds
    rw [loadBy_of_holds hholds]
    obtain ⟨text, _, _, hread⟩ := hholds
    exact Settings.fault?_of_readBy hread
  · by_cases hfile : file = .absent
    · rw [hfile]
      exact Settings.fault?_default
    · obtain ⟨w, hload⟩ := loadBy_of_not_holds hfile (not_exists.1 hholds)
      rw [hload]
      exact Settings.fault?_default

/-- A file that holds settings gives them without a warning, one that is absent gives the default
ones without a warning, and every other one gives the default ones with one warning. In each case a
sheet can be made of them. Nothing is asked of the parser. -/
theorem settings_files_make_sheets (parse : String → Except SettingsError Settings)
    (file : SettingsFile) :
    (∀ settings, file.Holds parse settings → file.loadBy parse = (settings, [])) ∧
    (file = .absent → file.loadBy parse = (.default, [])) ∧
    (file ≠ .absent → (∀ settings, ¬ file.Holds parse settings) →
      ∃ w, file.loadBy parse = (.default, [w])) ∧
    ∃ t, Sheet.ofSettings (file.loadBy parse).1 = .ok t ∧ t.MadeOf (file.loadBy parse).1 := by
  refine ⟨fun settings h => loadBy_of_holds h, ?_, loadBy_of_not_holds, ?_⟩
  · rintro rfl
    rfl
  · obtain ⟨t, ht⟩ := Sheet.exists_ofSettings (fault?_loadBy parse file)
    exact ⟨t, ht, Sheet.madeOf_ofSettings ht⟩

/-- A TOML file that holds settings, no file, and bytes that are no text. -/
theorem settings_of_three_files :
    (bytes "cells = 3 # history_limit = 5\n".toUTF8).load = (⟨3, none⟩, []) ∧
      absent.load = (⟨9, none⟩, []) ∧
      ∃ w, (bytes ⟨#[0x63, 0xFF]⟩).load = (⟨9, none⟩, [w]) := by
  have hholds :
      (bytes "cells = 3 # history_limit = 5\n".toUTF8).Holds Settings.parse ⟨3, none⟩ :=
    ⟨_, rfl, by decide +kernel, by decide +kernel⟩
  have hnone : ∀ settings, ¬ (bytes ⟨#[0x63, 0xFF]⟩).Holds Settings.parse settings := by
    rintro settings ⟨text, hbytes, _⟩
    have hinvalid : String.fromUTF8? ⟨#[0x63, 0xFF]⟩ = none := by decide +kernel
    rw [fromUTF8?_eq_some_iff.2 (bytes.inj hbytes)] at hinvalid
    cases hinvalid
  exact ⟨(settings_files_make_sheets Settings.parse _).1 _ hholds,
    (settings_files_make_sheets Settings.parse _).2.1 rfl,
    (settings_files_make_sheets Settings.parse _).2.2.1 nofun hnone⟩

end SettingsFile
end ReactiveSheet
