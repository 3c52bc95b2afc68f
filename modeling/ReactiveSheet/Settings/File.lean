import ReactiveSheet.Binary64.Decimal
import ReactiveSheet.Settings
import ReactiveSheet.Text.Quoted
import ReactiveSheet.Toml.Document

/-!
Settings from TOML text, and the settings file. Only the keys `cells` and `history_limit` may occur
in a text, their values are whole numbers that are not negative, and a key that is missing takes its
default. How a settings file is used does not depend on its format, so it is defined for any parser:
whatever is wrong with the file, there are always settings, and a warning says why they are the
default ones.
-/

namespace ReactiveSheet

/-- The text of a double with at least one decimal place, if it is finite. -/
def Binary64.textWithPlace (x : Float) : String :=
  let cs := text x
  if isFinite x ∧ '.' ∉ cs then String.ofList (cs ++ ['.', '0']) else String.ofList cs

/-- What a value is called where a whole number is expected. -/
def Toml.Value.describe : Toml.Value → String
  | string s => s!"string {Text.quoted s}"
  | integer n => s!"integer `{n}`"
  | float x => s!"floating point `{Binary64.textWithPlace x}`"
  | boolean b => s!"boolean `{b}`"
  | array _ => "sequence"
  | tables _ => "sequence"
  | table _ _ => "map"
  | dateTime => "map"

namespace Settings

def natural : Toml.Value → Except SettingsError Nat
  | .integer (.ofNat n) => .ok n
  | .integer n =>
    .error (.schema s!"invalid value: {Toml.Value.describe (.integer n)}, expected usize")
  | v => .error (.schema s!"invalid type: {v.describe}, expected usize")

/-- The settings changed by a key and its value. -/
def assign (s : Settings) (key : String) (v : Toml.Value) : Except SettingsError Settings :=
  if key = "cells" then (natural v).map fun n => { s with cells := n }
  else if key = "history_limit" then (natural v).map fun n => { s with historyLimit := some n }
  else .error (.schema s!"unknown field `{key}`, expected `cells` or `history_limit`")

/-- The settings changed by a list of keys with their values, or the first fault among them. -/
def assignAll (s : Settings) : Toml.Entries → Except SettingsError Settings
  | [] => .ok s
  | (key, v) :: more =>
    match s.assign key v with
    | .ok s => assignAll s more
    | .error e => .error e

/-- The settings of a TOML text, whether or not a sheet can be made of them. -/
def parse (text : String) : Except SettingsError Settings :=
  match Toml.read text with
  | none => .error .syntaxFault
  | some entries => assignAll .default entries

/-- The settings that a parser takes from a text, validated. -/
def readBy (parse : String → Except SettingsError Settings) (text : String) :
    Except SettingsError Settings :=
  match parse text with
  | .ok s => s.validate
  | .error e => .error e

/-- The settings of a TOML text, validated. -/
def read : String → Except SettingsError Settings := readBy parse

end Settings

/-- What is found at the path of a settings file. -/
inductive SettingsFile
  | absent
  | directory
  | bytes (content : ByteArray)

inductive SettingsWarning
  | tooLarge (size : Nat)
  | isDirectory
  | notUtf8
  | refused (e : SettingsError)
deriving DecidableEq, Repr

def SettingsFile.maxSize : Nat := 64 * 1024

namespace SettingsWarning

/-- The text of a warning about the file at a path. -/
def message (path : String) : SettingsWarning → String
  | tooLarge size =>
    s!"Refusing to read {path}: file too large ({size} bytes, max {SettingsFile.maxSize})"
  | isDirectory => s!"Failed to read {path}: Is a directory (os error 21)"
  | notUtf8 => s!"Failed to read {path}: stream did not contain valid UTF-8"
  | refused e => s!"Failed to parse {path}: Config error: {e.message}"

end SettingsWarning

namespace SettingsFile

/-- The settings in a file that is there, or why it is not used. -/
def contentsBy (parse : String → Except SettingsError Settings) (content : ByteArray) :
    Except SettingsWarning Settings :=
  if maxSize < content.size then .error (.tooLarge content.size)
  else
    match String.fromUTF8? content with
    | none => .error .notUtf8
    | some text =>
      match Settings.readBy parse text with
      | .ok s => .ok s
      | .error e => .error (.refused e)

/-- The settings that a file gives to a parser, and the warnings about it. -/
def loadBy (parse : String → Except SettingsError Settings) :
    SettingsFile → Settings × List SettingsWarning
  | absent => (.default, [])
  | directory => (.default, [.isDirectory])
  | bytes content =>
    match contentsBy parse content with
    | .ok s => (s, [])
    | .error w => (.default, [w])

/-- The settings that a TOML file gives, and the warnings about it. -/
def load (file : SettingsFile) : Settings × List SettingsWarning := file.loadBy Settings.parse

/-- A path with a further part. A slash is added where there is none. -/
def join (path part : String) : String :=
  if path.isEmpty ∨ path.endsWith "/" then path ++ part else path ++ "/" ++ part

/-- The path of the user's settings file, given the home directory and, if it is set, the directory
for settings. The latter counts only if it is an absolute path. -/
def userPath (home : String) (configHome : Option String) : String :=
  let dir :=
    match configHome with
    | some dir => if dir.startsWith "/" then dir else join home ".config"
    | none => join home ".config"
  join (join dir "cellgraph") "cellgraph.toml"

end SettingsFile
end ReactiveSheet
