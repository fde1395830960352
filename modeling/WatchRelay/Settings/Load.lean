import WatchRelay.Settings.Environment
import WatchRelay.Settings.Merge
import WatchRelay.Text.Utf8

/-! Loading settings: the defaults, a file laid over them, and the environment over both. -/

namespace WatchRelay

/-- What stands at the path of the settings file. -/
inductive SettingsFile where
  | absent
  | directory
  | content (bytes : List UInt8)

/-- Why settings cannot be loaded. -/
inductive SettingsFailure where
  | isDirectory
  | notText
  | json (fault : Fault)
  | conflict (conflict : SettingsConflict)
deriving DecidableEq, Repr

namespace SettingsFailure

/-- The wording of a failure. -/
def message : SettingsFailure → String
  | .isDirectory => "failed to read settings file: Is a directory (os error 21)"
  | .notText => "failed to read settings file: stream did not contain valid UTF-8"
  | .json fault => "failed to parse settings JSON: " ++ fault.message
  | .conflict c => "invalid settings value: " ++ c.message

end SettingsFailure

namespace Settings

/-- The settings, unless they are in conflict. -/
def validate (s : Settings) : Except SettingsFailure Settings :=
  match s.conflict? with
  | none => .ok s
  | some c => .error (.conflict c)

/-- Turns a fault of a JSON text into a failure to load. -/
def orFail {α : Type} (result : Except Fault α) : Except SettingsFailure α :=
  result.mapError .json

/-- The value of a settings file. -/
def fileValue (file : SettingsFile) : Except SettingsFailure (Option Json) :=
  match file with
  | .absent => .ok none
  | .directory => .error .isDirectory
  | .content bytes =>
    match Utf8.decode bytes with
    | .error _ => .error .notText
    | .ok text => some <$> orFail (Json.ofText text)

/-- The settings of a file's value laid over the defaults, with the environment over both. -/
def resolve (value : Option Json) (env : Environment) : Except SettingsFailure Settings := do
  let defaults : Settings := {}
  let merged := match value with
    | none => defaults.toJson
    | some v => defaults.toJson.overlay v
  let s ← orFail (ofJson merged)
  (s.override env).validate

/-- Loads the settings. -/
def load (file : SettingsFile) (env : Environment) : Except SettingsFailure Settings := do
  resolve (← fileValue file) env

/-- A path with one more name; no second separator follows one. -/
def joinPath (path name : String) : String :=
  match path.toList.getLast? with
  | none => name
  | some '/' => path ++ name
  | some _ => path ++ "/" ++ name

/-- The path of the settings file below a home directory. -/
def path (home : Option String) : String :=
  joinPath (joinPath (home.getD "/tmp") ".catalog-relay") "settings.json"

end Settings

end WatchRelay
