import LintDaemon.Host.Machine
import LintDaemon.Settings.Basic
import LintDaemon.Settings.EnvFile
import LintDaemon.Settings.Ini
import LintDaemon.Text.Incoming

/-!
# Where settings come from

* `Machine.loadValues`: the values of the settings file or, where there is none, of the file of
  variables.
* `Machine.loadSettings`: the settings of a machine.

This is the order of sources of section 8.2 of the specification. A port that is given with a
command goes before all of them, and is put in where the command is (`Surroundings.withSettings`).
-/

namespace LintDaemon

open LintDaemon.Text

/-- Why settings cannot be loaded. -/
inductive LoadError
  /-- A file is no text. -/
  | decode (error : Utf8.DecodeError)
  /-- The settings file is not written as one; how the file is shown. -/
  | file (path : String) (error : Ini.Error)
  /-- A value is not acceptable. -/
  | value (error : Settings.ValueError)
  deriving DecidableEq, Repr

/-- Whether an error is about a value or a text, rather than about how a file is written. -/
def LoadError.isValueError : LoadError → Bool
  | .decode _ | .value _ => true
  | .file _ _ => false

/-- How a path is shown in messages. -/
def Path.shown (path : String) : String :=
  "PosixPath(" ++ quote path ++ ")"

/-- The wording of an error. -/
def LoadError.message : LoadError → String
  | .decode error => error.message
  | .file path error => error.message (Path.shown path)
  | .value error => error.message

namespace Settings

/-- The file of variables. -/
def envFilePath : String := ".env"

/-- What a name of a variable begins with, in lower case, if it is a setting. -/
def variablePrefix : List Char := "javalint_".toList

/-- The values of a settings file. -/
def valuesOfIni (path : String) (bytes : List UInt8) : Except LoadError Values := do
  let (text, broken) ← (Incoming.decode bytes).mapError .decode
  let lines := Incoming.lines text broken.isSome
  let reading ← (Ini.readLines lines).mapError (.file path <| .fault ·)
  match broken with
  | some e => .error (.decode e)
  | none =>
    let reading ← reading.finish.mapError (.file path <| .fault ·)
    let values ← reading.expandedDefaults.mapError (.file path ·)
    return values.map fun (name, value) => (String.ofList name, String.ofList value)

/-- The setting that a variable is: its name in lower case, without what all settings begin
with. -/
def nameOfVariable (name : List Char) : List Char :=
  let name := lower name
  (dropPrefix? variablePrefix name).getD name

/-- The values of a file of variables. -/
def valuesOfEnvFile (environment : Values) (bytes : List UInt8) : Except LoadError Values := do
  let text ← (Utf8.decode bytes).mapError .decode
  let environment := environment.map fun (name, value) => (name.toList, value.toList)
  let resolved := EnvFile.resolve environment (EnvFile.bindings (normalizeNewlines text))
  let values := resolved.foldl (fun values (name, value) =>
    match value with
    | none => values
    | some value => EnvFile.assign (nameOfVariable name) value values) []
  return values.map fun (name, value) => (String.ofList name, String.ofList value)

end Settings

/-- The values of the settings file or, where nothing is in its place, of the file of variables.
What is in the place of a file and cannot be read holds no values. -/
def Machine.loadValues (m : Machine) : Except LoadError Values :=
  let path := m.settingsFile.toString
  match m.files.find? m.directory path with
  | some (.file bytes _ _) => Settings.valuesOfIni path bytes
  | some .directory | some (.socket _) => .ok []
  | none =>
    match m.files.find? m.directory Settings.envFilePath with
    | some (.file bytes _ _) => Settings.valuesOfEnvFile m.environment bytes
    | some .directory | some (.socket _) | none => .ok []

/-- The settings of a machine. -/
def Machine.loadSettings (m : Machine) : Except LoadError Settings := do
  let values ← m.loadValues
  (Settings.ofValues m.environment values).mapError .value

end LintDaemon
