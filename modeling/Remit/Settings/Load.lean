import Remit.Settings.Check
import Remit.Settings.Environment
import Remit.Settings.Files
import Remit.Settings.Yaml

/-!
Settings from all their sources: keywords before the environment, the environment before the file
that the configuration path names, and the file before the defaults. Keywords and the keys of log
settings match without regard to case, and of several that match the first one counts.
-/

namespace Remit.Settings

structure LogSettings where
  level : Log.Level := .info
  format : String := "%(asctime)s %(levelname)s %(name)s: %(message)s"
deriving DecidableEq

end Settings

structure Settings where
  feeRate : Nat := Policy.defaultFeeRate
  configPath : String := ""
  log : Settings.LogSettings := {}
deriving DecidableEq

namespace Settings

inductive LoadError where
  | environment
  | file
  | pathNotText
  | unreadable (path : String) (error : SystemError)
  | keyNotText
  | invalid (faults : List Fault)
deriving DecidableEq

def LoadError.message : LoadError → String
  | .environment => "environment variable is not JSON"
  | .file => "file is not YAML"
  | .pathNotText => "configuration path is not text"
  | .unreadable path error => error.message (Path.plain path)
  | .keyNotText => "key of the log settings is not text"
  | .invalid faults =>
      ", ".intercalate (faults.map fun f => ".".intercalate f.path ++ ": " ++ f.reason.code)

def levelKey : String := "level"
def formatKey : String := "format"
def logKeys : List String := [levelKey, formatKey]

def feeRateKey : String := "relay_fee_per_kb"
def configPathKey : String := "config_path"
def logKey : String := "log"
def keys : List String := [feeRateKey, configPathKey, logKey]

def assignedField (env : Environment) (name key : String) : Fields :=
  match env.find? name with
  | none => []
  | some text => [(.text key, .text text)]

def LogSettings.environment (env : Environment) : Fields :=
  assignedField env Environment.levelName levelKey ++
    assignedField env Environment.formatName formatKey

def LogSettings.check (fields : Fields) : Except (List Fault) LogSettings :=
  let level := checkField fields levelKey ({} : LogSettings).level checkLevel
  let format := checkField fields formatKey ({} : LogSettings).format checkText
  match level, format, unknownKeys fields logKeys with
  | .ok level, .ok format, [] => .ok ⟨level, format⟩
  | _, _, unknown => .error (faultsOf level ++ faultsOf format ++ unknown)

/-- Log settings by themselves: the given keys, then those of the environment. -/
def LogSettings.load (env : Environment) (given : Fields) : Except (List Fault) LogSettings :=
  LogSettings.check (Fields.mergeOver (LogSettings.environment env) (given.named logKeys))

def environment? (env : Environment) : Option Fields := do
  let log ← env.log? logKeys
  return assignedField env Environment.feeRateName feeRateKey ++
    assignedField env Environment.configPathName configPathKey ++
    (log.map fun value => (Key.text logKey, value)).toList

/-- The mapping that a file holds, empty if there is no such file or it holds something else. A
file that is no text, or has a value that does not exist, is at fault as a whole. -/
def readFile (files : FileSystem) (path : String) : Except LoadError Fields :=
  match files (Path.plain path) with
  | .error (.system error) => .error (.unreadable path error)
  | .error .notText => .error (.invalid [⟨[], .unreadableFile⟩])
  | .ok none => .ok []
  | .ok (some text) =>
      match Yaml.parse text with
      | .error .malformed => .error .file
      | .error .noSuchValue => .error (.invalid [⟨[], .unreadableFile⟩])
      | .ok (.object fields) => .ok fields
      | .ok _ => .ok []

/-- A key of the file counts if it is not given, or given as null; two objects are merged, the
given one over the file's. -/
def addFileKey (given : Fields) (key : Key) (value : Value) : Fields :=
  match given.get? key with
  | none => given.set key value
  | some .null => given.set key value
  | some (.object fields) =>
      match value with
      | .object below => given.set key (.object (Fields.overlay below fields))
      | _ => given
  | some _ => given

/-- Without a path, or with an empty one, there is no file. -/
def addFile (files : FileSystem) (given : Fields) : Except LoadError Fields :=
  match given.get? configPathKey with
  | none => .ok given
  | some (.text path) =>
      if path = "" then .ok given
      else do
        let below ← readFile files path
        return below.foldl (fun fields (key, value) => addFileKey fields key value) given
  | some other => if other.isEmpty then .ok given else .error .pathNotText

/-- An object is checked as log settings, with the environment below it. -/
def checkLog (env : Environment) : Value → Except (List Fault) LogSettings
  | .object fields =>
      (LogSettings.load env fields).mapError fun faults => faults.map (·.under logKey)
  | _ => .error [⟨[logKey], .notObject⟩]

/-- Faults of log settings that were not given at all stand alone, under their own keys. -/
def check (env : Environment) (fields : Fields) : Except (List Fault) Settings :=
  let feeRate := checkField fields feeRateKey Policy.defaultFeeRate checkFeeRate
  let configPath := checkField fields configPathKey "" checkText
  let unknown := unknownKeys fields keys
  match fields.get? logKey with
  | none => do
      let log ← LogSettings.load env []
      match feeRate, configPath, unknown with
      | .ok feeRate, .ok configPath, [] => return ⟨feeRate, configPath, log⟩
      | _, _, _ => throw (faultsOf feeRate ++ faultsOf configPath ++ unknown)
  | some value =>
      let log := checkLog env value
      match feeRate, configPath, log, unknown with
      | .ok feeRate, .ok configPath, .ok log, [] => .ok ⟨feeRate, configPath, log⟩
      | _, _, _, _ => .error (faultsOf feeRate ++ faultsOf configPath ++ faultsOf log ++ unknown)

def sorted {α : Type} (checked : Except (List Fault) α) : Except LoadError α :=
  checked.mapError fun faults => .invalid (faults.mergeSort Fault.le)

/-- What keywords, environment and files give together, before any check. -/
def gather (env : Environment) (files : FileSystem) (keywords : Fields) :
    Except LoadError Fields :=
  match environment? env with
  | none => .error .environment
  | some below => addFile files (Fields.mergeOver below (keywords.named keys))

def hasTextKeys (fields : Fields) : Bool :=
  match fields.get? logKey with
  | some (.object log) => log.all fun (key, _) => key.isText
  | _ => true

def load (env : Environment) (files : FileSystem) (keywords : Fields) :
    Except LoadError Settings := do
  let fields ← gather env files keywords
  if hasTextKeys fields then sorted (check env fields) else throw .keyNotText

def loadFile (env : Environment) (files : FileSystem) (path : String) : Except LoadError Settings :=
  load env files [(.text configPathKey, .text path)]

def loadLog (env : Environment) (keywords : Fields) : Except LoadError LogSettings :=
  sorted (LogSettings.load env keywords)

end Settings

end Remit
