import Remit.Settings.Json
import Remit.Text.Lower

/-!
Settings from environment variables. Names are matched without regard to case, and of two names that
differ in case only the later one counts.
-/

namespace Remit.Settings

abbrev Environment := List (String × String)

namespace Environment

/-- Lower-case names, each once, with the last value of each. -/
def folded (env : Environment) : List (String × String) :=
  env.foldl
    (fun entries (name, value) =>
      let name := Text.lower name
      if entries.any (·.1 = name) then
        entries.map fun entry => if entry.1 = name then (name, value) else entry
      else entries ++ [(name, value)])
    []

def find? (env : Environment) (name : String) : Option String :=
  env.folded.lookup name

def feeRateName : String := "txauthor_relay_fee_per_kb"
def configPathName : String := "txauthor_config_path"
def logName : String := "txauthor_log"
def logKeyStart : String := "txauthor_log__"
def levelName : String := "txauthor_log__level"
def formatName : String := "txauthor_log__format"

/-- The key before the first pair of underscores, and those after it. -/
def splitKey : List Char → List Char × List (List Char)
  | [] => ([], [])
  | '_' :: '_' :: rest =>
      let (key, inner) := splitKey rest
      ([], key :: inner)
  | c :: rest =>
      let (key, inner) := splitKey rest
      (c :: key, inner)

/-- A text for the last of the keys, inside the objects of those before it. A key that has a text
does not lead on. -/
def addNested (value : String) : Fields → String → List String → Fields
  | fields, key, [] => fields.set key (.text value)
  | fields, key, next :: rest =>
      match fields.get? key with
      | none => fields.set key (.object (addNested value [] next rest))
      | some (.object inner) => fields.set key (.object (addNested value inner next rest))
      | some _ => fields

def addLogKey (fields : Fields) (name value : String) : Fields :=
  let split := splitKey name.toList
  addNested value fields (String.ofList split.1) (split.2.map String.ofList)

def logKeys (env : Environment) : Fields :=
  env.folded.foldl
    (fun fields (name, value) =>
      if logKeyStart.toList.isPrefixOf name.toList then
        addLogKey fields (String.ofList (name.toList.drop logKeyStart.length)) value
      else fields)
    []

/-- A key that differs from a known one in case only is taken for it, and the last one of several
counts. -/
def foldKeys (fields : Fields) (known : List String) : Fields :=
  fields.foldl
    (fun folded (key, value) => folded.set ((key.matching? known).elim key .text) value)
    []

/-- The variable of the log settings is an object in JSON, and variables of single keys go over
it. None stands for a variable that is no JSON. -/
def log? (env : Environment) (known : List String) : Option (Option Value) :=
  match env.find? logName with
  | none =>
      let keys := env.logKeys
      some (if keys.isEmpty then none else some (.object (foldKeys keys known)))
  | some text =>
      match Json.parse? text with
      | none => none
      | some .null => some none
      | some (.object fields) =>
          some (some (.object (foldKeys (Fields.mergeOver fields env.logKeys) known)))
      | some value => some (some value)

end Environment

end Remit.Settings
