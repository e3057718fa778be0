import Remit.Proofs.Settings.Environment
import Remit.Proofs.Settings.Yaml

/-!
What is gathered before any check: keywords over the environment, and the file under both.
-/

namespace Remit.Settings

open Fields (Distinct)
open Environment (Assigned)

def IsObject (value : Option Value) : Prop :=
  value = none ∨ ∃ fields : Fields, value = some (.object fields) ∧ fields.Distinct

def Environment.given? (env : Environment) (name : String) : Option Value :=
  (env.find? name).map .text

/-- The path of the file: a keyword, or else a variable, or else nothing. -/
def effectivePath (env : Environment) (keywords : Fields) : String :=
  match (keywords.firstMatching? configPathKey).or (env.given? Environment.configPathName) with
  | some (.text path) => path
  | _ => ""

def fileFields (files : FileSystem) (path : String) : Except LoadError Fields :=
  if path = "" then .ok [] else readFile files path

/-- Sources as they are meant: keywords are distinct and not null, those of path and log are a text
and an object, and the variable of the log settings is an object if there is one. -/
structure Regular (env : Environment) (keywords json : Fields) : Prop where
  distinct : keywords.Distinct
  notNull : ∀ entry ∈ keywords, entry.2 ≠ .null
  path : ∀ value, keywords.firstMatching? configPathKey = some value → ∃ path, value = .text path
  log : IsObject (keywords.firstMatching? logKey)
  assigned : Assigned env json

theorem lower_keys : ∀ name ∈ keys, Text.lower name = name := by
  decide +kernel

variable {env : Environment} {files : FileSystem} {keywords json below fields : Fields}
  {name : String}

theorem get?_assignedField (key : String) (other : Key) :
    (assignedField env name key).get? other =
      if other = .text key then env.given? name else none := by
  unfold assignedField Environment.given?
  cases env.find? name with
  | none => simp
  | some text => exact Fields.get?_cons _

def environmentFields (env : Environment) (log : Option Value) : Fields :=
  assignedField env Environment.feeRateName feeRateKey ++
    assignedField env Environment.configPathName configPathKey ++
    (log.map fun value => (Key.text logKey, value)).toList

section

variable (env) (log : Option Value)

theorem get?_environmentFields (key : Key) :
    (environmentFields env log).get? key =
      if key = .text feeRateKey then env.given? Environment.feeRateName
      else if key = .text configPathKey then env.given? Environment.configPathName
      else if key = .text logKey then log else none := by
  have last : Fields.get? (log.map fun value => (Key.text logKey, value)).toList key =
      if key = .text logKey then log else none := by
    cases log with
    | none => simp
    | some value => exact Fields.get?_cons _
  rw [environmentFields, Fields.get?_append, Fields.get?_append, get?_assignedField,
    get?_assignedField, last]
  by_cases feeRate : key = .text feeRateKey
  · subst feeRate
    simp [feeRateKey, configPathKey, logKey]
  · by_cases path : key = .text configPathKey
    · subst path
      simp [feeRateKey, configPathKey, logKey]
    · simp [feeRate, path]

end

theorem merged_given? (env : Environment) (name : String) (value : Value) :
    Fields.merged (env.given? name) value = value := by
  unfold Environment.given?
  cases env.find? name with
  | none => rfl
  | some text => rfl

structure Given (env : Environment) (keywords json given : Fields) : Prop where
  feeRate : given.get? feeRateKey =
    (keywords.firstMatching? feeRateKey).or (env.given? Environment.feeRateName)
  path : given.get? configPathKey =
    (keywords.firstMatching? configPathKey).or (env.given? Environment.configPathName)
  log : IsObject (given.get? logKey)
  logKeys : ∀ key, (members (given.get? logKey)).get? key =
    ((members (keywords.firstMatching? logKey)).get? key).or ((env.logObject json).get? key)

theorem get?_mergeOver_named (distinct : keywords.Distinct) (layer : Fields)
    (known : name ∈ keys) :
    (Fields.mergeOver layer (keywords.named keys)).get? name =
      ((keywords.firstMatching? name).map (Fields.merged (layer.get? name))).or
        (layer.get? name) := by
  rw [Fields.mergeOver_eq_enter, Fields.get?_enter, Fields.get?_named lower_keys known]
  exact distinct.named lower_keys (by decide)

/-! What stands above a file, whatever the environment gives for the log settings. -/

section

variable (env) (distinct : keywords.Distinct) (log : Option Value)

include distinct

theorem get?_feeRate_mergeOver :
    (Fields.mergeOver (environmentFields env log) (keywords.named keys)).get? feeRateKey =
      (keywords.firstMatching? feeRateKey).or (env.given? Environment.feeRateName) := by
  rw [get?_mergeOver_named distinct _ (by decide), get?_environmentFields, if_pos rfl,
    funext (merged_given? env _), Option.map_id']

theorem get?_path_mergeOver :
    (Fields.mergeOver (environmentFields env log) (keywords.named keys)).get? configPathKey =
      (keywords.firstMatching? configPathKey).or (env.given? Environment.configPathName) := by
  rw [get?_mergeOver_named distinct _ (by decide), get?_environmentFields, if_neg (by decide),
    if_pos rfl, funext (merged_given? env _), Option.map_id']

theorem get?_log_mergeOver :
    (Fields.mergeOver (environmentFields env log) (keywords.named keys)).get? logKey =
      ((keywords.firstMatching? logKey).map (Fields.merged log)).or log := by
  rw [get?_mergeOver_named distinct _ (by decide), get?_environmentFields, if_neg (by decide),
    if_neg (by decide), if_pos rfl]

end

theorem isObject_merged {high low : Option Value} (above : IsObject high)
    (below : IsObject low) : IsObject ((high.map (Fields.merged low)).or low) := by
  obtain rfl | ⟨upper, rfl, upperDistinct⟩ := above
  · exact below
  · obtain rfl | ⟨lower, rfl, lowerDistinct⟩ := below
    · exact .inr ⟨upper, rfl, upperDistinct⟩
    · exact .inr ⟨lower.overlay upper, rfl, lowerDistinct.overlay⟩

theorem get?_members_merged {high low : Option Value} (above : IsObject high)
    (below : IsObject low) (key : Key) :
    (members ((high.map (Fields.merged low)).or low)).get? key =
      ((members high).get? key).or ((members low).get? key) := by
  obtain rfl | ⟨upper, rfl, upperDistinct⟩ := above
  · rfl
  · obtain rfl | ⟨lower, rfl, -⟩ := below
    · exact Option.or_none.symm
    · change (lower.overlay upper).get? key = _
      rw [Fields.overlay_eq_enter, Fields.get?_enter upperDistinct, Option.map_id']
      rfl

theorem exists_given (regular : Regular env keywords json) :
    ∃ layer, environment? env = some layer ∧
      Given env keywords json (Fields.mergeOver layer (keywords.named keys)) := by
  obtain ⟨log, found, shape, ofVariables⟩ := regular.assigned.log?
  have layered : environment? env = some (environmentFields env log) := by
    rw [environment?, found]
    rfl
  have below : IsObject log := by
    cases shape with
    | inl absent => exact .inl absent
    | inr object => exact .inr ⟨_, object, Environment.distinct_foldKeys _ _⟩
  refine ⟨environmentFields env log, layered, get?_feeRate_mergeOver env regular.distinct log,
    get?_path_mergeOver env regular.distinct log, ?_, ?_⟩
  · rw [get?_log_mergeOver env regular.distinct]
    exact isObject_merged regular.log below
  · intro key
    rw [get?_log_mergeOver env regular.distinct, ← ofVariables]
    exact get?_members_merged regular.log below key

/-! ### The file -/

theorem readFields_fileFields {path : String} (read : fileFields files path = .ok below) :
    Yaml.ReadFields below := by
  have nothing : Yaml.ReadFields [] := ⟨Fields.distinct_nil, List.forall_mem_nil _⟩
  unfold fileFields readFile at read
  split_ifs at read
  · cases read
    exact nothing
  · split at read
    case h_1 => cases read
    case h_2 => cases read
    case h_3 =>
      cases read
      exact nothing
    case h_4 =>
      split at read
      case h_1 => cases read
      case h_2 => cases read
      case h_3 parsed =>
        cases read
        exact Yaml.readFields_parse parsed
      case h_4 =>
        cases read
        exact nothing

theorem foldl_addFileKey (given below : Fields) :
    below.foldl (fun fields entry => addFileKey fields entry.1 entry.2) given =
      Fields.enter Fields.filled given below := by
  rw [Fields.enter]
  congr
  funext fields entry
  exact Fields.addFileKey_eq_set

theorem Regular.path_text {value : Value} (regular : Regular env keywords json)
    (given : (keywords.firstMatching? configPathKey).or
      (env.given? Environment.configPathName) = some value) : ∃ path, value = .text path := by
  rw [Option.or_eq_some_iff] at given
  obtain keyword | ⟨-, variable_⟩ := given
  · exact regular.path value keyword
  · obtain ⟨path, -, rfl⟩ := Option.map_eq_some_iff.mp variable_
    exact ⟨path, rfl⟩

theorem Given.addFile {given : Fields} (order : Given env keywords json given)
    (regular : Regular env keywords json) (files : FileSystem) :
    addFile files given = (fileFields files (effectivePath env keywords)).map
      (Fields.enter Fields.filled given) := by
  unfold Settings.addFile effectivePath
  rw [order.path]
  cases given : (keywords.firstMatching? configPathKey).or
      (env.given? Environment.configPathName) with
  | none => rfl
  | some value =>
      obtain ⟨path, rfl⟩ := regular.path_text given
      dsimp only
      unfold fileFields
      split_ifs with empty
      · rfl
      · cases readFile files path with
        | error error => rfl
        | ok below => exact congrArg Except.ok (foldl_addFileKey _ below)

/-! Whatever the sources are, what was gathered is a file under the rest. -/

theorem addFile_eq_ok {given : Fields}
    (path : given.get? configPathKey = (keywords.firstMatching? configPathKey).or
      (env.given? Environment.configPathName))
    (added : Settings.addFile files given = .ok fields) :
    ∃ below, fileFields files (effectivePath env keywords) = .ok below ∧
      fields = Fields.enter Fields.filled given below := by
  unfold Settings.addFile at added
  unfold effectivePath
  rw [path] at added
  cases found : (keywords.firstMatching? configPathKey).or
      (env.given? Environment.configPathName) with
  | none =>
      rw [found] at added
      cases added
      exact ⟨[], rfl, rfl⟩
  | some value =>
      rw [found] at added
      cases value with
      | text path =>
          dsimp only at added ⊢
          unfold fileFields
          split_ifs at added ⊢ with empty
          · cases added
            exact ⟨[], rfl, rfl⟩
          · obtain ⟨below, read, added⟩ := bind_eq_ok.mp added
            cases added
            exact ⟨below, read, foldl_addFileKey _ below⟩
      | _ =>
          -- A path that is no text and still passes is as good as none.
          dsimp only at added
          split_ifs at added
          cases added
          exact ⟨[], rfl, rfl⟩

theorem gather_eq_ok (distinct : keywords.Distinct)
    (gathered : gather env files keywords = .ok fields) :
    ∃ log below, env.log? logKeys = some log ∧
      fileFields files (effectivePath env keywords) = .ok below ∧
      fields = Fields.enter Fields.filled
        (Fields.mergeOver (environmentFields env log) (keywords.named keys)) below := by
  unfold gather environment? at gathered
  cases found : env.log? logKeys with
  | none =>
      rw [found] at gathered
      cases gathered
  | some log =>
      rw [found] at gathered
      obtain ⟨below, read, same⟩ := addFile_eq_ok (get?_path_mergeOver env distinct log) gathered
      exact ⟨log, below, rfl, read, same⟩

theorem exists_gather (regular : Regular env keywords json) :
    ∃ layer, environment? env = some layer ∧
      Given env keywords json (Fields.mergeOver layer (keywords.named keys)) ∧
      ∀ files, gather env files keywords =
        (fileFields files (effectivePath env keywords)).map
          (Fields.enter Fields.filled (Fields.mergeOver layer (keywords.named keys))) := by
  obtain ⟨layer, layered, order⟩ := exists_given regular
  refine ⟨layer, layered, order, fun files => ?_⟩
  rw [gather, layered]
  exact order.addFile regular files

end Remit.Settings
