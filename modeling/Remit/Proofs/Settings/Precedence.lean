import Remit.Proofs.Settings.Gathering

/-!
Which source a setting comes from: the first one that gives it, of keywords, environment, file and
defaults, and for the log settings so for each key.
-/

namespace Remit.Settings

open Fields (Distinct Plain)
open Environment (Assigned)

variable {env : Environment} {files : FileSystem} {keywords json below fields : Fields}
  {name : String}

theorem lower_logKeys : ∀ name ∈ logKeys, Text.lower name = name := by
  decide +kernel

/-- The first value of those that keywords, environment and file give. -/
def firstPresent (keyword environment file : Option Value) : Option Value :=
  keyword.or (environment.or file)

def checkGiven {α : Type} (key : String) (default : α) (check : Value → Except Reason α)
    (value : Option Value) : Except (List Fault) α :=
  match value with
  | none => .ok default
  | some value => (check value).mapError fun reason => [⟨[key], reason⟩]

def keywordLog (keywords : Fields) : Fields :=
  members (keywords.firstMatching? logKey)

def fieldLog (fields : Fields) : Fields :=
  members (fields.get? logKey)

def logFields (env : Environment) (fields : Fields) : Fields :=
  Fields.mergeOver (LogSettings.environment env) ((fieldLog fields).named logKeys)

/-- What the environment gives for a key of the log settings: the variable of the key, over the
object. -/
def Environment.givenLog? (env : Environment) (json : Fields) (key : Key) : Option Value :=
  ((env.logKeys.get? key).map (Fields.merged (json.get? key))).or (json.get? key)

/-- No source gives a name of the log settings in another spelling. -/
structure OneSpelling (keywords json below : Fields) : Prop where
  keyword : Plain logKeys (keywordLog keywords)
  environment : Plain logKeys json
  file : Plain logKeys (fieldLog below)

/-- What is checked is the first value present. An object over an object is one object, and no
better a rate. -/
structure InOrder (env : Environment) (keywords json below fields : Fields) : Prop where
  feeRate : checkField fields feeRateKey Policy.defaultFeeRate checkFeeRate =
    checkGiven feeRateKey Policy.defaultFeeRate checkFeeRate
      (firstPresent (keywords.firstMatching? feeRateKey)
        (env.given? Environment.feeRateName) (below.get? feeRateKey))
  path : fields.get? configPathKey =
    firstPresent (keywords.firstMatching? configPathKey)
      (env.given? Environment.configPathName) none
  log : IsObject (fields.get? logKey)
  keyed : ∀ key, (fieldLog fields).get? key =
    firstPresent ((keywordLog keywords).get? key) ((env.logObject json).get? key)
      ((fieldLog below).get? key)
  named : OneSpelling keywords json below → ∀ name ∈ logKeys,
    (logFields env fields).get? name =
      firstPresent ((keywordLog keywords).get? name) (env.givenLog? json name)
        ((fieldLog below).get? name)

theorem mem_of_firstMatching? {value : Value} (found : fields.firstMatching? name = some value) :
    ∃ key, (key, value) ∈ fields := by
  obtain ⟨⟨key, _⟩, entry, rfl⟩ := Option.map_eq_some_iff.mp found
  exact ⟨key, List.mem_of_find?_eq_some entry⟩

/-- Whatever stands below a value, it is as good a rate. -/
theorem checkFeeRate_filled {value : Value} (notNull : value ≠ .null) (under : Value) :
    checkFeeRate (Fields.filled (some value) under) = checkFeeRate value := by
  cases value with
  | null => exact absurd rfl notNull
  | object inner => cases under <;> rfl
  | _ => rfl

/-- An object of a file under the given one is the given one over that of the file. -/
theorem filled_object {given file : Option Value} (above : IsObject given)
    (below : IsObject file) :
    (file.map (Fields.filled given)).or given = (given.map (Fields.merged file)).or file := by
  obtain rfl | ⟨upper, rfl, -⟩ := above
  · obtain rfl | ⟨lower, rfl, -⟩ := below <;> rfl
  · obtain rfl | ⟨lower, rfl, -⟩ := below <;> rfl

section

variable {given : Fields} (order : Given env keywords json given)

include order

theorem Given.feeRate_ne_null (regular : Regular env keywords json) {value : Value}
    (found : given.get? feeRateKey = some value) : value ≠ .null := by
  rw [order.feeRate, Option.or_eq_some_iff] at found
  obtain keyword | ⟨-, variable_⟩ := found
  · obtain ⟨key, member⟩ := mem_of_firstMatching? keyword
    exact regular.notNull _ member
  · obtain ⟨text, -, rfl⟩ := Option.map_eq_some_iff.mp variable_
    exact Value.noConfusion

theorem checkField_feeRate (regular : Regular env keywords json) (distinct : below.Distinct) :
    checkField (Fields.enter Fields.filled given below) feeRateKey Policy.defaultFeeRate
        checkFeeRate =
      checkGiven feeRateKey Policy.defaultFeeRate checkFeeRate
        (firstPresent (keywords.firstMatching? feeRateKey)
          (env.given? Environment.feeRateName) (below.get? feeRateKey)) := by
  unfold checkField
  rw [Fields.get?_enter distinct, firstPresent, ← Option.or_assoc, ← order.feeRate]
  cases found : given.get? feeRateKey with
  | none => cases below.get? feeRateKey <;> rfl
  | some value =>
      have notNull := order.feeRate_ne_null regular found
      cases below.get? feeRateKey with
      | none => rfl
      | some under =>
          simp only [Option.map_some, Option.some_or, checkFeeRate_filled notNull]
          rfl

theorem get?_path (regular : Regular env keywords json)
    (read : fileFields files (effectivePath env keywords) = .ok below) :
    (Fields.enter Fields.filled given below).get? configPathKey = given.get? configPathKey := by
  rw [Fields.get?_enter (readFields_fileFields read).1]
  cases found : given.get? configPathKey with
  | none =>
      -- Nothing gives a path, so no file is read that could give one.
      rw [order.path] at found
      rw [effectivePath, found] at read
      cases read
      rfl
  | some value =>
      rw [order.path] at found
      obtain ⟨path, rfl⟩ := regular.path_text found
      cases below.get? configPathKey <;> rfl

theorem get?_log (read : Yaml.ReadFields below) (log : IsObject (below.get? logKey)) :
    (Fields.enter Fields.filled given below).get? logKey =
      ((given.get? logKey).map (Fields.merged (below.get? logKey))).or (below.get? logKey) := by
  rw [Fields.get?_enter read.1]
  exact filled_object order.log log

theorem get?_fieldLog (read : Yaml.ReadFields below) (log : IsObject (below.get? logKey))
    (key : Key) :
    (fieldLog (Fields.enter Fields.filled given below)).get? key =
      firstPresent ((keywordLog keywords).get? key) ((env.logObject json).get? key)
        ((fieldLog below).get? key) := by
  rw [fieldLog, get?_log order read log, get?_members_merged order.log log, order.logKeys,
    firstPresent, Option.or_assoc]
  rfl

end

theorem get?_logEnvironment (known : name ∈ logKeys) :
    (LogSettings.environment env).get? name = env.given? (Environment.logKeyStart ++ name) := by
  have levelName : Environment.levelName = Environment.logKeyStart ++ levelKey := rfl
  have formatName : Environment.formatName = Environment.logKeyStart ++ formatKey := rfl
  rw [LogSettings.environment, Fields.get?_append, get?_assignedField, get?_assignedField,
    levelName, formatName]
  rw [logKeys, List.mem_cons, List.mem_singleton] at known
  cases known with
  | inl level =>
      subst level
      rw [if_pos rfl, if_neg (by decide), Option.or_none]
  | inr format =>
      subst format
      rw [if_neg (by decide), if_pos rfl, Option.none_or]

theorem whole_logKeys : ∀ name ∈ logKeys, (Environment.splitKey name.toList).2 = [] := by
  decide

theorem givenLog?_of_find? {text : String} (known : name ∈ logKeys)
    (found : env.find? (Environment.logKeyStart ++ name) = some text) :
    env.givenLog? json name = some (.text text) := by
  have merged : Fields.merged (json.get? name) (.text text) = .text text := by
    cases json.get? name with
    | none => rfl
    | some low => cases low <;> rfl
  rw [Environment.givenLog?, Environment.get?_logKeys (whole_logKeys name known) found,
    Option.map_some, merged, Option.some_or]

/-- The log settings read their variables once more, which gives nothing new. -/
theorem given?_of_givenLog? (known : name ∈ logKeys)
    (missing : env.givenLog? json name = none) :
    env.given? (Environment.logKeyStart ++ name) = none := by
  cases found : env.find? (Environment.logKeyStart ++ name) with
  | none => rw [Environment.given?, found, Option.map_none]
  | some text =>
      rw [givenLog?_of_find? known found] at missing
      cases missing

theorem plain_fieldLog (regular : Regular env keywords json) {given : Fields}
    (order : Given env keywords json given) (read : Yaml.ReadFields below)
    (log : IsObject (below.get? logKey)) (spelling : OneSpelling keywords json below) :
    Plain logKeys (fieldLog (Fields.enter Fields.filled given below)) := by
  intro key present
  by_cases keyword : key ∈ (keywordLog keywords).keys
  · exact spelling.keyword key keyword
  by_cases environment : key ∈ (env.logObject json).keys
  · exact regular.assigned.plain_logObject spelling.environment key environment
  by_cases file : key ∈ (fieldLog below).keys
  · exact spelling.file key file
  · refine absurd present (Fields.get?_eq_none_iff.mp ?_)
    rw [get?_fieldLog order read log, Fields.get?_eq_none_iff.mpr keyword,
      Fields.get?_eq_none_iff.mpr environment, Fields.get?_eq_none_iff.mpr file]
    rfl

theorem get?_logFields_named (distinct : (fieldLog fields).Distinct) (known : name ∈ logKeys) :
    (logFields env fields).get? name =
      ((fieldLog fields).firstMatching? name).or
        (env.given? (Environment.logKeyStart ++ name)) := by
  have once : ((fieldLog fields).named logKeys).Distinct :=
    distinct.named lower_logKeys (by decide)
  rw [logFields, Fields.mergeOver_eq_enter, Fields.get?_enter once,
    Fields.get?_named lower_logKeys known, get?_logEnvironment known,
    funext (merged_given? env _), Option.map_id']

theorem IsObject.distinct_members {value : Option Value} (object : IsObject value) :
    (members value).Distinct := by
  obtain rfl | ⟨inner, rfl, distinct⟩ := object
  · exact Fields.distinct_nil
  · exact distinct

theorem get?_logFields {fields : Fields} (plain : Plain logKeys (fieldLog fields))
    (known : name ∈ logKeys) (object : IsObject (fields.get? logKey)) :
    (logFields env fields).get? name =
      ((fieldLog fields).get? name).or (env.given? (Environment.logKeyStart ++ name)) := by
  rw [get?_logFields_named object.distinct_members known,
    plain.firstMatching? lower_logKeys known]

theorem inOrder (regular : Regular env keywords json) {given : Fields}
    (order : Given env keywords json given)
    (read : fileFields files (effectivePath env keywords) = .ok below)
    (log : IsObject (below.get? logKey)) :
    InOrder env keywords json below (Fields.enter Fields.filled given below) := by
  have fields := readFields_fileFields read
  have object : IsObject ((Fields.enter Fields.filled given below).get? logKey) := by
    rw [get?_log order fields log]
    exact isObject_merged order.log log
  refine ⟨checkField_feeRate order regular fields.1, ?_, object, get?_fieldLog order fields log, ?_⟩
  · rw [get?_path order regular read, order.path, firstPresent, Option.or_none]
  · intro spelling name known
    have plain := plain_fieldLog regular order fields log spelling
    rw [get?_logFields plain known object, get?_fieldLog order fields log,
      regular.assigned.get?_logObject spelling.environment]
    change (firstPresent _ (env.givenLog? json name) _).or _ = _
    cases present : env.givenLog? json name with
    | none =>
        rw [given?_of_givenLog? known present, Option.or_none]
    | some value =>
        rw [firstPresent, Option.some_or]
        cases (keywordLog keywords).get? name <;> rfl

end Remit.Settings
