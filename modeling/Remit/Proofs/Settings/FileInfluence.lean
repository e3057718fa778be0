import Remit.Proofs.Settings.Passing

/-!
What a file can change: settings that neither keywords nor the environment give. A file that gives
a name of the log settings in another spelling can change more.
-/

namespace Remit.Settings

open Fields (Plain)

variable {env : Environment} {files : FileSystem} {keywords json below fields : Fields}
  {settings : Settings}

theorem check_of_path (env : Environment) {fields' : Fields} {path path' : String}
    (feeRate : fields.get? feeRateKey = fields'.get? feeRateKey)
    (log : fields.get? logKey = fields'.get? logKey)
    (unknown : unknownKeys fields keys = unknownKeys fields' keys)
    (passed : checkField fields configPathKey "" checkText = .ok path)
    (passed' : checkField fields' configPathKey "" checkText = .ok path') :
    check env fields =
      (check env fields').map fun settings => { settings with configPath := path } := by
  have rate : checkField fields feeRateKey Policy.defaultFeeRate checkFeeRate =
      checkField fields' feeRateKey Policy.defaultFeeRate checkFeeRate := by
    unfold checkField
    rw [feeRate]
  unfold check
  rw [rate, log, unknown, passed, passed']
  generalize checkField fields' feeRateKey _ _ = feeRate'
  generalize unknownKeys fields' keys = unknown'
  cases fields'.get? logKey with
  | none =>
      dsimp only
      generalize LogSettings.load env [] = log'
      cases log' <;> cases feeRate' <;> cases unknown' <;> rfl
  | some value =>
      dsimp only
      generalize checkLog env value = log'
      cases log' <;> cases feeRate' <;> cases unknown' <;> rfl

/-! ### Files that hold nothing -/

/-- Without a file: no other keyword of its path counts. -/
def withoutFile (keywords : Fields) : Fields :=
  (.text configPathKey, .text "") ::
    keywords.only fun key => (key.matching? [configPathKey]).isNone

theorem matching?_self_iff {key : Key} {name : String} :
    key.matching? [name] = some name ↔
      ∃ spelling, key = .text spelling ∧ Text.lower spelling = name := by
  simp [Key.matching?_eq_some_iff]

theorem matching?_isNone_iff {key : Key} {name : String} :
    (key.matching? [name]).isNone ↔ key.matching? [name] ≠ some name := by
  cases found : key.matching? [name] with
  | none => simp
  | some other =>
      obtain ⟨known, -⟩ := Key.matching?_eq_some_iff.mp found
      simp [List.mem_singleton.mp known]

theorem firstMatching?_only {name other : String} (different : name ≠ other) :
    Fields.firstMatching? (keywords.only fun key => (key.matching? [other]).isNone) name =
      keywords.firstMatching? name := by
  induction keywords with
  | nil => rfl
  | cons entry rest induction =>
      rw [Fields.only_cons, Fields.firstMatching?_cons, ← induction]
      split_ifs with keep own own
      · rw [Fields.firstMatching?_cons, if_pos own]
      · rw [Fields.firstMatching?_cons, if_neg own]
      · rw [matching?_isNone_iff, not_not, matching?_self_iff] at keep
        obtain ⟨spelling, same, lowered⟩ := keep
        obtain ⟨spelling', same', lowered'⟩ := matching?_self_iff.mp own
        rw [same, Key.text.injEq] at same'
        exact absurd (lowered' ▸ same' ▸ lowered) different
      · rfl

theorem firstMatching?_withoutFile {name : String} (different : name ≠ configPathKey) :
    (withoutFile keywords).firstMatching? name = keywords.firstMatching? name := by
  have head : (Key.text configPathKey).matching? [name] ≠ some name := by
    intro own
    obtain ⟨spelling, ⟨⟩, lowered⟩ := matching?_self_iff.mp own
    exact different (lowered ▸ lower_keys configPathKey (by decide))
  rw [withoutFile, Fields.firstMatching?_cons, if_neg head, firstMatching?_only different]

theorem firstMatching?_path_withoutFile :
    (withoutFile keywords).firstMatching? configPathKey = some (.text "") := by
  have own : (Key.text configPathKey).matching? [configPathKey] = some configPathKey :=
    matching?_self_iff.mpr ⟨configPathKey, rfl, lower_keys configPathKey (by decide)⟩
  rw [withoutFile, Fields.firstMatching?_cons, if_pos own]

theorem Regular.withoutFile (regular : Regular env keywords json) :
    Regular env (withoutFile keywords) json where
  distinct := by
    refine (Fields.distinct_cons _).mpr ⟨?_, regular.distinct.only⟩
    have own : (Key.text configPathKey).matching? [configPathKey] = some configPathKey :=
      matching?_self_iff.mpr ⟨configPathKey, rfl, lower_keys configPathKey (by decide)⟩
    rw [← Fields.get?_eq_none_iff, Fields.get?_only, own]
    rfl
  notNull := by
    rw [Settings.withoutFile, List.forall_mem_cons]
    exact ⟨Value.noConfusion, fun entry member =>
      regular.notNull entry (List.mem_of_mem_filter member)⟩
  path := by
    intro value found
    rw [firstMatching?_path_withoutFile, Option.some.injEq] at found
    exact ⟨"", found.symm⟩
  log := by
    rw [firstMatching?_withoutFile (by decide)]
    exact regular.log
  assigned := regular.assigned

theorem effectivePath_withoutFile : effectivePath env (withoutFile keywords) = "" := by
  rw [effectivePath, firstMatching?_path_withoutFile]
  rfl

/-- What is unknown does not depend on the settings. -/
def isForeign (key : Key) : Bool :=
  (checkKey keys key).isSome

theorem unknownKeys_only : unknownKeys fields keys = unknownKeys (fields.only isForeign) keys := by
  unfold unknownKeys Fields.only
  rw [List.filterMap_filter]
  congr
  funext entry
  unfold isForeign
  cases found : checkKey keys entry.1 <;> simp [found]

theorem only_isForeign_named :
    (keywords.named keys).only isForeign =
      (keywords.only (Fields.isUnknown keys)).only isForeign := by
  have known : ∀ name ∈ keys, isForeign (.text name) = false := by
    decide
  have front : (keys.filterMap fun name =>
      (keywords.firstMatching? name).map (Key.text name, ·)).filter
        (fun entry => isForeign entry.1) = [] := by
    rw [List.filter_eq_nil_iff]
    intro entry member
    obtain ⟨name, listed, found⟩ := List.mem_filterMap.mp member
    obtain ⟨value, -, rfl⟩ := Option.map_eq_some_iff.mp found
    simp [known name listed]
  rw [Fields.named_eq, Fields.only, List.filter_append, front, List.nil_append]
  rfl

theorem only_isUnknown_withoutFile :
    (withoutFile keywords).only (Fields.isUnknown keys) =
      keywords.only (Fields.isUnknown keys) := by
  have known : Fields.isUnknown keys (.text configPathKey) = false := by
    rw [Fields.isUnknown, Fields.matching?_name lower_keys (by decide)]
    rfl
  have unknown (key : Key) (unmatched : Fields.isUnknown keys key) :
      (key.matching? [configPathKey]).isNone := by
    rw [matching?_isNone_iff]
    intro own
    have listed : key.matching? keys = some configPathKey :=
      Key.matching?_eq_some_iff.mpr ⟨by decide, matching?_self_iff.mp own⟩
    rw [Fields.isUnknown, listed] at unmatched
    cases unmatched
  rw [withoutFile, Fields.only_cons, known, if_neg Bool.false_ne_true, Fields.only, Fields.only,
    List.filter_filter]
  apply List.filter_congr
  intro entry _
  cases unmatched : Fields.isUnknown keys entry.1 with
  | true => simp [unknown entry.1 unmatched]
  | false => rfl

theorem unknownKeys_withoutFile (layer : Fields) :
    unknownKeys (Fields.mergeOver layer (keywords.named keys)) keys =
      unknownKeys (Fields.mergeOver layer ((withoutFile keywords).named keys)) keys := by
  rw [unknownKeys_only, Fields.mergeOver_eq_enter, Fields.only_enter, only_isForeign_named,
    ← only_isUnknown_withoutFile, ← only_isForeign_named, ← Fields.only_enter,
    ← Fields.mergeOver_eq_enter, ← unknownKeys_only]

/-- A file with nothing in it that settings could be taken from. -/
inductive HoldsNothing (files : FileSystem) (path : String) : Prop
  | noPath (empty : path = "")
  | missing (absent : files (Path.plain path) = .ok none)
  | blank {text : String} (found : files (Path.plain path) = .ok (some text))
      (allowed : (Yaml.normalizeBreaks text.toList).all Yaml.isAllowed)
      (gap : Yaml.isGap false (Yaml.normalizeBreaks text.toList))
  | noMapping {text : String} {value : Value} (found : files (Path.plain path) = .ok (some text))
      (parsed : Yaml.parse text = .ok value) (other : ∀ fields, value ≠ .object fields)

theorem readFile_of_parse {path text : String} {value : Value}
    (found : files (Path.plain path) = .ok (some text)) (parsed : Yaml.parse text = .ok value)
    (other : ∀ fields, value ≠ .object fields) : readFile files path = .ok [] := by
  rw [readFile, found]
  simp only [parsed]

theorem HoldsNothing.fileFields {path : String} (nothing : HoldsNothing files path) :
    fileFields files path = .ok [] := by
  unfold Settings.fileFields
  split_ifs with empty
  · rfl
  · cases nothing with
    | noPath same => exact absurd same empty
    | missing absent => rw [readFile, absent]
    | blank found allowed gap =>
        exact readFile_of_parse found (Yaml.parse_of_gap allowed gap) fun _ => Value.noConfusion
    | noMapping found parsed other => exact readFile_of_parse found parsed other

theorem checkField_path (regular : Regular env keywords json)
    (path : fields.get? configPathKey =
      (keywords.firstMatching? configPathKey).or (env.given? Environment.configPathName)) :
    checkField fields configPathKey "" checkText = .ok (effectivePath env keywords) := by
  unfold checkField effectivePath
  rw [path]
  cases given : (keywords.firstMatching? configPathKey).or
      (env.given? Environment.configPathName) with
  | none => rfl
  | some value =>
      obtain ⟨path, rfl⟩ := regular.path_text given
      rfl

theorem load_of_holdsNothing (regular : Regular env keywords json)
    (nothing : HoldsNothing files (effectivePath env keywords)) (files' : FileSystem) :
    load env files keywords = (load env files' (withoutFile keywords)).map fun settings =>
      { settings with configPath := effectivePath env keywords } := by
  obtain ⟨layer, layered, order, gathered⟩ := exists_gather regular
  obtain ⟨layer', layered', order', gathered'⟩ := exists_gather regular.withoutFile
  obtain rfl : layer = layer' := Option.some.inj (layered.symm.trans layered')
  have first : gather env files keywords = .ok (Fields.mergeOver layer (keywords.named keys)) := by
    rw [gathered, nothing.fileFields]
    rfl
  have second : gather env files' (withoutFile keywords) =
      .ok (Fields.mergeOver layer ((withoutFile keywords).named keys)) := by
    rw [gathered', effectivePath_withoutFile]
    rfl
  have feeRate : (Fields.mergeOver layer (keywords.named keys)).get? feeRateKey =
      (Fields.mergeOver layer ((withoutFile keywords).named keys)).get? feeRateKey := by
    rw [order.feeRate, order'.feeRate, firstMatching?_withoutFile (by decide)]
  have log : (Fields.mergeOver layer (keywords.named keys)).get? logKey =
      (Fields.mergeOver layer ((withoutFile keywords).named keys)).get? logKey := by
    rw [get?_mergeOver_named regular.distinct layer (by decide),
      get?_mergeOver_named regular.withoutFile.distinct layer (by decide),
      firstMatching?_withoutFile (by decide)]
  have same := check_of_path env feeRate log (unknownKeys_withoutFile layer)
    (checkField_path regular order.path) (checkField_path regular.withoutFile order'.path)
  have texts : hasTextKeys (Fields.mergeOver layer (keywords.named keys)) =
      hasTextKeys (Fields.mergeOver layer ((withoutFile keywords).named keys)) := by
    rw [hasTextKeys, log]
    rfl
  rw [load_of_gather first, load_of_gather second, texts, same]
  split_ifs
  · cases check env _ <;> rfl
  · rfl

/-! ### What a file leaves alone -/

theorem enter_ownPath {given : Fields} {path : String}
    (present : given.get? configPathKey = some (.text path)) :
    Fields.enter Fields.filled given below =
      Fields.enter Fields.filled given (below.only (· ≠ .text configPathKey)) := by
  induction below generalizing given with
  | nil => rfl
  | cons entry rest induction =>
      rw [Fields.only_cons]
      by_cases own : entry.1 = .text configPathKey
      · -- The path is a text already, and a text is left as it is.
        have kept : given.set entry.1 (Fields.filled (given.get? entry.1) entry.2) = given := by
          rw [own, present]
          exact Fields.set_get? present
        rw [if_neg (by simpa using own), ← induction present, Fields.enter, List.foldl_cons, kept]
        rfl
      · have after : (given.set entry.1 (Fields.filled (given.get? entry.1) entry.2)).get?
            configPathKey = some (.text path) := by
          rw [Fields.get?_set, if_neg (Ne.symm own), present]
        rw [if_pos (by simpa using own)]
        exact induction after

theorem load_of_ownPath (regular : Regular env keywords json) {files' : FileSystem}
    (read : fileFields files (effectivePath env keywords) = .ok below)
    (read' : fileFields files' (effectivePath env keywords) =
      .ok (below.only (· ≠ .text configPathKey))) :
    load env files keywords = load env files' keywords := by
  obtain ⟨layer, -, order, gathered⟩ := exists_gather regular
  have same : gather env files keywords = gather env files' keywords := by
    rw [gathered, gathered, read, read']
    cases present : (Fields.mergeOver layer (keywords.named keys)).get? configPathKey with
    | none =>
        rw [order.path] at present
        rw [effectivePath, present] at read
        cases read
        rfl
    | some value =>
        rw [order.path] at present
        obtain ⟨path, rfl⟩ := regular.path_text present
        rw [← order.path] at present
        exact congrArg Except.ok (enter_ownPath present)
  rw [load, load, same]

/-- The log settings of a file are an object, if it has any. -/
def LogIsObject (below : Fields) : Prop :=
  ∀ value, below.get? logKey = some value → ∃ inner : Fields, value = .object inner

theorem LogIsObject.isObject (object : LogIsObject below) (read : Yaml.ReadFields below) :
    IsObject (below.get? logKey) := by
  cases found : below.get? logKey with
  | none => exact .inl rfl
  | some value =>
      obtain ⟨inner, rfl⟩ := object value found
      exact .inr ⟨inner, rfl, read.get? found⟩

/-- Settings that passed are the first values present, or the defaults. -/
structure Settled (env : Environment) (keywords json below : Fields) (settings : Settings) :
    Prop where
  feeRate : checkGiven feeRateKey Policy.defaultFeeRate checkFeeRate
    (firstPresent (keywords.firstMatching? feeRateKey)
      (env.given? Environment.feeRateName) (below.get? feeRateKey)) = .ok settings.feeRate
  path : settings.configPath = effectivePath env keywords
  level : OneSpelling keywords json below →
    checkGiven levelKey ({} : LogSettings).level checkLevel
      (firstPresent ((keywordLog keywords).get? levelKey) (env.givenLog? json levelKey)
        ((fieldLog below).get? levelKey)) = .ok settings.log.level
  format : OneSpelling keywords json below →
    checkGiven formatKey ({} : LogSettings).format checkText
      (firstPresent ((keywordLog keywords).get? formatKey) (env.givenLog? json formatKey)
        ((fieldLog below).get? formatKey)) = .ok settings.log.format

theorem exists_inOrder (regular : Regular env keywords json)
    (read : fileFields files (effectivePath env keywords) = .ok below)
    (object : LogIsObject below) :
    ∃ fields, gather env files keywords = .ok fields ∧
      InOrder env keywords json below fields := by
  obtain ⟨layer, -, order, gathered⟩ := exists_gather regular
  refine ⟨_, by rw [gathered, read]; rfl, ?_⟩
  exact inOrder regular order read (object.isObject (readFields_fileFields read))

theorem settled (regular : Regular env keywords json)
    (read : fileFields files (effectivePath env keywords) = .ok below)
    (object : LogIsObject below) (loaded : load env files keywords = .ok settings) :
    Settled env keywords json below settings := by
  obtain ⟨fields, gathered, order⟩ := exists_inOrder regular read object
  obtain ⟨found, gathered', passed⟩ := load_eq_ok loaded
  obtain rfl : fields = found := Except.ok.inj (gathered.symm.trans gathered')
  obtain ⟨feeRate, path, log, -⟩ := check_eq_ok_iff.mp passed
  obtain ⟨level, format⟩ := LogSettings.check_eq_ok (checkedLog_eq_ok log)
  refine ⟨order.feeRate ▸ feeRate, ?_, ?_, ?_⟩
  · have whole := order.path
    rw [firstPresent, Option.or_none] at whole
    rw [checkField_path regular whole] at path
    exact (Except.ok.inj path).symm
  · intro spelling
    rw [← order.named spelling levelKey (by decide)]
    exact level
  · intro spelling
    rw [← order.named spelling formatKey (by decide)]
    exact format

def Above (keyword environment : Option Value) : Prop :=
  keyword ≠ none ∨ environment ≠ none

theorem Above.firstPresent_eq {keyword environment : Option Value}
    (above : Above keyword environment) (file file' : Option Value) :
    firstPresent keyword environment file = firstPresent keyword environment file' := by
  unfold firstPresent
  cases keyword with
  | some value => rfl
  | none =>
      cases environment with
      | some value => rfl
      | none => exact absurd rfl (above.resolve_left (not_not.mpr rfl))

structure Unchanged (env : Environment) (keywords json below below' : Fields)
    (settings settings' : Settings) : Prop where
  feeRate : Above (keywords.firstMatching? feeRateKey) (env.given? Environment.feeRateName) →
    settings.feeRate = settings'.feeRate
  path : settings.configPath = settings'.configPath
  level : OneSpelling keywords json below → OneSpelling keywords json below' →
    Above ((keywordLog keywords).get? levelKey) (env.givenLog? json levelKey) →
    settings.log.level = settings'.log.level
  format : OneSpelling keywords json below → OneSpelling keywords json below' →
    Above ((keywordLog keywords).get? formatKey) (env.givenLog? json formatKey) →
    settings.log.format = settings'.log.format

theorem Settled.unchanged {below' : Fields} {settings' : Settings}
    (first : Settled env keywords json below settings)
    (second : Settled env keywords json below' settings') :
    Unchanged env keywords json below below' settings settings' where
  feeRate above := by
    have same := first.feeRate
    rw [above.firstPresent_eq _ (below'.get? feeRateKey), second.feeRate] at same
    exact (Except.ok.inj same).symm
  path := first.path.trans second.path.symm
  level spelling spelling' above := by
    have same := first.level spelling
    rw [above.firstPresent_eq _ ((fieldLog below').get? levelKey), second.level spelling'] at same
    exact (Except.ok.inj same).symm
  format spelling spelling' above := by
    have same := first.format spelling
    rw [above.firstPresent_eq _ ((fieldLog below').get? formatKey),
      second.format spelling'] at same
    exact (Except.ok.inj same).symm

/-- Where settings come from, and what a file has to do with it. -/
structure Precedence (env : Environment) (keywords json : Fields) : Prop where
  /-- Nothing but a file can fail before the checks. -/
  unreadable : ∀ files error, fileFields files (effectivePath env keywords) = .error error →
    load env files keywords = .error error
  ordered : ∀ files below, fileFields files (effectivePath env keywords) = .ok below →
    LogIsObject below → ∃ fields, gather env files keywords = .ok fields ∧
      InOrder env keywords json below fields
  settled : ∀ files below settings, fileFields files (effectivePath env keywords) = .ok below →
    LogIsObject below → load env files keywords = .ok settings →
    Settled env keywords json below settings
  /-- A variable of a single key is what the environment gives for it. -/
  single : ∀ name ∈ logKeys, ∀ text, env.find? (Environment.logKeyStart ++ name) = some text →
    env.givenLog? json name = some (.text text)
  unchanged : ∀ files files' below below' settings settings',
    fileFields files (effectivePath env keywords) = .ok below →
    fileFields files' (effectivePath env keywords) = .ok below' →
    LogIsObject below → LogIsObject below' →
    load env files keywords = .ok settings → load env files' keywords = .ok settings' →
    Unchanged env keywords json below below' settings settings'
  ownPath : ∀ files files' below, fileFields files (effectivePath env keywords) = .ok below →
    fileFields files' (effectivePath env keywords) = .ok (below.only (· ≠ .text configPathKey)) →
    load env files keywords = load env files' keywords
  nothing : ∀ files files', HoldsNothing files (effectivePath env keywords) →
    load env files keywords = (load env files' (withoutFile keywords)).map fun settings =>
      { settings with configPath := effectivePath env keywords }

end Remit.Settings
