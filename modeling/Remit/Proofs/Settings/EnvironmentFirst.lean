import Remit.Proofs.Settings.Passing
import Remit.Proofs.Settings.Spelling

/-!
The environment before a file, whatever the sources hold. What the environment gives is lost to the
file only under a null keyword, where the log settings as a whole are given as null or as something
else than an object, or where the file has another spelling of a name in front.
-/

namespace Remit.Settings

open Fields (Distinct Plain)
open Environment (Assigned)

variable {env : Environment} {files : FileSystem} {keywords json below fields : Fields}
  {settings : Settings} {name text : String}

/-! ### A value over another one -/

/-- What is left of the value of a file under the one that is given. -/
def overFile (given file : Option Value) : Option Value :=
  (file.map (Fields.filled given)).or given

section

variable {given file : Option Value} {upper : Fields}

theorem get?_enter_filled {key : Key} (distinct : below.Distinct) :
    (Fields.enter Fields.filled fields below).get? key =
      overFile (fields.get? key) (below.get? key) :=
  Fields.get?_enter distinct

theorem overFile_none : overFile none file = file := by
  cases file <;> rfl

theorem overFile_null : overFile (some .null) file = file.or (some .null) := by
  cases file <;> rfl

theorem overFile_text : overFile (some (.text text)) file = some (.text text) := by
  cases file <;> rfl

theorem overlay_nil (distinct : upper.Distinct) : Fields.overlay [] upper = upper := by
  have fresh : Distinct ([] ++ upper) := distinct
  rw [Fields.overlay_eq_enter, Fields.enter_fresh (fun _ => rfl) fresh, List.nil_append]

theorem merged_object (distinct : upper.Distinct) :
    Fields.merged file (.object upper) = .object ((members file).overlay upper) := by
  have alone : Value.object upper = .object (Fields.overlay [] upper) := by
    rw [overlay_nil distinct]
  cases file with
  | none => exact alone
  | some value =>
      cases value with
      | object lower => rfl
      | _ => exact alone

theorem merged_null : Fields.merged file .null = .null := by
  cases file with
  | none => rfl
  | some value => cases value <;> rfl

/-- An object goes over a file as it goes over the environment. -/
theorem overFile_object (distinct : upper.Distinct) :
    overFile (some (.object upper)) file = some (.object ((members file).overlay upper)) := by
  rw [← merged_object distinct]
  cases file with
  | none => rfl
  | some value => cases value <;> rfl

/-- Nothing, null or an object: what can stand over log settings that pass. -/
inductive Passable : Option Value → Prop
  | none : Passable none
  | null : Passable (some .null)
  | object (fields : Fields) : Passable (some (.object fields))

theorem passable_of_checkedLog {log : LogSettings}
    (passed : checkedLog env (overFile given file) = .ok log) : Passable given := by
  cases given with
  | none => exact .none
  | some value =>
      cases value with
      | null => exact .null
      | object fields => exact .object fields
      | _ => cases file <;> cases passed

theorem Passable.of_keyword {keyword log : Option Value}
    (passable : Passable ((keyword.map (Fields.merged log)).or log)) :
    (keyword = Option.none ∧ Passable log) ∨ keyword = some .null ∨
      ∃ upper : Fields, keyword = some (.object upper) := by
  cases keyword with
  | none => exact .inl ⟨rfl, passable⟩
  | some value =>
      cases value with
      | null => exact .inr (.inl rfl)
      | object upper => exact .inr (.inr ⟨upper, rfl⟩)
      | _ =>
          rcases log with _ | ⟨_ | _ | _ | _ | _ | _ | _ | _⟩ <;> cases passable

end

/-! ### What the environment gives to the log settings -/

/-- What keeps single variables out of the log settings that a file is put under. -/
inductive HidesLog (env : Environment) (keywords : Fields) : Prop
  | nullKeyword (keyword : keywords.firstMatching? logKey = some .null)
  | nullVariable {text : String} (found : env.find? Environment.logName = some text)
      (parsed : Json.parse? text = some .null)
  | noObject {text : String} {value : Value} {upper : Fields}
      (found : env.find? Environment.logName = some text)
      (parsed : Json.parse? text = some value) (other : ∀ fields, value ≠ .object fields)
      (keyword : keywords.firstMatching? logKey = some (.object upper))

/-- What the environment gives for all log settings, where it gives a single one. -/
inductive LogLayer (env : Environment) : Option Value → Prop
  | object {json : Fields} (assigned : Assigned env json) :
      LogLayer env (some (.object (env.logObject json)))
  | null {text : String} (found : env.find? Environment.logName = some text)
      (parsed : Json.parse? text = some .null) : LogLayer env none
  | other {text : String} {value : Value} (found : env.find? Environment.logName = some text)
      (parsed : Json.parse? text = some value) (other : ∀ fields, value ≠ .object fields) :
      LogLayer env (some value)

/-- The value that the environment gives for a name: that of its single variable, unless the object
has the name in another spelling. -/
theorem exists_logValue (assigned : Assigned env json) (known : name ∈ logKeys)
    (found : env.find? (Environment.logKeyStart ++ name) = some text) :
    ∃ value, (env.logObject json).get? name = some value ∧
      (Plain logKeys json → value = .text text) := by
  have variable_ := Environment.get?_logKeys (whole_logKeys name known) found
  have present : .text name ∈ (Fields.mergeOver json env.logKeys).keys := by
    rw [← not_not (a := _ ∈ _), ← Fields.get?_eq_none_iff, Fields.mergeOver_eq_enter,
      Fields.get?_enter (Environment.distinct_logKeys env), variable_]
    exact Option.some_ne_none _
  have entered : .text name ∈ (env.logObject json).keys := by
    have folded : Environment.folded? logKeys (.text name) ∈ (env.logObject json).keys :=
      Environment.mem_keys_foldKeys present
    rwa [Environment.folded?, Fields.matching?_name lower_logKeys known] at folded
  rw [← not_not (a := _ ∈ _), ← Fields.get?_eq_none_iff] at entered
  obtain ⟨value, given⟩ := Option.ne_none_iff_exists'.mp entered
  refine ⟨value, given, fun plain => ?_⟩
  rw [assigned.get?_logObject plain] at given
  exact Option.some.inj (given.symm.trans (givenLog?_of_find? known found))

theorem logLayer_of_find? {log : Option Value} (known : name ∈ logKeys)
    (found : env.find? (Environment.logKeyStart ++ name) = some text)
    (layered : env.log? logKeys = some log) : LogLayer env log := by
  cases assigned : env.find? Environment.logName with
  | none =>
      have unset : Assigned env [] := .unset assigned
      obtain ⟨log', layered', shape, same⟩ := unset.log?
      obtain rfl : log = log' := Option.some.inj (layered.symm.trans layered')
      cases shape with
      | inl absent =>
          obtain ⟨value, given, -⟩ := exists_logValue unset known found
          rw [← same, absent] at given
          cases given
      | inr object =>
          rw [object]
          exact .object unset
  | some text =>
      cases parsed : Json.parse? text with
      | none =>
          rw [Environment.log?, assigned] at layered
          simp only [parsed] at layered
          cases layered
      | some value =>
          rw [Environment.log?, assigned] at layered
          simp only [parsed] at layered
          cases value with
          | object json =>
              cases layered
              exact .object (.object assigned parsed)
          | null =>
              cases layered
              exact .null assigned parsed
          | _ =>
              cases layered
              exact .other assigned parsed fun _ => Value.noConfusion

/-! ### Log settings under a file -/

section

variable {log : Option Value} {loaded : LogSettings} {value : Value}

/-- A value that its check turns into what the log settings hold. -/
inductive Passes (loaded : LogSettings) : String → Value → Prop
  | level {value : Value} (passed : checkLevel value = .ok loaded.level) :
      Passes loaded levelKey value
  | format {value : Value} (passed : checkText value = .ok loaded.format) :
      Passes loaded formatKey value

theorem Passes.ne_null (passes : Passes loaded name value) : value ≠ .null := by
  rintro rfl
  cases passes with
  | level passed => cases passed
  | format passed => cases passed

/-- What passes is no null of an object that gives nothing else for the name. -/
theorem Passes.of_getD {upper : Fields} {key : Key} (nulls : upper.OnlyNull name)
    (spelled : key.matching? [name] = some name)
    (passes : Passes loaded name ((upper.get? key).getD value)) : Passes loaded name value := by
  cases given : upper.get? key with
  | none =>
      rw [given] at passes
      exact passes
  | some high =>
      rw [given] at passes
      exact absurd (nulls _ (Fields.mem_of_get? given) spelled) passes.ne_null

theorem passes_of_check (passed : LogSettings.check fields = .ok loaded) (known : name ∈ logKeys)
    (given : fields.get? name = some value) : Passes loaded name value := by
  obtain ⟨level, format⟩ := LogSettings.check_eq_ok passed
  unfold checkField at level format
  rw [logKeys, List.mem_cons, List.mem_singleton] at known
  cases known with
  | inl same =>
      subst same
      rw [given] at level
      exact .level (mapError_eq_ok.mp level)
  | inr same =>
      subst same
      rw [given] at format
      exact .format (mapError_eq_ok.mp format)

/-- Log settings that passed, and what they were gathered from. -/
structure LogGathered (env : Environment) (keywords below fields : Fields) (log : Option Value)
    (loaded : LogSettings) : Prop where
  once : (keywordLog keywords).Distinct
  layered : env.log? logKeys = some log
  read : Yaml.ReadFields below
  under : fields.get? logKey =
    overFile (((keywords.firstMatching? logKey).map (Fields.merged log)).or log)
      (below.get? logKey)
  passed : checkedLog env (fields.get? logKey) = .ok loaded

namespace LogGathered

variable (gathered : LogGathered env keywords below fields log loaded)

include gathered

theorem passable :
    Passable (((keywords.firstMatching? logKey).map (Fields.merged log)).or log) := by
  have passed := gathered.passed
  rw [gathered.under] at passed
  exact passable_of_checkedLog passed

theorem distinct_below : (fieldLog below).Distinct := by
  unfold fieldLog
  cases found : below.get? logKey with
  | none => exact Fields.distinct_nil
  | some value =>
      cases value with
      | object inner => exact gathered.read.get? found
      | _ => exact Fields.distinct_nil

theorem fieldLog_eq {upper : Fields} (distinct : upper.Distinct)
    (given : ((keywords.firstMatching? logKey).map (Fields.merged log)).or log =
      some (.object upper)) : fieldLog fields = (fieldLog below).overlay upper := by
  rw [fieldLog, gathered.under, given, overFile_object distinct]
  rfl

/-- Where nothing hides it, the object of the environment stands between keywords and file. -/
theorem fieldLog_of_visible (visible : ¬ HidesLog env keywords) (known : name ∈ logKeys)
    (found : env.find? (Environment.logKeyStart ++ name) = some text) :
    ∃ json, Assigned env json ∧ fieldLog fields =
      (fieldLog below).overlay ((env.logObject json).overlay (keywordLog keywords)) := by
  have distinct (json : Fields) : ((env.logObject json).overlay (keywordLog keywords)).Distinct :=
    (Environment.distinct_foldKeys _ _).overlay
  have keyword := gathered.passable.of_keyword
  cases logLayer_of_find? known found gathered.layered with
  | object assigned =>
      refine ⟨_, assigned, gathered.fieldLog_eq (distinct _) ?_⟩
      obtain ⟨missing, -⟩ | null | ⟨upper, object⟩ := keyword
      · rw [keywordLog, missing]
        rfl
      · exact absurd (.nullKeyword null) visible
      · rw [keywordLog, object]
        rfl
  | null assigned parsed => exact absurd (.nullVariable assigned parsed) visible
  | other assigned parsed other =>
      obtain ⟨-, bare⟩ | null | ⟨upper, object⟩ := keyword
      · cases bare with
        | null => exact absurd (.nullVariable assigned parsed) visible
        | object inner => exact absurd rfl (other inner)
      · exact absurd (.nullKeyword null) visible
      · exact absurd (.noObject assigned parsed other object) visible

omit gathered in
theorem members_log (layered : env.log? logKeys = some log)
    (assigned : env.find? Environment.logName = some text)
    (parsed : Json.parse? text = some value) (other : ∀ fields, value ≠ .object fields) :
    members log = [] := by
  rw [Environment.log?, assigned] at layered
  simp only [parsed] at layered
  cases value with
  | object fields => exact absurd rfl (other fields)
  | _ =>
      cases layered
      rfl

/-- Where something hides it, keywords stand above the file alone. -/
theorem fieldLog_of_hidden (hidden : HidesLog env keywords) :
    fieldLog fields = (fieldLog below).overlay (keywordLog keywords) := by
  obtain ⟨keyword, -⟩ | keyword | ⟨upper, keyword⟩ := gathered.passable.of_keyword
  · cases hidden with
    | nullKeyword null => cases keyword.symm.trans null
    | nullVariable assigned parsed =>
        have layered := gathered.layered
        rw [Environment.log?, assigned] at layered
        simp only [parsed] at layered
        cases layered
        rw [fieldLog, gathered.under, keywordLog, keyword]
        exact congrArg members overFile_none
    | noObject assigned parsed other object => cases keyword.symm.trans object
  · rw [fieldLog, fieldLog, gathered.under, keywordLog, keyword, Option.map_some, merged_null,
      Option.some_or, overFile_null]
    cases below.get? logKey <;> rfl
  · have nothing : members log = [] := by
      cases hidden with
      | nullKeyword null => cases keyword.symm.trans null
      | nullVariable assigned parsed =>
          exact members_log gathered.layered assigned parsed fun _ => Value.noConfusion
      | noObject assigned parsed other _ =>
          exact members_log gathered.layered assigned parsed other
    have once : upper.Distinct := by
      have once := gathered.once
      rwa [keywordLog, keyword] at once
    apply gathered.fieldLog_eq gathered.once
    rw [keywordLog, keyword, Option.map_some, merged_object once, nothing, overlay_nil once]
    rfl

/-! The first spelling of a name is what the log settings hold. -/

section

variable {upper : Fields} (whole : fieldLog fields = (fieldLog below).overlay upper)
  (known : name ∈ logKeys)

include whole known

theorem passes_checked
    (given : ((((fieldLog below).overlay upper).first? name).map Prod.snd).or
      (env.given? (Environment.logKeyStart ++ name)) = some value) : Passes loaded name value := by
  have distinct : (fieldLog fields).Distinct := whole ▸ gathered.distinct_below.overlay
  apply passes_of_check (checkedLog_eq_ok gathered.passed) known
  rw [get?_logFields_named distinct known, whole, Fields.firstMatching?_eq, given]

theorem passes_first {key : Key}
    (first : ((fieldLog below).overlay upper).first? name = some (key, value)) :
    Passes loaded name value := by
  apply gathered.passes_checked whole known
  rw [first]
  rfl

end

theorem passes_variable (visible : ¬ HidesLog env keywords) (known : name ∈ logKeys)
    (found : env.find? (Environment.logKeyStart ++ name) = some text)
    (nulls : (keywordLog keywords).OnlyNull name) (own : (fieldLog below).OwnFirst name) :
    ∃ json value, Assigned env json ∧ (env.logObject json).get? name = some value ∧
      (Plain logKeys json → value = .text text) ∧ Passes loaded name value := by
  obtain ⟨json, assigned, whole⟩ := gathered.fieldLog_of_visible visible known found
  obtain ⟨value, given, ofVariable⟩ := exists_logValue assigned known found
  refine ⟨json, value, assigned, given, ofVariable, ?_⟩
  have lowered := lower_logKeys name known
  have distinct : (env.logObject json).Distinct := Environment.distinct_foldKeys _ _
  have ownAbove : (env.logObject json).OwnFirst name :=
    (Environment.plain_foldKeys lower_logKeys _).ownFirst known
  -- The environment's entry is in front of the keywords, and both are in front of the file.
  have above := Fields.first?_overlay_lower gathered.once (ownAbove.first?_of_get? lowered given)
  have first := Fields.first?_overlay_upper lowered distinct.overlay own above
  exact .of_getD nulls (Fields.matching?_self lowered) (gathered.passes_first whole known first)

/-- A spelling of the file that is not the name's own keeps its place in front. -/
theorem passes_spelling {entry : Key × Value} (visible : ¬ HidesLog env keywords)
    (known : name ∈ logKeys) (found : env.find? (Environment.logKeyStart ++ name) = some text)
    (nulls : (keywordLog keywords).OnlyNull name)
    (before : (fieldLog below).first? name = some entry) (other : entry.1 ≠ .text name) :
    Passes loaded name entry.2 := by
  obtain ⟨json, assigned, whole⟩ := gathered.fieldLog_of_visible visible known found
  obtain ⟨key, value⟩ := entry
  have spelled := Fields.matching?_of_first? before
  have distinct : (env.logObject json).Distinct := Environment.distinct_foldKeys _ _
  have foreign : (env.logObject json).get? key = none := by
    rw [Fields.get?_eq_none_iff]
    intro present
    obtain ⟨-, spelling⟩ := Key.matching?_eq_some_iff.mp spelled
    exact other (Environment.plain_foldKeys lower_logKeys _ key present name
      (Key.matching?_eq_some_iff.mpr ⟨known, spelling⟩))
  have first := gathered.passes_first whole known
    (Fields.first?_overlay_lower distinct.overlay before)
  rw [Fields.overlay_eq_enter, Fields.get?_enter gathered.once, foreign, Option.or_none,
    Option.map_id'] at first
  exact .of_getD nulls spelled first

theorem passes_file (hidden : HidesLog env keywords) (known : name ∈ logKeys)
    (found : env.find? (Environment.logKeyStart ++ name) = some text)
    (nulls : (keywordLog keywords).OnlyNull name) :
    Passes loaded name (((fieldLog below).firstMatching? name).getD (.text text)) := by
  have whole := gathered.fieldLog_of_hidden hidden
  obtain kept | ⟨key, null⟩ := nulls.first?_overlay
  · apply gathered.passes_checked whole known
    rw [kept, ← Fields.firstMatching?_eq, Environment.given?, found]
    cases (fieldLog below).firstMatching? name <;> rfl
  · exact absurd rfl (gathered.passes_first whole known null).ne_null

end LogGathered

end

/-! ### All settings -/

/-- Settings that the environment gives and keywords give as null or not at all: which of them are
the environment's and which the file's. -/
structure EnvironmentFirst (env : Environment) (keywords below : Fields) (settings : Settings) :
    Prop where
  feeRate : ∀ text, env.find? Environment.feeRateName = some text →
    keywords.firstMatching? feeRateKey = none → checkFeeRate (.text text) = .ok settings.feeRate
  /-- Only in another spelling does the variable of all log settings come before a single one. -/
  log : ∀ name ∈ logKeys, ∀ text, env.find? (Environment.logKeyStart ++ name) = some text →
    (keywordLog keywords).OnlyNull name → ¬ HidesLog env keywords →
    (fieldLog below).OwnFirst name →
    ∃ json value, Assigned env json ∧ (env.logObject json).get? name = some value ∧
      (Plain logKeys json → value = .text text) ∧ Passes settings.log name value
  /-- A null in place of the rate leaves it to the file. -/
  feeRateHidden : keywords.firstMatching? feeRateKey = some .null →
    ∃ value, below.get? feeRateKey = some value ∧ checkFeeRate value = .ok settings.feeRate
  logHidden : ∀ name ∈ logKeys, ∀ text,
    env.find? (Environment.logKeyStart ++ name) = some text →
    (keywordLog keywords).OnlyNull name →
    HidesLog env keywords ∨ ¬ (fieldLog below).OwnFirst name →
    Passes settings.log name (((fieldLog below).firstMatching? name).getD (.text text))

theorem checkFeeRate_of_check (passed : check env fields = .ok settings) {value : Value}
    (given : fields.get? feeRateKey = some value) : checkFeeRate value = .ok settings.feeRate := by
  obtain ⟨feeRate, -⟩ := check_eq_ok_iff.mp passed
  unfold checkField at feeRate
  rw [given] at feeRate
  exact mapError_eq_ok.mp feeRate

end Remit.Settings
