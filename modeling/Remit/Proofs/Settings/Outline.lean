import Remit.Proofs.Settings.Precedence

/-!
Objects inside the log settings. None of these settings is an object, so one in the place of a
setting is refused whatever it holds, and the ways to merge two of them cannot be told apart.
-/

namespace Remit.Settings

/-- All that a check sees of a value. -/
def Value.outline : Value → Value
  | .object _ => .object []
  | value => value

namespace Fields

variable {fields lower upper : Fields} {key : Key} {value : Value} {name : String}
  {names : List String}

def outline (fields : Fields) : Fields :=
  fields.map fun entry => (entry.1, entry.2.outline)

theorem outline_cons (entry : Key × Value) :
    outline (entry :: fields) = (entry.1, entry.2.outline) :: fields.outline := rfl

theorem get?_outline : get? fields.outline key = (get? fields key).map Value.outline := by
  induction fields with
  | nil => rfl
  | cons entry rest induction =>
      rw [outline_cons, get?_cons, get?_cons, induction]
      split_ifs <;> rfl

theorem outline_set : (set fields key value).outline = set fields.outline key value.outline := by
  induction fields with
  | nil => rfl
  | cons entry rest induction =>
      obtain ⟨found, old⟩ := entry
      rw [Fields.set, outline_cons, Fields.set, ← induction]
      split_ifs <;> rfl

/-- A value that meets another one may take over what is inside of it. -/
def KeepsOutline (meet : Option Value → Value → Value) : Prop :=
  ∀ below value, (meet below value).outline = value.outline

theorem keepsOutline_merged : KeepsOutline merged := by
  intro below value
  cases below with
  | none => rfl
  | some below => cases below <;> cases value <;> rfl

theorem outline_enter {meet : Option Value → Value → Value} (keeps : KeepsOutline meet) :
    (enter meet lower upper).outline = overlay lower.outline upper.outline := by
  induction upper generalizing lower with
  | nil => rfl
  | cons entry rest induction =>
      rw [enter, List.foldl_cons, ← enter, induction, outline_set, keeps]
      rfl

theorem outline_overlay :
    (overlay lower upper).outline = overlay lower.outline upper.outline := by
  rw [overlay_eq_enter]
  exact outline_enter fun _ _ => rfl

theorem outline_foldKeys :
    (Environment.foldKeys fields names).outline = Environment.foldKeys fields.outline names := by
  have run : ∀ folded : Fields,
      (fields.foldl (fun folded entry =>
        folded.set ((entry.1.matching? names).elim entry.1 .text) entry.2) folded).outline =
      fields.outline.foldl (fun folded entry =>
        folded.set ((entry.1.matching? names).elim entry.1 .text) entry.2) folded.outline := by
    induction fields with
    | nil => exact fun _ => rfl
    | cons entry rest induction =>
        intro folded
        rw [List.foldl_cons, induction, outline_set]
        rfl
  exact run []

theorem firstMatching?_outline :
    firstMatching? fields.outline name = (firstMatching? fields name).map Value.outline := by
  induction fields with
  | nil => rfl
  | cons entry rest induction =>
      rw [outline_cons, firstMatching?_cons, firstMatching?_cons, induction]
      split_ifs <;> rfl

theorem outline_named : (fields.named names).outline = fields.outline.named names := by
  have front : names.filterMap (fun name =>
        (firstMatching? fields.outline name).map (Key.text name, ·)) =
      outline (names.filterMap fun name =>
        (firstMatching? fields name).map (Key.text name, ·)) := by
    simp only [firstMatching?_outline]
    rw [outline, List.map_filterMap]
    congr
    funext name
    cases firstMatching? fields name <;> rfl
  have back : fields.outline.only (isUnknown names) = (fields.only (isUnknown names)).outline := by
    rw [only, only, outline, outline, List.filter_map]
    rfl
  rw [named_eq, named_eq, front, back, outline, outline, outline, List.map_append]

end Fields

section

variable {env : Environment} {fields others json below upper : Fields}

theorem checkLevel_outline (value : Value) : checkLevel value.outline = checkLevel value := by
  cases value <;> rfl

theorem checkText_outline (value : Value) : checkText value.outline = checkText value := by
  cases value <;> rfl

theorem checkField_outline {α : Type} {check : Value → Except Reason α} (key : String)
    (default : α) (blind : ∀ value, check (Value.outline value) = check value) :
    checkField fields.outline key default check = checkField fields key default check := by
  unfold checkField
  rw [Fields.get?_outline]
  cases fields.get? key with
  | none => rfl
  | some value =>
      change (check value.outline).mapError _ = (check value).mapError _
      rw [blind]

theorem LogSettings.check_outline :
    LogSettings.check fields.outline = LogSettings.check fields := by
  have unknown : unknownKeys fields.outline logKeys = unknownKeys fields logKeys := by
    rw [unknownKeys, unknownKeys, Fields.outline, List.filterMap_map]
    rfl
  unfold LogSettings.check
  rw [checkField_outline _ _ checkLevel_outline, checkField_outline _ _ checkText_outline, unknown]

theorem LogSettings.load_congr (same : fields.outline = others.outline) :
    LogSettings.load env fields = LogSettings.load env others := by
  have outlines (given : Fields) :
      (Fields.mergeOver (LogSettings.environment env) (given.named logKeys)).outline =
        Fields.overlay (LogSettings.environment env).outline (given.outline.named logKeys) := by
    rw [Fields.mergeOver_eq_enter, Fields.outline_enter Fields.keepsOutline_merged,
      Fields.outline_named]
  rw [LogSettings.load, LogSettings.load, ← LogSettings.check_outline, outlines, same, ← outlines,
    LogSettings.check_outline]

/-- Single variables go over the variable of all log settings, keywords over both, and all of it
over the file. How objects are merged on the way, as deep as one likes, changes no check. -/
theorem checkLog_of_meets {first first' second second' : Option Value → Value → Value}
    (firstKeeps : Fields.KeepsOutline first) (firstKeeps' : Fields.KeepsOutline first')
    (secondKeeps : Fields.KeepsOutline second) (secondKeeps' : Fields.KeepsOutline second') :
    let given := fun first second =>
      Fields.enter second (Environment.foldKeys (Fields.enter first json env.logKeys) logKeys) upper
    checkLog env (.object (Fields.overlay below (given first second))) =
      checkLog env (.object (Fields.overlay below (given first' second'))) := by
  intro given
  have same : (Fields.overlay below (given first second)).outline =
      (Fields.overlay below (given first' second')).outline := by
    rw [Fields.outline_overlay, Fields.outline_overlay, Fields.outline_enter secondKeeps,
      Fields.outline_enter secondKeeps', Fields.outline_foldKeys, Fields.outline_foldKeys,
      Fields.outline_enter firstKeeps, Fields.outline_enter firstKeeps']
  exact congrArg (Except.mapError _) (LogSettings.load_congr same)

end

end Remit.Settings
