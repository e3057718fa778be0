import Remit.Proofs.Settings.Precedence

/-!
Settings that pass every check, and what each check then says about what was gathered.
-/

namespace Remit.Settings

variable {env : Environment} {files : FileSystem} {keywords fields : Fields} {settings : Settings}

theorem checkField_eq_ok {α : Type} {key : String} {default result : α}
    {check : Value → Except Reason α} (passed : checkField fields key default check = .ok result) :
    (fields.get? key = none ∧ result = default) ∨
      ∃ value, fields.get? key = some value ∧ check value = .ok result := by
  unfold checkField at passed
  cases given : fields.get? key with
  | none =>
      rw [given] at passed
      exact .inl ⟨rfl, (Except.ok.inj passed).symm⟩
  | some value =>
      rw [given] at passed
      exact .inr ⟨value, rfl, mapError_eq_ok.mp passed⟩

/-- A rate is the integer that is read, within its bounds. -/
theorem checkFeeRate_eq_ok {value : Value} {rate : Nat} (passed : checkFeeRate value = .ok rate) :
    readInteger value = .ok (rate : Int) ∧ rate ≤ Policy.maxAmount := by
  obtain ⟨number, read, passed⟩ := bind_eq_ok.mp passed
  dsimp only at passed
  by_cases below : number < 0
  · rw [if_pos below] at passed
    cases passed
  rw [if_neg below] at passed
  by_cases above : number > Policy.maxAmount
  · rw [if_pos above] at passed
    cases passed
  rw [if_neg above] at passed
  obtain rfl : number.toNat = rate := Except.ok.inj passed
  have whole : (number.toNat : Int) = number := Int.toNat_of_nonneg (Int.not_lt.mp below)
  exact ⟨whole.symm ▸ read, by omega⟩

theorem sorted_eq_ok {α : Type} {checked : Except (List Fault) α} {value : α}
    (passed : sorted checked = .ok value) : checked = .ok value :=
  mapError_eq_ok.mp passed

theorem LogSettings.check_eq_ok {given : Fields} {log : LogSettings}
    (passed : LogSettings.check given = .ok log) :
    checkField given levelKey ({} : LogSettings).level checkLevel = .ok log.level ∧
      checkField given formatKey ({} : LogSettings).format checkText = .ok log.format := by
  unfold LogSettings.check at passed
  cases level : checkField given levelKey ({} : LogSettings).level checkLevel with
  | error faults =>
      rw [level] at passed
      cases passed
  | ok level' =>
      cases format : checkField given formatKey ({} : LogSettings).format checkText with
      | error faults =>
          rw [level, format] at passed
          cases passed
      | ok format' =>
          cases unknown : unknownKeys given logKeys with
          | nil =>
              rw [level, format, unknown] at passed
              cases passed
              exact ⟨rfl, rfl⟩
          | cons fault faults =>
              rw [level, format, unknown] at passed
              cases passed

/-- The log settings that are checked, whether there are any or not. -/
def checkedLog (env : Environment) (value : Option Value) : Except (List Fault) LogSettings :=
  match value with
  | none => LogSettings.load env []
  | some value => checkLog env value

theorem checkedLog_eq_ok {log : LogSettings}
    (passed : checkedLog env (fields.get? logKey) = .ok log) :
    LogSettings.check (logFields env fields) = .ok log := by
  unfold logFields fieldLog
  cases given : fields.get? logKey with
  | none =>
      rw [given] at passed
      exact passed
  | some value =>
      rw [given] at passed
      cases value with
      | object inner =>
          change (LogSettings.load env inner).mapError _ = _ at passed
          exact mapError_eq_ok.mp passed
      | _ => cases passed

theorem check_eq_ok_iff :
    check env fields = .ok settings ↔
      checkField fields feeRateKey Policy.defaultFeeRate checkFeeRate = .ok settings.feeRate ∧
      checkField fields configPathKey "" checkText = .ok settings.configPath ∧
      checkedLog env (fields.get? logKey) = .ok settings.log ∧ unknownKeys fields keys = [] := by
  obtain ⟨feeRate, path, log⟩ := settings
  unfold check checkedLog
  generalize checkField fields feeRateKey _ _ = feeRate'
  generalize checkField fields configPathKey _ _ = path'
  generalize unknownKeys fields keys = unknown
  cases fields.get? logKey with
  | none =>
      dsimp only
      generalize LogSettings.load env [] = log'
      cases log' <;> cases feeRate' <;> cases path' <;> cases unknown <;>
        simp [bind, Except.bind, pure, Except.pure, throw, throwThe, MonadExceptOf.throw]
  | some value =>
      dsimp only
      generalize checkLog env value = log'
      cases log' <;> cases feeRate' <;> cases path' <;> cases unknown <;> simp

theorem load_of_gather (gathered : gather env files keywords = .ok fields) :
    load env files keywords =
      if hasTextKeys fields then sorted (check env fields) else .error .keyNotText := by
  rw [load, gathered]
  rfl

theorem load_eq_ok (loaded : load env files keywords = .ok settings) :
    ∃ fields, gather env files keywords = .ok fields ∧ check env fields = .ok settings := by
  obtain ⟨fields, gathered, -⟩ := bind_eq_ok.mp loaded
  refine ⟨fields, gathered, ?_⟩
  rw [load_of_gather gathered] at loaded
  split_ifs at loaded
  exact sorted_eq_ok loaded

end Remit.Settings
