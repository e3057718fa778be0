import Remit.Proofs.Author.CursorOutcome
import Remit.Proofs.Author.Service
import Remit.Proofs.Settings.Passing

/-!
A service under settings that passed their checks. It does what the engine does under its name, and
its own rate is one that the fee has a value for, whichever source the rate came from. So a call
that names no rate fails only if the payment is negative or money is short.
-/

namespace Remit

namespace Settings

/-- The rate is the integer that the fields give, or else the default. -/
inductive GivesRate (fields : Fields) : Nat → Prop
  | missing (missing : fields.get? feeRateKey = none) : GivesRate fields Policy.defaultFeeRate
  | given {value : Value} {rate : Nat} (given : fields.get? feeRateKey = some value)
      (read : readInteger value = .ok (rate : Int)) : GivesRate fields rate

theorem givesRate_of_load {env : Environment} {files : FileSystem} {keywords : Fields}
    {settings : Settings} (loaded : load env files keywords = .ok settings) :
    ∃ fields, gather env files keywords = .ok fields ∧ GivesRate fields settings.feeRate ∧
      settings.feeRate ≤ Policy.maxAmount := by
  obtain ⟨fields, gathered, passed⟩ := load_eq_ok loaded
  obtain ⟨checked, -⟩ := check_eq_ok_iff.mp passed
  refine ⟨fields, gathered, ?_⟩
  obtain ⟨missing, same⟩ | ⟨value, given, checked⟩ := checkField_eq_ok checked
  · rw [same]
    exact ⟨.missing missing, by decide⟩
  · obtain ⟨read, within⟩ := checkFeeRate_eq_ok checked
    exact ⟨.given given read, within⟩

end Settings

namespace Author

open Funding (Change Coin Cursor)
open Settings (Disk Environment Fields FileSystem GivesRate gather load)
open Wire (TxOutput)

def Service.engine {σ : Type} (service : Service) (payment : TxOutput) (source : InputSource σ)
    (change : ChangeSource) (explicit : Option Int) : AuthorM σ Draft :=
  minusFee payment (explicit.getD service.settings.feeRate) source change
    "TransactionAuthor.author_minus_fee" service.sizeEstimator service.feeEstimator

/-- What the callers of a service can rely on, given the sources of its settings. -/
structure Serves (env : Environment) (files : FileSystem) (keywords : Fields) (service : Service) :
    Prop where
  rate : ∃ fields, gather env files keywords = .ok fields ∧
    GivesRate fields service.settings.feeRate ∧ service.settings.feeRate ≤ Policy.maxAmount
  priced : ∀ size, 0 ≤ size → ∃ due, Policy.fee service.settings.feeRate size = .ok due
  returns : ∀ {σ : Type} (payment : TxOutput) (source : InputSource σ) (change : ChangeSource)
    (explicit : Option Int) (before after : Activity σ) (draft : Draft),
    execute (service.engine payment source change explicit) before = (.ok draft, after) →
    ∃ paid, draft.payment = .ok paid ∧
      execute (service.authorMinusFee payment source change explicit) before =
        (.ok draft, after.logged [⟨.info, Log.engineLogger,
          s!"Authored unsigned transaction paying {paid.value} with fee {draft.fee}"⟩])
  raises : ∀ {σ : Type} (payment : TxOutput) (source : InputSource σ) (change : ChangeSource)
    (explicit : Option Int) (before after : Activity σ) (failure : Failure),
    execute (service.engine payment source change explicit) before = (.error failure, after) →
    execute (service.authorMinusFee payment source change explicit) before =
      (.error failure, after)
  causes : service.sizeEstimator = policySize → service.feeEstimator = policyFee →
    ∀ (payment : TxOutput) (change : Change) (before : Activity Cursor) (failure : Failure),
    (execute (service.authorMinusFee payment .ofCursor (.ofChange change)) before).1 =
      .error failure →
    (payment.value < 0 ∧ failure = ⟨.negativePayment payment.value, []⟩) ∨
      ∃ shortage amount, failure =
        ⟨.insufficient shortage "TransactionAuthor.author_minus_fee" amount payment.value, []⟩

section

variable {service : Service} {payment : TxOutput} {change : Change} {before : Activity Cursor}

theorem outcome_authorMinusFee {σ : Type} (service : Service) (payment : TxOutput)
    (source : InputSource σ) (change : ChangeSource) (explicit : Option Int)
    (before : Activity σ) :
    (execute (service.authorMinusFee payment source change explicit) before).1 =
      (execute (service.engine payment source change explicit) before).1 := by
  obtain ⟨records, run⟩ := execute_authorMinusFee service payment source change explicit before
  rw [run]
  rfl

/-- The settings' own rate is not negative, which leaves the payment and the money to fail. -/
theorem authorMinusFee_cursor_error {failure : Failure}
    (sizes : service.sizeEstimator = policySize) (fees : service.feeEstimator = policyFee)
    (failed : (execute (service.authorMinusFee payment .ofCursor (.ofChange change)) before).1 =
      .error failure) :
    (payment.value < 0 ∧ failure = ⟨.negativePayment payment.value, []⟩) ∨
      ∃ shortage amount, failure =
        ⟨.insufficient shortage serviceOperation amount payment.value, []⟩ := by
  rw [outcome_authorMinusFee, Service.engine, sizes, fees] at failed
  obtain negative | ⟨-, short⟩ | ⟨negativeRate, -⟩ | ⟨due, amount, unpaid⟩ :=
    minusFee_cursor_error failed
  · exact .inl negative
  · exact .inr ⟨_, _, short⟩
  · exact absurd negativeRate (Int.not_lt.mpr (Int.natCast_nonneg _))
  · exact .inr ⟨_, _, unpaid⟩

end

end Author

end Remit
