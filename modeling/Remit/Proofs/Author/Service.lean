import Remit.Author.Service
import Remit.Proofs.Author.Conservation

/-!
A call of the service is a call at its rate, under its name. What it reads off the draft for its
record is always there.
-/

namespace Remit.Author

open Wire (TxOutput)

section

variable {σ : Type} {service : Service} {payment : TxOutput} {source : InputSource σ}
  {change : ChangeSource} {rate : Option Int} {before after : Activity σ}

theorem execute_authorMinusFee_error {failure : Failure}
    (failed : execute (minusFee payment (service.rate rate) source change serviceOperation
      service.sizeEstimator service.feeEstimator) before = (.error failure, after)) :
    execute (service.authorMinusFee payment source change rate) before =
      (.error failure, after) := by
  rw [Service.authorMinusFee, execute_bind_error failed]

/-- A draft has its payment, so that recording it does not fail. -/
theorem execute_authorMinusFee_ok {draft : Draft}
    (made : execute (minusFee payment (service.rate rate) source change serviceOperation
      service.sizeEstimator service.feeEstimator) before = (.ok draft, after)) :
    ∃ paid, draft.payment = .ok paid ∧
      execute (service.authorMinusFee payment source change rate) before =
        (.ok draft, after.logged [⟨.info, Log.engineLogger,
          s!"Authored unsigned transaction paying {paid.value} with fee {draft.fee}"⟩]) := by
  obtain ⟨quote, output, -, -, -, rfl⟩ := minusFee_ok_iff.mp (congrArg Prod.fst made)
  refine ⟨_, payment_assemble .., ?_⟩
  rw [Service.authorMinusFee, execute_bind_ok made]
  simp only [payment_assemble]
  rw [execute_bind_ok (execute_log _ _ _), execute_pure]

end

theorem execute_authorMinusFee {σ : Type} (service : Service) (payment : TxOutput)
    (source : InputSource σ) (change : ChangeSource) (rate : Option Int) (before : Activity σ) :
    let run := execute (minusFee payment (service.rate rate) source change serviceOperation
      service.sizeEstimator service.feeEstimator) before
    ∃ records, execute (service.authorMinusFee payment source change rate) before =
      (run.1, run.2.logged records) := by
  intro run
  cases outcome : run.1 with
  | error failure =>
      have failed : run = (.error failure, run.2) := Prod.ext outcome rfl
      refine ⟨[], ?_⟩
      rw [execute_authorMinusFee_error failed, Activity.logged, List.append_nil]
  | ok draft =>
      have made : run = (.ok draft, run.2) := Prod.ext outcome rfl
      obtain ⟨paid, -, announced⟩ := execute_authorMinusFee_ok made
      exact ⟨_, announced⟩

end Remit.Author
