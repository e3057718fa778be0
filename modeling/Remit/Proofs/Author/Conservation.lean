import Mathlib.Control.Monad.Basic
import Remit.Proofs.Author.Ending
import Remit.Proofs.Policy.Fee

/-!
No money is lost or made: what the inputs are worth goes to the payment, the change and the fee.
The main statement also gives the shape of the draft, so that its accessors never miss.
-/

namespace Remit.Author

open Funding (Funds)
open Wire (TxOutput)

section

variable (funds : Funds) (paid : TxOutput) (returned : Option TxOutput) (size : Int)

@[simp] theorem outputs_assemble :
    (assemble funds paid returned size).transaction.outputs = paid :: returned.toList := rfl

@[simp] theorem inputs_assemble :
    (assemble funds paid returned size).transaction.inputs = unsigned funds.inputs := rfl

@[simp] theorem totalInput_assemble :
    (assemble funds paid returned size).totalInput = funds.amount := rfl

@[simp] theorem estimatedSize_assemble :
    (assemble funds paid returned size).estimatedSize = size := rfl

@[simp] theorem changeIndex_assemble :
    (assemble funds paid returned size).changeIndex = if returned.isSome then 1 else -1 := rfl

@[simp] theorem paymentIndex_assemble :
    (assemble funds paid returned size).paymentIndex = 0 := by
  cases returned <;> simp [Draft.paymentIndex]

@[simp] theorem payment_assemble :
    (assemble funds paid returned size).payment = .ok paid := by
  simp [Draft.payment, Draft.output]

@[simp] theorem change_assemble :
    (assemble funds paid returned size).change = .ok returned := by
  cases returned <;> rfl

theorem totalOutput_assemble :
    (assemble funds paid returned size).transaction.totalOutput =
      paid.value + (returned.map TxOutput.value).getD 0 := by
  cases returned <;> simp [Wire.Transaction.totalOutput]

end

/-- The value returned is the surplus, also where there is none. -/
theorem ReturnsSurplus.value {change : ChangeSource} {announced surplus : Int}
    {output : Option TxOutput} (returns : ReturnsSurplus change announced surplus output)
    (nonnegative : 0 ≤ surplus) : (output.map TxOutput.value).getD 0 = surplus := by
  cases returns with
  | nothing spent => exact Int.le_antisymm nonnegative spent
  | output positive handed length => rfl

/-- What becomes of a payment that funds and a fee are given for. -/
structure Conserves (payment : TxOutput) (funds : Funds) (fee : Int) (change : ChangeSource)
    (draft : Draft) : Prop where
  totalInput : draft.totalInput = funds.amount
  balance : draft.totalInput = draft.transaction.totalOutput + fee
  fee_eq : draft.fee = fee
  affordable : 0 ≤ payment.value - fee
  paid : draft.payment = .ok ⟨payment.value - fee, payment.script⟩
  paymentIndex : draft.paymentIndex = 0
  withoutChange : (funds.amount : Int) = payment.value →
    draft.transaction.outputs.length = 1 ∧ draft.changeIndex = -1 ∧ draft.change = .ok none
  withChange : (funds.amount : Int) ≠ payment.value →
    draft.transaction.outputs.length = 2 ∧ draft.changeIndex = 1 ∧
      0 < funds.amount - payment.value ∧
      ∃ script version, change.script = .ok (script, version) ∧
        draft.change = .ok (some ⟨funds.amount - payment.value, script⟩)
  inputs : draft.transaction.inputs =
    funds.inputs.map fun i => { outPoint := i.outPoint, script := [], sequence := i.sequence }

section

variable {σ : Type} {payment : TxOutput} {rate : Int} {source : InputSource σ}
  {change : ChangeSource} {operation : String}
  {sizeEstimator : SizeEstimator} {feeEstimator : FeeEstimator}
  {before : Activity σ} {quote : Quote} {output : Option TxOutput}

theorem conserves_assemble (reached : payment.value ≤ quote.funds.amount)
    (paid : quote.fee ≤ payment.value)
    (returns : ReturnsSurplus change quote.changeSize (quote.surplus payment) output) :
    Conserves payment quote.funds quote.fee change
      (assemble quote.funds (quote.reduced payment) output quote.size) := by
  have surplusNonneg : 0 ≤ quote.surplus payment := Int.sub_nonneg_of_le reached
  have balance : (quote.funds.amount : Int) =
      (assemble quote.funds (quote.reduced payment) output
        quote.size).transaction.totalOutput + quote.fee := by
    rw [totalOutput_assemble, returns.value surplusNonneg]
    simp only [Quote.surplus, Quote.reduced]
    omega
  refine
    { totalInput := rfl
      balance := balance
      fee_eq := ?fee_eq
      affordable := Int.sub_nonneg_of_le paid
      paid := payment_assemble ..
      paymentIndex := paymentIndex_assemble ..
      withoutChange := ?withoutChange
      withChange := ?withChange
      inputs := rfl }
  case fee_eq =>
    unfold Draft.fee
    rw [totalInput_assemble, balance]
    omega
  case withoutChange =>
    intro equal
    cases returns with
    | nothing _ => exact ⟨rfl, rfl, rfl⟩
    | output positive _ _ =>
        unfold Quote.surplus at positive
        omega
  case withChange =>
    intro different
    cases returns with
    | nothing spent =>
        unfold Quote.surplus at spent surplusNonneg
        omega
    | output positive handed _ =>
        exact ⟨rfl, rfl, positive, _, _, handed, rfl⟩

theorem outputs_within (nonnegative : 0 ≤ payment.value)
    (reached : payment.value ≤ quote.funds.amount) (feeNonneg : 0 ≤ quote.fee)
    (paid : quote.fee ≤ payment.value)
    (returns : ReturnsSurplus change quote.changeSize (quote.surplus payment) output) :
    ∀ out ∈ (assemble quote.funds (quote.reduced payment) output
        quote.size).transaction.outputs,
      0 ≤ out.value ∧ out.value ≤ quote.funds.amount := by
  intro out member
  rw [outputs_assemble, List.mem_cons, Option.mem_toList] at member
  rcases member with rfl | returned
  · simp only [Quote.reduced]
    omega
  · subst returned
    have value := returns.value (Int.sub_nonneg_of_le reached)
    simp only [Option.map_some, Option.getD_some, Quote.surplus] at value
    omega

theorem policyFee_ok {size due : Int} (priced : policyFee rate size = .ok due) :
    0 ≤ due ∧ due ≤ Policy.maxAmount := by
  cases run : Policy.fee rate size with
  | error error =>
      rw [policyFee, run] at priced
      cases priced
  | ok charged =>
      rw [policyFee, run] at priced
      obtain rfl := Except.ok.inj priced
      obtain ⟨rateNonneg, sizeNonneg, rfl⟩ := Policy.fee_eq_ok_iff.mp run
      exact ⟨Policy.charge_nonneg rateNonneg sizeNonneg, Policy.charge_le_maxAmount rate size⟩

/-- Whatever the collaborators answer, a successful call conserves the money that was gathered.
A fee that is not negative keeps every output within the inputs, and the policy's fee is one. -/
theorem minusFee_conserves {draft : Draft}
    (success : (execute (minusFee payment rate source change operation sizeEstimator
      feeEstimator) before).1 = .ok draft) :
    ∃ quote,
      Quoted payment rate source change sizeEstimator feeEstimator before.source quote ∧
      draft.estimatedSize = quote.size ∧
      Conserves payment quote.funds quote.fee change draft ∧
      (0 ≤ quote.fee → ∀ out ∈ draft.transaction.outputs,
        0 ≤ out.value ∧ out.value ≤ draft.totalInput) ∧
      (feeEstimator = policyFee →
        0 ≤ draft.fee ∧ draft.fee ≤ Policy.maxAmount ∧ draft.fee ≤ payment.value ∧
          draft.transaction.totalOutput ≤ draft.totalInput) := by
  obtain ⟨quote, output, quoted, paid, returns, rfl⟩ := minusFee_ok_iff.mp success
  have conserves := conserves_assemble quoted.reached paid returns
  refine ⟨quote, quoted, rfl, conserves, ?_, ?_⟩
  · intro feeNonneg
    exact outputs_within quoted.nonnegative quoted.reached feeNonneg paid returns
  · rintro rfl
    obtain ⟨feeNonneg, feeLe⟩ := policyFee_ok quoted.priced
    have balance := conserves.balance
    rw [conserves.fee_eq]
    exact ⟨feeNonneg, feeLe, paid, by omega⟩

theorem minusFee_conserves_surplus :
    let outPoint := Wire.OutPoint.mk ⟨List.replicate 32 7, rfl⟩ 3
    let funds : Funds :=
      ⟨5000, [{ outPoint, script := [1, 2], sequence := 17 }, { outPoint }], [107, 20], rfl⟩
    let payment : TxOutput := ⟨3000, [0x51]⟩
    let change : ChangeSource := ⟨.ok 2, .ok ([0x51, 0x87], 0)⟩
    let sizeEstimator : SizeEstimator := fun redeemSizes outputSizes =>
      .ok (sumInt redeemSizes + sumInt outputSizes)
    let feeEstimator : FeeEstimator := fun rate size => .ok (rate * size / 1000)
    let draft := assemble funds ⟨2740, [0x51]⟩ (some ⟨2000, [0x51, 0x87]⟩) 130
    (execute (minusFee payment 2000 (.constant (.ok funds)) change "pay" sizeEstimator
      feeEstimator) (.start ())).1 = .ok draft ∧
    ∃ quote, Quoted payment 2000 (.constant (.ok funds)) change sizeEstimator feeEstimator ()
      quote ∧ Conserves payment quote.funds quote.fee change draft := by
  intro outPoint funds payment change sizeEstimator feeEstimator draft
  have success : (execute (minusFee payment 2000 (.constant (.ok funds)) change "pay"
      sizeEstimator feeEstimator) (.start ())).1 = .ok draft := by
    decide +kernel
  obtain ⟨quote, quoted, -, conserves, -⟩ := minusFee_conserves success
  exact ⟨success, quote, quoted, conserves⟩

end

end Remit.Author
