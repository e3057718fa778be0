import Remit.Proofs.Author.Conclusion

/-!
How an authoring call ends. `Concludes` has one rule for each way, about the answers alone, with
the questions asked until then and the outcome. Every call ends by one of them.
-/

namespace Remit.Author

open Wire (Script TxOutput)

section

variable {σ : Type} (payment : TxOutput) (rate : Int) (source : InputSource σ)
  (change : ChangeSource) (operation : String)
  (sizeEstimator : SizeEstimator) (feeEstimator : FeeEstimator) (before : σ)

structure Funded (funds : Funding.Funds) : Prop where
  nonnegative : 0 ≤ payment.value
  gathered : (source.fetch payment.value before).outcome = .ok funds
  reached : payment.value ≤ funds.amount

/-- The failure of a collaborator, with one note after those that it came with. -/
def noted (collaborator : String) (failure : Failure) : Failure :=
  ⟨failure.cause, failure.notes ++ [s!"op: {operation} ({collaborator})"]⟩

inductive Concludes : List Call → Except Failure Draft → Prop
  | negative (negative : payment.value < 0) :
      Concludes [] (.error ⟨.negativePayment payment.value, []⟩)
  | fetchRaised {failure : Failure} (nonnegative : 0 ≤ payment.value)
      (raised : (source.fetch payment.value before).outcome = .error failure) :
      Concludes [.fetch payment.value] (.error (noted operation "input source" failure))
  | gatheredShort {funds : Funding.Funds} (nonnegative : 0 ≤ payment.value)
      (gathered : (source.fetch payment.value before).outcome = .ok funds)
      (short : (funds.amount : Int) < payment.value) :
      Concludes [.fetch payment.value]
        (.error ⟨.insufficient .gathered operation funds.amount payment.value, []⟩)
  | scriptSizeRaised {funds : Funding.Funds} {failure : Failure}
      (funded : Funded payment source before funds)
      (raised : change.scriptSize = .error failure) :
      Concludes [.fetch payment.value, .scriptSize]
        (.error (noted operation "change source" failure))
  | sizeRaised {funds : Funding.Funds} {changeSize : Int} {failure : Failure}
      (funded : Funded payment source before funds) (announced : change.scriptSize = .ok changeSize)
      (raised : sizeEstimator funds.redeemSizes [payment.script.length, changeSize] =
        .error failure) :
      Concludes
        [.fetch payment.value, .scriptSize,
          .size funds.redeemSizes [payment.script.length, changeSize]]
        (.error (noted operation "size estimator" failure))
  | feeRaised {funds : Funding.Funds} {changeSize size : Int} {failure : Failure}
      (funded : Funded payment source before funds) (announced : change.scriptSize = .ok changeSize)
      (sized : sizeEstimator funds.redeemSizes [payment.script.length, changeSize] = .ok size)
      (raised : feeEstimator rate size = .error failure) :
      Concludes
        [.fetch payment.value, .scriptSize,
          .size funds.redeemSizes [payment.script.length, changeSize], .fee rate size]
        (.error (noted operation "fee estimator" failure))
  | unpaid {quote : Quote}
      (quoted : Quoted payment rate source change sizeEstimator feeEstimator before quote)
      (unpaid : payment.value < quote.fee) :
      Concludes (.fetch payment.value :: quote.calls payment rate)
        (.error ⟨.insufficient (.fee quote.fee) operation quote.funds.amount payment.value, []⟩)
  | spent {quote : Quote}
      (quoted : Quoted payment rate source change sizeEstimator feeEstimator before quote)
      (paid : quote.fee ≤ payment.value) (spent : (quote.funds.amount : Int) = payment.value) :
      Concludes (.fetch payment.value :: quote.calls payment rate)
        (.ok (assemble quote.funds ⟨payment.value - quote.fee, payment.script⟩ none quote.size))
  | scriptRaised {quote : Quote} {failure : Failure}
      (quoted : Quoted payment rate source change sizeEstimator feeEstimator before quote)
      (paid : quote.fee ≤ payment.value) (surplus : payment.value < quote.funds.amount)
      (raised : change.script = .error failure) :
      Concludes (.fetch payment.value :: quote.calls payment rate ++ [.script])
        (.error (noted operation "change source" failure))
  | scriptLength {quote : Quote} {script : Script} {version : Int}
      (quoted : Quoted payment rate source change sizeEstimator feeEstimator before quote)
      (paid : quote.fee ≤ payment.value) (surplus : payment.value < quote.funds.amount)
      (handed : change.script = .ok (script, version))
      (length : (script.length : Int) ≠ quote.changeSize) :
      Concludes (.fetch payment.value :: quote.calls payment rate ++ [.script])
        (.error (noted operation "change source"
          ⟨.changeLength script.length quote.changeSize, []⟩))
  | returned {quote : Quote} {script : Script} {version : Int}
      (quoted : Quoted payment rate source change sizeEstimator feeEstimator before quote)
      (paid : quote.fee ≤ payment.value) (surplus : payment.value < quote.funds.amount)
      (handed : change.script = .ok (script, version))
      (length : (script.length : Int) = quote.changeSize) :
      Concludes (.fetch payment.value :: quote.calls payment rate ++ [.script])
        (.ok (assemble quote.funds ⟨payment.value - quote.fee, payment.script⟩
          (some ⟨quote.funds.amount - payment.value, script⟩) quote.size))

end

section

variable {σ : Type} {payment : TxOutput} {rate : Int} {source : InputSource σ}
  {change : ChangeSource} {operation : String}
  {sizeEstimator : SizeEstimator} {feeEstimator : FeeEstimator} {before : Activity σ}
  {calls : List Call} {outcome : Except Failure Draft}

theorem checkedScript_raised {announced : Int} {failure : Failure}
    (raised : change.script = .error failure) :
    checkedScript change announced = .error failure := by
  rw [checkedScript, raised]
  rfl

theorem checkedScript_length {announced : Int} {script : Script} {version : Int}
    (handed : change.script = .ok (script, version))
    (length : (script.length : Int) ≠ announced) :
    checkedScript change announced = .error ⟨.changeLength script.length announced, []⟩ := by
  rw [checkedScript, handed]
  exact if_pos length

theorem blamed_eq_noted (operation collaborator : String) (failure : Failure) :
    blamed operation collaborator failure = noted operation collaborator failure := by
  simp only [blamed, noted, Failure.annotate, String.append_assoc]
  rfl

theorem Concludes.run
    (concludes : Concludes payment rate source change operation sizeEstimator feeEstimator
      before.source calls outcome) :
    ∃ after,
      execute (minusFee payment rate source change operation sizeEstimator feeEstimator) before =
        (outcome, after) ∧
      after.calls = before.calls ++ calls ∧
      after.source = if payment.value < 0 then before.source
        else (source.fetch payment.value before.source).state := by
  have moved (nonnegative : 0 ≤ payment.value) :
      (source.fetch payment.value before.source).state =
        if payment.value < 0 then before.source
        else (source.fetch payment.value before.source).state :=
    (if_neg (Int.not_lt.mpr nonnegative)).symm
  cases concludes with
  | negative negative =>
      exact ⟨_, execute_minusFee_negative negative, (List.append_nil _).symm,
        (if_pos negative).symm⟩
  | fetchRaised nonnegative raised =>
      rw [← blamed_eq_noted]
      exact ⟨_, execute_minusFee_fetch_error nonnegative raised, rfl, moved nonnegative⟩
  | gatheredShort nonnegative gathered short =>
      exact ⟨_, execute_minusFee_gathered nonnegative gathered short, rfl, moved nonnegative⟩
  | scriptSizeRaised funded raised =>
      rw [← blamed_eq_noted]
      exact ⟨_, execute_minusFee_scriptSize_error funded.nonnegative funded.gathered
        funded.reached raised, by simp, moved funded.nonnegative⟩
  | sizeRaised funded announced raised =>
      rw [← blamed_eq_noted]
      exact ⟨_, execute_minusFee_size_error funded.nonnegative funded.gathered funded.reached
        announced raised, by simp, moved funded.nonnegative⟩
  | feeRaised funded announced sized raised =>
      rw [← blamed_eq_noted]
      exact ⟨_, execute_minusFee_fee_error funded.nonnegative funded.gathered funded.reached
        announced sized raised, by simp, moved funded.nonnegative⟩
  | unpaid quoted unpaid =>
      exact ⟨_, execute_minusFee_unpaid quoted unpaid, by simp, moved quoted.nonnegative⟩
  | spent quoted paid spent =>
      have surplus : Quote.surplus _ payment ≤ 0 := Int.sub_nonpos_of_le (Int.le_of_eq spent)
      obtain ⟨records, run⟩ := execute_minusFee_settled operation quoted paid (.nothing surplus)
      exact ⟨_, run, by simp [scriptCalls], moved quoted.nonnegative⟩
  | scriptRaised quoted paid surplus raised =>
      rw [← blamed_eq_noted]
      exact ⟨_, execute_minusFee_script_error quoted paid (Int.sub_pos_of_lt surplus)
        (checkedScript_raised raised), by simp, moved quoted.nonnegative⟩
  | scriptLength quoted paid surplus handed length =>
      rw [← blamed_eq_noted]
      exact ⟨_, execute_minusFee_script_error quoted paid (Int.sub_pos_of_lt surplus)
        (checkedScript_length handed length), by simp, moved quoted.nonnegative⟩
  | returned quoted paid surplus handed length =>
      obtain ⟨records, run⟩ := execute_minusFee_settled operation quoted paid
        (.output (Int.sub_pos_of_lt surplus) handed length)
      exact ⟨_, run, by simp [scriptCalls], moved quoted.nonnegative⟩

theorem Funded.exists_quote_or_concludes {funds : Funding.Funds} {start : σ}
    (funded : Funded payment source start funds) :
    (∃ quote, quote.funds = funds ∧
      Quoted payment rate source change sizeEstimator feeEstimator start quote) ∨
    ∃ calls outcome, Concludes payment rate source change operation sizeEstimator feeEstimator
      start calls outcome := by
  cases announced : change.scriptSize with
  | error failure => exact .inr ⟨_, _, .scriptSizeRaised funded announced⟩
  | ok changeSize =>
  cases sized : sizeEstimator funds.redeemSizes [payment.script.length, changeSize] with
  | error failure => exact .inr ⟨_, _, .sizeRaised funded announced sized⟩
  | ok size =>
  cases priced : feeEstimator rate size with
  | error failure => exact .inr ⟨_, _, .feeRaised funded announced sized priced⟩
  | ok fee =>
      exact .inl ⟨⟨funds, changeSize, size, fee⟩, rfl, funded.nonnegative, funded.gathered,
        funded.reached, announced, sized, priced⟩

theorem Quoted.exists_concludes {quote : Quote} {start : σ}
    (quoted : Quoted payment rate source change sizeEstimator feeEstimator start quote) :
    ∃ calls outcome, Concludes payment rate source change operation sizeEstimator feeEstimator
      start calls outcome := by
  by_cases unpaid : payment.value < quote.fee
  · exact ⟨_, _, .unpaid quoted unpaid⟩
  have paid := Int.not_lt.mp unpaid
  by_cases surplus : payment.value < quote.funds.amount
  · cases handed : change.script with
    | error failure => exact ⟨_, _, .scriptRaised quoted paid surplus handed⟩
    | ok answer =>
        by_cases length : (answer.1.length : Int) = quote.changeSize
        · exact ⟨_, _, .returned quoted paid surplus handed length⟩
        · exact ⟨_, _, .scriptLength quoted paid surplus handed length⟩
  · have spent : (quote.funds.amount : Int) = payment.value :=
      Int.le_antisymm (Int.not_lt.mp surplus) quoted.reached
    exact ⟨_, _, .spent quoted paid spent⟩

variable (payment rate source change operation sizeEstimator feeEstimator) in
theorem exists_concludes (start : σ) :
    ∃ calls outcome, Concludes payment rate source change operation sizeEstimator feeEstimator
      start calls outcome := by
  by_cases negative : payment.value < 0
  · exact ⟨_, _, .negative negative⟩
  have nonnegative := Int.not_lt.mp negative
  cases gathered : (source.fetch payment.value start).outcome with
  | error failure => exact ⟨_, _, .fetchRaised nonnegative gathered⟩
  | ok funds =>
  by_cases short : (funds.amount : Int) < payment.value
  · exact ⟨_, _, .gatheredShort nonnegative gathered short⟩
  have funded : Funded payment source start funds := ⟨nonnegative, gathered, Int.not_lt.mp short⟩
  rcases funded.exists_quote_or_concludes with ⟨quote, -, quoted⟩ | concludes
  · exact quoted.exists_concludes
  · exact concludes

/-- A call succeeds exactly when there is a quote that can be settled, and the quote gives its
draft. -/
theorem minusFee_ok_iff {draft : Draft} :
    (execute (minusFee payment rate source change operation sizeEstimator feeEstimator)
        before).1 = .ok draft ↔
      ∃ quote output,
        Quoted payment rate source change sizeEstimator feeEstimator before.source quote ∧
        quote.fee ≤ payment.value ∧
        ReturnsSurplus change quote.changeSize (quote.surplus payment) output ∧
        draft = assemble quote.funds (quote.reduced payment) output quote.size := by
  constructor
  · intro success
    obtain ⟨calls, outcome, concludes⟩ := exists_concludes payment rate source change operation
      sizeEstimator feeEstimator before.source
    obtain ⟨after, run, -, -⟩ := concludes.run
    obtain rfl : outcome = .ok draft := (congrArg Prod.fst run).symm.trans success
    cases concludes with
    | spent quoted paid spent =>
        exact ⟨_, none, quoted, paid, .nothing (Int.sub_nonpos_of_le (Int.le_of_eq spent)), rfl⟩
    | returned quoted paid surplus handed length =>
        exact ⟨_, _, quoted, paid, .output (Int.sub_pos_of_lt surplus) handed length, rfl⟩
  · rintro ⟨quote, output, quoted, paid, returns, rfl⟩
    obtain ⟨records, run⟩ := execute_minusFee_settled operation quoted paid returns
    rw [run]

end

end Remit.Author
