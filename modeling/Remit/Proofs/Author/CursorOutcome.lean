import Remit.Proofs.Author.Ending
import Remit.Proofs.Funding.Reach
import Remit.Proofs.Policy.Fee
import Remit.Proofs.Policy.Size

/-!
What comes of a call that is funded by a cursor, returns its change to one fixed script and uses
the policy's estimators. The cursor may stand anywhere in its pool. There are five outcomes, and
the comparisons of the payment, the pool, the rate and the fee tell them apart.
-/

namespace Remit.Author

open Funding (Change Coin Cursor worth)
open Wire (TxOutput)

/-- The surplus goes to the script of the change, in full. -/
def returned (payment : TxOutput) (cursor : Cursor) (change : Change) : Option TxOutput :=
  if (cursor.total : Int) = payment.value then none
  else some ⟨cursor.total - payment.value, change.script⟩

structure CursorOutcome (payment : TxOutput) (rate : Int) (change : Change)
    (operation : String) (before : Cursor) (outcome : Except Failure Draft)
    (after : Cursor) : Prop where
  negativePayment : payment.value < 0 →
    outcome = .error ⟨.negativePayment payment.value, []⟩ ∧ after = before
  poolShort : 0 ≤ payment.value → (worth before.pool : Int) < payment.value →
    outcome = .error
      ⟨.insufficient .gathered operation (worth before.pool) payment.value, []⟩ ∧
    after = before.advance payment.value ∧
    after.consumed = before.pool ∧ after.exhausted = true
  negativeRate : 0 ≤ payment.value → payment.value ≤ worth before.pool → rate < 0 →
    outcome = .error ⟨.fee (.negativeRate rate), [s!"op: {operation} (fee estimator)"]⟩ ∧
    after = before.advance payment.value
  priced : 0 ≤ payment.value → payment.value ≤ worth before.pool → 0 ≤ rate →
    after = before.advance payment.value ∧ after.consumed <+: before.pool ∧
    payment.value ≤ after.total ∧
    ∃ size fee,
      Policy.transactionSize (after.consumed.map fun coin => (coin.redeemSize : Int))
        [payment.script.length, change.script.length] = .ok size ∧
      Policy.fee rate size = .ok fee ∧
      (payment.value < fee → outcome = .error
        ⟨.insufficient (.fee fee) operation after.total payment.value, []⟩) ∧
      (fee ≤ payment.value → outcome = .ok
        (assemble after.funds ⟨payment.value - fee, payment.script⟩
          (returned payment after change) size))

section

variable {payment : TxOutput} {rate : Int} {change : Change} {operation : String}
  {before : Activity Cursor}

theorem returnsSurplus_returned {cursor : Cursor}
    (reached : payment.value ≤ cursor.total) :
    ReturnsSurplus (.ofChange change) change.size (cursor.total - payment.value)
      (returned payment cursor change) := by
  unfold returned
  split
  · exact .nothing (by omega)
  · exact .output (by omega) rfl rfl

def cursorSize (payment : TxOutput) (change : Change) (cursor : Cursor) : Int :=
  Policy.estimate (cursor.consumed.map fun coin => (coin.redeemSize : Int))
    [payment.script.length, change.script.length]

theorem transactionSize_cursorSize (payment : TxOutput) (change : Change) (cursor : Cursor) :
    Policy.transactionSize (cursor.consumed.map fun coin => (coin.redeemSize : Int))
      [payment.script.length, change.script.length] =
      .ok (cursorSize payment change cursor) := by
  refine Policy.transactionSize_eq_ok_iff.mpr ⟨?_, ?_, rfl⟩
  · rw [List.forall_mem_map]
    exact fun coin _ => Int.natCast_nonneg coin.redeemSize
  · simp

theorem cursorSize_nonneg (payment : TxOutput) (change : Change) (cursor : Cursor) :
    0 ≤ cursorSize payment change cursor := by
  obtain ⟨redeemNonneg, outputNonneg, -⟩ :=
    Policy.transactionSize_eq_ok_iff.mp (transactionSize_cursorSize payment change cursor)
  exact Policy.estimate_nonneg redeemNonneg outputNonneg

theorem policySize_cursorSize (payment : TxOutput) (change : Change) (cursor : Cursor) :
    policySize cursor.funds.redeemSizes [payment.script.length, change.size] =
      .ok (cursorSize payment change cursor) :=
  congrArg (Except.mapError _) (transactionSize_cursorSize payment change cursor)

theorem quoted_cursor (change : Change) {cursor : Cursor} (nonnegative : 0 ≤ payment.value)
    (enough : payment.value ≤ worth cursor.pool) (rateNonneg : 0 ≤ rate) :
    let reached := cursor.advance payment.value
    let size := cursorSize payment change reached
    Quoted payment rate .ofCursor (.ofChange change) policySize policyFee cursor
      ⟨reached.funds, change.size, size, Policy.charge rate size⟩ := by
  intro reached size
  exact
    { nonnegative := nonnegative
      gathered := rfl
      reached := Cursor.le_total_advance enough
      announced := rfl
      sized := policySize_cursorSize payment change reached
      priced := congrArg (Except.mapError _)
        (Policy.fee_eq_charge rateNonneg (cursorSize_nonneg payment change reached)) }

theorem Quoted.eq_cursor {cursor : Cursor} {quote : Quote}
    (quoted : Quoted payment rate .ofCursor (.ofChange change) policySize policyFee cursor
      quote) :
    let reached := cursor.advance payment.value
    let size := cursorSize payment change reached
    0 ≤ rate ∧ quote = ⟨reached.funds, change.size, size, Policy.charge rate size⟩ := by
  intro reached size
  obtain ⟨funds, changeSize, quotedSize, fee⟩ := quote
  obtain rfl : reached.funds = funds := Except.ok.inj quoted.gathered
  obtain rfl : (change.size : Int) = changeSize := Except.ok.inj quoted.announced
  obtain rfl : size = quotedSize :=
    Except.ok.inj ((policySize_cursorSize payment change reached).symm.trans quoted.sized)
  have priced := quoted.priced
  by_cases rateNonneg : 0 ≤ rate
  · rw [policyFee, Policy.fee_eq_charge rateNonneg (cursorSize_nonneg payment change reached)]
      at priced
    obtain rfl := Except.ok.inj priced
    exact ⟨rateNonneg, rfl⟩
  · rw [policyFee, Policy.fee_negativeRate (Int.not_le.mp rateNonneg)] at priced
    cases priced

theorem ReturnsSurplus.eq_returned {cursor : Cursor} {announced : Int}
    {output : Option TxOutput}
    (returns : ReturnsSurplus (.ofChange change) announced (cursor.total - payment.value)
      output)
    (reached : payment.value ≤ cursor.total) : output = returned payment cursor change := by
  unfold returned
  cases returns with
  | nothing spent => rw [if_pos (by omega)]
  | output positive handed length =>
      rw [if_neg (by omega)]
      cases handed
      rfl

/-- A call that succeeds over a cursor has the draft of its only quote. -/
theorem minusFee_cursor_ok {draft : Draft}
    (success : (execute (minusFee payment rate .ofCursor (.ofChange change) operation)
      before).1 = .ok draft) :
    let reached := before.source.advance payment.value
    let size := cursorSize payment change reached
    0 ≤ rate ∧ 0 ≤ payment.value ∧ payment.value ≤ reached.total ∧
      Policy.charge rate size ≤ payment.value ∧
      draft = assemble reached.funds
        ⟨payment.value - Policy.charge rate size, payment.script⟩
        (returned payment reached change) size := by
  intro reached size
  obtain ⟨quote, output, quoted, paid, returns, rfl⟩ := minusFee_ok_iff.mp success
  obtain ⟨rateNonneg, rfl⟩ := quoted.eq_cursor
  have pooled : payment.value ≤ reached.total := quoted.reached
  obtain rfl : output = returned payment reached change := returns.eq_returned pooled
  exact ⟨rateNonneg, quoted.nonnegative, pooled, paid, rfl⟩

theorem policyFee_negativeRate (negative : rate < 0) (size : Int) :
    policyFee rate size = .error (.ofCause (.fee (.negativeRate rate))) := by
  rw [policyFee, Policy.fee_negativeRate negative]
  rfl

theorem blamed_feeEstimator (operation : String) (cause : Cause) :
    blamed operation "fee estimator" (.ofCause cause) =
      ⟨cause, [s!"op: {operation} (fee estimator)"]⟩ := by
  simp only [blamed, Failure.ofCause, Failure.annotate, List.nil_append, String.append_assoc]
  rfl

theorem execute_minusFee_poolShort (nonnegative : 0 ≤ payment.value)
    (short : (worth before.source.pool : Int) < payment.value) :
    execute (minusFee payment rate .ofCursor (.ofChange change) operation) before =
      (.error (.ofCause (.insufficient .gathered operation (worth before.source.pool)
          payment.value)),
        before.fetched .ofCursor payment.value) := by
  let reached := before.source.advance payment.value
  obtain ⟨-, total, -⟩ := Cursor.usedUp_of_worth_lt short
  have gathered : (InputSource.ofCursor.fetch payment.value before.source).outcome =
      .ok reached.funds := rfl
  rw [← total] at short ⊢
  exact execute_minusFee_gathered nonnegative gathered short

theorem execute_minusFee_negativeRate (nonnegative : 0 ≤ payment.value)
    (enough : payment.value ≤ worth before.source.pool) (negative : rate < 0) :
    let reached := before.source.advance payment.value
    execute (minusFee payment rate .ofCursor (.ofChange change) operation) before =
      (.error ⟨.fee (.negativeRate rate), [s!"op: {operation} (fee estimator)"]⟩,
        (before.fetched .ofCursor payment.value).asked
          [.scriptSize, .size reached.funds.redeemSizes [payment.script.length, change.size],
            .fee rate (cursorSize payment change reached)]) := by
  intro reached
  have gathered : (InputSource.ofCursor.fetch payment.value before.source).outcome =
      .ok reached.funds := rfl
  rw [← blamed_feeEstimator]
  exact execute_minusFee_fee_error nonnegative gathered (Cursor.le_total_advance enough) rfl
    (policySize_cursorSize payment change reached) (policyFee_negativeRate negative _)

theorem minusFee_cursor_error {failure : Failure}
    (failed : (execute (minusFee payment rate .ofCursor (.ofChange change) operation)
      before).1 = .error failure) :
    (payment.value < 0 ∧ failure = ⟨.negativePayment payment.value, []⟩) ∨
    ((worth before.source.pool : Int) < payment.value ∧ failure =
      ⟨.insufficient .gathered operation (worth before.source.pool) payment.value, []⟩) ∨
    (rate < 0 ∧
      failure = ⟨.fee (.negativeRate rate), [s!"op: {operation} (fee estimator)"]⟩) ∨
    ∃ due amount, failure = ⟨.insufficient (.fee due) operation amount payment.value, []⟩ := by
  by_cases negative : payment.value < 0
  · rw [execute_minusFee_negative negative] at failed
    exact .inl ⟨negative, (Except.error.inj failed).symm⟩
  have nonnegative := Int.not_lt.mp negative
  by_cases short : (worth before.source.pool : Int) < payment.value
  · rw [execute_minusFee_poolShort nonnegative short] at failed
    exact .inr (.inl ⟨short, (Except.error.inj failed).symm⟩)
  have enough := Int.not_lt.mp short
  by_cases negativeRate : rate < 0
  · rw [execute_minusFee_negativeRate nonnegative enough negativeRate] at failed
    exact .inr (.inr (.inl ⟨negativeRate, (Except.error.inj failed).symm⟩))
  have quoted := quoted_cursor change nonnegative enough (Int.not_lt.mp negativeRate)
  rcases Int.lt_or_le payment.value _ with unpaid | paid
  · rw [execute_minusFee_unpaid quoted unpaid] at failed
    exact .inr (.inr (.inr ⟨_, _, (Except.error.inj failed).symm⟩))
  · obtain ⟨records, settled⟩ := execute_minusFee_settled operation quoted paid
      (returnsSurplus_returned (Cursor.le_total_advance enough))
    rw [settled] at failed
    cases failed

theorem minusFee_over_cursor (payment : TxOutput) (rate : Int) (change : Change)
    (operation : String) (before : Activity Cursor) :
    let run := execute (minusFee payment rate .ofCursor (.ofChange change) operation) before
    CursorOutcome payment rate change operation before.source run.1 run.2.source := by
  intro run
  let reached := before.source.advance payment.value
  refine
    { negativePayment := ?negativePayment
      poolShort := ?poolShort
      negativeRate := ?negativeRate
      priced := ?priced }
  case negativePayment =>
    intro negative
    rw [show run = _ from execute_minusFee_negative negative]
    exact ⟨rfl, rfl⟩
  case poolShort =>
    intro nonnegative short
    obtain ⟨consumed, -, exhausted⟩ := Cursor.usedUp_of_worth_lt short
    rw [show run = _ from execute_minusFee_poolShort nonnegative short]
    exact ⟨rfl, rfl, consumed, exhausted⟩
  case negativeRate =>
    intro nonnegative enough negative
    rw [show run = _ from execute_minusFee_negativeRate nonnegative enough negative]
    exact ⟨rfl, rfl⟩
  case priced =>
    intro nonnegative enough rateNonneg
    have quoted := quoted_cursor change nonnegative enough rateNonneg
    have pooled : payment.value ≤ reached.total := Cursor.le_total_advance enough
    have front : reached.consumed <+: before.source.pool :=
      before.source.consumed_advance_prefix_pool payment.value
    have sized := transactionSize_cursorSize payment change reached
    have priced := Policy.fee_eq_charge rateNonneg
      (cursorSize_nonneg payment change reached)
    rcases Int.lt_or_le payment.value (Policy.charge rate (cursorSize payment change reached))
      with unpaid | paid
    · rw [show run = _ from execute_minusFee_unpaid quoted unpaid]
      exact ⟨rfl, front, pooled, _, _, sized, priced, fun _ => rfl,
        fun paid => absurd unpaid (Int.not_lt.mpr paid)⟩
    · obtain ⟨records, settled⟩ := execute_minusFee_settled operation quoted paid
        (returnsSurplus_returned pooled)
      rw [show run = _ from settled]
      exact ⟨rfl, front, pooled, _, _, sized, priced,
        fun unpaid => absurd unpaid (Int.not_lt.mpr paid), fun _ => rfl⟩

/-- Two coins worth 1500 are asked for five payments, one for each outcome. -/
theorem minusFee_over_cursor_five_payments :
    let coin := fun (seed : UInt8) value => Coin.mk
      ⟨⟨List.replicate 32 seed, List.length_replicate⟩, 0⟩ value 107
    let cursor := Cursor.ofPool [coin 1 1000, coin 2 500]
    let change : Change := ⟨List.replicate 25 0x52, 0, by decide⟩
    let paid := fun value rate =>
      execute (minusFee ⟨value, [0x51]⟩ rate .ofCursor (.ofChange change) "pay") (.start cursor)
    (paid (-1) 1000).1 = .error ⟨.negativePayment (-1), []⟩ ∧
      (paid 1600 1000).1 = .error ⟨.insufficient .gathered "pay" 1500 1600, []⟩ ∧
      (paid 1600 1000).2.source.exhausted = true ∧
      (paid 700 (-5)).1 =
        .error ⟨.fee (.negativeRate (-5)), ["op: pay (fee estimator)"]⟩ ∧
      (paid 700 10000).1 = .error ⟨.insufficient (.fee 2060) "pay" 1000 700, []⟩ ∧
      (paid 700 1000).1 = .ok (assemble (cursor.advance 700).funds ⟨494, [0x51]⟩
        (some ⟨300, change.script⟩) 206) := by
  intro coin cursor change paid
  have outcome (value rate : Int) : CursorOutcome ⟨value, [0x51]⟩ rate change "pay" cursor
      (paid value rate).1 (paid value rate).2.source :=
    minusFee_over_cursor ⟨value, [0x51]⟩ rate change "pay" (.start cursor)
  obtain ⟨negative, -⟩ := (outcome (-1) 1000).negativePayment (by decide)
  obtain ⟨short, -, -, exhausted⟩ := (outcome 1600 1000).poolShort (by decide) (by decide)
  obtain ⟨rateRefused, -⟩ := (outcome 700 (-5)).negativeRate (by decide) (by decide) (by decide)
  have total : ((cursor.advance 700).total : Int) = 1000 := by
    decide +kernel
  have size : Policy.transactionSize
      ((cursor.advance 700).consumed.map fun coin => (coin.redeemSize : Int)) [1, 25] =
      .ok 206 := by
    decide +kernel
  have surplus : returned ⟨700, [0x51]⟩ (cursor.advance 700) change =
      some ⟨300, change.script⟩ := by
    decide +kernel
  -- The first coin pays 700 at every rate, and what that costs decides.
  have priced (rate : Int) (rateNonneg : 0 ≤ rate) : ∃ fee, Policy.fee rate 206 = .ok fee ∧
      (700 < fee →
        (paid 700 rate).1 = .error ⟨.insufficient (.fee fee) "pay" 1000 700, []⟩) ∧
      (fee ≤ 700 → (paid 700 rate).1 = .ok (assemble (cursor.advance 700).funds
        ⟨700 - fee, [0x51]⟩ (some ⟨300, change.script⟩) 206)) := by
    obtain ⟨after, -, -, found, fee, sized, priced, unpaid, settled⟩ :=
      (outcome 700 rate).priced (by decide) (by decide) rateNonneg
    rw [after] at sized unpaid settled
    obtain rfl : 206 = found := Except.ok.inj (size.symm.trans sized)
    rw [total] at unpaid
    rw [surplus] at settled
    exact ⟨fee, priced, unpaid, settled⟩
  obtain ⟨dear, dearPriced, unpaid, -⟩ := priced 10000 (by decide)
  obtain rfl : 2060 = dear := Except.ok.inj dearPriced
  obtain ⟨cheap, cheapPriced, -, settled⟩ := priced 1000 (by decide)
  obtain rfl : 206 = cheap := Except.ok.inj cheapPriced
  exact ⟨negative, short, exhausted, rateRefused, unpaid (by decide), settled (by decide)⟩

end

end Remit.Author
