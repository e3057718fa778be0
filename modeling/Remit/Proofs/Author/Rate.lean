import Remit.Proofs.Author.Session

/-!
Two calls that differ in their rate alone. The rate selects no coin and touches no change: the
cursor moves equally far, and all that the higher rate costs is taken from the payment.
-/

namespace Remit.Author

open Funding (Change Coin Cursor)
open Wire (TxOutput)

structure PaysMore (lower higher : Int) (draft dearer : Draft) : Prop where
  inputs : draft.transaction.inputs = dearer.transaction.inputs
  change : ∃ returned, draft.change = .ok returned ∧ dearer.change = .ok returned
  changeIndex : draft.changeIndex = dearer.changeIndex
  estimatedSize : draft.estimatedSize = dearer.estimatedSize
  totalInput : draft.totalInput = dearer.totalInput
  payment : ∃ due dearerDue paid dearerPaid,
    Policy.fee lower draft.estimatedSize = .ok due ∧
    Policy.fee higher draft.estimatedSize = .ok dearerDue ∧
    draft.payment = .ok paid ∧ dearer.payment = .ok dearerPaid ∧
    paid.script = dearerPaid.script ∧ 0 ≤ dearerDue - due ∧
    paid.value = dearerPaid.value + (dearerDue - due)

section

variable {payment : TxOutput} {rate lower higher : Int} {change : Change} {operation : String}
  {before : Activity Cursor}

theorem minusFee_cursor_settles (rateNonneg : 0 ≤ rate) (nonnegative : 0 ≤ payment.value) :
    let reached := before.source.advance payment.value
    let size := cursorSize payment change reached
    payment.value ≤ reached.total → Policy.charge rate size ≤ payment.value →
      (execute (minusFee payment rate .ofCursor (.ofChange change) operation) before).1 =
        .ok (assemble reached.funds ⟨payment.value - Policy.charge rate size, payment.script⟩
          (returned payment reached change) size) := by
  intro reached size pooled paid
  have enough : payment.value ≤ Funding.worth before.source.pool :=
    Int.le_trans pooled
      (Int.ofNat_le.mpr (before.source.total_advance_le_worth_pool payment.value))
  exact minusFee_ok_iff.mpr ⟨_, _, quoted_cursor change nonnegative enough rateNonneg, paid,
    returnsSurplus_returned pooled, rfl⟩

theorem paysMore_assemble {cursor : Cursor} {output : Option TxOutput} {size : Int}
    (lowerNonneg : 0 ≤ lower) (le : lower ≤ higher) (sizeNonneg : 0 ≤ size) :
    PaysMore lower higher
      (assemble cursor.funds ⟨payment.value - Policy.charge lower size, payment.script⟩ output size)
      (assemble cursor.funds ⟨payment.value - Policy.charge higher size, payment.script⟩ output
        size) := by
  have dearer := Policy.charge_mono_rate sizeNonneg le
  have absorbed : payment.value - Policy.charge lower size =
      payment.value - Policy.charge higher size +
        (Policy.charge higher size - Policy.charge lower size) := by omega
  exact
    { inputs := rfl
      change := ⟨output, change_assemble .., change_assemble ..⟩
      changeIndex := rfl
      estimatedSize := rfl
      totalInput := rfl
      payment := ⟨_, _, _, _, Policy.fee_eq_charge lowerNonneg sizeNonneg,
        Policy.fee_eq_charge (Int.le_trans lowerNonneg le) sizeNonneg, payment_assemble ..,
        payment_assemble .., rfl, Int.sub_nonneg_of_le dearer, absorbed⟩ }

/-- The payment alone absorbs the rate. Whether they succeed or not, calls at two rates leave the
cursor alike, and where the dearer one succeeds so does the cheaper one. -/
theorem payment_absorbs_rate (payment : TxOutput) (change : Change) (operation : String)
    (before : Activity Cursor) (lowerNonneg : 0 ≤ lower) (le : lower ≤ higher) :
    let cheap := execute (minusFee payment lower .ofCursor (.ofChange change) operation) before
    let dear := execute (minusFee payment higher .ofCursor (.ofChange change) operation) before
    cheap.2.source = dear.2.source ∧
      ∀ dearer, dear.1 = .ok dearer →
        ∃ draft, cheap.1 = .ok draft ∧ PaysMore lower higher draft dearer := by
  intro cheap dear
  constructor
  · calc
      cheap.2.source = before.source.advance payment.value :=
        (Request.direct payment lower change operation).source_run before
      _ = dear.2.source :=
        ((Request.direct payment higher change operation).source_run before).symm
  · intro dearer success
    obtain ⟨-, nonnegative, pooled, paid, rfl⟩ := minusFee_cursor_ok success
    have sizeNonneg := cursorSize_nonneg payment change (before.source.advance payment.value)
    have cheaper := Policy.charge_mono_rate sizeNonneg le
    exact ⟨_, minusFee_cursor_settles lowerNonneg nonnegative pooled (Int.le_trans cheaper paid),
      paysMore_assemble lowerNonneg le sizeNonneg⟩

/-- The rate doubles: 376 more leave the payment, and 400 go back all the same. -/
theorem payment_absorbs_rate_doubled :
    let coin := fun (seed : UInt8) value => Coin.mk
      ⟨⟨List.replicate 32 seed, List.length_replicate⟩, 0⟩ value 107
    let cursor := Cursor.ofPool [coin 1 1000, coin 2 900, coin 3 5]
    let payment : TxOutput := ⟨1500, List.replicate 25 0x51⟩
    let change : Change := ⟨List.replicate 23 0x52, 0, by decide⟩
    let dearer := assemble (cursor.advance 1500).funds ⟨748, payment.script⟩
      (some ⟨400, change.script⟩) 376
    (execute (minusFee payment 2000 .ofCursor (.ofChange change)) (.start cursor)).1 =
        .ok dearer ∧
      (execute (minusFee payment 1000 .ofCursor (.ofChange change)) (.start cursor)).2.source =
        (execute (minusFee payment 2000 .ofCursor (.ofChange change)) (.start cursor)).2.source ∧
      ∃ draft,
        (execute (minusFee payment 1000 .ofCursor (.ofChange change)) (.start cursor)).1 =
          .ok draft ∧
        PaysMore 1000 2000 draft dearer := by
  intro coin cursor payment change dearer
  have success : (execute (minusFee payment 2000 .ofCursor (.ofChange change))
      (.start cursor)).1 = .ok dearer := by
    decide +kernel
  have lowerNonneg : (0 : Int) ≤ 1000 := by decide
  have le : (1000 : Int) ≤ 2000 := by decide
  obtain ⟨source, cheaper⟩ := payment_absorbs_rate payment change minusFeeOperation
    (.start cursor) lowerNonneg le
  exact ⟨success, source, cheaper dearer success⟩

end

end Remit.Author
