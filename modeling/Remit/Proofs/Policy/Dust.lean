import Remit.Proofs.Policy.Fee
import Remit.Proofs.Policy.Size

/-!
Dust against the fee. An output is dust by an exact comparison of thousandths, where the fee is
rounded up and clamped, so three fees and the threshold of dust lie less than three apart for any
amount that an output may carry. Longer scripts and higher rates only raise the threshold.
-/

namespace Remit.Policy

def spentSize (scriptSize : Int) : Int :=
  outputSize scriptSize + redeemPubkeyHashInputSize

variable {amount smaller scriptSize larger rate higher : Int}

theorem spentSize_nonneg (nonnegative : 0 ≤ scriptSize) : 0 ≤ spentSize scriptSize :=
  Int.add_nonneg (outputSize_nonneg nonnegative) (by decide)

theorem spentSize_mono (le : scriptSize ≤ larger) : spentSize scriptSize ≤ spentSize larger :=
  Int.add_le_add_right (itemSize_mono outputOverhead le) _

theorem isDust_iff :
    isDust amount scriptSize rate = true ↔ 1000 * amount < 3 * (rate * spentSize scriptSize) := by
  have weight : 3 * (outputSize scriptSize + redeemPubkeyHashInputSize) * rate =
      3 * (rate * spentSize scriptSize) := by
    rw [Int.mul_assoc, Int.mul_comm rate]
    rfl
  rw [isDust, decide_eq_true_eq, weight, Int.mul_comm]

/-- The fee covers the exact cost, so that three of them exceed whatever is dust. The clamp does
not matter to an amount that is itself within it. -/
theorem lt_of_isDust (within : amount ≤ maxAmount) (dust : isDust amount scriptSize rate = true) :
    amount < 3 * charge rate (spentSize scriptSize) := by
  have below := isDust_iff.mp dust
  have covered := thousandth_le_iff.mp
    (Int.le_refl (thousandth (rate * spentSize scriptSize)))
  have positive : (0 : Int) < maxAmount := by decide
  unfold charge
  omega

/-- One less than the fee does not cover the exact cost. -/
theorem isDust_of_lt (below : amount < 3 * charge rate (spentSize scriptSize) - 2) :
    isDust amount scriptSize rate = true := by
  have uncovered : ¬ rate * spentSize scriptSize ≤
      1000 * (thousandth (rate * spentSize scriptSize) - 1) := by
    rw [← thousandth_le_iff]
    omega
  rw [isDust_iff]
  unfold charge at below
  omega

theorem isDust_mono (sizeNonneg : 0 ≤ scriptSize) (rateNonneg : 0 ≤ rate)
    (amountLe : smaller ≤ amount) (sizeLe : scriptSize ≤ larger) (rateLe : rate ≤ higher)
    (dust : isDust amount scriptSize rate = true) : isDust smaller larger higher = true := by
  have weight : rate * spentSize scriptSize ≤ higher * spentSize larger :=
    Int.mul_le_mul rateLe (spentSize_mono sizeLe) (spentSize_nonneg sizeNonneg)
      (Int.le_trans rateNonneg rateLe)
  rw [isDust_iff] at dust ⊢
  omega

theorem not_isDust_of_rate_zero (nonnegative : 0 ≤ amount) :
    isDust amount scriptSize 0 = false := by
  rw [← Bool.not_eq_true, isDust_iff, Int.zero_mul]
  omega

/-- Dust is what lies below three fees, up to the two that rounding may add, and it stays dust
when it gets smaller, costs more to spend or is priced higher. -/
theorem dust_within_three_fees (scriptSize rate : Int) (sizeNonneg : 0 ≤ scriptSize)
    (rateNonneg : 0 ≤ rate) :
    (∃ due, fee rate (outputSize scriptSize + redeemPubkeyHashInputSize) = .ok due ∧
      (∀ amount : Int, amount ≤ maxAmount → isDust amount scriptSize rate = true →
        amount < 3 * due) ∧
      ∀ amount : Int, amount < 3 * due - 2 → isDust amount scriptSize rate = true) ∧
    (∀ amount smaller larger higher : Int, isDust amount scriptSize rate = true →
      smaller ≤ amount → scriptSize ≤ larger → rate ≤ higher →
      isDust smaller larger higher = true) ∧
    ∀ amount : Int, 0 ≤ amount → isDust amount scriptSize 0 = false := by
  refine ⟨⟨_, fee_eq_charge rateNonneg (spentSize_nonneg sizeNonneg), ?below, ?above⟩, ?threshold,
    ?free⟩
  case below =>
    intro amount within dust
    exact lt_of_isDust within dust
  case above =>
    intro amount below
    exact isDust_of_lt below
  case threshold =>
    intro amount smaller larger higher dust amountLe sizeLe rateLe
    exact isDust_mono sizeNonneg rateNonneg amountLe sizeLe rateLe dust
  case free =>
    intro amount nonnegative
    exact not_isDust_of_rate_zero nonnegative

/-- A rate whose fee is rounded up: between the threshold and three fees lie two amounts that are
no dust. -/
theorem dust_within_three_fees_rounded :
    fee 1001 (outputSize 25 + redeemPubkeyHashInputSize) = .ok 183 ∧
      isDust 546 25 1001 = true ∧ (546 : Int) < 3 * 183 ∧
      isDust 547 25 1001 = false ∧ isDust 548 25 1001 = false ∧
      isDust 500 34 2000 = true ∧ isDust 0 25 0 = false := by
  obtain ⟨⟨due, charged, below, above⟩, threshold, free⟩ :=
    dust_within_three_fees 25 1001 (by decide) (by decide)
  obtain rfl : 183 = due := Except.ok.inj charged
  have dust : isDust 546 25 1001 = true := above 546 (by decide)
  exact ⟨charged, dust, below 546 (by decide) dust, by decide, by decide,
    threshold 546 500 34 2000 dust (by decide) (by decide) (by decide), free 0 (by decide)⟩

end Remit.Policy
