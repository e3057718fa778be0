import Remit.Policy.Fee

/-!
The fee as a function of size: least whole number of satoshis that covers the rate, up to a
clamp. It grows with the size and with the rate, and splitting a size never lowers it.
-/

namespace Remit.Policy

def thousandth (weight : Int) : Int :=
  -(-weight / 1000)

/-- What `fee` comes to where it has a value. -/
def charge (rate size : Int) : Int :=
  min (thousandth (rate * size)) maxAmount

theorem thousandth_le_iff {weight bound : Int} :
    thousandth weight ≤ bound ↔ weight ≤ 1000 * bound := by
  unfold thousandth
  omega

theorem thousandth_nonneg {weight : Int} (nonnegative : 0 ≤ weight) :
    0 ≤ thousandth weight := by
  unfold thousandth
  omega

theorem thousandth_mono {small large : Int} (le : small ≤ large) :
    thousandth small ≤ thousandth large := by
  have covered : large ≤ 1000 * thousandth large := thousandth_le_iff.mp (Int.le_refl _)
  exact thousandth_le_iff.mpr (by omega)

theorem thousandth_add_le (first second : Int) :
    thousandth (first + second) ≤ thousandth first + thousandth second := by
  have firstCovered := thousandth_le_iff.mp (Int.le_refl (thousandth first))
  have secondCovered := thousandth_le_iff.mp (Int.le_refl (thousandth second))
  exact thousandth_le_iff.mpr (by omega)

theorem fee_eq_charge {rate size : Int} (rateNonneg : 0 ≤ rate) (sizeNonneg : 0 ≤ size) :
    fee rate size = .ok (charge rate size) := by
  simp [fee, charge, thousandth, Int.not_lt.mpr rateNonneg, Int.not_lt.mpr sizeNonneg]

theorem fee_negativeRate {rate : Int} (negative : rate < 0) (size : Int) :
    fee rate size = .error (.negativeRate rate) := by
  simp [fee, negative]

theorem fee_eq_ok_iff {rate size due : Int} :
    fee rate size = .ok due ↔ 0 ≤ rate ∧ 0 ≤ size ∧ due = charge rate size := by
  by_cases rateNonneg : 0 ≤ rate
  · by_cases sizeNonneg : 0 ≤ size
    · rw [fee_eq_charge rateNonneg sizeNonneg, Except.ok.injEq]
      simp only [rateNonneg, sizeNonneg, true_and]
      exact eq_comm
    · simp [fee, Int.not_lt.mpr rateNonneg, Int.not_le.mp sizeNonneg, sizeNonneg]
  · simp [fee, Int.not_le.mp rateNonneg, rateNonneg]

theorem charge_nonneg {rate size : Int} (rateNonneg : 0 ≤ rate) (sizeNonneg : 0 ≤ size) :
    0 ≤ charge rate size := by
  have whole := thousandth_nonneg (Int.mul_nonneg rateNonneg sizeNonneg)
  unfold charge
  omega

theorem charge_le_maxAmount (rate size : Int) : charge rate size ≤ maxAmount :=
  Int.min_le_right _ _

theorem charge_mono_size {rate small large : Int} (rateNonneg : 0 ≤ rate)
    (le : small ≤ large) : charge rate small ≤ charge rate large := by
  have whole := thousandth_mono (Int.mul_le_mul_of_nonneg_left le rateNonneg)
  unfold charge
  omega

theorem charge_mono_rate {lower higher size : Int} (sizeNonneg : 0 ≤ size)
    (le : lower ≤ higher) : charge lower size ≤ charge higher size := by
  have whole := thousandth_mono (Int.mul_le_mul_of_nonneg_right le sizeNonneg)
  unfold charge
  omega

/-- Charging two sizes apart costs at least as much as charging them together. -/
theorem charge_add_le {rate first second : Int} (rateNonneg : 0 ≤ rate)
    (firstNonneg : 0 ≤ first) (secondNonneg : 0 ≤ second) :
    charge rate (first + second) ≤ charge rate first + charge rate second := by
  have whole := thousandth_add_le (rate * first) (rate * second)
  rw [← Int.mul_add] at whole
  have firstWhole := thousandth_nonneg (Int.mul_nonneg rateNonneg firstNonneg)
  have secondWhole := thousandth_nonneg (Int.mul_nonneg rateNonneg secondNonneg)
  unfold charge
  omega

end Remit.Policy
