import Mathlib.Order.Bounds.Basic
import Remit.Proofs.Policy.Fee

/-!
The fee of a size against the fees of its parts. A fee is the least amount that covers the size,
or the clamp. So parts never cost less than the whole, and at most one satoshi more: each of two
amounts is rounded up by less than one.
-/

namespace Remit.Policy

/-- The amounts that pay for a size at a rate for 1000 bytes. -/
def covering (rate size : Int) : Set Int :=
  {amount | 0 ≤ amount ∧ rate * size ≤ 1000 * amount}

theorem isLeast_thousandth {rate size : Int} (rateNonneg : 0 ≤ rate) (sizeNonneg : 0 ≤ size) :
    IsLeast (covering rate size) (thousandth (rate * size)) := by
  constructor
  · exact ⟨thousandth_nonneg (Int.mul_nonneg rateNonneg sizeNonneg),
      thousandth_le_iff.mp (Int.le_refl _)⟩
  · intro amount covers
    exact thousandth_le_iff.mpr covers.2

theorem charge_eq_least {rate size least : Int} (rateNonneg : 0 ≤ rate) (sizeNonneg : 0 ≤ size)
    (isLeast : IsLeast (covering rate size) least) :
    charge rate size = if least ≤ maxAmount then least else maxAmount := by
  obtain rfl : least = thousandth (rate * size) :=
    isLeast.unique (isLeast_thousandth rateNonneg sizeNonneg)
  exact min_def _ _

theorem thousandth_add_thousandth_le (first second : Int) :
    thousandth first + thousandth second ≤ thousandth (first + second) + 1 := by
  have whole : first + second ≤ 1000 * thousandth (first + second) :=
    thousandth_le_iff.mp (Int.le_refl _)
  -- One satoshi less than a rounded amount does not cover its weight.
  have firstShort : ¬ first ≤ 1000 * (thousandth first - 1) := by
    rw [← thousandth_le_iff]
    omega
  have secondShort : ¬ second ≤ 1000 * (thousandth second - 1) := by
    rw [← thousandth_le_iff]
    omega
  omega

theorem charge_add_charge_le {rate first second : Int}
    (unclamped : charge rate (first + second) < maxAmount) :
    charge rate first + charge rate second ≤ charge rate (first + second) + 1 := by
  have parts := thousandth_add_thousandth_le (rate * first) (rate * second)
  rw [← Int.mul_add] at parts
  unfold charge at unclamped ⊢
  omega

/-- A fee is the least covering amount up to the clamp. It grows with the size and the rate, and
splitting a size adds to it, though never more than one satoshi while it is below the clamp. -/
theorem fee_of_split {rate first second : Int} (rateNonneg : 0 ≤ rate) (firstNonneg : 0 ≤ first)
    (secondNonneg : 0 ≤ second) :
    ∃ firstDue secondDue wholeDue,
      fee rate first = .ok firstDue ∧ fee rate second = .ok secondDue ∧
      fee rate (first + second) = .ok wholeDue ∧
      (∃ least, IsLeast (covering rate first) least) ∧
      (∀ least, IsLeast (covering rate first) least →
        firstDue = if least ≤ maxAmount then least else maxAmount) ∧
      (∀ larger, first ≤ larger →
        ∃ largerDue, fee rate larger = .ok largerDue ∧ firstDue ≤ largerDue) ∧
      (∀ higher, rate ≤ higher →
        ∃ higherDue, fee higher first = .ok higherDue ∧ firstDue ≤ higherDue) ∧
      wholeDue ≤ firstDue + secondDue ∧
      (wholeDue < maxAmount → firstDue + secondDue ≤ wholeDue + 1) := by
  refine ⟨_, _, _, fee_eq_charge rateNonneg firstNonneg, fee_eq_charge rateNonneg secondNonneg,
    fee_eq_charge rateNonneg (Int.add_nonneg firstNonneg secondNonneg),
    ⟨_, isLeast_thousandth rateNonneg firstNonneg⟩, ?least, ?size, ?rate, ?apart, ?rounding⟩
  case least =>
    intro least isLeast
    exact charge_eq_least rateNonneg firstNonneg isLeast
  case size =>
    intro larger le
    exact ⟨_, fee_eq_charge rateNonneg (Int.le_trans firstNonneg le),
      charge_mono_size rateNonneg le⟩
  case rate =>
    intro higher le
    exact ⟨_, fee_eq_charge (Int.le_trans rateNonneg le) firstNonneg,
      charge_mono_rate firstNonneg le⟩
  case apart => exact charge_add_le rateNonneg firstNonneg secondNonneg
  case rounding => exact charge_add_charge_le

/-- An input and an output are both rounded up, and cost one satoshi more than the two at once. -/
theorem fee_of_split_rounded_twice :
    fee 1001 148 = .ok 149 ∧ fee 1001 34 = .ok 35 ∧ fee 1001 182 = .ok 183 ∧
      IsLeast (covering 1001 148) 149 ∧ (183 : Int) ≤ 149 + 35 ∧ (149 + 35 : Int) ≤ 183 + 1 := by
  obtain ⟨firstDue, secondDue, wholeDue, first, second, whole, ⟨least, isLeast⟩, eq_least, -, -,
    apart, rounding⟩ := fee_of_split (by decide : (0 : Int) ≤ 1001) (by decide : (0 : Int) ≤ 148)
      (by decide : (0 : Int) ≤ 34)
  obtain rfl : 149 = firstDue := Except.ok.inj first
  obtain rfl : 35 = secondDue := Except.ok.inj second
  obtain rfl : 183 = wholeDue := Except.ok.inj whole
  have due := eq_least least isLeast
  have below : least ≤ maxAmount := by
    by_contra above
    rw [if_neg above] at due
    exact absurd due (by decide)
  rw [if_pos below] at due
  exact ⟨first, second, whole, due ▸ isLeast, apart, rounding (by decide)⟩

end Remit.Policy
