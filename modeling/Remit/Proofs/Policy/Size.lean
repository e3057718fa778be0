import Mathlib.Data.List.Forall2
import Remit.Policy.Size
import Remit.Wire.Transaction

/-!
The estimate of a size from the sizes of scripts, against the size of the transaction itself. The
two agree on the scripts that a transaction carries, and longer scripts never lower the estimate.
-/

namespace Remit

theorem natCast_sumNat (ns : List Nat) : (sumNat ns : Int) = sumInt (ns.map Nat.cast) := by
  induction ns with
  | nil => rfl
  | cons n rest induction =>
      rw [sumNat_cons, List.map_cons, sumInt_cons, Int.natCast_add, induction]

theorem sumInt_nonneg {is : List Int} (nonnegative : ∀ i ∈ is, 0 ≤ i) : 0 ≤ sumInt is := by
  induction is with
  | nil => exact Int.le_refl 0
  | cons i rest induction =>
      rw [List.forall_mem_cons] at nonnegative
      exact Int.add_nonneg nonnegative.1 (induction nonnegative.2)

theorem sumInt_mono {small large : List Int} (le : List.Forall₂ (· ≤ ·) small large) :
    sumInt small ≤ sumInt large := by
  induction le with
  | nil => exact Int.le_refl 0
  | cons head _ induction => exact Int.add_le_add head induction

namespace Wire.CompactSize

theorem length_bytes (n : Nat) : (bytes n).length = width n := by
  by_cases one : n < 0xFD
  · have oneInt : (n : Int) < 0xFD := by omega
    simp [bytes, width, one, oneInt]
  have oneInt : ¬ (n : Int) < 0xFD := by omega
  by_cases two : n ≤ 0xFFFF
  · have twoInt : (n : Int) ≤ 0xFFFF := by omega
    simp [bytes, width, one, oneInt, two, twoInt]
  have twoInt : ¬ (n : Int) ≤ 0xFFFF := by omega
  by_cases four : n ≤ 0xFFFFFFFF
  · have fourInt : (n : Int) ≤ 0xFFFFFFFF := by omega
    simp [bytes, width, one, oneInt, two, twoInt, four, fourInt]
  have fourInt : ¬ (n : Int) ≤ 0xFFFFFFFF := by omega
  simp [bytes, width, one, oneInt, two, twoInt, four, fourInt]

theorem width_mono {small large : Int} (le : small ≤ large) : width small ≤ width large := by
  unfold width
  grind

end Wire.CompactSize

namespace Policy

/-- What `transactionSize` comes to where it has a value. -/
def estimate (redeemSizes outputSizes : List Int) : Int :=
  transactionOverhead + Wire.CompactSize.width redeemSizes.length +
    sumInt (redeemSizes.map inputSize) + Wire.CompactSize.width outputSizes.length +
    sumInt (outputSizes.map outputSize)

theorem transactionSize_eq_ok_iff {redeemSizes outputSizes : List Int} {size : Int} :
    transactionSize redeemSizes outputSizes = .ok size ↔
      (∀ script ∈ redeemSizes, 0 ≤ script) ∧ (∀ script ∈ outputSizes, 0 ≤ script) ∧
        size = estimate redeemSizes outputSizes := by
  unfold transactionSize
  by_cases negative : (redeemSizes.any (· < 0) || outputSizes.any (· < 0)) = true
  · rw [if_pos negative]
    simp only [Bool.or_eq_true, List.any_eq_true, decide_eq_true_eq] at negative
    constructor
    · intro equal
      cases equal
    · rintro ⟨redeemNonneg, outputNonneg, -⟩
      rcases negative with ⟨script, member, below⟩ | ⟨script, member, below⟩
      · exact absurd (redeemNonneg script member) (Int.not_le.mpr below)
      · exact absurd (outputNonneg script member) (Int.not_le.mpr below)
  · rw [if_neg negative, Except.ok.injEq]
    simp only [Bool.or_eq_true, List.any_eq_true, decide_eq_true_eq, not_or, not_exists,
      not_and, Int.not_lt] at negative
    constructor
    · rintro rfl
      exact ⟨negative.1, negative.2, rfl⟩
    · rintro ⟨-, -, rfl⟩
      rfl

theorem transactionSize_eq_error_iff {redeemSizes outputSizes : List Int} :
    transactionSize redeemSizes outputSizes = .error .negativeScript ↔
      ∃ script ∈ redeemSizes ++ outputSizes, script < 0 := by
  have negative : (redeemSizes ++ outputSizes).any (· < 0) = true ↔
      ∃ script ∈ redeemSizes ++ outputSizes, script < 0 := by
    simp only [List.any_eq_true, decide_eq_true_eq]
  unfold transactionSize
  rw [← List.any_append]
  split
  case isTrue found => exact iff_of_true rfl (negative.mp found)
  case isFalse none => exact iff_of_false nofun (mt negative.mpr none)

theorem exists_transactionSize_iff {redeemSizes outputSizes : List Int} :
    (∃ size, transactionSize redeemSizes outputSizes = .ok size) ↔
      ∀ script ∈ redeemSizes ++ outputSizes, 0 ≤ script := by
  simp only [transactionSize_eq_ok_iff, exists_and_left, exists_eq, and_true,
    List.forall_mem_append]

/-- An item of `overhead` bytes and a script. Inputs and outputs are such items. -/
def itemSize (overhead : Nat) (script : Int) : Int :=
  overhead + Wire.CompactSize.width script + script

theorem itemSize_add_le (overhead : Nat) {script larger : Int} (le : script ≤ larger) :
    itemSize overhead script + (larger - script) ≤ itemSize overhead larger := by
  have widths := Wire.CompactSize.width_mono le
  unfold itemSize
  omega

theorem itemSize_mono (overhead : Nat) {script larger : Int} (le : script ≤ larger) :
    itemSize overhead script ≤ itemSize overhead larger := by
  have raised := itemSize_add_le overhead le
  omega

theorem le_itemSize (overhead : Nat) {script : Int} (nonnegative : 0 ≤ script) :
    (overhead : Int) + 1 ≤ itemSize overhead script := by
  have empty : itemSize overhead 0 = overhead + 1 := by
    simp [itemSize, Wire.CompactSize.width]
  rw [← empty]
  exact itemSize_mono overhead nonnegative

theorem inputSize_nonneg {script : Int} (nonnegative : 0 ≤ script) : 0 ≤ inputSize script :=
  Int.le_trans (by decide) (le_itemSize inputOverhead nonnegative)

theorem outputSize_nonneg {script : Int} (nonnegative : 0 ≤ script) :
    0 ≤ outputSize script :=
  Int.le_trans (by decide) (le_itemSize outputOverhead nonnegative)

theorem estimate_nonneg {redeemSizes outputSizes : List Int}
    (redeemNonneg : ∀ script ∈ redeemSizes, 0 ≤ script)
    (outputNonneg : ∀ script ∈ outputSizes, 0 ≤ script) :
    0 ≤ estimate redeemSizes outputSizes := by
  have inputs : 0 ≤ sumInt (redeemSizes.map inputSize) := by
    apply sumInt_nonneg
    rw [List.forall_mem_map]
    exact fun script member => inputSize_nonneg (redeemNonneg script member)
  have outputs : 0 ≤ sumInt (outputSizes.map outputSize) := by
    apply sumInt_nonneg
    rw [List.forall_mem_map]
    exact fun script member => outputSize_nonneg (outputNonneg script member)
  unfold estimate
  omega

theorem estimate_mono {small large : List Int} (le : List.Forall₂ (· ≤ ·) small large)
    (outputSizes : List Int) : estimate small outputSizes ≤ estimate large outputSizes := by
  have sums : sumInt (small.map inputSize) ≤ sumInt (large.map inputSize) := by
    apply sumInt_mono
    rw [List.forall₂_map_left_iff, List.forall₂_map_right_iff]
    exact le.imp fun _ _ le => itemSize_mono inputOverhead le
  unfold estimate
  rw [le.length_eq]
  omega

/-- The number of one output is as wide as the number of two. -/
theorem estimate_pair (redeemSizes : List Int) (first second : Int) :
    estimate redeemSizes [first, second] =
      estimate redeemSizes [first] + outputSize second := by
  have one : Wire.CompactSize.width (([first] : List Int).length : Int) = 1 := by
    simp [Wire.CompactSize.width]
  have two : Wire.CompactSize.width (([first, second] : List Int).length : Int) = 1 := by
    simp [Wire.CompactSize.width]
  unfold estimate
  rw [one, two]
  simp only [List.map_cons, List.map_nil, sumInt_cons, sumInt_nil]
  omega

end Policy

namespace Wire

theorem TxInput.size_eq_inputSize (i : TxInput) :
    (i.size : Int) = Policy.inputSize i.script.length := by
  unfold TxInput.size Policy.inputSize Policy.inputOverhead
  rw [CompactSize.length_bytes]
  omega

theorem TxOutput.size_eq_outputSize (o : TxOutput) :
    (o.size : Int) = Policy.outputSize o.script.length := by
  unfold TxOutput.size Policy.outputSize Policy.outputOverhead
  rw [CompactSize.length_bytes]
  omega

theorem Transaction.size_eq_estimate (tx : Transaction) :
    (tx.size : Int) =
      Policy.estimate (tx.inputs.map fun i => (i.script.length : Int))
        (tx.outputs.map fun o => (o.script.length : Int)) := by
  have inputs : (sumNat (tx.inputs.map TxInput.size) : Int) =
      sumInt ((tx.inputs.map fun i => (i.script.length : Int)).map Policy.inputSize) := by
    rw [natCast_sumNat, List.map_map, List.map_map]
    exact congrArg sumInt (List.map_congr_left fun i _ => i.size_eq_inputSize)
  have outputs : (sumNat (tx.outputs.map TxOutput.size) : Int) =
      sumInt ((tx.outputs.map fun o => (o.script.length : Int)).map Policy.outputSize) := by
    rw [natCast_sumNat, List.map_map, List.map_map]
    exact congrArg sumInt (List.map_congr_left fun o _ => o.size_eq_outputSize)
  unfold Transaction.size Policy.estimate Policy.transactionOverhead
  rw [CompactSize.length_bytes, CompactSize.length_bytes, List.length_map, List.length_map,
    ← inputs, ← outputs]
  omega

end Wire

end Remit
