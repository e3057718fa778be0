import Mathlib.Data.List.Perm.Basic
import Remit.Proofs.Policy.Size

/-!
How the estimate of a size moves with its two lists of scripts. Each list counts by its length and
the sum over its items, so that order does not matter, every new script costs at least its item's
fixed bytes and its own count, and a longer script costs at least what it grew.
-/

namespace Remit

theorem sumInt_perm {is js : List Int} (permuted : is.Perm js) : sumInt is = sumInt js :=
  permuted.foldr_eq 0

namespace Policy

def listSize (overhead : Nat) (scripts : List Int) : Int :=
  Wire.CompactSize.width scripts.length + sumInt (scripts.map (itemSize overhead))

theorem estimate_eq_listSize (redeemSizes outputSizes : List Int) :
    estimate redeemSizes outputSizes =
      transactionOverhead + listSize inputOverhead redeemSizes +
        listSize outputOverhead outputSizes := by
  change transactionOverhead + _ + sumInt (redeemSizes.map (itemSize inputOverhead)) + _ +
    sumInt (outputSizes.map (itemSize outputOverhead)) = _
  unfold listSize
  omega

section

variable {script larger : Int} {small large : List Int}

theorem listSize_perm (overhead : Nat) (permuted : small.Perm large) :
    listSize overhead small = listSize overhead large := by
  unfold listSize
  rw [permuted.length_eq, sumInt_perm (permuted.map _)]

/-- A new script costs its item, and the count may get wider. -/
theorem listSize_insert (overhead : Nat) (front back : List Int) (nonnegative : 0 ≤ script) :
    listSize overhead (front ++ back) + (overhead + 1) ≤
      listSize overhead (front ++ script :: back) := by
  have item := le_itemSize overhead nonnegative
  have count : Wire.CompactSize.width (front ++ back).length ≤
      Wire.CompactSize.width (script :: (front ++ back)).length :=
    Wire.CompactSize.width_mono (Int.ofNat_le.mpr (Nat.le_succ _))
  rw [listSize_perm overhead (List.perm_middle : (front ++ script :: back).Perm _)]
  unfold listSize
  rw [List.map_cons, sumInt_cons]
  omega

theorem listSize_enlarge (overhead : Nat) (front back : List Int) (le : script ≤ larger) :
    listSize overhead (front ++ script :: back) + (larger - script) ≤
      listSize overhead (front ++ larger :: back) := by
  have item := itemSize_add_le overhead le
  rw [listSize_perm overhead (List.perm_middle : (front ++ script :: back).Perm _),
    listSize_perm overhead (List.perm_middle : (front ++ larger :: back).Perm _)]
  unfold listSize
  rw [List.map_cons, sumInt_cons, List.map_cons, sumInt_cons, List.length_cons, List.length_cons]
  omega

/-- Enlarging and inserting lowers neither the count nor the sum. -/
theorem listSize_grown (overhead : Nat) (nonnegative : ∀ script ∈ large, 0 ≤ script)
    (grown : List.SublistForall₂ (· ≤ ·) small large) :
    listSize overhead small ≤ listSize overhead large := by
  -- The bytes of a count are no sum over the list, so the induction carries the length instead.
  have parts : small.length ≤ large.length ∧
      sumInt (small.map (itemSize overhead)) ≤ sumInt (large.map (itemSize overhead)) := by
    induction grown with
    | nil =>
        refine ⟨Nat.zero_le _, sumInt_nonneg ?_⟩
        rw [List.forall_mem_map]
        intro script member
        have item := le_itemSize overhead (nonnegative script member)
        omega
    | cons le _ induction =>
        rw [List.forall_mem_cons] at nonnegative
        obtain ⟨count, sums⟩ := induction nonnegative.2
        exact ⟨Nat.succ_le_succ count, Int.add_le_add (itemSize_mono overhead le) sums⟩
    | @cons_right script _ _ _ induction =>
        rw [List.forall_mem_cons] at nonnegative
        obtain ⟨count, sums⟩ := induction nonnegative.2
        have item := le_itemSize overhead nonnegative.1
        refine ⟨Nat.le_succ_of_le count, ?_⟩
        rw [List.map_cons, sumInt_cons]
        omega
  have count := Wire.CompactSize.width_mono (Int.ofNat_le.mpr parts.1)
  unfold listSize
  omega

/-- An estimate that depends on a list without regard to its order and grows with every script:
by at least `least` with a new one, and with a longer one by at least what it grew. -/
structure Grows (estimated : List Int → Except SizeError Int) (least : Int) : Prop where
  orderFree : ∀ {scripts scripts' : List Int}, scripts.Perm scripts' →
    estimated scripts = estimated scripts'
  inserted : ∀ (front back : List Int) {script size : Int}, 0 ≤ script →
    estimated (front ++ back) = .ok size →
    ∃ more, estimated (front ++ script :: back) = .ok more ∧ size + least ≤ more
  enlarged : ∀ (front back : List Int) {script larger size : Int}, script < larger →
    estimated (front ++ script :: back) = .ok size →
    ∃ more, estimated (front ++ larger :: back) = .ok more ∧ size + (larger - script) ≤ more

/-- It is enough that the list counts by its size, whatever else goes into the estimate. -/
theorem grows_of_listSize {estimated : List Int → Except SizeError Int} (overhead : Nat)
    (others : Prop) (rest : Int)
    (sized : ∀ {scripts size}, estimated scripts = .ok size ↔
      (∀ script ∈ scripts, 0 ≤ script) ∧ others ∧ size = listSize overhead scripts + rest) :
    Grows estimated (overhead + 1) where
  orderFree := by
    intro scripts scripts' permuted
    have same : ∀ size, estimated scripts = .ok size ↔ estimated scripts' = .ok size := by
      intro size
      simp only [sized, listSize_perm overhead permuted, permuted.mem_iff]
    cases first : estimated scripts with
    | ok size => exact ((same size).mp first).symm
    | error error =>
        cases second : estimated scripts' with
        | ok size => rw [← first, ← (same size).mpr second]
        | error error' => cases error; cases error'; rfl
  inserted := by
    intro front back script size new before
    obtain ⟨nonnegative, holds, rfl⟩ := sized.mp before
    refine ⟨_, sized.mpr ⟨?_, holds, rfl⟩, ?_⟩
    · rw [List.forall_mem_append] at nonnegative
      rw [List.forall_mem_append, List.forall_mem_cons]
      exact ⟨nonnegative.1, new, nonnegative.2⟩
    · have grown := listSize_insert overhead front back new
      omega
  enlarged := by
    intro front back script larger size lt before
    obtain ⟨nonnegative, holds, rfl⟩ := sized.mp before
    refine ⟨_, sized.mpr ⟨?_, holds, rfl⟩, ?_⟩
    · rw [List.forall_mem_append, List.forall_mem_cons] at nonnegative ⊢
      obtain ⟨before, kept, behind⟩ := nonnegative
      exact ⟨before, by omega, behind⟩
    · have grown := listSize_enlarge overhead front back (Int.le_of_lt lt)
      omega

end

/-- The estimate exists where no size is negative. It is blind to the order of either list and
grows with each, so that longer and further scripts never make it smaller. -/
theorem estimate_grows_with_scripts :
    (∀ redeemSizes outputSizes : List Int,
      (transactionSize redeemSizes outputSizes = .error .negativeScript ↔
        ∃ script ∈ redeemSizes ++ outputSizes, script < 0) ∧
      ((∃ size, transactionSize redeemSizes outputSizes = .ok size) ↔
        ∀ script ∈ redeemSizes ++ outputSizes, 0 ≤ script)) ∧
    (∀ outputSizes, Grows (fun redeemSizes => transactionSize redeemSizes outputSizes) 41) ∧
    (∀ redeemSizes, Grows (fun outputSizes => transactionSize redeemSizes outputSizes) 9) ∧
    ∀ redeemSizes redeemSizes' outputSizes outputSizes' size size',
      List.SublistForall₂ (· ≤ ·) redeemSizes redeemSizes' →
      List.SublistForall₂ (· ≤ ·) outputSizes outputSizes' →
      transactionSize redeemSizes outputSizes = .ok size →
      transactionSize redeemSizes' outputSizes' = .ok size' → size ≤ size' := by
  refine ⟨fun _ _ => ⟨transactionSize_eq_error_iff, exists_transactionSize_iff⟩, ?redeem, ?output,
    ?grown⟩
  case redeem =>
    intro outputSizes
    refine grows_of_listSize inputOverhead (∀ script ∈ outputSizes, 0 ≤ script)
      (transactionOverhead + listSize outputOverhead outputSizes) ?_
    intro redeemSizes size
    rw [transactionSize_eq_ok_iff, estimate_eq_listSize, Int.add_right_comm, Int.add_comm]
  case output =>
    intro redeemSizes
    refine grows_of_listSize outputOverhead (∀ script ∈ redeemSizes, 0 ≤ script)
      (transactionOverhead + listSize inputOverhead redeemSizes) ?_
    intro outputSizes size
    rw [transactionSize_eq_ok_iff, estimate_eq_listSize, Int.add_comm, and_left_comm]
  case grown =>
    intro redeemSizes redeemSizes' outputSizes outputSizes' size size' redeem output before after
    obtain ⟨-, -, rfl⟩ := transactionSize_eq_ok_iff.mp before
    obtain ⟨redeemNonneg, outputNonneg, rfl⟩ := transactionSize_eq_ok_iff.mp after
    have redeemGrown := listSize_grown inputOverhead redeemNonneg redeem
    have outputGrown := listSize_grown outputOverhead outputNonneg output
    rw [estimate_eq_listSize, estimate_eq_listSize]
    omega

/-- A longer output script, past the widths of one byte, and further scripts between the old. -/
theorem estimate_grows_with_scripts_past_one_byte :
    transactionSize [107, 0] [0xFC, 25] = .ok 498 ∧
      transactionSize [0, 107] [25, 0xFC] = .ok 498 ∧
      (∃ more, transactionSize [107, 3, 0] [0xFC, 25] = .ok more ∧ 498 + 41 ≤ more) ∧
      (∃ more, transactionSize [107, 0] [0xFD, 25] = .ok more ∧ 498 + (0xFD - 0xFC) ≤ more) ∧
      ∃ more, transactionSize [108, 3, 0] [0xFD, 2, 25] = .ok more ∧ 498 ≤ more := by
  have before : transactionSize [107, 0] [0xFC, 25] = .ok 498 := rfl
  obtain ⟨defined, redeem, output, grown⟩ := estimate_grows_with_scripts
  have redeemSwap := (redeem [0xFC, 25]).orderFree (List.Perm.swap 0 107 [])
  have outputSwap := (output [0, 107]).orderFree (List.Perm.swap 25 0xFC [])
  obtain ⟨more, after⟩ := (defined [108, 3, 0] [0xFD, 2, 25]).2.mpr (by decide)
  have redeemGrown : List.SublistForall₂ (· ≤ ·) ([107, 0] : List Int) [108, 3, 0] :=
    .cons (by decide) (.cons_right (.cons (by decide) .nil))
  have outputGrown : List.SublistForall₂ (· ≤ ·) ([0xFC, 25] : List Int) [0xFD, 2, 25] :=
    .cons (by decide) (.cons_right (.cons (by decide) .nil))
  exact ⟨before, outputSwap.symm.trans (redeemSwap.symm.trans before),
    (redeem [0xFC, 25]).inserted [107] [0] (by decide) before,
    (output [107, 0]).enlarged [] [25] (by decide) before,
    more, after, grown _ _ _ _ _ _ redeemGrown outputGrown before after⟩

end Policy

end Remit
