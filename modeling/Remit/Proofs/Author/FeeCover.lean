import Remit.Proofs.Author.Conservation
import Remit.Proofs.Author.CursorOutcome
import Remit.Proofs.Script.Push

/-!
The fee of a draft against the transaction once it is signed. As long as no script is longer than
the coins declared, the fee is at least what the signed size costs. With scripts as long as
declared it exceeds that by no more than the cost of the change output that was priced.
-/

namespace Remit

open Wire (Script Transaction TxInput)

namespace Script

theorem length_unlockPubkeyHash_le {signature pubkey : Bytes}
    (signatureLe : signature.length ≤ 72) (pubkeyLe : pubkey.length ≤ 33) :
    (unlockPubkeyHash signature pubkey).length ≤ Policy.redeemPubkeyHashScriptSize := by
  have signatureLength : (push signature).length = signature.length + 1 :=
    length_push_direct (Nat.le_trans signatureLe (by decide))
  have pubkeyLength : (push pubkey).length = pubkey.length + 1 :=
    length_push_direct (Nat.le_trans pubkeyLe (by decide))
  unfold unlockPubkeyHash Policy.redeemPubkeyHashScriptSize
  rw [List.length_append, signatureLength, pubkeyLength]
  omega

end Script

namespace Wire.Transaction

def signed (tx : Transaction) (scripts : List Script) : Transaction :=
  { tx with
    inputs := List.zipWith (fun (i : TxInput) script => { i with script := script })
      tx.inputs scripts }

theorem scriptLengths_signed {tx : Transaction} {scripts : List Script}
    (length : tx.inputs.length = scripts.length) :
    (tx.signed scripts).inputs.map (fun i => (i.script.length : Int)) =
      scripts.map fun script => (script.length : Int) := by
  unfold signed
  rw [List.map_zipWith]
  generalize tx.inputs = inputs at length
  induction inputs generalizing scripts with
  | nil =>
      cases scripts with
      | nil => rfl
      | cons script rest => cases length
  | cons input inputs induction =>
      cases scripts with
      | nil => cases length
      | cons script rest =>
          rw [List.zipWith_cons_cons, List.map_cons, induction (Nat.succ.inj length)]

end Wire.Transaction

namespace Author

open Funding (Change Cursor)
open Wire (TxOutput)

/-- The signed transaction is no larger than estimated and the fee pays for it. -/
def Covers (rate : Int) (draft : Draft) (scripts : List Script) : Prop :=
  ((draft.transaction.signed scripts).size : Int) ≤ draft.estimatedSize ∧
    ∃ due, Policy.fee rate (draft.transaction.signed scripts).size = .ok due ∧
      due ≤ draft.fee

/-- The estimate exceeds the signed size by the change output, if that is missing, and by nothing
otherwise. The fee exceeds what is due by no more than the cost of such an output. -/
def Tight (rate : Int) (change : Change) (draft : Draft) (scripts : List Script) : Prop :=
  (0 ≤ draft.changeIndex →
    draft.estimatedSize = (draft.transaction.signed scripts).size) ∧
  (draft.changeIndex < 0 →
    draft.estimatedSize =
      (draft.transaction.signed scripts).size + Policy.outputSize change.size) ∧
  ∃ due slack, Policy.fee rate (draft.transaction.signed scripts).size = .ok due ∧
    Policy.fee rate (Policy.outputSize change.size) = .ok slack ∧ draft.fee ≤ due + slack

section

variable {payment : TxOutput} {rate : Int} {change : Change} {operation : String}
  {before : Activity Cursor} {draft : Draft} {scripts : List Script}

/-- A size that is priced with two outputs is that of the signed transaction, with the change
output added where the draft has none. -/
theorem estimate_signed {cursor : Cursor} {paid : TxOutput} {size : Int}
    (script : paid.script = payment.script)
    (length : cursor.consumed.length = scripts.length) :
    let draft := assemble cursor.funds paid (returned payment cursor change) size
    Policy.estimate (scripts.map fun script => (script.length : Int))
        [payment.script.length, change.script.length] =
      (draft.transaction.signed scripts).size +
        if draft.changeIndex < 0 then Policy.outputSize change.size else 0 := by
  intro draft
  have inputs : draft.transaction.inputs.length = scripts.length := by
    rw [inputs_assemble, unsigned, List.length_map]
    exact (List.length_map _).trans length
  have signedSize := (draft.transaction.signed scripts).size_eq_estimate
  rw [Wire.Transaction.scriptLengths_signed inputs] at signedSize
  rw [signedSize]
  change _ = Policy.estimate _ (draft.transaction.outputs.map _) + _
  by_cases spent : (cursor.total : Int) = payment.value
  · simp only [draft, returned, spent, ↓reduceIte, outputs_assemble, changeIndex_assemble]
    simp [script, Policy.estimate_pair, Change.size]
  · simp only [draft, returned, spent, ↓reduceIte, outputs_assemble, changeIndex_assemble]
    simp [script]

theorem fee_cursor {cursor : Cursor} {fee size : Int}
    (reached : payment.value ≤ cursor.total) :
    (assemble cursor.funds ⟨payment.value - fee, payment.script⟩
      (returned payment cursor change) size).fee = fee := by
  have surplus : ((returned payment cursor change).map TxOutput.value).getD 0 =
      cursor.total - payment.value :=
    (returnsSurplus_returned reached).value (Int.sub_nonneg_of_le reached)
  unfold Draft.fee
  rw [totalOutput_assemble, surplus, totalInput_assemble]
  change (cursor.total : Int) - (payment.value - fee + (cursor.total - payment.value)) = fee
  omega

section

variable
  (success : (execute (minusFee payment rate .ofCursor (.ofChange change) operation)
    before).1 = .ok draft)

include success

theorem estimate_and_fee :
    0 ≤ rate ∧
      draft.estimatedSize = Policy.estimate
        (before.source.advance payment.value).funds.redeemSizes
        [payment.script.length, change.script.length] ∧
      draft.fee = Policy.charge rate draft.estimatedSize := by
  obtain ⟨rateNonneg, -, reached, -, rfl⟩ := minusFee_cursor_ok success
  exact ⟨rateNonneg, rfl, fee_cursor reached⟩

theorem estimate_scripts
    (length : scripts.length =
      (before.source.advance payment.value).funds.redeemSizes.length) :
    Policy.estimate (scripts.map fun script => (script.length : Int))
        [payment.script.length, change.script.length] =
      (draft.transaction.signed scripts).size +
        if draft.changeIndex < 0 then Policy.outputSize change.size else 0 := by
  obtain ⟨-, -, -, -, rfl⟩ := minusFee_cursor_ok success
  exact estimate_signed rfl ((List.length_map _).symm.trans length.symm)

theorem covers_of_le
    (short : List.Forall₂ (fun (script : Script) redeem => (script.length : Int) ≤ redeem)
      scripts (before.source.advance payment.value).funds.redeemSizes) :
    Covers rate draft scripts := by
  obtain ⟨rateNonneg, estimated, fee⟩ := estimate_and_fee success
  have scriptEstimate := estimate_scripts success short.length_eq
  have mono := Policy.estimate_mono (List.forall₂_map_left_iff.mpr short)
    [(payment.script.length : Int), change.script.length]
  have outputNonneg : 0 ≤ Policy.outputSize change.size :=
    Policy.outputSize_nonneg (Int.natCast_nonneg _)
  have signedLe : ((draft.transaction.signed scripts).size : Int) ≤ draft.estimatedSize := by
    rw [estimated]
    split at scriptEstimate <;> omega
  refine ⟨signedLe, _, Policy.fee_eq_charge rateNonneg (Int.natCast_nonneg _), ?_⟩
  rw [fee]
  exact Policy.charge_mono_size rateNonneg signedLe

theorem tight_of_eq
    (exact : List.Forall₂ (fun (script : Script) redeem => (script.length : Int) = redeem)
      scripts (before.source.advance payment.value).funds.redeemSizes) :
    Tight rate change draft scripts := by
  obtain ⟨rateNonneg, estimated, fee⟩ := estimate_and_fee success
  have scriptEstimate := estimate_scripts success exact.length_eq
  have lengths : scripts.map (fun script => (script.length : Int)) =
      (before.source.advance payment.value).funds.redeemSizes :=
    List.forall₂_eq_eq_eq ▸ List.forall₂_map_left_iff.mpr exact
  rw [lengths, ← estimated] at scriptEstimate
  have outputNonneg : 0 ≤ Policy.outputSize change.size :=
    Policy.outputSize_nonneg (Int.natCast_nonneg _)
  have signedNonneg : 0 ≤ ((draft.transaction.signed scripts).size : Int) :=
    Int.natCast_nonneg _
  refine ⟨?_, ?_, _, _, Policy.fee_eq_charge rateNonneg signedNonneg,
    Policy.fee_eq_charge rateNonneg outputNonneg, ?_⟩
  · intro changed
    rw [scriptEstimate, if_neg (Int.not_lt.mpr changed), Int.add_zero]
  · intro unchanged
    rw [scriptEstimate, if_pos unchanged]
  · rw [fee]
    refine Int.le_trans (Policy.charge_mono_size rateNonneg ?_)
      (Policy.charge_add_le rateNonneg signedNonneg outputNonneg)
    split at scriptEstimate <;> omega

theorem covers_unlocked
    (default : ∀ coin ∈ before.source.pool, (coin.redeemSize : Int) = Funding.defaultRedeemSize)
    {unlocks : List (Bytes × Bytes)}
    (length : unlocks.length = draft.transaction.inputs.length)
    (standard : ∀ unlock ∈ unlocks, unlock.1.length ≤ 72 ∧ unlock.2.length ≤ 33) :
    Covers rate draft
      (unlocks.map fun unlock => Script.unlockPubkeyHash unlock.1 unlock.2) := by
  apply covers_of_le success
  obtain ⟨-, -, -, -, rfl⟩ := minusFee_cursor_ok success
  let consumed := (before.source.advance payment.value).consumed
  have unlocksLength : unlocks.length = consumed.length := by
    rw [length, inputs_assemble, unsigned, List.length_map]
    exact List.length_map _
  refine List.forall₂_map_left_iff.mpr (List.forall₂_map_right_iff.mpr
    (List.forall₂_iff_zip.mpr ⟨unlocksLength, ?_⟩))
  intro unlock coin pair
  obtain ⟨unlockMember, coinMember⟩ := List.of_mem_zip pair
  have pooled : coin ∈ before.source.pool :=
    (before.source.consumed_advance_prefix_pool payment.value).subset coinMember
  have within := Script.length_unlockPubkeyHash_le (standard unlock unlockMember).1
    (standard unlock unlockMember).2
  rw [default coin pooled, Funding.defaultRedeemSize]
  exact Int.ofNat_le.mpr within

end

/-- The fee of a successful call pays for the signed transaction, whatever scripts of the declared
sizes or shorter sign it, and overpays by at most one change output if they are just as long. -/
theorem fee_covers_signed
    (success : (execute (minusFee payment rate .ofCursor (.ofChange change) operation)
      before).1 = .ok draft) :
    (∀ scripts,
      List.Forall₂ (fun (script : Script) redeem => (script.length : Int) ≤ redeem)
        scripts (before.source.advance payment.value).funds.redeemSizes →
      Covers rate draft scripts) ∧
    (∀ scripts,
      List.Forall₂ (fun (script : Script) redeem => (script.length : Int) = redeem)
        scripts (before.source.advance payment.value).funds.redeemSizes →
      Tight rate change draft scripts) ∧
    ((∀ coin ∈ before.source.pool, (coin.redeemSize : Int) = Funding.defaultRedeemSize) →
      ∀ unlocks : List (Bytes × Bytes),
        unlocks.length = draft.transaction.inputs.length →
        (∀ unlock ∈ unlocks, unlock.1.length ≤ 72 ∧ unlock.2.length ≤ 33) →
        Covers rate draft
          (unlocks.map fun unlock => Script.unlockPubkeyHash unlock.1 unlock.2)) := by
  refine ⟨?_, ?_, ?_⟩
  · intro scripts short
    exact covers_of_le success short
  · intro scripts exact
    exact tight_of_eq success exact
  · intro default unlocks length standard
    exact covers_unlocked success default length standard

/-- Two of three coins pay 1500, and 400 goes back. -/
theorem fee_covers_signed_two_inputs :
    let coin := fun (seed : UInt8) value => Funding.Coin.mk
      ⟨⟨List.replicate 32 seed, List.length_replicate⟩, 0⟩ value 107
    let cursor := Cursor.ofPool [coin 1 1000, coin 2 900, coin 3 5]
    let payment : TxOutput := ⟨1500, List.replicate 25 0x51⟩
    let change : Change := ⟨List.replicate 23 0x52, 0, by decide⟩
    let draft := assemble (cursor.advance 1500).funds ⟨1124, payment.script⟩
      (some ⟨400, change.script⟩) 376
    (execute (minusFee payment 1000 .ofCursor (.ofChange change)) (.start cursor)).1 =
        .ok draft ∧
      Covers 1000 draft [List.replicate 107 0, List.replicate 90 0] ∧
      Tight 1000 change draft [List.replicate 107 0, List.replicate 107 1] ∧
      Covers 1000 draft
        [Script.unlockPubkeyHash (List.replicate 72 0) (List.replicate 33 2),
          Script.unlockPubkeyHash (List.replicate 71 0) (List.replicate 33 3)] := by
  intro coin cursor payment change draft
  have success : (execute (minusFee payment 1000 .ofCursor (.ofChange change))
      (.start cursor)).1 = .ok draft := by
    decide +kernel
  have sizes : (cursor.advance 1500).funds.redeemSizes = [107, 107] := by
    decide +kernel
  obtain ⟨covers, tight, unlocked⟩ := fee_covers_signed success
  change ∀ scripts, List.Forall₂ _ _ (cursor.advance 1500).funds.redeemSizes → _ at covers tight
  rw [sizes] at covers tight
  refine ⟨success, covers _ ?_, tight _ ?_, ?_⟩
  · exact .cons (by decide) (.cons (by decide) .nil)
  · exact .cons (by decide) (.cons (by decide) .nil)
  · exact unlocked (by decide)
      [(List.replicate 72 0, List.replicate 33 2), (List.replicate 71 0, List.replicate 33 3)]
      (by decide +kernel) (by decide)

end

end Author

end Remit
