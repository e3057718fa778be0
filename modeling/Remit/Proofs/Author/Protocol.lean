import Remit.Proofs.Author.Ending

/-!
The questions that an authoring call asks its collaborators. They come in one order, each at most
once, and the call stops at the first answer that it cannot go on with.
-/

namespace Remit.Author

open Wire (TxOutput)

section

variable {σ : Type}

def questions (payment : TxOutput) (rate : Int) (redeemSizes : List Int) (changeSize size : Int) :
    List Call :=
  [.fetch payment.value, .scriptSize, .size redeemSizes [payment.script.length, changeSize],
    .fee rate size, .script]

theorem Concludes.prefix_questions {payment : TxOutput} {rate : Int} {source : InputSource σ}
    {change : ChangeSource} {operation : String}
    {sizeEstimator : SizeEstimator} {feeEstimator : FeeEstimator} {start : σ}
    {calls : List Call} {outcome : Except Failure Draft}
    (concludes : Concludes payment rate source change operation sizeEstimator feeEstimator start
      calls outcome) :
    ∃ redeemSizes changeSize size,
      calls <+: questions payment rate redeemSizes changeSize size := by
  cases concludes with
  | negative => exact ⟨[], 0, 0, _, rfl⟩
  | fetchRaised => exact ⟨[], 0, 0, _, rfl⟩
  | gatheredShort => exact ⟨[], 0, 0, _, rfl⟩
  | scriptSizeRaised => exact ⟨[], 0, 0, _, rfl⟩
  | sizeRaised => exact ⟨_, _, 0, _, rfl⟩
  | feeRaised => exact ⟨_, _, _, _, rfl⟩
  | unpaid => exact ⟨_, _, _, [.script], rfl⟩
  | spent => exact ⟨_, _, _, [.script], rfl⟩
  | scriptRaised => exact ⟨_, _, _, [], rfl⟩
  | scriptLength => exact ⟨_, _, _, [], rfl⟩
  | returned => exact ⟨_, _, _, [], rfl⟩

/-- The questions and the outcome of a call are those of the one rule that applies to the answers
of its collaborators. -/
theorem minusFee_follows_protocol (payment : TxOutput) (rate : Int) (source : InputSource σ)
    (change : ChangeSource) (operation : String) (sizeEstimator : SizeEstimator)
    (feeEstimator : FeeEstimator) (before : Activity σ) :
    let run := execute
      (minusFee payment rate source change operation sizeEstimator feeEstimator) before
    ∃ calls, run.2.calls = before.calls ++ calls ∧
      (∃ redeemSizes changeSize size,
        calls <+: questions payment rate redeemSizes changeSize size) ∧
      ∀ asked outcome,
        Concludes payment rate source change operation sizeEstimator feeEstimator before.source
          asked outcome ↔ asked = calls ∧ outcome = run.1 := by
  intro run
  obtain ⟨calls, outcome, concludes⟩ := exists_concludes payment rate source change operation
    sizeEstimator feeEstimator before.source
  obtain ⟨after, ran, asked, -⟩ := concludes.run
  have first : run = (outcome, after) := ran
  rw [first]
  refine ⟨calls, asked, concludes.prefix_questions, ?_⟩
  intro otherCalls otherOutcome
  constructor
  · intro other
    obtain ⟨otherAfter, otherRan, otherAsked, -⟩ := other.run
    obtain ⟨rfl, rfl⟩ := Prod.mk.inj (otherRan.symm.trans ran)
    exact ⟨List.append_cancel_left (otherAsked.symm.trans asked), rfl⟩
  · rintro ⟨rfl, rfl⟩
    exact concludes

/-- A change source that announces a size raises when it is asked for the script. -/
theorem minusFee_follows_protocol_script_raised :
    let change : ChangeSource := ⟨.ok 25, .error ⟨.reported (.runtime "locked"), ["op: key"]⟩⟩
    let payment : TxOutput := ⟨700, [0x51]⟩
    let run := execute (minusFee payment 1000 (.constant (.ok ⟨1000, [], [], rfl⟩)) change "pay"
      (fun _ _ => .ok 206) (fun _ _ => .ok 300)) (.start ())
    run.2.calls = questions payment 1000 [] 25 206 ∧
      run.1 = .error
        ⟨.reported (.runtime "locked"), ["op: key", "op: pay (change source)"]⟩ := by
  intro change payment run
  obtain ⟨calls, asked, -, only⟩ := minusFee_follows_protocol payment 1000
    (.constant (.ok ⟨1000, [], [], rfl⟩)) change "pay" (fun _ _ => .ok 206) (fun _ _ => .ok 300)
    (.start ())
  let quote : Quote := ⟨⟨1000, [], [], rfl⟩, 25, 206, 300⟩
  have quoted : Quoted payment 1000 (.constant (.ok quote.funds)) change (fun _ _ => .ok 206)
      (fun _ _ => .ok 300) () quote :=
    ⟨by decide, rfl, by decide, rfl, rfl, rfl⟩
  obtain ⟨ended, outcome⟩ := (only _ _).mp (.scriptRaised quoted (by decide) (by decide) rfl)
  exact ⟨asked.trans ended.symm, outcome.symm⟩

end

end Remit.Author
