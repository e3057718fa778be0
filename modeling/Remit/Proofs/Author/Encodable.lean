import Remit.Proofs.Author.FeeCover
import Remit.Proofs.Author.Session
import Remit.Proofs.Wire.RoundTrip

/-!
What a call over a cursor authors has an encoding, before it is signed and after. Payment and
change lie between nothing and what the inputs are worth, so their fields hold them.
-/

namespace Remit

open Wire (Script Transaction TxInput TxOutput)

namespace Wire.Transaction

/-- The encoding exists and is decoded to the same transaction. -/
def Survives (tx : Transaction) : Prop :=
  ∃ data, tx.encode = .ok data ∧ Transaction.ofBytes data = .ok tx

theorem Encodable.survives {tx : Transaction} (encodable : tx.Encodable) : tx.Survives := by
  obtain ⟨data, encoded, reads⟩ := Transaction.roundTrips encodable
  refine ⟨data, encoded, ?_⟩
  simpa using Transaction.ofBytes_of_reads reads []

theorem mem_inputs_signed {tx : Transaction} {scripts : List Script} {i : TxInput}
    (member : i ∈ (tx.signed scripts).inputs) :
    ∃ unsigned ∈ tx.inputs, ∃ script ∈ scripts, i = { unsigned with script := script } := by
  rw [signed, ← List.map_uncurry_zip_eq_zipWith, List.mem_map] at member
  obtain ⟨⟨unsigned, script⟩, pair, rfl⟩ := member
  obtain ⟨unsignedMember, scriptMember⟩ := List.of_mem_zip pair
  exact ⟨unsigned, unsignedMember, script, scriptMember, rfl⟩

theorem scripts_signed {tx : Transaction} {scripts : List Script}
    (length : scripts.length = tx.inputs.length) :
    (tx.signed scripts).inputs.map (·.script) = scripts := by
  rw [signed, ← List.map_uncurry_zip_eq_zipWith, List.map_map]
  exact List.map_snd_zip (Nat.le_of_eq length)

theorem Encodable.signed {tx : Transaction} {scripts : List Script} (encodable : tx.Encodable)
    (short : ∀ script ∈ scripts, script.length < 0x8000000000000000) :
    (tx.signed scripts).Encodable where
  version := encodable.version
  inputCount := by
    have count := encodable.inputCount
    simp only [Transaction.signed, List.length_zipWith]
    omega
  inputs i member := by
    obtain ⟨unsigned, unsignedMember, script, scriptMember, rfl⟩ := mem_inputs_signed member
    exact ⟨(encodable.inputs unsigned unsignedMember).sequence, short script scriptMember⟩
  outputCount := encodable.outputCount
  outputs := encodable.outputs
  locktime := encodable.locktime
  expiry := encodable.expiry

end Wire.Transaction

namespace Author

open Funding (Change Coin Cursor)

section

variable {payment : TxOutput} {rate : Int} {change : Change} {operation : String}
  {before : Activity Cursor} {draft : Draft}

theorem encodable_unsigned (coins : List Coin) :
    ∀ i ∈ unsigned (coins.map Coin.input), i.Encodable := by
  simp only [unsigned, List.map_map, List.forall_mem_map]
  intro coin _
  have sequence : (0 : Int) ≤ 0xFFFFFFFF ∧ (0xFFFFFFFF : Int) < 0x100000000 := by decide
  exact ⟨sequence, Nat.zero_lt_succ _⟩

section

variable
  (success : (execute (minusFee payment rate .ofCursor (.ofChange change) operation)
    before).1 = .ok draft)

include success

theorem outputs_within_inputs :
    ∀ out ∈ draft.transaction.outputs, 0 ≤ out.value ∧ out.value ≤ draft.totalInput := by
  obtain ⟨quote, output, quoted, paid, returns, rfl⟩ := minusFee_ok_iff.mp success
  have feeNonneg : 0 ≤ quote.fee := (policyFee_ok quoted.priced).1
  exact outputs_within quoted.nonnegative quoted.reached feeNonneg paid returns

theorem encodable_transaction (total : draft.totalInput < 0x8000000000000000)
    (count : draft.transaction.inputs.length < 0x8000000000000000)
    (short : ∀ out ∈ draft.transaction.outputs, out.script.length < 0x8000000000000000) :
    draft.transaction.Encodable := by
  have within := outputs_within_inputs success
  have outputs : ∀ out ∈ draft.transaction.outputs, out.Encodable := by
    intro out member
    obtain ⟨nonnegative, le⟩ := within out member
    exact ⟨by omega, short out member⟩
  have version : -0x80000000 ≤ Wire.defaultVersion ∧ Wire.defaultVersion < 0x80000000 := by
    decide
  have zero : (0 : Int) ≤ 0 ∧ (0 : Int) < 0x100000000 := by decide
  obtain ⟨-, -, -, -, rfl⟩ := minusFee_cursor_ok success
  refine
    { version := version
      inputCount := count
      inputs := encodable_unsigned _
      outputCount := ?outputCount
      outputs := outputs
      locktime := zero
      expiry := zero }
  case outputCount =>
    rw [outputs_assemble]
    cases returned payment _ change <;> simp

end

/-- What a call authors can be sent, as it is and with any scripts that unlock its inputs. -/
theorem authored_survives {request : Request}
    (success : (execute request.run before).1 = .ok draft)
    (total : draft.totalInput < 0x8000000000000000)
    (count : draft.transaction.inputs.length < 0x8000000000000000)
    (short : ∀ out ∈ draft.transaction.outputs, out.script.length < 0x8000000000000000) :
    (∀ out ∈ draft.transaction.outputs, 0 ≤ out.value ∧ out.value ≤ draft.totalInput) ∧
    draft.transaction.Survives ∧
    ∀ scripts, scripts.length = draft.transaction.inputs.length →
      (∀ script ∈ scripts, script.length < 0x8000000000000000) →
      (draft.transaction.signed scripts).inputs.map (·.script) = scripts ∧
        (draft.transaction.signed scripts).Survives := by
  rw [request.outcome_run] at success
  have encodable := encodable_transaction success total count short
  refine ⟨outputs_within_inputs success, encodable.survives, ?_⟩
  intro scripts length scriptsShort
  exact ⟨Wire.Transaction.scripts_signed length, (encodable.signed scriptsShort).survives⟩

/-- The largest total that a field can hold, most of which goes back. -/
theorem authored_survives_largest_total :
    let coin : Coin := ⟨⟨⟨List.replicate 32 7, List.length_replicate⟩, 0⟩, 0x7FFFFFFFFFFFFFFF, 107⟩
    let payment : TxOutput := ⟨1000, [0x51]⟩
    let change : Change := ⟨[0x52, 0x53], 0, by decide⟩
    let draft := assemble ((Cursor.ofPool [coin]).advance 1000).funds ⟨817, [0x51]⟩
      (some ⟨0x7FFFFFFFFFFFFC17, [0x52, 0x53]⟩) 183
    let request : Request := .service {} payment none change
    (execute request.run (.start (.ofPool [coin]))).1 = .ok draft ∧
      draft.totalInput < 0x8000000000000000 ∧ draft.transaction.Survives ∧
      (draft.transaction.signed [List.replicate 300 1]).Survives := by
  intro coin payment change draft request
  have success : (execute request.run (.start (.ofPool [coin]))).1 = .ok draft := by
    decide +kernel
  have total : draft.totalInput < 0x8000000000000000 := by decide +kernel
  have count : draft.transaction.inputs.length = 1 := by decide +kernel
  obtain ⟨-, survives, signed⟩ := authored_survives success total (by omega) (by decide +kernel)
  exact ⟨success, total, survives,
    (signed [List.replicate 300 1] count.symm (by decide +kernel)).2⟩

end

end Author

end Remit
