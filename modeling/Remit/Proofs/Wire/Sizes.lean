import Remit.Proofs.Policy.Size
import Remit.Proofs.Wire.Layout

/-!
Which items have an encoding, and how long it is. The encoder succeeds on the shortest layout and
nothing else, so it fails where an integer is out of the range of its field and only there.
-/

namespace Remit.Wire

open CompactSize (Shortest)

/-- A failure can only be that of an integer outside the range of its field. -/
def RangeOnly {α : Type} (outcome : Except EncodeError α) : Prop :=
  ∀ error, outcome = .error error → error = .fieldRange

namespace RangeOnly

variable {α β : Type} {first : Except EncodeError α}

theorem pure (value : α) : RangeOnly (Pure.pure value) := by
  intro error failed
  cases failed

theorem bind {next : α → Except EncodeError β} (firstRange : RangeOnly first)
    (nextRange : ∀ value, RangeOnly (next value)) : RangeOnly (first >>= next) := by
  cases first with
  | error error =>
      cases firstRange error rfl
      intro error failed
      cases failed
      rfl
  | ok value => exact nextRange value

theorem mapM {step : α → Except EncodeError β} (each : ∀ value, RangeOnly (step value))
    (values : List α) : RangeOnly (values.mapM step) := by
  induction values with
  | nil => exact pure []
  | cons value rest induction =>
      rw [List.mapM_cons]
      exact (each value).bind fun result => induction.bind fun results => pure (result :: results)

theorem ite {condition : Prop} [Decidable condition] (value : α) :
    RangeOnly (if condition then .ok value else .error .fieldRange) := by
  split
  · exact pure value
  · intro error failed
    cases failed
    rfl

end RangeOnly

theorem rangeOnly_count (n : Nat) : RangeOnly (CompactSize.encode n) := by
  unfold CompactSize.encode
  rw [if_neg (Int.not_lt.mpr (Int.natCast_nonneg n))]
  exact .ite _

theorem rangeOnly_script (script : Script) : RangeOnly (encodeScript script) :=
  (rangeOnly_count _).bind fun _ => .pure _

theorem rangeOnly_list {α : Type} {encode : α → Except EncodeError Bytes}
    (each : ∀ value, RangeOnly (encode value)) (values : List α) :
    RangeOnly (encodeList encode values) :=
  (rangeOnly_count _).bind fun _ => (RangeOnly.mapM each values).bind fun _ => .pure _

theorem TxInput.rangeOnly (i : TxInput) : RangeOnly i.encode :=
  (rangeOnly_script _).bind fun _ => (RangeOnly.ite _).bind fun _ => .pure _

theorem TxOutput.rangeOnly (o : TxOutput) : RangeOnly o.encode :=
  (RangeOnly.ite _).bind fun _ => (rangeOnly_script _).bind fun _ => .pure _

theorem Transaction.rangeOnly (tx : Transaction) : RangeOnly tx.encode :=
  (RangeOnly.ite _).bind fun _ => (rangeOnly_list TxInput.rangeOnly _).bind fun _ =>
    (rangeOnly_list TxOutput.rangeOnly _).bind fun _ => (RangeOnly.ite _).bind fun _ =>
      (RangeOnly.ite _).bind fun _ => .pure _

section

variable {i : TxInput} {o : TxOutput} {tx : Transaction} {bytes : Bytes}

theorem encodeUnsigned_eq_ok_iff {width : Nat} {n : Int} :
    encodeUnsigned width n = .ok bytes ↔
      LittleEndian.FitsUnsigned width n ∧ bytes = LittleEndian.ofInt width n := by
  unfold encodeUnsigned
  split <;> simp [*, eq_comm]

theorem encodeSigned_eq_ok_iff {width : Nat} {n : Int} :
    encodeSigned width n = .ok bytes ↔
      LittleEndian.FitsSigned width n ∧ bytes = LittleEndian.ofInt width n := by
  unfold encodeSigned
  split <;> simp [*, eq_comm]

theorem CompactSize.encode_eq_ok_iff {n : Nat} :
    CompactSize.encode n = .ok bytes ↔ Shortest n bytes := by
  constructor
  · intro encoded
    by_cases small : n < 0x10000000000000000
    · rw [CompactSize.encode_natCast small] at encoded
      cases encoded
      exact CompactSize.shortest_bytes small
    · have large : ¬ (n : Int) ≤ 0xFFFFFFFFFFFFFFFF := by omega
      rw [CompactSize.encode, if_neg (Int.not_lt.mpr (Int.natCast_nonneg n)), if_neg large]
        at encoded
      cases encoded
  · intro shortest
    rw [shortest.eq_bytes]
    exact CompactSize.encode_natCast shortest.spells.small

theorem encodeScript_eq_ok_iff {script : Script} :
    encodeScript script = .ok bytes ↔
      ∃ length, Shortest script.length length ∧ bytes = length ++ script := by
  unfold encodeScript
  rw [bind_eq_ok]
  constructor
  · rintro ⟨length, encoded, joined⟩
    cases joined
    exact ⟨length, CompactSize.encode_eq_ok_iff.mp encoded, rfl⟩
  · rintro ⟨length, shortest, rfl⟩
    exact ⟨length, CompactSize.encode_eq_ok_iff.mpr shortest, rfl⟩

theorem TxInput.encode_eq_ok_iff : i.encode = .ok bytes ↔ i.Layout Shortest bytes := by
  constructor
  · intro encoded
    simp only [TxInput.encode, bind_eq_ok, encodeScript_eq_ok_iff, encodeUnsigned_eq_ok_iff]
      at encoded
    obtain ⟨_, ⟨length, shortest, rfl⟩, _, ⟨sequence, rfl⟩, encoded⟩ := encoded
    cases encoded
    rw [List.append_assoc]
    exact .fields shortest sequence
  · exact TxInput.Layout.encode_eq

theorem TxOutput.encode_eq_ok_iff : o.encode = .ok bytes ↔ o.Layout Shortest bytes := by
  constructor
  · intro encoded
    simp only [TxOutput.encode, bind_eq_ok, encodeScript_eq_ok_iff, encodeSigned_eq_ok_iff]
      at encoded
    obtain ⟨_, ⟨value, rfl⟩, _, ⟨length, shortest, rfl⟩, encoded⟩ := encoded
    cases encoded
    exact .fields value shortest
  · exact TxOutput.Layout.encode_eq

theorem encodeList_eq_ok {α : Type} {encode : α → Except EncodeError Bytes}
    {item : α → Bytes → Prop} {values : List α}
    (each : ∀ value part, encode value = .ok part → item value part)
    (encoded : encodeList encode values = .ok bytes) : ListLayout Shortest item values bytes := by
  simp only [encodeList, bind_eq_ok, CompactSize.encode_eq_ok_iff, mapM_eq_ok_iff] at encoded
  obtain ⟨length, shortest, parts, laid, encoded⟩ := encoded
  cases encoded
  exact .items shortest (laid.imp each)

theorem Transaction.encode_eq_ok_iff : tx.encode = .ok bytes ↔ tx.Layout Shortest bytes := by
  constructor
  · intro encoded
    simp only [Transaction.encode, bind_eq_ok, encodeSigned_eq_ok_iff, encodeUnsigned_eq_ok_iff]
      at encoded
    obtain ⟨_, ⟨version, rfl⟩, inputs, inputsEncoded, outputs, outputsEncoded, _,
      ⟨locktime, rfl⟩, _, ⟨expiry, rfl⟩, encoded⟩ := encoded
    cases encoded
    simp only [List.append_assoc]
    exact .fields version
      (encodeList_eq_ok (fun _ _ => TxInput.encode_eq_ok_iff.mp) inputsEncoded)
      (encodeList_eq_ok (fun _ _ => TxOutput.encode_eq_ok_iff.mp) outputsEncoded)
      locktime expiry
  · exact Transaction.Layout.encode_eq

end

structure Transaction.Counted (tx : Transaction) : Prop where
  inputCount : tx.inputs.length < 0x10000000000000000
  inputs : ∀ i ∈ tx.inputs, i.script.length < 0x10000000000000000
  outputCount : tx.outputs.length < 0x10000000000000000
  outputs : ∀ o ∈ tx.outputs, o.script.length < 0x10000000000000000

/-- The size of an item, its estimate and its encoding tell the same, and the encoding fails on
certain fields only. -/
structure SizesAgree (size : Nat) (estimate : Except Policy.SizeError Int)
    (encoded : Except EncodeError Bytes) (outOfRange : Prop) : Prop where
  estimated : estimate = .ok size
  fails : encoded = .error .fieldRange ↔ outOfRange
  succeeds : ¬ outOfRange → ∃ bytes, encoded = .ok bytes ∧ bytes.length = size

section

variable {i : TxInput} {o : TxOutput} {tx : Transaction}

/-- It is enough to know the layouts: with one the encoding has its length, without any it fails. -/
theorem sizesAgree_of_layout {size : Nat} {estimate : Except Policy.SizeError Int}
    {encoded : Except EncodeError Bytes} {outOfRange : Prop} {layout : Bytes → Prop}
    (estimated : estimate = .ok size) (rangeOnly : RangeOnly encoded)
    (encodes : ∀ bytes, encoded = .ok bytes ↔ layout bytes)
    (length : ∀ bytes, layout bytes → bytes.length = size)
    (laid : (∃ bytes, layout bytes) ↔ ¬ outOfRange) :
    SizesAgree size estimate encoded outOfRange := by
  refine { estimated := estimated, fails := ⟨?failed, ?outOfRange⟩, succeeds := ?succeeds }
  case failed =>
    intro failed
    by_contra inRange
    obtain ⟨bytes, layout⟩ := laid.mpr inRange
    rw [(encodes bytes).mpr layout] at failed
    cases failed
  case outOfRange =>
    intro outOfRange
    cases encoded with
    | error error => rw [rangeOnly error rfl]
    | ok bytes => exact absurd outOfRange (laid.mp ⟨bytes, (encodes bytes).mp rfl⟩)
  case succeeds =>
    intro inRange
    obtain ⟨bytes, layout⟩ := laid.mpr inRange
    exact ⟨bytes, (encodes bytes).mpr layout, length bytes layout⟩

theorem TxInput.exists_layout_iff (small : i.script.length < 0x10000000000000000) :
    (∃ bytes, i.Layout Shortest bytes) ↔ 0 ≤ i.sequence ∧ i.sequence < 0x100000000 := by
  constructor
  · rintro ⟨_, _, sequence⟩
    exact LittleEndian.fitsUnsigned_four.mp sequence
  · intro sequence
    exact ⟨_, .fields (CompactSize.shortest_bytes small)
      (LittleEndian.fitsUnsigned_four.mpr sequence)⟩

theorem TxOutput.exists_layout_iff (small : o.script.length < 0x10000000000000000) :
    (∃ bytes, o.Layout Shortest bytes) ↔
      -0x8000000000000000 ≤ o.value ∧ o.value < 0x8000000000000000 := by
  constructor
  · rintro ⟨_, value, _⟩
    exact LittleEndian.fitsSigned_eight.mp value
  · intro value
    exact ⟨_, .fields (LittleEndian.fitsSigned_eight.mpr value)
      (CompactSize.shortest_bytes small)⟩

theorem Transaction.exists_layout_iff (counted : tx.Counted) :
    (∃ bytes, tx.Layout Shortest bytes) ↔
      (-0x80000000 ≤ tx.version ∧ tx.version < 0x80000000) ∧
      (0 ≤ tx.locktime ∧ tx.locktime < 0x100000000) ∧
      (0 ≤ tx.expiry ∧ tx.expiry < 0x100000000) ∧
      (∀ i ∈ tx.inputs, 0 ≤ i.sequence ∧ i.sequence < 0x100000000) ∧
      ∀ o ∈ tx.outputs, -0x8000000000000000 ≤ o.value ∧ o.value < 0x8000000000000000 := by
  constructor
  · rintro ⟨_, version, inputs, outputs, locktime, expiry⟩
    refine ⟨LittleEndian.fitsSigned_four.mp version, LittleEndian.fitsUnsigned_four.mp locktime,
      LittleEndian.fitsUnsigned_four.mp expiry, ?_, ?_⟩
    · intro i member
      obtain ⟨part, laid, -⟩ := inputs.exists_part member
      exact (TxInput.exists_layout_iff (counted.inputs i member)).mp ⟨part, laid⟩
    · intro o member
      obtain ⟨part, laid, -⟩ := outputs.exists_part member
      exact (TxOutput.exists_layout_iff (counted.outputs o member)).mp ⟨part, laid⟩
  · rintro ⟨version, locktime, expiry, sequences, values⟩
    obtain ⟨_, inputs⟩ := ListLayout.exists_shortest counted.inputCount fun i member =>
      (TxInput.exists_layout_iff (counted.inputs i member)).mpr (sequences i member)
    obtain ⟨_, outputs⟩ := ListLayout.exists_shortest counted.outputCount fun o member =>
      (TxOutput.exists_layout_iff (counted.outputs o member)).mpr (values o member)
    exact ⟨_, .fields (LittleEndian.fitsSigned_four.mpr version) inputs outputs
      (LittleEndian.fitsUnsigned_four.mpr locktime) (LittleEndian.fitsUnsigned_four.mpr expiry)⟩

theorem Transaction.transactionSize_eq (tx : Transaction) :
    Policy.transactionSize (tx.inputs.map fun i => (i.script.length : Int))
      (tx.outputs.map fun o => (o.script.length : Int)) = .ok tx.size := by
  refine Policy.transactionSize_eq_ok_iff.mpr ⟨?_, ?_, tx.size_eq_estimate⟩
  · rw [List.forall_mem_map]
    exact fun i _ => Int.natCast_nonneg _
  · rw [List.forall_mem_map]
    exact fun o _ => Int.natCast_nonneg _

end

/-- The three accounts of size agree on every input, output and transaction, and an encoding is
missing just where a number is outside the range of its field. -/
theorem sizes_agree :
    (∀ tx : Transaction, tx.Counted →
      SizesAgree tx.size
        (Policy.transactionSize (tx.inputs.map fun i => (i.script.length : Int))
          (tx.outputs.map fun o => (o.script.length : Int)))
        tx.encode
        ((tx.version < -0x80000000 ∨ 0x80000000 ≤ tx.version) ∨
          (tx.locktime < 0 ∨ 0x100000000 ≤ tx.locktime) ∨
          (tx.expiry < 0 ∨ 0x100000000 ≤ tx.expiry) ∨
          (∃ i ∈ tx.inputs, i.sequence < 0 ∨ 0x100000000 ≤ i.sequence) ∨
          ∃ o ∈ tx.outputs, o.value < -0x8000000000000000 ∨ 0x8000000000000000 ≤ o.value)) ∧
    (∀ i : TxInput, i.script.length < 0x10000000000000000 →
      SizesAgree i.size (.ok (Policy.inputSize i.script.length)) i.encode
        (i.sequence < 0 ∨ 0x100000000 ≤ i.sequence)) ∧
    ∀ o : TxOutput, o.script.length < 0x10000000000000000 →
      SizesAgree o.size (.ok (Policy.outputSize o.script.length)) o.encode
        (o.value < -0x8000000000000000 ∨ 0x8000000000000000 ≤ o.value) := by
  refine ⟨?_, ?_, ?_⟩
  · intro tx counted
    refine sizesAgree_of_layout tx.transactionSize_eq tx.rangeOnly
      (fun _ => Transaction.encode_eq_ok_iff) (fun _ => Transaction.Layout.length_eq) ?_
    rw [Transaction.exists_layout_iff counted]
    simp only [not_or, not_exists, not_and, Int.not_lt, Int.not_le]
  · intro i small
    refine sizesAgree_of_layout (congrArg Except.ok i.size_eq_inputSize.symm) i.rangeOnly
      (fun _ => TxInput.encode_eq_ok_iff) (fun _ => TxInput.Layout.length_eq) ?_
    rw [TxInput.exists_layout_iff small]
    simp only [not_or, Int.not_lt, Int.not_le]
  · intro o small
    refine sizesAgree_of_layout (congrArg Except.ok o.size_eq_outputSize.symm) o.rangeOnly
      (fun _ => TxOutput.encode_eq_ok_iff) (fun _ => TxOutput.Layout.length_eq) ?_
    rw [TxOutput.exists_layout_iff small]
    simp only [not_or, Int.not_lt, Int.not_le]

/-- An output that no field can hold, and the same transaction with one that fits. -/
theorem sizes_agree_two_outputs :
    let i : TxInput := { outPoint := ⟨⟨List.replicate 32 7, rfl⟩, 1⟩, script := [0x51] }
    let wide : Transaction :=
      { inputs := [i], outputs := [⟨5, [0x51, 0x52]⟩, ⟨0x8000000000000000, []⟩] }
    let tx : Transaction := { wide with outputs := [⟨5, [0x51, 0x52]⟩, ⟨-1, []⟩] }
    wide.Counted ∧ tx.Counted ∧ wide.encode = .error .fieldRange ∧
      Policy.transactionSize [1] [2, 0] = .ok wide.size ∧
      ∃ bytes, tx.encode = .ok bytes ∧ bytes.length = 76 := by
  intro i wide tx
  have counted : wide.Counted := ⟨by decide, by decide, by decide, by decide⟩
  have txCounted : tx.Counted := ⟨by decide, by decide, by decide, by decide⟩
  obtain ⟨agree, -, -⟩ := sizes_agree
  exact ⟨counted, txCounted, (agree wide counted).fails.mpr (by decide),
    (agree wide counted).estimated, (agree tx txCounted).succeeds (by decide)⟩

end Remit.Wire
