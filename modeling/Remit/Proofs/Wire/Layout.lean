import Remit.Proofs.Execution
import Remit.Proofs.Wire.Spelling
import Remit.Wire.Encoding

/-!
The documented layout of inputs, outputs and transactions, over any choice of forms for the counts
in it. With the shortest forms it is what the encoder writes, and every other layout is longer.
-/

namespace Remit.Wire

open CompactSize (Shortest Spells)

section

variable (count : Nat → Bytes → Prop)

inductive TxInput.Layout (i : TxInput) : Bytes → Prop
  | fields {length : Bytes} (spelled : count i.script.length length)
      (sequence : LittleEndian.FitsUnsigned 4 i.sequence) :
      Layout i
        (i.outPoint.bytes ++ (length ++ i.script ++ LittleEndian.ofInt 4 i.sequence))

inductive TxOutput.Layout (o : TxOutput) : Bytes → Prop
  | fields {length : Bytes} (value : LittleEndian.FitsSigned 8 o.value)
      (spelled : count o.script.length length) :
      Layout o (LittleEndian.ofInt 8 o.value ++ (length ++ o.script))

inductive ListLayout {α : Type} (item : α → Bytes → Prop) (values : List α) : Bytes → Prop
  | items {length : Bytes} {parts : List Bytes} (spelled : count values.length length)
      (each : List.Forall₂ item values parts) : ListLayout item values (length ++ parts.flatten)

inductive Transaction.Layout (tx : Transaction) : Bytes → Prop
  | fields {inputs outputs : Bytes} (version : LittleEndian.FitsSigned 4 tx.version)
      (inputsLaid : ListLayout count (TxInput.Layout count) tx.inputs inputs)
      (outputsLaid : ListLayout count (TxOutput.Layout count) tx.outputs outputs)
      (locktime : LittleEndian.FitsUnsigned 4 tx.locktime)
      (expiry : LittleEndian.FitsUnsigned 4 tx.expiry) :
      Layout tx
        (LittleEndian.ofInt 4 tx.version ++ (inputs ++ (outputs ++
          (LittleEndian.ofInt 4 tx.locktime ++ LittleEndian.ofInt 4 tx.expiry))))

end

section

variable {α : Type} {count wider : Nat → Bytes → Prop} {item least : α → Bytes → Prop}
  {values : List α} {parts : List Bytes} {bytes : Bytes} {i : TxInput} {o : TxOutput}
  {tx : Transaction}

theorem TxInput.Layout.mono (laid : i.Layout count bytes)
    (widen : ∀ n form, count n form → wider n form) : i.Layout wider bytes := by
  obtain ⟨spelled, sequence⟩ := laid
  exact .fields (widen _ _ spelled) sequence

theorem TxOutput.Layout.mono (laid : o.Layout count bytes)
    (widen : ∀ n form, count n form → wider n form) : o.Layout wider bytes := by
  obtain ⟨value, spelled⟩ := laid
  exact .fields value (widen _ _ spelled)

theorem ListLayout.mono (laid : ListLayout count item values bytes)
    (widen : ∀ n form, count n form → wider n form)
    (each : ∀ value part, item value part → least value part) :
    ListLayout wider least values bytes := by
  obtain ⟨spelled, items⟩ := laid
  exact .items (widen _ _ spelled) (items.imp each)

theorem Transaction.Layout.mono (laid : tx.Layout count bytes)
    (widen : ∀ n form, count n form → wider n form) : tx.Layout wider bytes := by
  obtain ⟨version, inputs, outputs, locktime, expiry⟩ := laid
  exact .fields version (inputs.mono widen fun _ _ laid => laid.mono widen)
    (outputs.mono widen fun _ _ laid => laid.mono widen) locktime expiry

theorem forall₂_atLeast (each : List.Forall₂ item values parts)
    (bound : ∀ value part, item value part → AtLeast (least value) part) :
    AtLeast (fun bytes => ∃ parts, List.Forall₂ least values parts ∧ parts.flatten = bytes)
      parts.flatten := by
  induction each with
  | nil => exact .exactly ⟨[], .nil, rfl⟩
  | cons head _ induction =>
      refine (bound _ _ head).combine induction (· ++ ·) (by simp) ?_
      rintro front _ first ⟨rest, others, rfl⟩
      exact ⟨front :: rest, .cons first others, rfl⟩

theorem ListLayout.atLeast (laid : ListLayout Spells item values bytes)
    (bound : ∀ value part, item value part → AtLeast (least value) part) :
    AtLeast (ListLayout Shortest least values) bytes := by
  obtain ⟨spelled, each⟩ := laid
  refine spelled.atLeast.combine (forall₂_atLeast each bound) (· ++ ·) (by simp) ?_
  rintro length _ shortest ⟨parts, each, rfl⟩
  exact .items shortest each

theorem TxInput.Layout.atLeast (laid : i.Layout Spells bytes) :
    AtLeast (i.Layout Shortest) bytes := by
  obtain ⟨spelled, sequence⟩ := laid
  refine spelled.atLeast.combine (.exactly rfl)
    (fun length script =>
      i.outPoint.bytes ++ (length ++ script ++ LittleEndian.ofInt 4 i.sequence)) ?_ ?_
  · intro length script longLength longScript longer
    simp only [List.length_append]
    omega
  · rintro length script shortest rfl
    exact .fields shortest sequence

theorem TxOutput.Layout.atLeast (laid : o.Layout Spells bytes) :
    AtLeast (o.Layout Shortest) bytes := by
  obtain ⟨value, spelled⟩ := laid
  refine spelled.atLeast.combine (.exactly rfl)
    (fun length script => LittleEndian.ofInt 8 o.value ++ (length ++ script)) ?_ ?_
  · intro length script longLength longScript longer
    simp only [List.length_append]
    omega
  · rintro length script shortest rfl
    exact .fields value shortest

theorem Transaction.Layout.atLeast (laid : tx.Layout Spells bytes) :
    AtLeast (tx.Layout Shortest) bytes := by
  obtain ⟨version, inputs, outputs, locktime, expiry⟩ := laid
  refine (inputs.atLeast fun _ _ => TxInput.Layout.atLeast).combine
    (outputs.atLeast fun _ _ => TxOutput.Layout.atLeast)
    (fun inputs outputs => LittleEndian.ofInt 4 tx.version ++ (inputs ++ (outputs ++
      (LittleEndian.ofInt 4 tx.locktime ++ LittleEndian.ofInt 4 tx.expiry)))) ?_ ?_
  · intro inputs outputs longInputs longOutputs longer
    simp only [List.length_append]
    omega
  · intro inputs outputs inputsLaid outputsLaid
    exact .fields version inputsLaid outputsLaid locktime expiry

theorem exists_forall₂ (each : ∀ value ∈ values, ∃ part, item value part) :
    ∃ parts, List.Forall₂ item values parts := by
  induction values with
  | nil => exact ⟨[], .nil⟩
  | cons value rest induction =>
      rw [List.forall_mem_cons] at each
      obtain ⟨part, laid⟩ := each.1
      obtain ⟨parts, restLaid⟩ := induction each.2
      exact ⟨part :: parts, .cons laid restLaid⟩

theorem ListLayout.exists_shortest (small : values.length < 0x10000000000000000)
    (each : ∀ value ∈ values, ∃ part, item value part) :
    ∃ bytes, ListLayout Shortest item values bytes := by
  obtain ⟨parts, laid⟩ := exists_forall₂ each
  exact ⟨_, .items (CompactSize.shortest_bytes small) laid⟩

theorem ListLayout.exists_part (laid : ListLayout count item values bytes) {value : α}
    (member : value ∈ values) : ∃ part, item value part ∧ part.length ≤ bytes.length := by
  obtain ⟨-, each⟩ := laid
  rw [List.length_append]
  induction each with
  | nil => cases member
  | @cons first part _ _ head _ induction =>
      rw [List.flatten_cons, List.length_append]
      rcases List.mem_cons.mp member with rfl | member
      · exact ⟨part, head, by omega⟩
      · obtain ⟨part, found, le⟩ := induction member
        exact ⟨part, found, by omega⟩

theorem length_flatten_of_forall₂ {size : α → Nat} (each : List.Forall₂ item values parts)
    (length : ∀ value part, item value part → part.length = size value) :
    parts.flatten.length = sumNat (values.map size) := by
  induction each with
  | nil => rfl
  | cons head _ induction =>
      rw [List.flatten_cons, List.length_append, length _ _ head, induction, List.map_cons,
        sumNat_cons]

theorem ListLayout.length_eq {size : α → Nat} (laid : ListLayout Shortest item values bytes)
    (length : ∀ value part, item value part → part.length = size value) :
    bytes.length =
      (CompactSize.bytes values.length).length + sumNat (values.map size) := by
  obtain ⟨spelled, each⟩ := laid
  rw [List.length_append, spelled.eq_bytes, length_flatten_of_forall₂ each length]

theorem OutPoint.length_bytes (p : OutPoint) : p.bytes.length = 36 := by
  rw [OutPoint.bytes, List.length_append, p.txId.length_eq, LittleEndian.length_ofNat]

theorem TxInput.Layout.length_eq (laid : i.Layout Shortest bytes) : bytes.length = i.size := by
  obtain ⟨spelled, sequence⟩ := laid
  simp only [List.length_append, LittleEndian.length_ofInt, OutPoint.length_bytes,
    spelled.eq_bytes]
  unfold TxInput.size
  omega

theorem TxOutput.Layout.length_eq (laid : o.Layout Shortest bytes) : bytes.length = o.size := by
  obtain ⟨value, spelled⟩ := laid
  simp only [List.length_append, LittleEndian.length_ofInt, spelled.eq_bytes]
  unfold TxOutput.size
  omega

theorem Transaction.Layout.length_eq (laid : tx.Layout Shortest bytes) :
    bytes.length = tx.size := by
  obtain ⟨version, inputs, outputs, locktime, expiry⟩ := laid
  simp only [List.length_append, LittleEndian.length_ofInt,
    inputs.length_eq fun _ _ => TxInput.Layout.length_eq,
    outputs.length_eq fun _ _ => TxOutput.Layout.length_eq]
  unfold Transaction.size
  omega

theorem encodeScript_eq {script : Script} (small : script.length < 0x10000000000000000) :
    encodeScript script = .ok (CompactSize.bytes script.length ++ script) := by
  rw [encodeScript, CompactSize.encode_natCast small]
  rfl

theorem TxInput.Layout.encode_eq (laid : i.Layout Shortest bytes) : i.encode = .ok bytes := by
  obtain ⟨spelled, sequence⟩ := laid
  rw [TxInput.encode, encodeScript_eq spelled.spells.small, encodeUnsigned_of_fits sequence,
    spelled.eq_bytes, ← List.append_assoc]
  rfl

theorem TxOutput.Layout.encode_eq (laid : o.Layout Shortest bytes) : o.encode = .ok bytes := by
  obtain ⟨value, spelled⟩ := laid
  rw [TxOutput.encode, encodeScript_eq spelled.spells.small, encodeSigned_of_fits value,
    spelled.eq_bytes]
  rfl

theorem ListLayout.encode_eq {encode : α → Except EncodeError Bytes}
    (laid : ListLayout Shortest item values bytes)
    (encodes : ∀ value part, item value part → encode value = .ok part) :
    encodeList encode values = .ok bytes := by
  obtain ⟨spelled, each⟩ := laid
  rw [encodeList, CompactSize.encode_natCast spelled.spells.small,
    mapM_eq_ok_iff.mpr (each.imp encodes), spelled.eq_bytes]
  rfl

theorem Transaction.Layout.encode_eq (laid : tx.Layout Shortest bytes) :
    tx.encode = .ok bytes := by
  obtain ⟨version, inputs, outputs, locktime, expiry⟩ := laid
  rw [Transaction.encode, encodeSigned_of_fits version,
    inputs.encode_eq fun _ _ => TxInput.Layout.encode_eq,
    outputs.encode_eq fun _ _ => TxOutput.Layout.encode_eq,
    encodeUnsigned_of_fits locktime, encodeUnsigned_of_fits expiry]
  simp only [← List.append_assoc]
  rfl

end

end Remit.Wire
