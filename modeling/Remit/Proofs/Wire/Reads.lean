import Remit.Proofs.Wire.Layout
import Remit.Wire.Decoding

/-!
Readers and the bytes that they take. `Reads reader bytes value` says that whatever follows these
bytes in a stream, the reader takes them, no more and no fewer, and gives the value. It composes,
so each reader has one statement about it, and the readers of structures take every layout of them.
-/

namespace Remit.Wire

open CompactSize (Shortest Spells)

def Reads {α : Type} (reader : Read α) (bytes : Bytes) (value : α) : Prop :=
  ∀ rest position,
    execute reader ⟨bytes ++ rest, position⟩ = (.ok value, ⟨rest, position + bytes.length⟩)

namespace Reads

variable {α β : Type}

theorem pure (value : α) : Reads (Pure.pure value : Read α) [] value := by
  intro rest position
  rfl

theorem bind {reader : Read α} {next : α → Read β} {front back : Bytes} {value : α}
    {result : β} (first : Reads reader front value) (second : Reads (next value) back result) :
    Reads (reader >>= next) (front ++ back) result := by
  intro rest position
  rw [List.append_assoc, execute_bind_ok (first (back ++ rest) position), second, Nat.add_assoc,
    List.length_append]

theorem map {reader : Read α} {bytes : Bytes} {value : α} (reads : Reads reader bytes value)
    (change : α → β) : Reads (change <$> reader) bytes (change value) := by
  intro rest position
  rw [execute_map, reads]
  rfl

theorem bind_pure {reader : Read α} {next : α → β} {bytes : Bytes} {value : α} {result : β}
    (reads : Reads reader bytes value) (equal : next value = result) :
    Reads (reader >>= fun value => Pure.pure (next value)) bytes result := by
  intro rest position
  rw [execute_bind_ok (reads rest position), equal]
  rfl

theorem many {item : Read α} {values : List α} {parts : List Bytes}
    (each : List.Forall₂ (fun value part => Reads item part value) values parts) :
    Reads (readMany item values.length) parts.flatten values := by
  induction each with
  | nil => exact pure []
  | cons first _ induction =>
      rw [List.flatten_cons]
      exact first.bind (induction.bind_pure rfl)

end Reads

theorem reads_bytes {bytes : Bytes} (short : bytes.length < lengthLimit) :
    Reads (readBytes bytes.length) bytes bytes := by
  intro rest position
  have limit : ¬ lengthLimit ≤ bytes.length := Nat.not_le.mpr short
  simp [readBytes, limit, execute_bind, execute_map, Except.map]

theorem reads_width {width : Nat} {bytes : Bytes} (length : bytes.length = width)
    (short : width < lengthLimit) : Reads (readBytes width) bytes bytes := by
  subst length
  exact reads_bytes short

theorem reads_unsigned {width n : Nat} (short : width < lengthLimit)
    (fits : n < LittleEndian.range width) :
    Reads (readUnsigned width) (LittleEndian.ofNat width n) n := by
  have reads := (reads_width (LittleEndian.length_ofNat width n) short).map
    LittleEndian.toNat
  rwa [LittleEndian.toNat_ofNat, Nat.mod_eq_of_lt fits] at reads

theorem reads_field {width : Nat} {i : Int} (short : width < lengthLimit)
    (fits : LittleEndian.FitsUnsigned width i) :
    Reads (readUnsigned width) (LittleEndian.ofInt width i) i.toNat := by
  have reads := (reads_width (LittleEndian.length_ofInt width i) short).map
    LittleEndian.toNat
  have value : LittleEndian.toNat (LittleEndian.ofInt width i) = i.toNat := by
    have value := LittleEndian.toNat_ofInt fits
    omega
  rwa [value] at reads

theorem reads_signed {width : Nat} {i : Int} (short : width < lengthLimit)
    (fits : LittleEndian.FitsSigned width i) :
    Reads (readSigned width) (LittleEndian.ofInt width i) i := by
  have reads := (reads_width (LittleEndian.length_ofInt width i) short).map
    LittleEndian.toInt
  rwa [LittleEndian.toInt_ofInt fits] at reads

def markedCount (marker : UInt8) : Read Nat :=
  if marker < 0xFD then return marker.toNat
  else if marker = 0xFD then readUnsigned 2
  else if marker = 0xFE then readUnsigned 4
  else readUnsigned 8

theorem execute_readCount_cons (marker : UInt8) (rest : Bytes) (position : Nat) :
    execute readCount ⟨marker :: rest, position⟩ =
      execute (markedCount marker) ⟨rest, position + 1⟩ := rfl

theorem reads_count_cons {marker : UInt8} {payload : Bytes} {n : Nat}
    (reads : Reads (markedCount marker) payload n) :
    Reads readCount (marker :: payload) n := by
  intro rest position
  rw [List.cons_append, execute_readCount_cons, reads, List.length_cons, Nat.add_assoc,
    Nat.add_comm 1]

theorem CompactSize.Spells.reads {n : Nat} {form : Bytes} (spells : Spells n form) :
    Reads readCount form n := by
  cases spells with
  | one fits =>
      have value : (UInt8.ofNat (n % 256)).toNat = n := by
        rw [UInt8.toNat_ofNat']
        omega
      have below : UInt8.ofNat (n % 256) < 0xFD := by
        rw [UInt8.lt_iff_toNat_lt, value]
        exact fits
      apply reads_count_cons
      rw [markedCount, if_pos below, value]
      exact Reads.pure n
  | two fits => exact reads_count_cons (reads_unsigned (by decide) fits)
  | four fits => exact reads_count_cons (reads_unsigned (by decide) fits)
  | eight fits => exact reads_count_cons (reads_unsigned (by decide) fits)

theorem reads_count {n : Nat} (small : n < 0x10000000000000000) :
    Reads readCount (CompactSize.bytes n) n :=
  (CompactSize.spells_bytes small).reads

theorem reads_counted {bytes length : Bytes} (spells : Spells bytes.length length)
    (short : bytes.length < lengthLimit) : Reads readCounted (length ++ bytes) bytes :=
  spells.reads.bind (reads_bytes short)

theorem reads_digest (digest : Digest) : Reads readDigest digest.bytes digest := by
  have bytes : Reads (readBytes 32) digest.bytes digest.bytes :=
    reads_width digest.length_eq (by decide)
  intro rest position
  rw [readDigest, execute_bind_ok (bytes rest position), Digest.ofBytes?_bytes]
  rfl

theorem OutPoint.reads (p : OutPoint) : Reads OutPoint.read p.bytes p := by
  have index : Reads (readUnsigned 4) (LittleEndian.ofNat 4 p.index.toNat) p.index.toNat :=
    reads_unsigned (by decide) p.index.toNat_lt
  unfold OutPoint.read OutPoint.bytes
  refine (reads_digest p.txId).bind (index.bind_pure ?_)
  rw [UInt32.ofNat_toNat]

theorem TxInput.Layout.reads {i : TxInput} {bytes : Bytes} (laid : i.Layout Spells bytes)
    (short : i.script.length < lengthLimit) : Reads TxInput.read bytes i := by
  obtain ⟨spelled, sequence⟩ := laid
  unfold TxInput.read
  refine i.outPoint.reads.bind ((reads_counted spelled short).bind
    ((reads_field (by decide) sequence).bind_pure ?_))
  rw [Int.toNat_of_nonneg sequence.1]

theorem TxOutput.Layout.reads {o : TxOutput} {bytes : Bytes} (laid : o.Layout Spells bytes)
    (short : o.script.length < lengthLimit) : Reads TxOutput.read bytes o := by
  obtain ⟨value, spelled⟩ := laid
  unfold TxOutput.read
  exact (reads_signed (by decide) value).bind ((reads_counted spelled short).bind_pure rfl)

theorem ListLayout.reads {α : Type} {item : α → Bytes → Prop} {reader : Read α}
    {values : List α} {bytes : Bytes} (laid : ListLayout Spells item values bytes)
    (each : ∀ value ∈ values, ∀ part, item value part → Reads reader part value) :
    Reads (readCount >>= readMany reader) bytes values := by
  obtain ⟨spelled, items⟩ := laid
  have reads := (List.forall₂_and_left _ _).mpr ⟨each, items⟩
  exact spelled.reads.bind (Reads.many (reads.imp fun _ part both => both.1 part both.2))

/-- The counts belong to the lists that follow them. -/
theorem Transaction.read_eq :
    Transaction.read =
      readSigned 4 >>= fun version =>
      (readCount >>= readMany TxInput.read) >>= fun inputs =>
      (readCount >>= readMany TxOutput.read) >>= fun outputs =>
      readUnsigned 4 >>= fun locktime =>
      readUnsigned 4 >>= fun expiry =>
      pure ⟨version, inputs, outputs, locktime, expiry⟩ := by
  simp only [Transaction.read, bind_assoc]

structure Transaction.Readable (tx : Transaction) : Prop where
  inputs : ∀ i ∈ tx.inputs, i.script.length < lengthLimit
  outputs : ∀ o ∈ tx.outputs, o.script.length < lengthLimit

theorem Transaction.Layout.reads {tx : Transaction} {bytes : Bytes}
    (laid : tx.Layout Spells bytes) (readable : tx.Readable) :
    Reads Transaction.read bytes tx := by
  obtain ⟨version, inputs, outputs, locktime, expiry⟩ := laid
  have inputsRead := inputs.reads fun i member _ laid => laid.reads (readable.inputs i member)
  have outputsRead := outputs.reads fun o member _ laid =>
    laid.reads (readable.outputs o member)
  rw [Transaction.read_eq]
  refine (reads_signed (by decide) version).bind (inputsRead.bind (outputsRead.bind
    ((reads_field (by decide) locktime).bind ((reads_field (by decide) expiry).bind_pure ?_))))
  rw [Int.toNat_of_nonneg locktime.1, Int.toNat_of_nonneg expiry.1]

structure TxInput.Encodable (i : TxInput) : Prop where
  sequence : 0 ≤ i.sequence ∧ i.sequence < 0x100000000
  script : i.script.length < 0x8000000000000000

structure TxOutput.Encodable (o : TxOutput) : Prop where
  value : -0x8000000000000000 ≤ o.value ∧ o.value < 0x8000000000000000
  script : o.script.length < 0x8000000000000000

structure Transaction.Encodable (tx : Transaction) : Prop where
  version : -0x80000000 ≤ tx.version ∧ tx.version < 0x80000000
  inputCount : tx.inputs.length < 0x8000000000000000
  inputs : ∀ i ∈ tx.inputs, i.Encodable
  outputCount : tx.outputs.length < 0x8000000000000000
  outputs : ∀ o ∈ tx.outputs, o.Encodable
  locktime : 0 ≤ tx.locktime ∧ tx.locktime < 0x100000000
  expiry : 0 ≤ tx.expiry ∧ tx.expiry < 0x100000000

/-- Encoding gives bytes that the reader takes back. -/
def RoundTrips {α : Type} (encode : α → Except EncodeError Bytes) (reader : Read α) (value : α) :
    Prop :=
  ∃ bytes, encode value = .ok bytes ∧ Reads reader bytes value

theorem roundTrips_mapM {α : Type} {encode : α → Except EncodeError Bytes} {reader : α → Read α}
    {values : List α} (each : ∀ value ∈ values, RoundTrips encode (reader value) value) :
    ∃ parts, values.mapM encode = .ok parts ∧
      List.Forall₂ (fun value part => Reads (reader value) part value) values parts := by
  obtain ⟨parts, both⟩ := exists_forall₂ each
  exact ⟨parts, mapM_eq_ok_iff.mpr (both.imp fun _ _ => And.left),
    both.imp fun _ _ => And.right⟩

section

variable {i : TxInput} {o : TxOutput} {tx : Transaction}

theorem TxInput.Encodable.exists_layout (encodable : i.Encodable) :
    ∃ bytes, i.Layout Shortest bytes :=
  ⟨_, .fields (CompactSize.shortest_bytes (Nat.lt_trans encodable.script (by decide)))
    (LittleEndian.fitsUnsigned_four.mpr encodable.sequence)⟩

theorem TxOutput.Encodable.exists_layout (encodable : o.Encodable) :
    ∃ bytes, o.Layout Shortest bytes :=
  ⟨_, .fields (LittleEndian.fitsSigned_eight.mpr encodable.value)
    (CompactSize.shortest_bytes (Nat.lt_trans encodable.script (by decide)))⟩

theorem Transaction.Encodable.exists_layout (encodable : tx.Encodable) :
    ∃ bytes, tx.Layout Shortest bytes := by
  obtain ⟨inputBytes, inputs⟩ := ListLayout.exists_shortest
    (Nat.lt_trans encodable.inputCount (by decide)) fun i member =>
      (encodable.inputs i member).exists_layout
  obtain ⟨outputBytes, outputs⟩ := ListLayout.exists_shortest
    (Nat.lt_trans encodable.outputCount (by decide)) fun o member =>
      (encodable.outputs o member).exists_layout
  exact ⟨_, .fields (LittleEndian.fitsSigned_four.mpr encodable.version) inputs outputs
    (LittleEndian.fitsUnsigned_four.mpr encodable.locktime)
    (LittleEndian.fitsUnsigned_four.mpr encodable.expiry)⟩

theorem Transaction.Encodable.readable (encodable : tx.Encodable) : tx.Readable where
  inputs i member := (encodable.inputs i member).script
  outputs o member := (encodable.outputs o member).script

theorem TxInput.roundTrips (encodable : i.Encodable) :
    RoundTrips TxInput.encode TxInput.read i := by
  obtain ⟨bytes, laid⟩ := encodable.exists_layout
  exact ⟨bytes, laid.encode_eq, (laid.mono fun _ _ => Shortest.spells).reads encodable.script⟩

theorem TxOutput.roundTrips (encodable : o.Encodable) :
    RoundTrips TxOutput.encode TxOutput.read o := by
  obtain ⟨bytes, laid⟩ := encodable.exists_layout
  exact ⟨bytes, laid.encode_eq, (laid.mono fun _ _ => Shortest.spells).reads encodable.script⟩

theorem Transaction.roundTrips (encodable : tx.Encodable) :
    RoundTrips Transaction.encode Transaction.read tx := by
  obtain ⟨bytes, laid⟩ := encodable.exists_layout
  exact ⟨bytes, laid.encode_eq, (laid.mono fun _ _ => Shortest.spells).reads encodable.readable⟩

end

end Remit.Wire
