import Remit.Proofs.Hex
import Remit.Proofs.Wire.Reads

/-!
Streams of counts, inputs, outputs and transactions. Encodings written one after another are read
back in the same order, whatever follows them.
-/

namespace Remit.Wire

inductive ItemKind where
  | count
  | input
  | output
  | transaction

inductive Item where
  | count (n : Int)
  | input (i : TxInput)
  | output (o : TxOutput)
  | transaction (tx : Transaction)

namespace Item

def kind : Item → ItemKind
  | count _ => .count
  | input _ => .input
  | output _ => .output
  | transaction _ => .transaction

def Encodable : Item → Prop
  | count n => 0 ≤ n ∧ n < 0x10000000000000000
  | input i => i.Encodable
  | output o => o.Encodable
  | transaction tx => tx.Encodable

def encode : Item → Except EncodeError Bytes
  | count n => CompactSize.encode n
  | input i => i.encode
  | output o => o.encode
  | transaction tx => tx.encode

end Item

def ItemKind.read : ItemKind → Read Item
  | count => (fun n : Nat => .count n) <$> readCount
  | input => .input <$> TxInput.read
  | output => .output <$> TxOutput.read
  | transaction => .transaction <$> Transaction.read

def readItems : List ItemKind → Read (List Item)
  | [] => return []
  | kind :: rest => do
      let item ← kind.read
      let items ← readItems rest
      return item :: items

theorem Item.roundTrips {item : Item} (encodable : item.Encodable) :
    RoundTrips Item.encode item.kind.read item := by
  cases item with
  | count n =>
      obtain ⟨n, rfl⟩ := Int.eq_ofNat_of_zero_le encodable.1
      have small : n < 0x10000000000000000 := Int.ofNat_lt.mp encodable.2
      exact ⟨CompactSize.bytes n, CompactSize.encode_natCast small, (reads_count small).map _⟩
  | input i =>
      obtain ⟨bytes, encoded, reads⟩ := TxInput.roundTrips encodable
      exact ⟨bytes, encoded, reads.map _⟩
  | output o =>
      obtain ⟨bytes, encoded, reads⟩ := TxOutput.roundTrips encodable
      exact ⟨bytes, encoded, reads.map _⟩
  | transaction tx =>
      obtain ⟨bytes, encoded, reads⟩ := Transaction.roundTrips encodable
      exact ⟨bytes, encoded, reads.map _⟩

theorem reads_items {parts : List Bytes} {items : List Item}
    (each : List.Forall₂ (fun item part => Reads item.kind.read part item) items parts) :
    Reads (readItems (items.map Item.kind)) parts.flatten items := by
  induction each with
  | nil => exact Reads.pure []
  | cons first _ induction =>
      rw [List.flatten_cons]
      exact first.bind (induction.bind_pure rfl)

theorem length_flatten_eq_sumNat (parts : List Bytes) :
    parts.flatten.length = sumNat (parts.map List.length) := by
  induction parts with
  | nil => rfl
  | cons part parts induction =>
      rw [List.flatten_cons, List.length_append, induction, List.map_cons, sumNat_cons]

/-- Reading stops after the first items with their bytes taken and all others left. -/
theorem execute_readItems_take {parts : List Bytes} {items : List Item}
    (each : List.Forall₂ (fun item part => Reads item.kind.read part item) items parts)
    (k : Nat) (suffix : Bytes) :
    execute (readItems ((items.take k).map Item.kind)) (Stream.ofBytes (parts.flatten ++ suffix)) =
      (.ok (items.take k),
        ⟨(parts.drop k).flatten ++ suffix, sumNat ((parts.take k).map List.length)⟩) := by
  have reads := reads_items (List.forall₂_take k each)
  have whole : parts.flatten = (parts.take k).flatten ++ (parts.drop k).flatten := by
    rw [← List.flatten_append, List.take_append_drop]
  rw [whole, List.append_assoc, Stream.ofBytes, reads, Nat.zero_add, length_flatten_eq_sumNat]

theorem Transaction.ofBytes_of_reads {data : Bytes} {tx : Transaction}
    (reads : Reads Transaction.read data tx) (extra : Bytes) :
    Transaction.ofBytes (data ++ extra) = .ok tx :=
  congrArg Prod.fst (reads extra 0)

theorem Transaction.ofHex_ofBytes {data : Bytes} {tx : Transaction}
    (reads : Reads Transaction.read data tx) :
    Transaction.ofHex (Hex.ofBytes data) = .ok tx := by
  have read := Transaction.ofBytes_of_reads reads []
  rw [List.append_nil] at read
  rw [Transaction.ofHex, Hex.toBytes?_ofBytes]
  simp only [read]
  rfl

theorem stream_roundTrips :
    (∀ items : List Item, (∀ item ∈ items, item.Encodable) → ∀ suffix : Bytes,
      ∃ parts, items.mapM Item.encode = .ok parts ∧
        ∀ k ≤ items.length,
          execute (readItems ((items.take k).map Item.kind))
              (Stream.ofBytes (parts.flatten ++ suffix)) =
            (.ok (items.take k),
              ⟨(parts.drop k).flatten ++ suffix, sumNat ((parts.take k).map List.length)⟩)) ∧
    ∀ tx : Transaction, tx.Encodable →
      (∃ data, tx.encode = .ok data ∧
        ∀ extra, Transaction.ofBytes (data ++ extra) = .ok tx) ∧
      ∃ text, tx.toHex = .ok text ∧ Transaction.ofHex text = .ok tx := by
  constructor
  · intro items encodable suffix
    obtain ⟨parts, encoded, reads⟩ :=
      roundTrips_mapM fun item member => Item.roundTrips (encodable item member)
    exact ⟨parts, encoded, fun k _ => execute_readItems_take reads k suffix⟩
  · intro tx encodable
    obtain ⟨data, encoded, reads⟩ := Transaction.roundTrips encodable
    refine ⟨⟨data, encoded, Transaction.ofBytes_of_reads reads⟩, Hex.ofBytes data, ?_, ?_⟩
    · rw [Transaction.toHex, encoded]
      rfl
    · exact Transaction.ofHex_ofBytes reads

/-- One item of each kind and two bytes that belong to none. -/
theorem stream_roundTrips_four_kinds :
    let i : TxInput :=
      ⟨⟨⟨List.replicate 32 7, List.length_replicate⟩, 1⟩, [0x51, 0x52], 0xFFFFFFFE⟩
    let o : TxOutput := ⟨-1, List.replicate 25 0x6A⟩
    let tx : Transaction := ⟨-2, [i, i], [o], 9, 0⟩
    let items : List Item := [.count 0xFD, .input i, .output o, .transaction tx]
    (∀ item ∈ items, item.Encodable) ∧ tx.Encodable ∧
      (∃ parts, items.mapM Item.encode = .ok parts ∧
        execute (readItems [.count, .input]) (Stream.ofBytes (parts.flatten ++ [0xAB, 0xCD])) =
          (.ok [.count 0xFD, .input i],
            ⟨(parts.drop 2).flatten ++ [0xAB, 0xCD],
              sumNat ((parts.take 2).map List.length)⟩)) ∧
      ∃ text, tx.toHex = .ok text ∧ Transaction.ofHex text = .ok tx := by
  intro i o tx items
  have input : i.Encodable := ⟨by decide, by decide⟩
  have output : o.Encodable := ⟨by decide, by decide⟩
  have transaction : tx.Encodable :=
    { version := by decide
      inputCount := by decide
      inputs := by simp [tx, input]
      outputCount := by decide
      outputs := by simp [tx, output]
      locktime := by decide
      expiry := by decide }
  have each : ∀ item ∈ items, item.Encodable := by
    simp [items, Item.Encodable, input, output, transaction]
  obtain ⟨streams, transactions⟩ := stream_roundTrips
  obtain ⟨parts, encoded, reads⟩ := streams items each [0xAB, 0xCD]
  exact ⟨each, transaction, ⟨parts, encoded, reads 2 (by decide)⟩, (transactions tx transaction).2⟩

end Remit.Wire
