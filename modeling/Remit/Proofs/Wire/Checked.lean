import Remit.Proofs.Wire.Recognition

/-!
Readers that make every check on the way from bytes to values: a field is unpacked from exactly its
width, and an outpoint is built from an id and an index that may be refused. What the stream gives
passes them all, so these readers are the ones without the checks.
-/

namespace Remit.Wire

structure Alarms where
  width : ReadError
  outPoint : OutPointError → ReadError

section

variable (alarms : Alarms)

def readField {α : Type} (width : Nat) (unpack : Bytes → α) : Read α := do
  let chunk ← readBytes width
  if chunk.length = width then return unpack chunk else throw alarms.width

def readCountChecked : Read Nat := do
  let stream ← get
  match stream.rest with
  | [] => throw .noCount
  | marker :: rest =>
      set (Stream.mk rest (stream.position + 1))
      if marker < 0xFD then return marker.toNat
      else if marker = 0xFD then readField alarms 2 LittleEndian.toNat
      else if marker = 0xFE then readField alarms 4 LittleEndian.toNat
      else readField alarms 8 LittleEndian.toNat

/-- The outpoint is built after everything else is read. -/
def TxInput.readChecked : Read TxInput := do
  let txId ← readBytes 32
  let index ← readField alarms 4 LittleEndian.toNat
  let script ← readBytes (← readCountChecked alarms)
  let sequence ← readField alarms 4 LittleEndian.toNat
  match OutPoint.make txId index with
  | .ok outPoint => return ⟨outPoint, script, sequence⟩
  | .error error => throw (alarms.outPoint error)

def TxOutput.readChecked : Read TxOutput := do
  let value ← readField alarms 8 LittleEndian.toInt
  let script ← readBytes (← readCountChecked alarms)
  return ⟨value, script⟩

def Transaction.readChecked : Read Transaction := do
  let version ← readField alarms 4 LittleEndian.toInt
  let inputs ← readMany (TxInput.readChecked alarms) (← readCountChecked alarms)
  let outputs ← readMany (TxOutput.readChecked alarms) (← readCountChecked alarms)
  let locktime ← readField alarms 4 LittleEndian.toNat
  let expiry ← readField alarms 4 LittleEndian.toNat
  return ⟨version, inputs, outputs, locktime, expiry⟩

def ItemKind.readChecked : ItemKind → Read Item
  | count => (fun n : Nat => .count n) <$> readCountChecked alarms
  | input => .input <$> TxInput.readChecked alarms
  | output => .output <$> TxOutput.readChecked alarms
  | transaction => .transaction <$> Transaction.readChecked alarms

end

/-- What follows a read only has to agree on the values that can be read. -/
theorem Recognises.bind_congr {α β : Type} {reader : Read α} {layout : α → Bytes → Prop}
    {next other : α → Read β} (recognises : Recognises reader layout)
    (equal : ∀ value bytes, layout value bytes → next value = other value) :
    reader >>= next = reader >>= other := by
  funext stream
  change execute (reader >>= next) stream = execute (reader >>= other) stream
  rw [execute_bind, execute_bind]
  rcases run : execute reader stream with ⟨error | value, middle⟩
  · rfl
  · obtain ⟨front, laid, -⟩ := recognises stream value middle run
    exact congrArg (execute · middle) (equal value front laid)

section

variable (alarms : Alarms)

theorem readField_eq {α : Type} (width : Nat) (unpack : Bytes → α) :
    readField alarms width unpack = unpack <$> readBytes width := by
  rw [map_eq_pure_bind]
  refine (recognises_bytes width).bind_congr ?_
  rintro chunk _ ⟨rfl, whole⟩
  exact if_pos whole

theorem readCountChecked_eq : readCountChecked alarms = readCount := by
  unfold readCountChecked
  simp only [readField_eq]
  rfl

theorem OutPoint.make_eq {txId : Bytes} {index : Nat} (whole : txId.length = 32)
    (fits : index < LittleEndian.range 4) :
    OutPoint.make txId index = .ok ⟨⟨txId, whole⟩, UInt32.ofNat index⟩ := by
  have digest : Digest.ofBytes? txId = some ⟨txId, whole⟩ := dif_pos whole
  have inside : 0 ≤ (index : Int) ∧ (index : Int) ≤ 0xFFFFFFFF := by
    change index < 0x100000000 at fits
    omega
  rw [OutPoint.make, digest]
  exact if_pos inside

theorem TxInput.readChecked_eq : TxInput.readChecked alarms = TxInput.read := by
  unfold TxInput.readChecked TxInput.read OutPoint.read readDigest readCounted
  simp only [readField_eq, readCountChecked_eq, bind_assoc, pure_bind]
  refine (recognises_bytes 32).bind_congr ?_
  rintro txId _ ⟨rfl, whole⟩
  have digest : Digest.ofBytes? txId = some ⟨txId, whole⟩ := dif_pos whole
  simp only [digest, pure_bind]
  refine (recognises_unsigned 4).bind_congr ?_
  rintro index _ ⟨fits, -⟩
  simp only [OutPoint.make_eq whole fits]
  rfl

theorem TxOutput.readChecked_eq : TxOutput.readChecked alarms = TxOutput.read := by
  unfold TxOutput.readChecked TxOutput.read readCounted
  simp only [readField_eq, readCountChecked_eq, bind_assoc]
  rfl

theorem Transaction.readChecked_eq : Transaction.readChecked alarms = Transaction.read := by
  unfold Transaction.readChecked Transaction.read
  simp only [readField_eq, readCountChecked_eq, TxInput.readChecked_eq, TxOutput.readChecked_eq]
  rfl

theorem ItemKind.readChecked_eq : ItemKind.readChecked alarms = ItemKind.read := by
  funext kind
  cases kind with
  | count => rw [readChecked, readCountChecked_eq, read]
  | input => rw [readChecked, TxInput.readChecked_eq, read]
  | output => rw [readChecked, TxOutput.readChecked_eq, read]
  | transaction => rw [readChecked, Transaction.readChecked_eq, read]

end

end Remit.Wire
