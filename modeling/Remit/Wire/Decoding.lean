import Remit.Wire.Stream
import Remit.Wire.Transaction

/-!
Reading inputs, outputs and transactions from a stream. Bytes after a transaction are left alone.
-/

namespace Remit.Wire

def readDigest : Read Digest := do
  let bytes ← readBytes 32
  match Digest.ofBytes? bytes with
  | some digest => return digest
  | none => throw (.short 32 bytes.length)

def OutPoint.read : Read OutPoint := do
  let txId ← readDigest
  let index ← readUnsigned 4
  return ⟨txId, UInt32.ofNat index⟩

def TxInput.read : Read TxInput := do
  let outPoint ← OutPoint.read
  let script ← readCounted
  let sequence ← readUnsigned 4
  return ⟨outPoint, script, sequence⟩

def TxOutput.read : Read TxOutput := do
  let value ← readSigned 8
  let script ← readCounted
  return ⟨value, script⟩

def Transaction.read : Read Transaction := do
  let version ← readSigned 4
  let inputs ← readMany TxInput.read (← readCount)
  let outputs ← readMany TxOutput.read (← readCount)
  let locktime ← readUnsigned 4
  let expiry ← readUnsigned 4
  return ⟨version, inputs, outputs, locktime, expiry⟩

inductive DecodeError where
  | text
  | read (error : ReadError)
deriving DecidableEq

def DecodeError.message : DecodeError → String
  | .text => "transaction is not hexadecimal"
  | .read error => error.message

namespace Transaction

def ofBytes (data : Bytes) : Except ReadError Transaction :=
  (Transaction.read.run (Stream.ofBytes data)).1

def ofHex (text : String) : Except DecodeError Transaction :=
  match Hex.toBytes? text with
  | none => .error .text
  | some data => (ofBytes data).mapError .read

end Transaction

end Remit.Wire
