import Remit.Wire.Transaction
import Remit.Digest.Sha256

/-!
Wire form of inputs, outputs and transactions: version, counted inputs, counted outputs, lock time
and expiry. Encoding fails only where an integer does not fit its field.
-/

namespace Remit.Wire

def encodeScript (script : Script) : Except EncodeError Bytes :=
  return (← CompactSize.encode script.length) ++ script

def encodeList {α : Type} (encode : α → Except EncodeError Bytes) (items : List α) :
    Except EncodeError Bytes := do
  let count ← CompactSize.encode items.length
  let parts ← items.mapM encode
  return count ++ parts.flatten

def TxInput.encode (i : TxInput) : Except EncodeError Bytes := do
  let script ← encodeScript i.script
  let sequence ← encodeUnsigned 4 i.sequence
  return i.outPoint.bytes ++ script ++ sequence

def TxOutput.encode (o : TxOutput) : Except EncodeError Bytes := do
  let value ← encodeSigned 8 o.value
  let script ← encodeScript o.script
  return value ++ script

namespace Transaction

def encode (tx : Transaction) : Except EncodeError Bytes := do
  let version ← encodeSigned 4 tx.version
  let inputs ← encodeList TxInput.encode tx.inputs
  let outputs ← encodeList TxOutput.encode tx.outputs
  let locktime ← encodeUnsigned 4 tx.locktime
  let expiry ← encodeUnsigned 4 tx.expiry
  return version ++ inputs ++ outputs ++ locktime ++ expiry

def toHex (tx : Transaction) : Except EncodeError String :=
  Hex.ofBytes <$> tx.encode

/-- The double digest of the encoding, which names the transaction once every input is signed. -/
def digest (tx : Transaction) : Except EncodeError Digest :=
  sha256d <$> tx.encode

def id (tx : Transaction) : Except EncodeError String :=
  Digest.display <$> tx.digest

end Transaction

end Remit.Wire
