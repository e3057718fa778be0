import Remit.Sum
import Remit.Wire.CompactSize
import Remit.Wire.OutPoint

/-!
Transactions and their sizes. Numeric fields are plain integers: whether they fit their fields is
a question for the encoder.
-/

namespace Remit.Wire

abbrev Script := Bytes

def defaultSequence : Int := 0xFFFFFFFF
def defaultVersion : Int := 1
def defaultLocktime : Int := 0
/-- Zero stands for a transaction that never expires. -/
def defaultExpiry : Int := 0

structure TxInput where
  outPoint : OutPoint
  /-- The unlocking script, empty until the input is signed. -/
  script : Script := []
  sequence : Int := defaultSequence
deriving DecidableEq

structure TxOutput where
  value : Int
  script : Script
deriving DecidableEq

structure Transaction where
  version : Int := defaultVersion
  inputs : List TxInput := []
  outputs : List TxOutput := []
  locktime : Int := defaultLocktime
  expiry : Int := defaultExpiry
deriving DecidableEq

def TxInput.size (i : TxInput) : Nat :=
  32 + 4 + (CompactSize.bytes i.script.length).length + i.script.length + 4

def TxOutput.size (o : TxOutput) : Nat :=
  8 + (CompactSize.bytes o.script.length).length + o.script.length

namespace Transaction

/-- Encoded size, also of a transaction that has no encoding. -/
def size (tx : Transaction) : Nat :=
  4 + (CompactSize.bytes tx.inputs.length).length + sumNat (tx.inputs.map TxInput.size) +
    (CompactSize.bytes tx.outputs.length).length + sumNat (tx.outputs.map TxOutput.size) + 4 + 4

def totalOutput (tx : Transaction) : Int :=
  sumInt (tx.outputs.map TxOutput.value)

def withInputScripts (tx : Transaction) (script : Script) : Transaction :=
  { tx with inputs := tx.inputs.map fun i => { i with script := script } }

end Transaction

end Remit.Wire
