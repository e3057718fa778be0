import Remit.Sum
import Remit.Wire.CompactSize

/-!
Sizes of transactions that are still to be signed, from the sizes of their scripts.
-/

namespace Remit.Policy

def transactionOverhead : Nat := 4 + 4 + 4

def inputOverhead : Nat := 32 + 4 + 4

def outputOverhead : Nat := 8

def pubkeyHashScriptSize : Nat := 1 + 1 + 1 + 20 + 1 + 1
def scriptHashScriptSize : Nat := 1 + 1 + 20 + 1

/-- A 72 byte signature and a compressed key, pushed. -/
def redeemPubkeyHashScriptSize : Nat := 1 + 72 + 1 + 33

/-- A 72 byte signature, pushed. -/
def redeemPubkeyScriptSize : Nat := 1 + 72

def inputSize (scriptSize : Int) : Int :=
  inputOverhead + Wire.CompactSize.width scriptSize + scriptSize

def outputSize (scriptSize : Int) : Int :=
  outputOverhead + Wire.CompactSize.width scriptSize + scriptSize

def redeemPubkeyHashInputSize : Int := inputSize redeemPubkeyHashScriptSize
def pubkeyHashOutputSize : Int := outputSize pubkeyHashScriptSize
def scriptHashOutputSize : Int := outputSize scriptHashScriptSize

inductive SizeError where
  | negativeScript
deriving DecidableEq

def SizeError.message : SizeError → String
  | .negativeScript => "script sizes must be non-negative"

def transactionSize (redeemSizes outputSizes : List Int) : Except SizeError Int :=
  if redeemSizes.any (· < 0) || outputSizes.any (· < 0) then .error .negativeScript
  else
    .ok (transactionOverhead + Wire.CompactSize.width redeemSizes.length +
      sumInt (redeemSizes.map inputSize) + Wire.CompactSize.width outputSizes.length +
      sumInt (outputSizes.map outputSize))

end Remit.Policy
