import Remit.Policy.Size
import Remit.Wire.Transaction

/-!
Relay fees, in satoshis for 1000 bytes, and outputs that cost too much to spend.
-/

namespace Remit.Policy

def satoshisPerCoin : Nat := 100000000

/-- The most that one fee or output may carry. -/
def maxAmount : Nat := 21000000 * satoshisPerCoin

def defaultFeeRate : Nat := 1000

inductive FeeError where
  | negativeRate (rate : Int)
  | negativeSize (size : Int)
deriving DecidableEq

def FeeError.message : FeeError → String
  | .negativeRate rate => s!"relay fee must be non-negative, got {rate}"
  | .negativeSize size => s!"serialize size must be non-negative, got {size}"

/-- The fee is rounded up to a whole satoshi and never exceeds `maxAmount`. -/
def fee (rate size : Int) : Except FeeError Int :=
  if rate < 0 then .error (.negativeRate rate)
  else if size < 0 then .error (.negativeSize size)
  else .ok (min (-(-(rate * size) / 1000)) maxAmount)

/-- An output is dust when three times the fee for it and for the input that spends it exceeds its
value. -/
def isDust (amount scriptSize rate : Int) : Bool :=
  amount * 1000 < 3 * (outputSize scriptSize + redeemPubkeyHashInputSize) * rate

def isDustOutput (output : Wire.TxOutput) (rate : Int) : Bool :=
  isDust output.value output.script.length rate

end Remit.Policy
