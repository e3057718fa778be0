import Remit.Policy.Size
import Remit.Wire.Transaction

/-!
Spendable outputs, and the funds that a source gathers from them.
-/

namespace Remit.Funding

open Wire (OutPoint TxInput)

structure Coin where
  outPoint : OutPoint
  value : Nat
  redeemSize : Nat
deriving DecidableEq

inductive CoinError where
  | negativeValue (value : Int)
  | negativeRedeemSize (size : Int)
deriving DecidableEq

def CoinError.message : CoinError → String
  | .negativeValue value => s!"unspent value must be non-negative, got {value}"
  | .negativeRedeemSize size => s!"redeem script size must be non-negative, got {size}"

/-- Coins pay to a key hash unless said otherwise. -/
def defaultRedeemSize : Int := Policy.redeemPubkeyHashScriptSize

/-- The value is checked before the size. -/
def Coin.make (outPoint : OutPoint) (value : Int) (redeemSize : Int := defaultRedeemSize) :
    Except CoinError Coin :=
  if value < 0 then .error (.negativeValue value)
  else if redeemSize < 0 then .error (.negativeRedeemSize redeemSize)
  else .ok ⟨outPoint, value.toNat, redeemSize.toNat⟩

def Coin.input (coin : Coin) : TxInput :=
  { outPoint := coin.outPoint }

/-- Inputs worth `amount`, with the script size that each needs once signed. -/
structure Funds where
  amount : Nat
  inputs : List TxInput
  redeemSizes : List Int
  length_eq : inputs.length = redeemSizes.length
deriving DecidableEq

inductive FundsError where
  | lengths (inputs sizes : Nat)
  | negativeAmount (amount : Int)
deriving DecidableEq

def FundsError.message : FundsError → String
  | .lengths inputs sizes =>
      s!"inputs ({inputs}) and redeem_script_sizes ({sizes}) differ in length"
  | .negativeAmount amount => s!"amount must be non-negative, got {amount}"

/-- The lengths are checked before the amount. -/
def Funds.make (amount : Int) (inputs : List TxInput) (redeemSizes : List Int) :
    Except FundsError Funds :=
  if h : inputs.length = redeemSizes.length then
    if amount < 0 then .error (.negativeAmount amount)
    else .ok ⟨amount.toNat, inputs, redeemSizes, h⟩
  else .error (.lengths inputs.length redeemSizes.length)

end Remit.Funding
