import Remit.Author.MinusFee
import Remit.Settings.Load

/-!
Authoring under a configuration, which supplies the fee rate where a call names none.
-/

namespace Remit.Author

structure Service where
  settings : Settings := {}
  sizeEstimator : SizeEstimator := policySize
  feeEstimator : FeeEstimator := policyFee

def serviceOperation : String := "TransactionAuthor.author_minus_fee"

namespace Service

def rate (service : Service) (explicit : Option Int) : Int :=
  explicit.getD service.settings.feeRate

def authorMinusFee {σ : Type} (service : Service) (payment : Wire.TxOutput)
    (source : InputSource σ) (change : ChangeSource) (rate : Option Int := none) :
    AuthorM σ Draft := do
  let draft ← minusFee payment (service.rate rate) source change serviceOperation
    service.sizeEstimator service.feeEstimator
  match draft.payment with
  | .error failure => throw failure
  | .ok paid =>
      log .info s!"Authored unsigned transaction paying {paid.value} with fee {draft.fee}"
      return draft

end Service

end Remit.Author
