import Remit.Failure
import Remit.Funding.Change
import Remit.Funding.Cursor

/-!
What an authoring call relies on: a source of inputs, a destination for change, and estimators of
size and fee. Each may fail, and an input source may keep a state.
-/

namespace Remit.Author

open Funding (Change Cursor Funds)
open Wire (Script)

/-- The answer of an input source, with its new state and what it logged. -/
structure Answer (σ : Type) where
  outcome : Except Failure Funds
  state : σ
  records : List Log.Record

/-- Supplies funds for a target: all it can gather, if that is less. -/
structure InputSource (σ : Type) where
  fetch : Int → σ → Answer σ

structure ChangeSource where
  scriptSize : Except Failure Int
  script : Except Failure (Script × Int)

abbrev SizeEstimator := List Int → List Int → Except Failure Int

abbrev FeeEstimator := Int → Int → Except Failure Int

def fail {α : Type} (cause : Cause) : Except Failure α :=
  .error (.ofCause cause)

namespace InputSource

def ofCursor : InputSource Cursor where
  fetch target cursor :=
    let advanced := cursor.advance target
    ⟨.ok advanced.funds, advanced, [advanced.record target]⟩

def constant {σ : Type} (outcome : Except Failure Funds) : InputSource σ where
  fetch _ state := ⟨outcome, state, []⟩

end InputSource

def ChangeSource.ofChange (change : Change) : ChangeSource where
  scriptSize := .ok change.size
  script := .ok (change.script, change.version)

def policySize : SizeEstimator := fun redeemSizes outputSizes =>
  (Policy.transactionSize redeemSizes outputSizes).mapError fun e => .ofCause (.size e)

def policyFee : FeeEstimator := fun rate size =>
  (Policy.fee rate size).mapError fun e => .ofCause (.fee e)

end Remit.Author
