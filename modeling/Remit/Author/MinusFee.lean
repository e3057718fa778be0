import Remit.Author.Collaborators
import Remit.Author.Draft

/-!
Unsigned transactions that pay their fee out of the payment. The fee is priced once, as if there
were a change output, and what the inputs are worth beyond the requested payment goes back as
change.
-/

namespace Remit.Author

open Wire (Script Transaction TxInput TxOutput)

inductive Call where
  | fetch (target : Int)
  | scriptSize
  | size (redeemSizes outputSizes : List Int)
  | fee (rate size : Int)
  | script
deriving DecidableEq

/-- The state of the input source, the questions asked and the records logged, in order. -/
structure Activity (σ : Type) where
  source : σ
  calls : List Call
  records : List Log.Record

def Activity.start {σ : Type} (source : σ) : Activity σ :=
  ⟨source, [], []⟩

/-- Activity survives failures. -/
abbrev AuthorM (σ : Type) := ExceptT Failure (StateM (Activity σ))

section

variable {σ : Type}

def log (level : Log.Level) (text : String) : AuthorM σ Unit :=
  modify fun a => { a with records := a.records ++ [⟨level, Log.engineLogger, text⟩] }

def noteCall (call : Call) : AuthorM σ Unit :=
  modify fun a => { a with calls := a.calls ++ [call] }

/-- The outcome of a collaborator, its failures annotated with the operation and its name. -/
def consult {α : Type} (operation collaborator : String) (outcome : Except Failure α) :
    AuthorM σ α :=
  match outcome with
  | .ok a => return a
  | .error failure => throw (failure.annotate s!"{operation} ({collaborator})")

def fetchFunds (operation : String) (source : InputSource σ) (target : Int) :
    AuthorM σ Funding.Funds := do
  noteCall (.fetch target)
  let answer := source.fetch target (← get).source
  modify fun a => { a with source := answer.state, records := a.records ++ answer.records }
  consult operation "input source" answer.outcome

/-- A script of another length than the source reported is the source's failure. -/
def checkedScript (change : ChangeSource) (size : Int) : Except Failure (Script × Int) := do
  let (script, version) ← change.script
  if (script.length : Int) ≠ size then
    fail (.changeLength script.length size)
  return (script, version)

/-- The output for a surplus, which is asked for only if there is one. -/
def changeOutput (operation : String) (change : ChangeSource) (size surplus : Int) :
    AuthorM σ (Option TxOutput) := do
  if surplus ≤ 0 then
    return none
  noteCall .script
  let (script, version) ← consult operation "change source" (checkedScript change size)
  log .debug s!"Change output 1: {surplus} sat (script version {version})"
  return some ⟨surplus, script⟩

end

def minusFeeOperation : String := "txauthor.new_unsigned_transaction_minus_fee"

def unsigned (inputs : List TxInput) : List TxInput :=
  inputs.map fun i => { outPoint := i.outPoint, sequence := i.sequence }

/-- The payment comes first and the change, if there is any, second. -/
def assemble (funds : Funding.Funds) (payment : TxOutput) (change : Option TxOutput)
    (size : Int) : Draft where
  transaction := { inputs := unsigned funds.inputs, outputs := payment :: change.toList }
  changeIndex := if change.isSome then 1 else -1
  estimatedSize := size
  totalInput := funds.amount

/-- Pays `payment` less the fee. The source is asked once, and a change script only if there is
change. -/
def minusFee {σ : Type} (payment : TxOutput) (rate : Int) (source : InputSource σ)
    (change : ChangeSource) (operation : String := minusFeeOperation)
    (sizeEstimator : SizeEstimator := policySize) (feeEstimator : FeeEstimator := policyFee) :
    AuthorM σ Draft := do
  let target := payment.value
  if target < 0 then
    throw (.ofCause (.negativePayment target))
  let funds ← fetchFunds operation source target
  if (funds.amount : Int) < target then
    throw (.ofCause (.insufficient .gathered operation funds.amount target))
  noteCall .scriptSize
  let changeSize ← consult operation "change source" change.scriptSize
  let outputSizes := [(payment.script.length : Int), changeSize]
  noteCall (.size funds.redeemSizes outputSizes)
  let size ← consult operation "size estimator" (sizeEstimator funds.redeemSizes outputSizes)
  noteCall (.fee rate size)
  let fee ← consult operation "fee estimator" (feeEstimator rate size)
  let paid := target - fee
  if paid < 0 then
    throw (.ofCause (.insufficient (.fee fee) operation funds.amount target))
  let change ← changeOutput operation change changeSize (funds.amount - target)
  log .debug
    (s!"Authored tx: {funds.inputs.length} inputs, payment {target} -> {paid}, " ++
      s!"fee {fee}, est. size {size}")
  return assemble funds ⟨paid, payment.script⟩ change size

end Remit.Author
