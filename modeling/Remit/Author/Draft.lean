import Remit.Failure

/-!
Drafts: unsigned transactions with what went into them.
-/

namespace Remit.Author

open Wire (Transaction TxOutput)

structure Draft where
  transaction : Transaction
  /-- Place of the change output, negative without change. -/
  changeIndex : Int
  estimatedSize : Int
  totalInput : Int
deriving DecidableEq

namespace Draft

/-- With change at one of the first two places, the payment is at the other. -/
def paymentIndex (draft : Draft) : Nat :=
  if draft.changeIndex < 0 then 0 else draft.changeIndex.toNat ^^^ 1

def output (draft : Draft) (index : Nat) : Except Failure TxOutput :=
  match draft.transaction.outputs[index]? with
  | some output => .ok output
  | none => .error (.ofCause (.noOutput index))

def payment (draft : Draft) : Except Failure TxOutput :=
  draft.output draft.paymentIndex

def change (draft : Draft) : Except Failure (Option TxOutput) :=
  if draft.changeIndex < 0 then .ok none else some <$> draft.output draft.changeIndex.toNat

/-- Spent value that no output carries. -/
def fee (draft : Draft) : Int :=
  draft.totalInput - draft.transaction.totalOutput

end Draft

end Remit.Author
