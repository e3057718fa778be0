import Remit.Wire.Transaction

/-!
Edits of transactions. Items are named by their place, counted from the front, or from the end if
it is negative; an edit of an item that is not there has no result.
-/

namespace Remit.Wire

/-- The place from the front of a list of the given length. -/
def place? (length : Nat) (index : Int) : Option Nat :=
  if index < -length then none
  else if index < 0 then some (index + length).toNat
  else if index < length then some index.toNat
  else none

def editAt? {α : Type} (items : List α) (index : Int) (edit : α → α) : Option (List α) :=
  (place? items.length index).map fun n => items.modify n edit

def dropLast? {α : Type} (items : List α) : Option (List α) :=
  if items.isEmpty then none else some items.dropLast

inductive Edit where
  | version (version : Int)
  | locktime (locktime : Int)
  | expiry (expiry : Int)
  | addInputs (inputs : List TxInput)
  | addOutputs (outputs : List TxOutput)
  | dropInput
  | dropOutput
  | script (index : Int) (script : Script)
  | sequence (index sequence : Int)
  | value (index value : Int)
deriving DecidableEq

namespace Transaction

def editInput? (tx : Transaction) (index : Int) (edit : TxInput → TxInput) : Option Transaction :=
  (editAt? tx.inputs index edit).map fun inputs => { tx with inputs := inputs }

def editOutput? (tx : Transaction) (index : Int) (edit : TxOutput → TxOutput) :
    Option Transaction :=
  (editAt? tx.outputs index edit).map fun outputs => { tx with outputs := outputs }

def edit? (tx : Transaction) : Edit → Option Transaction
  | .version version => some { tx with version := version }
  | .locktime locktime => some { tx with locktime := locktime }
  | .expiry expiry => some { tx with expiry := expiry }
  | .addInputs inputs => some { tx with inputs := tx.inputs ++ inputs }
  | .addOutputs outputs => some { tx with outputs := tx.outputs ++ outputs }
  | .dropInput => (dropLast? tx.inputs).map fun inputs => { tx with inputs := inputs }
  | .dropOutput => (dropLast? tx.outputs).map fun outputs => { tx with outputs := outputs }
  | .script index script => tx.editInput? index fun i => { i with script := script }
  | .sequence index sequence => tx.editInput? index fun i => { i with sequence := sequence }
  | .value index value => tx.editOutput? index fun o => { o with value := value }

/-- An edit without a result leaves the transaction as it is. -/
def edit (tx : Transaction) (e : Edit) : Transaction :=
  (tx.edit? e).getD tx

end Transaction

end Remit.Wire
