import Remit.Policy.Fee

/-!
Why an authoring call fails. A failure is a cause with the notes that were attached to it on its
way out, in order.
-/

namespace Remit

inductive Shortage where
  /-- The source has gathered less than the target. -/
  | gathered
  /-- The payment cannot absorb its fee. -/
  | fee (fee : Int)
  /-- A collaborator's own account. -/
  | reported (text : String)
deriving DecidableEq

inductive Reported where
  | invalid (text : String)
  | system (text : String)
  | runtime (text : String)
  | authoring (text code operation : String)
  /-- An error of any other kind, with whatever else it carries. -/
  | other (kind text : String) (fields : List (String × String))
deriving DecidableEq

inductive Cause where
  | negativePayment (value : Int)
  | size (error : Policy.SizeError)
  | fee (error : Policy.FeeError)
  | changeLength (length : Nat) (reported : Int)
  | noOutput (index : Nat)
  | insufficient (shortage : Shortage) (operation : String) (amount target : Int)
  | reported (error : Reported)
deriving DecidableEq

structure Failure where
  cause : Cause
  notes : List String
deriving DecidableEq

def defaultErrorCode : String := "txauthor-error"
def insufficientCode : String := "insufficient-balance"

def Shortage.text (amount target : Int) : Shortage → String
  | .gathered => s!"gathered {amount} of {target} required"
  | .fee due => s!"payment of {target} cannot cover its fee of {due}"
  | .reported words => words

/-- The operation stands before the text, if there is one. -/
def withOperation (operation text : String) : String :=
  if operation = "" then text else operation ++ ": " ++ text

def Reported.message : Reported → String
  | .invalid text => text
  | .system text => text
  | .runtime text => text
  | .authoring text _ operation => withOperation operation text
  | .other _ text _ => text

def Cause.message : Cause → String
  | .negativePayment value => s!"payment value must be non-negative, got {value}"
  | .size error => error.message
  | .fee error => error.message
  | .changeLength length announced =>
      s!"change script is {length} bytes, change source reported {announced}"
  | .noOutput index => s!"transaction has no output {index}"
  | .insufficient shortage operation amount target =>
      withOperation operation (shortage.text amount target)
  | .reported error => error.message

namespace Failure

def ofCause (cause : Cause) : Failure :=
  ⟨cause, []⟩

def annotate (failure : Failure) (operation : String) : Failure :=
  { failure with notes := failure.notes ++ ["op: " ++ operation] }

@[simp] theorem cause_annotate (failure : Failure) (operation : String) :
    (failure.annotate operation).cause = failure.cause := rfl

@[simp] theorem notes_annotate (failure : Failure) (operation : String) :
    (failure.annotate operation).notes = failure.notes ++ ["op: " ++ operation] := rfl

end Failure

end Remit
