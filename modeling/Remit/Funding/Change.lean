import Remit.Address

/-!
Where change goes: one fixed locking script.
-/

namespace Remit.Funding

open Wire (Script)

inductive ChangeError where
  | emptyScript
  | template (error : Script.TemplateError)
  | address (error : AddressError)
deriving DecidableEq

def ChangeError.message : ChangeError → String
  | .emptyScript => "change script must not be empty"
  | .template error => error.message
  | .address error => error.message

structure Change where
  script : Script
  version : Int
  script_ne : script ≠ []
deriving DecidableEq

namespace Change

def ofScript (script : Script) (version : Int := Script.defaultVersion) :
    Except ChangeError Change :=
  if h : script = [] then .error .emptyScript else .ok ⟨script, version, h⟩

def ofPubkeyHash (hash : Bytes) : Except ChangeError Change := do
  ofScript (← (Script.payToPubkeyHash hash).mapError .template)

def ofAddress (address : String) : Except ChangeError Change := do
  ofScript (← (Address.toScript address).mapError .address)

def size (change : Change) : Nat :=
  change.script.length

end Change

end Remit.Funding
