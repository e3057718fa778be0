import Remit.Script.Push

/-!
The two locking scripts that addresses stand for, and how a script is recognised as one of them.
-/

namespace Remit.Script

open Wire (Script)

inductive TemplateError where
  | pubkeyHashLength (length : Nat)
  | scriptHashLength (length : Nat)
deriving DecidableEq

def TemplateError.message : TemplateError → String
  | .pubkeyHashLength length => s!"pubkey_hash must be 20 bytes, got {length}"
  | .scriptHashLength length => s!"script_hash must be 20 bytes, got {length}"

def hashLength : Nat := 20

def defaultVersion : Int := 0

def payToPubkeyHash (hash : Bytes) : Except TemplateError Script :=
  if hash.length = hashLength then
    .ok ([Opcode.dup, Opcode.hash160] ++ push hash ++ [Opcode.equalVerify, Opcode.checkSig])
  else .error (.pubkeyHashLength hash.length)

def payToScriptHash (hash : Bytes) : Except TemplateError Script :=
  if hash.length = hashLength then
    .ok ([Opcode.hash160] ++ push hash ++ [Opcode.equal])
  else .error (.scriptHashLength hash.length)

def unlockPubkeyHash (signature pubkey : Bytes) : Script :=
  push signature ++ push pubkey

inductive Kind where
  | pubkeyHash
  | scriptHash
  | unknown
deriving DecidableEq

def Kind.name : Kind → String
  | .pubkeyHash => "pubkeyhash"
  | .scriptHash => "scripthash"
  | .unknown => "unknown"

/-- Only the bytes around the hash are looked at. -/
def kind (script : Script) : Kind :=
  if script.length = 25 ∧
      script.take 3 = [Opcode.dup, Opcode.hash160, 20] ∧
      script.drop 23 = [Opcode.equalVerify, Opcode.checkSig] then .pubkeyHash
  else if script.length = 23 ∧
      script.take 2 = [Opcode.hash160, 20] ∧
      script.drop 22 = [Opcode.equal] then .scriptHash
  else .unknown

end Remit.Script
