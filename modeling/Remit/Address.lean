import Remit.Address.Base58
import Remit.Digest.Sha256
import Remit.Script.Template
import Remit.Text.Quoted

/-!
Addresses: a version byte and a hash, in base 58 with a checksum. Each supported version stands
for one of the locking script templates.
-/

namespace Remit

open Wire (Script)

inductive AddressError where
  | character (c : Char)
  | tooShort
  | checksum
  | payloadLength (length : Nat)
  | unsupportedVersion (version : UInt8)
  | hashLength (length : Nat)
  | versionRange (version : Int)
  | template (error : Script.TemplateError)
deriving DecidableEq

def AddressError.message : AddressError → String
  | .character c => "Invalid Base58 character: " ++ Text.quoteChar c
  | .tooShort => "Base58Check string too short"
  | .checksum => "Base58Check checksum mismatch"
  | .payloadLength length => s!"Invalid address payload length: {length}"
  | .unsupportedVersion version => "Unsupported address version byte: 0x" ++ Hex.ofBytes [version]
  | .hashLength length => s!"address hash must be 20 bytes, got {length}"
  | .versionRange version => s!"address version {version} is not a byte"
  | .template error => error.message

namespace Base58Check

def checksumLength : Nat := 4

def checksum (payload : Bytes) : Bytes :=
  (sha256d payload).bytes.take checksumLength

def encode (payload : Bytes) : String :=
  Base58.encode (payload ++ checksum payload)

def decode (text : String) : Except AddressError Bytes := do
  let raw ← (Base58.decode text).mapError .character
  if raw.length < checksumLength then
    throw .tooShort
  let payload := raw.take (raw.length - checksumLength)
  if raw.drop (raw.length - checksumLength) ≠ checksum payload then
    throw .checksum
  return payload

end Base58Check

namespace Address

def mainnetPubkeyHash : UInt8 := 0x00
def testnetPubkeyHash : UInt8 := 0x6F
def mainnetScriptHash : UInt8 := 0x05
def testnetScriptHash : UInt8 := 0xC4

/-- The length of the hash is checked before the version. -/
def ofHash (version : Int) (hash : Bytes) : Except AddressError String :=
  if hash.length ≠ Script.hashLength then .error (.hashLength hash.length)
  else if 0 ≤ version ∧ version < 256 then
    .ok (Base58Check.encode (UInt8.ofNat version.toNat :: hash))
  else .error (.versionRange version)

def toScript (address : String) : Except AddressError Script := do
  match ← Base58Check.decode address with
  | [] => throw (.payloadLength 0)
  | version :: hash =>
      if hash.length ≠ Script.hashLength then
        throw (.payloadLength (hash.length + 1))
      if version = mainnetPubkeyHash ∨ version = testnetPubkeyHash then
        (Script.payToPubkeyHash hash).mapError .template
      else if version = mainnetScriptHash ∨ version = testnetScriptHash then
        (Script.payToScriptHash hash).mapError .template
      else throw (.unsupportedVersion version)

end Address

end Remit
