import Remit.Hex

/-!
Thirty-two byte digests, the values that name transactions.
-/

namespace Remit

structure Digest where
  bytes : Bytes
  length_eq : bytes.length = 32
deriving DecidableEq

namespace Digest

def ofBytes? (bytes : Bytes) : Option Digest :=
  if h : bytes.length = 32 then some ⟨bytes, h⟩ else none

/-- Digests are shown with the last byte first. -/
def display (d : Digest) : String :=
  Hex.ofBytes d.bytes.reverse

@[simp] theorem ofBytes?_bytes (d : Digest) : ofBytes? d.bytes = some d := by
  simp [ofBytes?, d.length_eq]

end Digest

end Remit
