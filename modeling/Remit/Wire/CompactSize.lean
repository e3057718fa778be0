import Remit.Bytes

/-!
Counts of variable width. A count below `0xFD` is its own byte; larger ones follow a marker byte
in two, four or eight bytes.
-/

namespace Remit.Wire

inductive EncodeError where
  | negativeCount (n : Int)
  | fieldRange
deriving DecidableEq

def EncodeError.message : EncodeError → String
  | .negativeCount n => s!"varint cannot encode negative value {n}"
  | .fieldRange => "integer out of range for its field"

namespace CompactSize

/-- The canonical bytes of a count that fits eight bytes. -/
def bytes (n : Nat) : Bytes :=
  if n < 0xFD then LittleEndian.ofNat 1 n
  else if n ≤ 0xFFFF then 0xFD :: LittleEndian.ofNat 2 n
  else if n ≤ 0xFFFFFFFF then 0xFE :: LittleEndian.ofNat 4 n
  else 0xFF :: LittleEndian.ofNat 8 n

def encode (n : Int) : Except EncodeError Bytes :=
  if n < 0 then .error (.negativeCount n)
  else if n ≤ 0xFFFFFFFFFFFFFFFF then .ok (bytes n.toNat)
  else .error .fieldRange

def width (n : Int) : Nat :=
  if n < 0xFD then 1
  else if n ≤ 0xFFFF then 3
  else if n ≤ 0xFFFFFFFF then 5
  else 9

end CompactSize

def encodeUnsigned (width : Nat) (i : Int) : Except EncodeError Bytes :=
  if LittleEndian.FitsUnsigned width i then .ok (LittleEndian.ofInt width i) else .error .fieldRange

def encodeSigned (width : Nat) (i : Int) : Except EncodeError Bytes :=
  if LittleEndian.FitsSigned width i then .ok (LittleEndian.ofInt width i) else .error .fieldRange

end Remit.Wire
