import Remit.Digest

/-!
References to outputs of earlier transactions.
-/

namespace Remit.Wire

structure OutPoint where
  txId : Digest
  index : UInt32
deriving DecidableEq

inductive OutPointError where
  | idText
  | idLength (length : Nat)
  | indexRange (index : Int)
deriving DecidableEq

def OutPointError.message : OutPointError → String
  | .idText => "transaction id is not hexadecimal"
  | .idLength length => s!"tx_id must be 32 bytes, got {length}"
  | .indexRange index => s!"output index out of range: {index}"

namespace OutPoint

/-- The length of the id is checked before the index. -/
def make (txId : Bytes) (index : Int) : Except OutPointError OutPoint :=
  match Digest.ofBytes? txId with
  | none => .error (.idLength txId.length)
  | some digest =>
      if 0 ≤ index ∧ index ≤ 0xFFFFFFFF then .ok ⟨digest, UInt32.ofNat index.toNat⟩
      else .error (.indexRange index)

/-- The display text of the id, last byte first. -/
def txIdHex (p : OutPoint) : String :=
  p.txId.display

def ofHex (text : String) (index : Int) : Except OutPointError OutPoint :=
  match Hex.toBytes? text with
  | none => .error .idText
  | some bytes => make bytes.reverse index

def bytes (p : OutPoint) : Bytes :=
  p.txId.bytes ++ LittleEndian.ofNat 4 p.index.toNat

/-- The place of the first equal point, for each point of a list. -/
def firstPlaces (points : List OutPoint) : List Nat :=
  points.map (points.idxOf ·)

def distinctCount (points : List OutPoint) : Nat :=
  points.eraseDups.length

end OutPoint

end Remit.Wire
