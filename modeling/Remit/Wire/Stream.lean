import Remit.Wire.CompactSize

/-!
Reading from a byte stream. A failed read keeps what it consumed: a short read has consumed the
rest of the stream, and a read of an impossible length nothing.
-/

namespace Remit.Wire

structure Stream where
  rest : Bytes
  position : Nat
deriving DecidableEq

def Stream.ofBytes (data : Bytes) : Stream :=
  ⟨data, 0⟩

inductive ReadError where
  /-- The stream ended before the first byte of a count. -/
  | noCount
  | short (wanted got : Nat)
  /-- A length that no stream can hold. -/
  | oversized (wanted : Nat)
deriving DecidableEq

def ReadError.message : ReadError → String
  | .noCount => "Unexpected end of stream reading varint"
  | .short wanted got => s!"Unexpected end of stream: wanted {wanted} bytes, got {got}"
  | .oversized wanted => s!"length {wanted} exceeds the largest stream"

/-- Readers thread the stream through failures as well as successes. -/
abbrev Read := ExceptT ReadError (StateM Stream)

/-- Lengths from here on are refused before anything is consumed. -/
def lengthLimit : Nat := 0x8000000000000000

def readBytes (wanted : Nat) : Read Bytes := do
  if lengthLimit ≤ wanted then
    throw (.oversized wanted)
  let stream ← get
  let chunk := stream.rest.take wanted
  set (Stream.mk (stream.rest.drop wanted) (stream.position + chunk.length))
  if chunk.length < wanted then
    throw (.short wanted chunk.length)
  return chunk

def readUnsigned (width : Nat) : Read Nat :=
  LittleEndian.toNat <$> readBytes width

def readSigned (width : Nat) : Read Int :=
  LittleEndian.toInt <$> readBytes width

/-- Any form wide enough for its value is accepted, the shortest or not. -/
def readCount : Read Nat := do
  let stream ← get
  match stream.rest with
  | [] => throw .noCount
  | marker :: rest =>
      set (Stream.mk rest (stream.position + 1))
      if marker < 0xFD then return marker.toNat
      else if marker = 0xFD then readUnsigned 2
      else if marker = 0xFE then readUnsigned 4
      else readUnsigned 8

def readCounted : Read Bytes := do
  readBytes (← readCount)

def readMany {α : Type} (item : Read α) : Nat → Read (List α)
  | 0 => return []
  | n + 1 => do
      let first ← item
      let rest ← readMany item n
      return first :: rest

end Remit.Wire
