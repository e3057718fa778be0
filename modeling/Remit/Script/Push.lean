import Remit.Wire.Transaction

/-!
Opcodes and data pushes. A push uses the shortest form for the length of its data.
-/

namespace Remit.Script

open Wire (Script)

namespace Opcode

def empty : UInt8 := 0x00
def pushData1 : UInt8 := 0x4C
def pushData2 : UInt8 := 0x4D
def pushData4 : UInt8 := 0x4E
def dup : UInt8 := 0x76
def equal : UInt8 := 0x87
def equalVerify : UInt8 := 0x88
def hash160 : UInt8 := 0xA9
def checkSig : UInt8 := 0xAC

end Opcode

/-- Longest data whose length is its own opcode. -/
def directPushLimit : Nat := 0x4B

def push (data : Bytes) : Script :=
  let length := data.length
  if length = 0 then [Opcode.empty]
  else if length ≤ directPushLimit then UInt8.ofNat length :: data
  else if length ≤ 0xFF then Opcode.pushData1 :: LittleEndian.ofNat 1 length ++ data
  else if length ≤ 0xFFFF then Opcode.pushData2 :: LittleEndian.ofNat 2 length ++ data
  else Opcode.pushData4 :: LittleEndian.ofNat 4 length ++ data

end Remit.Script
