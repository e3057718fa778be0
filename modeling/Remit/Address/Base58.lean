import Remit.Bytes

/-!
Base 58 text of byte strings. The bytes are read as one number, highest first, and every leading
zero byte becomes a leading `1`.
-/

namespace Remit.Base58

def alphabet : List Char :=
  "123456789ABCDEFGHJKLMNPQRSTUVWXYZabcdefghijkmnopqrstuvwxyz".toList

def digitChar (d : Nat) : Char :=
  alphabet.getD d '1'

def digitValue? (c : Char) : Option Nat :=
  alphabet.idxOf? c

/-- The digits of a number, highest first, without leading zeros. -/
def digits (n : Nat) : List Nat :=
  if n = 0 then [] else digits (n / 58) ++ [n % 58]

def value (digits : List Nat) : Nat :=
  digits.foldl (fun n d => n * 58 + d) 0

def encodeChars (bytes : Bytes) : List Char :=
  List.replicate (bytes.takeWhile (· = 0)).length '1' ++
    (digits (BigEndian.toNat bytes)).map digitChar

def encode (bytes : Bytes) : String :=
  String.ofList (encodeChars bytes)

/-- The values of the characters, or the first character that is no digit. -/
def readDigits : List Char → Except Char (List Nat)
  | [] => .ok []
  | c :: rest =>
      match digitValue? c with
      | none => .error c
      | some d => (d :: ·) <$> readDigits rest

def decodeChars (text : List Char) : Except Char Bytes := do
  let digits ← readDigits text
  return List.replicate (text.takeWhile (· = '1')).length 0 ++ BigEndian.minimal (value digits)

def decode (text : String) : Except Char Bytes :=
  decodeChars text.toList

end Remit.Base58
