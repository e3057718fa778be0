import Remit.Bytes

/-!
Hexadecimal text. Writing gives two lower-case digits a byte; reading takes either case and
allows blanks around pairs but not inside them.
-/

namespace Remit.Hex

def digit (n : Nat) : Char :=
  if n < 10 then Char.ofNat ('0'.toNat + n) else Char.ofNat ('a'.toNat + (n - 10))

def value? (c : Char) : Option Nat :=
  if '0' ≤ c ∧ c ≤ '9' then some (c.toNat - '0'.toNat)
  else if 'a' ≤ c ∧ c ≤ 'f' then some (c.toNat - 'a'.toNat + 10)
  else if 'A' ≤ c ∧ c ≤ 'F' then some (c.toNat - 'A'.toNat + 10)
  else none

/-- The blanks that may stand between pairs: space, tab, line feed, vertical tab, form feed and
carriage return. -/
def isBlank (c : Char) : Bool :=
  c = ' ' || ('\t' ≤ c && c ≤ '\r')

def ofByte (b : UInt8) : List Char :=
  [digit (b.toNat / 16), digit (b.toNat % 16)]

def ofBytes (bytes : Bytes) : String :=
  String.ofList (bytes.flatMap ofByte)

def readPairs : List Char → Option Bytes
  | [] => some []
  | c :: rest =>
      if isBlank c then readPairs rest
      else
        match rest with
        | [] => none
        | d :: rest =>
            match value? c, value? d with
            | some high, some low =>
                (readPairs rest).map (UInt8.ofNat (16 * high + low) :: ·)
            | _, _ => none

def toBytes? (text : String) : Option Bytes :=
  readPairs text.toList

end Remit.Hex
