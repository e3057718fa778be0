import Remit.Number.Shortest
import Remit.Text.Quoted

/-!
How a field of a record is written: a letter says what its text is, and flags, width and precision
say how it is filled up or cut.
-/

namespace Remit.Log

inductive FieldValue where
  | text (s : String)
  | number (n : Nat)
deriving DecidableEq

structure Conversion where
  left : Bool
  zero : Bool
  plus : Bool
  space : Bool
  alternate : Bool
  width : Nat
  precision : Option Nat
  letter : Char
deriving DecidableEq

namespace Conversion

def blanks (n : Nat) : List Char :=
  List.replicate n ' '

def zeros (n : Nat) : List Char :=
  List.replicate n '0'

def fill (c : Conversion) (text : List Char) : List Char :=
  let more := c.width - text.length
  if c.left then text ++ blanks more else blanks more ++ text

/-- Fills up a number. Zeros stand between its sign and mark of base and its digits. -/
def fillNumber (c : Conversion) (base digits : List Char) : List Char :=
  let sign := if c.plus then ['+'] else if c.space then [' '] else []
  let start := sign ++ base
  if c.zero && !c.left then
    start ++ zeros (c.width - start.length - digits.length) ++ digits
  else c.fill (start ++ digits)

/-- Digits of a base, as many as the precision asks for at least. -/
def digits (c : Conversion) (base n : Nat) : List Char :=
  let ds := Nat.toDigits base n
  zeros (c.precision.getD 1 - ds.length) ++ ds

def baseMark (c : Conversion) (letter : Char) : List Char :=
  if c.alternate then ['0', letter] else []

def upper (text : List Char) : List Char :=
  text.map Char.toUpper

def fraction (c : Conversion) (places : List Char) : List Char :=
  if places.isEmpty && !c.alternate then [] else '.' :: places

/-- The digits of a number rounded to some places, and the power of ten of the first one. -/
def significant (count n : Nat) : List Char × Nat :=
  let ds := Nat.toDigits 10 n
  if ds.length ≤ count then (ds ++ zeros (count - ds.length), ds.length - 1)
  else
    let rounded := Nat.toDigits 10
      (Binary64.roundHalfEven n (Nat.pow 10 (ds.length - count)))
    (rounded.take count, ds.length - 1 + (rounded.length - count))

def scientific (c : Conversion) (digits : List Char) (power : Nat) : List Char :=
  digits.take 1 ++ c.fraction (digits.drop 1) ++ 'e' :: Binary64.exponentText power

/-- Drops zeros at the end, unless the alternate form is asked for. -/
def dropZeros (c : Conversion) (places : List Char) : List Char :=
  if c.alternate then places else (places.reverse.dropWhile (· = '0')).reverse

/-- With an exponent if the power of ten is not below the number of digits. -/
def general (c : Conversion) (n : Nat) : List Char :=
  let count := max (c.precision.getD 6) 1
  let (ds, power) := significant count n
  if power < count then ds.take (power + 1) ++ c.fraction (c.dropZeros (ds.drop (power + 1)))
  else c.scientific (ds.take 1 ++ c.dropZeros (ds.drop 1)) power

def fixed (c : Conversion) (n : Nat) : List Char :=
  Nat.toDigits 10 n ++ c.fraction (zeros (c.precision.getD 6))

def exponential (c : Conversion) (n : Nat) : List Char :=
  let (ds, power) := significant (c.precision.getD 6 + 1) n
  c.scientific ds power

def number? (c : Conversion) (n : Nat) : Option (List Char) :=
  match c.letter with
  | 'd' | 'i' | 'u' => some (c.fillNumber [] (c.digits 10 n))
  | 'o' => some (c.fillNumber (c.baseMark 'o') (c.digits 8 n))
  | 'x' => some (c.fillNumber (c.baseMark 'x') (c.digits 16 n))
  | 'X' => some (c.fillNumber (c.baseMark 'X') (upper (c.digits 16 n)))
  | 'e' => some (c.fillNumber [] (c.exponential n))
  | 'E' => some (c.fillNumber [] (upper (c.exponential n)))
  | 'f' | 'F' => some (c.fillNumber [] (c.fixed n))
  | 'g' => some (c.fillNumber [] (c.general n))
  | 'G' => some (c.fillNumber [] (upper (c.general n)))
  | _ => none

def text? (c : Conversion) (value : FieldValue) : Option String :=
  match c.letter, value with
  | 's', .text s => some s
  | 'r', .text s => some (Text.quote s)
  | 'a', .text s => some (Text.quoteAscii s)
  | 's', .number n | 'r', .number n | 'a', .number n => some (toString n)
  | _, _ => none

def char? (c : Conversion) (value : FieldValue) : Option Char :=
  match c.letter, value with
  | 'c', .text s =>
      match s.toList with
      | [single] => some single
      | _ => none
  | 'c', .number n => if n.isValidChar then some (Char.ofNat n) else none
  | _, _ => none

def render? (c : Conversion) (value : FieldValue) : Option String :=
  let written :=
    match c.text? value, c.char? value, value with
    | some s, _, _ => some (c.fill ((c.precision.map s.toList.take).getD s.toList))
    | none, some single, _ => some (c.fill [single])
    | none, none, .number n => c.number? n
    | none, none, .text _ => none
  written.map String.ofList

end Conversion

end Remit.Log
