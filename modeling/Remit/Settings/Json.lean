import Remit.Number.Digits
import Remit.Settings.Value
import Remit.Text.Surrogate

/-!
Values written as JSON. Numbers with a fraction or an exponent are of floating point, and the names
of the special floating point values are accepted too.
-/

namespace Remit.Settings.Json

def skipBlanks (text : List Char) : List Char :=
  text.dropWhile fun c => c = ' ' || c = '\t' || c = '\n' || c = '\r'

def hex4? (a b c d : Char) : Option Nat := do
  let a ← Digits.digitValue? 16 a
  let b ← Digits.digitValue? 16 b
  let c ← Digits.digitValue? 16 c
  let d ← Digits.digitValue? 16 d
  return ((a * 16 + b) * 16 + c) * 16 + d

def escape? : Char → Option Char
  | '"' => some '"'
  | '\\' => some '\\'
  | '/' => some '/'
  | 'b' => some '\x08'
  | 'f' => some '\x0c'
  | 'n' => some '\n'
  | 'r' => some '\r'
  | 't' => some '\t'
  | _ => none

/-- The code units up to the closing quotation mark, and what follows it. -/
def units : List Char → Option (List Nat × List Char)
  | [] => none
  | '"' :: rest => some ([], rest)
  | '\\' :: 'u' :: a :: b :: c :: d :: rest =>
      match hex4? a b c d, units rest with
      | some n, some (ns, rest) => some (n :: ns, rest)
      | _, _ => none
  | '\\' :: c :: rest =>
      match escape? c, units rest with
      | some c, some (ns, rest) => some (c.toNat :: ns, rest)
      | _, _ => none
  | c :: rest =>
      if c < ' ' then none
      else
        match units rest with
        | some (ns, rest) => some (c.toNat :: ns, rest)
        | none => none

def string? (text : List Char) : Option (String × List Char) :=
  (units text).map fun (ns, rest) => (String.ofList (Text.joinSurrogates ns), rest)

def splitDigits (text : List Char) : List Char × List Char :=
  (text.takeWhile Char.isDigit, text.dropWhile Char.isDigit)

def fraction (text : List Char) : List Char × List Char :=
  match text with
  | '.' :: rest =>
      match splitDigits rest with
      | ([], _) => ([], text)
      | split => split
  | _ => ([], text)

def exponent? (text : List Char) : Option Int × List Char :=
  match text with
  | e :: rest =>
      if e = 'e' ∨ e = 'E' then
        let (sign, body) := Digits.splitSign rest
        match splitDigits body with
        | ([], _) => (none, text)
        | (digits, after) => (some (sign * Digits.value 10 digits), after)
      else (none, text)
  | [] => (none, text)

/-- A number without its sign. A leading zero is a number by itself. -/
def number? (negative : Bool) (text : List Char) : Option (Value × List Char) :=
  let split :=
    match text with
    | '0' :: rest => (['0'], rest)
    | _ => splitDigits text
  match split with
  | ([], _) => none
  | (whole, rest) =>
      let (places, rest) := fraction rest
      let (power, rest) := exponent? rest
      if places.isEmpty ∧ power.isNone then
        let n : Int := Digits.value 10 whole
        some (.int (if negative then -n else n), rest)
      else
        let digits := Digits.value 10 (whole ++ places)
        some (.number (.ofDecimal negative digits (power.getD 0 - places.length)), rest)

def dropWord? (word : String) (text : List Char) : Option (List Char) :=
  if word.toList.isPrefixOf text then some (text.drop word.length) else none

def literals : List (String × Value) :=
  [("null", .null), ("true", .bool true), ("false", .bool false), ("NaN", .number .undefined),
    ("Infinity", .number (.infinite false)), ("-Infinity", .number (.infinite true))]

def literal? (text : List Char) : Option (Value × List Char) :=
  literals.findSome? fun (word, value) => (dropWord? word text).map (value, ·)

mutual

/-- A value at the front of a text. The first argument bounds the steps. -/
def value? : Nat → List Char → Option (Value × List Char)
  | 0, _ => none
  | fuel + 1, text =>
      match literal? text with
      | some found => some found
      | none =>
          match text with
          | '"' :: rest => (string? rest).map fun (s, rest) => (.text s, rest)
          | '[' :: rest =>
              match skipBlanks rest with
              | ']' :: rest => some (.list [], rest)
              | rest => (items? fuel rest).map fun (items, rest) => (.list items, rest)
          | '{' :: rest =>
              match skipBlanks rest with
              | '}' :: rest => some (.object [], rest)
              | rest => (members? fuel [] rest).map fun (fields, rest) => (.object fields, rest)
          | '-' :: rest => number? true rest
          | _ => number? false text

def items? : Nat → List Char → Option (List Value × List Char)
  | 0, _ => none
  | fuel + 1, text => do
      let (item, rest) ← value? fuel text
      match skipBlanks rest with
      | ',' :: rest =>
          let (items, rest) ← items? fuel (skipBlanks rest)
          return (item :: items, rest)
      | ']' :: rest => return ([item], rest)
      | _ => none

/-- The last value of a repeated key stands. -/
def members? : Nat → Fields → List Char → Option (Fields × List Char)
  | 0, _, _ => none
  | fuel + 1, fields, '"' :: text => do
      let (key, rest) ← string? text
      match skipBlanks rest with
      | ':' :: rest =>
          let (value, rest) ← value? fuel (skipBlanks rest)
          let fields := Fields.set fields key value
          match skipBlanks rest with
          | ',' :: rest => members? fuel fields (skipBlanks rest)
          | '}' :: rest => return (fields, rest)
          | _ => none
      | _ => none
  | _, _, _ => none

end

def parse? (text : String) : Option Value := do
  let chars := text.toList
  let (value, rest) ← value? (chars.length + 1) (skipBlanks chars)
  if (skipBlanks rest).isEmpty then return value else none

end Remit.Settings.Json
