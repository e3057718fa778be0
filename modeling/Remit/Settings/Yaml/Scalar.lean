import Remit.Settings.Value
import Remit.Settings.Yaml.Source
import Remit.Settings.Yaml.Tag
import Remit.Settings.Yaml.Timestamp

/-!
The values of scalars.
-/

namespace Remit.Settings.Yaml

def Tag.ofPlain (text : List Char) : Tag :=
  let word := String.ofList text
  if trueWords.contains word || falseWords.contains word then .bool
  else if isFloat text then .float
  else if isInt text then .int
  else if word = "<<" then .merge
  else if nulls.contains word then .null
  else if isMoment text then .moment
  else if word = "=" then .default
  else .text

def dropUnderscores (text : List Char) : List Char :=
  text.filter (· ≠ '_')

/-- Digits of a base, at least one. -/
def digitsValue? (base : Nat) (digits : List Char) : Option Nat :=
  if digits.isEmpty ∨ !digits.all fun c => (Digits.digitValue? base c).isSome then none
  else some (Digits.value base digits)

def magnitude? (body : List Char) : Option Nat :=
  match body with
  | ['0'] => some 0
  | '0' :: 'b' :: digits => digitsValue? 2 digits
  | '0' :: 'x' :: digits => digitsValue? 16 digits
  | '0' :: _ => digitsValue? 8 body
  | _ => do
      let places ← (splitColons body).mapM (digitsValue? 10)
      return places.foldl (fun n place => n * 60 + place) 0

def int? (text : List Char) : Option Int :=
  let (sign, body) := Digits.splitSign (dropUnderscores text)
  (magnitude? body).map fun n => sign * n

/-- Decimal digits with a point among them or not, and an exponent or none. -/
def decimal? (text : List Char) : Option Binary64 := do
  let whole := text.takeWhile Char.isDigit
  let rest := text.dropWhile Char.isDigit
  let (places, rest) : List Char × List Char :=
    match rest with
    | '.' :: rest => (rest.takeWhile Char.isDigit, rest.dropWhile Char.isDigit)
    | _ => ([], rest)
  if whole.isEmpty && places.isEmpty then none
  let power ←
    match rest with
    | [] => some 0
    | e :: rest =>
        let (sign, digits) := Digits.splitSign rest
        if (e = 'e' || e = 'E') && isUnsigned digits then some (sign * Digits.value 10 digits)
        else none
  return .ofDecimal false (Digits.value 10 (whole ++ places)) (power - places.length)

/-- Places of base sixty, each weighed and added up in floating point, from the last one on. -/
def sexagesimalSum (places : List Binary64) : Binary64 :=
  let weighed := places.reverse.zipIdx.map fun (place, i) =>
    place.mul (.ofNat (Nat.pow 60 i))
  weighed.foldl Binary64.add .zero

def float? (text : List Char) : Option Binary64 := do
  let (sign, body) := Digits.splitSign (dropUnderscores text)
  let magnitude ←
    if infiniteWords.contains (String.ofList body) then some (.infinite false)
    else if undefinedWords.contains (String.ofList body) then some .undefined
    else if body.contains ':' then sexagesimalSum <$> (splitColons body).mapM decimal?
    else decimal? body
  return if sign < 0 then magnitude.neg else magnitude

/-- The value of a scalar. A merge key or a default key has none, and neither has a scalar that is
said to be a collection. -/
def scalarValue (tag : Tag) (text : String) : Except Error Value :=
  let chars := text.toList
  match tag with
  | .null => .ok .null
  | .bool =>
      let word := Text.lower text
      if trueWords.contains word then .ok (.bool true)
      else if falseWords.contains word then .ok (.bool false)
      else .error .malformed
  | .int => ((int? chars).map .int).elim (.error .noSuchValue) .ok
  | .float => ((float? chars).map .number).elim (.error .noSuchValue) .ok
  | .moment =>
      match moment? chars with
      | none => .error .malformed
      | some m => if m.isValid then .ok (.moment m) else .error .noSuchValue
  | .text => .ok (.text text)
  | .merge | .default | .list | .mapping | .unknown => .error .malformed

end Remit.Settings.Yaml
