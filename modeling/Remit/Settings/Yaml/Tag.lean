import Remit.Number.Digits

/-!
The kinds of values that a file can hold, and the kind of a plain scalar by its text. Of several
kinds that a text has the form of, the first one counts in the order truth value, floating point
number, integer, merge key, null, moment, default key.
-/

namespace Remit.Settings.Yaml

inductive Tag where
  | null
  | bool
  | int
  | float
  | merge
  | moment
  | default
  | text
  | list
  | mapping
  | unknown
deriving DecidableEq

namespace Tag

def coreStart : String := "tag:yaml.org,2002:"

def ofName? (name : String) : Option Tag :=
  match name with
  | "null" => some .null
  | "bool" => some .bool
  | "int" => some .int
  | "float" => some .float
  | "merge" => some .merge
  | "timestamp" => some .moment
  | "value" => some .default
  | "str" => some .text
  | "seq" => some .list
  | "map" => some .mapping
  | _ => none

def ofUri (uri : String) : Tag :=
  if coreStart.toList.isPrefixOf uri.toList then
    (ofName? (String.ofList (uri.toList.drop coreStart.length))).getD .unknown
  else .unknown

end Tag

def nulls : List String :=
  ["", "~", "null", "Null", "NULL"]

def trueWords : List String :=
  ["yes", "Yes", "YES", "true", "True", "TRUE", "on", "On", "ON"]

def falseWords : List String :=
  ["no", "No", "NO", "false", "False", "FALSE", "off", "Off", "OFF"]

def infiniteWords : List String :=
  [".inf", ".Inf", ".INF"]

def undefinedWords : List String :=
  [".nan", ".NaN", ".NAN"]

/-- Digits of a base and underscores, at least one character. -/
def isDigits (base : Nat) (text : List Char) : Bool :=
  !text.isEmpty && text.all fun c => c = '_' || (Digits.digitValue? base c).isSome

/-- Digits and underscores, with a digit first. -/
def isPlaces (text : List Char) : Bool :=
  text.head?.any Char.isDigit && isDigits 10 text

def isUnsigned (text : List Char) : Bool :=
  !text.isEmpty && text.all Char.isDigit

/-- A number below sixty in one or two digits. -/
def isSixtieth : List Char → Bool
  | [a] => a.isDigit
  | [a, b] => '0' ≤ a && a ≤ '5' && b.isDigit
  | _ => false

def splitColons (text : List Char) : List (List Char) :=
  text.splitOn ':'

/-- Base sixty, with colons between the places. -/
def isSexagesimal (body : List Char) : Bool :=
  match splitColons body with
  | first :: second :: rest => isPlaces first && (second :: rest).all isSixtieth
  | _ => false

/-- An integer without its sign: binary, octal, hexadecimal, decimal or in base sixty. -/
def isMagnitude : List Char → Bool
  | ['0'] => true
  | '0' :: 'b' :: digits => isDigits 2 digits
  | '0' :: 'x' :: digits => isDigits 16 digits
  | '0' :: digits => isDigits 8 digits
  | body => isPlaces body || isSexagesimal body

def isInt (text : List Char) : Bool :=
  isMagnitude (Digits.splitSign text).2

def isExponent : List Char → Bool
  | [] => true
  | e :: sign :: digits => (e = 'e' || e = 'E') && (sign = '+' || sign = '-') && isUnsigned digits
  | _ => false

def isPlace (c : Char) : Bool :=
  c.isDigit || c = '_'

/-- Digits around a point, of which those behind it may be missing, and an exponent. -/
def isPointed (body : List Char) : Bool :=
  isPlaces (body.takeWhile isPlace) &&
    match body.dropWhile isPlace with
    | '.' :: rest => isExponent (rest.dropWhile isPlace)
    | _ => false

def isFraction : List Char → Bool
  | '.' :: rest => isPlaces (rest.takeWhile isPlace) && isExponent (rest.dropWhile isPlace)
  | _ => false

/-- Base sixty, with a point behind the last place and digits behind the point. -/
def isSexagesimalFraction (body : List Char) : Bool :=
  let whole := body.takeWhile (· ≠ '.')
  match body.dropWhile (· ≠ '.') with
  | '.' :: places => isSexagesimal whole && places.all isPlace
  | _ => false

def isFloat (text : List Char) : Bool :=
  let body := (Digits.splitSign text).2
  isPointed body || isFraction text || isSexagesimalFraction body ||
    infiniteWords.contains (String.ofList body) || undefinedWords.contains (String.ofList text)

end Remit.Settings.Yaml
