import Remit.Log.Record
import Remit.Policy.Fee
import Remit.Settings.Numeral
import Remit.Settings.Value

/-!
Checks of single settings. All that is wrong is reported together, each fault with the path of its
key.
-/

namespace Remit.Settings

inductive Reason where
  | notInteger
  | unreadableInteger
  | oversizedInteger
  | fractionalInteger
  | nonFinite
  | belowMinimum
  | aboveMaximum
  | unknownLevel
  | notText
  | notObject
  | unknownKey
  | keyNotText
  | unreadableFile
deriving DecidableEq

def Reason.code : Reason → String
  | .notInteger => "int_type"
  | .unreadableInteger => "int_parsing"
  | .oversizedInteger => "int_parsing_size"
  | .fractionalInteger => "int_from_float"
  | .nonFinite => "finite_number"
  | .belowMinimum => "greater_than_equal"
  | .aboveMaximum => "less_than_equal"
  | .unknownLevel => "enum"
  | .notText => "string_type"
  | .notObject => "model_type"
  | .unknownKey => "extra_forbidden"
  | .keyNotText => "invalid_key"
  | .unreadableFile => "value_error"

structure Fault where
  path : List String
  reason : Reason
deriving DecidableEq

/-- The same fault, seen from the setting above. -/
def Fault.under (key : String) (fault : Fault) : Fault :=
  { fault with path := key :: fault.path }

/-- Faults are ordered by path and then by code. -/
def Fault.le (a b : Fault) : Bool :=
  match compare a.path b.path with
  | .lt => true
  | .gt => false
  | .eq => decide (a.reason.code ≤ b.reason.code)

/-- Integers of floating point are read if they are smaller than this. -/
def integerRange : Nat := 1 <<< 63

/-- A number of floating point has to be an integer. -/
def readNumber (x : Binary64) : Except Reason Int :=
  match x with
  | .finite _ _ _ =>
      match x.toInt? with
      | none => .error .fractionalInteger
      | some i => if i.natAbs < integerRange then .ok i else .error .oversizedInteger
  | _ => .error .nonFinite

/-- Truth values count as one and zero, and a text is read as a numeral. -/
def readInteger : Value → Except Reason Int
  | .int i => .ok i
  | .bool b => .ok (if b then 1 else 0)
  | .number x => readNumber x
  | .text s =>
      match Numeral.integer s with
      | .ok i => .ok i
      | .error .malformed => .error .unreadableInteger
      | .error .tooLong => .error .oversizedInteger
  | .null | .moment _ | .list _ | .object _ => .error .notInteger

def checkFeeRate (value : Value) : Except Reason Nat := do
  let rate ← readInteger value
  if rate < 0 then throw .belowMinimum
  if rate > Policy.maxAmount then throw .aboveMaximum
  return rate.toNat

def checkText : Value → Except Reason String
  | .text s => .ok s
  | _ => .error .notText

def configurableLevels : List Log.Level :=
  [.debug, .info, .warning, .error]

def checkLevel : Value → Except Reason Log.Level
  | .text s =>
      match configurableLevels.find? (·.name = s) with
      | some level => .ok level
      | none => .error .unknownLevel
  | _ => .error .unknownLevel

def checkField {α : Type} (fields : Fields) (key : String) (default : α)
    (check : Value → Except Reason α) : Except (List Fault) α :=
  match fields.get? key with
  | none => .ok default
  | some value => (check value).mapError fun reason => [⟨[key], reason⟩]

/-- What is wrong with a key that should be one of some names. -/
def checkKey (known : List String) (key : Key) : Option Fault :=
  match key with
  | .text s => if known.contains s then none else some ⟨[s], .unknownKey⟩
  | _ => some ⟨[key.label], .keyNotText⟩

def unknownKeys (fields : Fields) (known : List String) : List Fault :=
  fields.filterMap fun (key, _) => checkKey known key

def faultsOf {α : Type} : Except (List Fault) α → List Fault
  | .ok _ => []
  | .error faults => faults

end Remit.Settings
