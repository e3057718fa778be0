import Remit.Number.Shortest
import Remit.Settings.Moment
import Remit.Text.Lower

/-!
Values that settings are given as, before they are checked. Objects keep the order of their keys,
and a key has one value. Keys other than texts occur in files only.
-/

namespace Remit.Settings

inductive Key where
  | text (s : String)
  /-- An integer, or a truth value as one or zero. -/
  | int (i : Int)
  | number (x : Binary64)
  | null
  | moment (m : Moment)
deriving DecidableEq

instance : Coe String Key := ⟨.text⟩

namespace Key

/-- An integer and a number of floating point are one key if their values are equal. -/
def same : Key → Key → Bool
  | .int i, .number x => x.toInt? = some i
  | .number x, .int i => x.toInt? = some i
  | .number x, .number y => x = y || (x.isZero && y.isZero)
  | a, b => a = b

def label : Key → String
  | .text s => s
  | .int i => toString i
  | .number x => x.text
  | .null => "None"
  | .moment m => m.label

def isText : Key → Bool
  | .text _ => true
  | _ => false

def matching? (key : Key) (names : List String) : Option String :=
  match key with
  | .text s => names.find? (· = Text.lower s)
  | _ => none

end Key

inductive Value where
  | null
  | bool (b : Bool)
  | int (i : Int)
  | number (x : Binary64)
  | moment (m : Moment)
  | text (s : String)
  | list (items : List Value)
  | object (fields : List (Key × Value))
deriving Inhabited

def Value.toKey? : Value → Option Key
  | .null => some .null
  | .bool b => some (.int (if b then 1 else 0))
  | .int i => some (.int i)
  | .number x => some (.number x)
  | .moment m => some (.moment m)
  | .text s => some (.text s)
  | .list _ | .object _ => none

abbrev Fields := List (Key × Value)

namespace Fields

def get? (fields : Fields) (key : Key) : Option Value :=
  fields.lookup key

/-- Overwrites a key in place or adds it at the end. -/
def set (fields : Fields) (key : Key) (value : Value) : Fields :=
  match fields with
  | [] => [(key, value)]
  | (k, v) :: rest => if k = key then (key, value) :: rest else (k, v) :: set rest key value

/-- The fields of both, those of `upper` where both have a key. -/
def overlay (lower upper : Fields) : Fields :=
  upper.foldl (fun fields (key, value) => set fields key value) lower

@[simp] theorem get?_set_self (fields : Fields) (key : Key) (value : Value) :
    get? (set fields key value) key = some value := by
  induction fields with
  | nil => simp [set, get?]
  | cons entry rest ih =>
      obtain ⟨k, v⟩ := entry
      unfold set
      split
      · simp [get?]
      · rename_i hk
        have differ : (key == k) = false := by simpa using Ne.symm hk
        simpa only [get?, List.lookup_cons, differ] using ih

theorem get?_set_of_ne (fields : Fields) {key other : Key} (value : Value)
    (h : other ≠ key) : get? (set fields key value) other = get? fields other := by
  induction fields with
  | nil => simp [set, get?, h]
  | cons entry rest ih =>
      obtain ⟨k, v⟩ := entry
      unfold set
      split
      · rename_i hk
        have differ : (other == key) = false := by simpa using h
        simp only [get?, List.lookup_cons, hk, differ]
      · simp only [get?, List.lookup_cons] at ih ⊢
        split
        · rfl
        · exact ih

end Fields

/-- The first value whose key is a name in lower case. -/
def Fields.firstMatching? (fields : Fields) (name : String) : Option Value :=
  (fields.find? fun (key, _) => key.matching? [name] = some name).map (·.2)

/-- Each name takes the first value whose key matches it, and keys that match no name stay. -/
def Fields.named (fields : Fields) (names : List String) : Fields :=
  names.filterMap (fun name => (fields.firstMatching? name).map (Key.text name, ·)) ++
    fields.filter fun (key, _) => (key.matching? names).isNone

/-- Two objects are merged key by key; otherwise the upper value stands. Objects inside of them are
not merged: every check refuses an object inside, whatever it holds. -/
def Value.merge (lower upper : Value) : Value :=
  match lower, upper with
  | .object low, .object high => .object (Fields.overlay low high)
  | _, value => value

/-- Merges the value of each key of `upper` into `lower`. -/
def Fields.mergeOver (lower upper : Fields) : Fields :=
  upper.foldl
    (fun fields (key, value) =>
      set fields key (match get? fields key with
        | some low => low.merge value
        | none => value))
    lower

def Value.isEmpty : Value → Bool
  | .null => true
  | .bool b => !b
  | .int i => i = 0
  | .number x => x.isZero
  | .moment _ => false
  | .text s => s = ""
  | .list items => items.isEmpty
  | .object fields => fields.isEmpty

end Remit.Settings
