import Remit.Number.Digits
import Remit.Settings.Moment

/-!
Moments as they are written: a date, or a date and a time of day that may have a fraction and a
distance from universal time.
-/

namespace Remit.Settings.Yaml

/-- The digits at the front if their number is allowed, and what follows them. -/
def number? (lengths : List Nat) (text : List Char) : Option (Nat × List Char) :=
  let digits := text.takeWhile Char.isDigit
  if lengths.contains digits.length then
    some (Digits.value 10 digits, text.drop digits.length)
  else none

def dropMark? (mark : Char) : List Char → Option (List Char)
  | [] => none
  | c :: rest => if c = mark then some rest else none

/-- The first six digits of a fraction, filled up with zeros. -/
def microseconds (digits : List Char) : Nat :=
  Digits.value 10 ((digits ++ List.replicate 6 '0').take 6)

def offset? (text : List Char) : Option (Option Int) := do
  match text.dropWhile fun c => c = ' ' || c = '\t' with
  | [] => if text.isEmpty then some none else none
  | ['Z'] => some (some 0)
  | mark :: rest =>
      let sign ← if mark = '+' then some (1 : Int) else if mark = '-' then some (-1) else none
      let (hours, rest) ← number? [1, 2] rest
      let (minutes, rest) ←
        match rest with
        | ':' :: rest => number? [2] rest
        | _ => some (0, rest)
      if rest.isEmpty then some (some (sign * (hours * 60 + minutes))) else none

def timeOfDay? (text : List Char) : Option TimeOfDay := do
  let (hour, rest) ← number? [1, 2] text
  let (minute, rest) ← number? [2] (← dropMark? ':' rest)
  let (second, rest) ← number? [2] (← dropMark? ':' rest)
  let (fraction, rest) : List Char × List Char :=
    match rest with
    | '.' :: rest => (rest.takeWhile Char.isDigit, rest.dropWhile Char.isDigit)
    | _ => ([], rest)
  return ⟨hour, minute, second, microseconds fraction, ← offset? rest⟩

/-- The letter or the blanks between a date and its time, if there is a time. -/
def dropSeparator? (text : List Char) : Option (List Char) :=
  match text with
  | 'T' :: rest => some rest
  | 't' :: rest => some rest
  | c :: _ =>
      if c = ' ' ∨ c = '\t' then some (text.dropWhile fun c => c = ' ' || c = '\t') else none
  | [] => none

/-- The numbers of a moment, whether the calendar has it or not. -/
def moment? (text : List Char) : Option Moment := do
  let (year, rest) ← number? [4] text
  let (month, rest) ← number? [1, 2] (← dropMark? '-' rest)
  let (day, rest) ← number? [1, 2] (← dropMark? '-' rest)
  let time ← if rest.isEmpty then some none else (timeOfDay? (← dropSeparator? rest)).map some
  return ⟨year, month, day, time⟩

/-- A plain text is a date by itself only if month and day have two digits. -/
def isMoment (text : List Char) : Bool :=
  (moment? text).any fun m => m.time.isSome || text.length = 10

end Remit.Settings.Yaml
