import Remit.Number.Binary64

/-!
The shortest decimal text of a binary number: the fewest digits that are read back as the number,
and of those the nearest. Numbers below `10 ^ -4` and from `10 ^ 16` on are written with an
exponent.
-/

namespace Remit.Binary64

/-- The digits of `n * 10 ^ power` for the number `digits * 2 ^ exponent`, as a quotient. -/
def scaledRatio (digits : Nat) (exponent power : Int) : Nat × Nat :=
  ((digits * Nat.pow 10 power.toNat) <<< exponent.toNat,
    Nat.pow 10 (-power).toNat <<< (-exponent).toNat)

/-- The least power of ten that lies above a positive quotient, searched from below. -/
def decimalLength (num den : Nat) : Nat → Int → Int
  | 0, power => power
  | fuel + 1, power =>
      if num * Nat.pow 10 (-power).toNat < den * Nat.pow 10 power.toNat then power
      else decimalLength num den fuel (power + 1)

/-- Of the two neighbours on a decimal grid those that are read back, the nearer one first. -/
def readBack? (x : Binary64) (digits : Nat) (exponent power : Int) : Option Nat :=
  let (num, den) := scaledRatio digits exponent power
  let low := num / den
  let near := roundHalfEven num den
  let far := if near = low then low + 1 else low
  [near, far].find? fun n => ofDecimal x.isNegative n (-power) = x

/-- The digits and the place of the point before them, with the fewest digits from `count` on. -/
def shortestFrom (x : Binary64) (digits : Nat) (exponent place : Int) : Nat → Nat → Nat × Int
  | 0, _ => (digits, place)
  | fuel + 1, count =>
      match readBack? x digits exponent (count - place) with
      | some n => (n, place - count)
      | none => shortestFrom x digits exponent place fuel (count + 1)

/-- Decimal digits and exponent of a finite number other than zero. -/
def shortest (x : Binary64) (digits : Nat) (exponent : Int) : Nat × Int :=
  let (num, den) := scaledRatio digits exponent 0
  shortestFrom x digits exponent (decimalLength num den 800 (-350)) 17 1

/-- Digits without the zeros at their end, and the exponent that they have then. -/
def trimZeros : Nat → Nat → Int → Nat × Int
  | 0, digits, exponent => (digits, exponent)
  | fuel + 1, digits, exponent =>
      if digits % 10 = 0 ∧ digits ≠ 0 then trimZeros fuel (digits / 10) (exponent + 1)
      else (digits, exponent)

def exponentText (exponent : Int) : List Char :=
  let digits := Nat.toDigits 10 exponent.natAbs
  (if exponent < 0 then '-' else '+') :: (if digits.length < 2 then '0' :: digits else digits)

def decimalText (digits : Nat) (exponent : Int) : List Char :=
  let (digits, exponent) := trimZeros 20 digits exponent
  let ds := Nat.toDigits 10 digits
  let place := exponent + ds.length
  if -4 < place ∧ place ≤ 16 then
    if place ≤ 0 then ['0', '.'] ++ List.replicate (-place).toNat '0' ++ ds
    else if ds.length ≤ place then
      ds ++ List.replicate (place - ds.length).toNat '0' ++ ['.', '0']
    else ds.take place.toNat ++ '.' :: ds.drop place.toNat
  else
    let fraction := ds.drop 1
    ds.take 1 ++ (if fraction.isEmpty then [] else '.' :: fraction) ++
      'e' :: exponentText (place - 1)

def signText (negative : Bool) : List Char :=
  if negative then ['-'] else []

def text : Binary64 → String
  | .undefined => "nan"
  | .infinite negative => String.ofList (signText negative ++ ['i', 'n', 'f'])
  | .finite negative digits exponent =>
      let magnitude :=
        if digits = 0 then ['0', '.', '0']
        else
          let (n, power) := shortest (.finite negative digits exponent) digits exponent
          decimalText n power
      String.ofList (signText negative ++ magnitude)

end Remit.Binary64
