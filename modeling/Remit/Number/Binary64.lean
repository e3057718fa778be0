/-!
Binary floating point numbers of 53 binary digits. Every operation takes the exact result and rounds
it once, to the nearest number and to the even one of two that are equally near.
-/

namespace Remit

inductive Binary64 where
  /-- `digits * 2 ^ exponent`, with the sign that a zero has too. -/
  | finite (negative : Bool) (digits : Nat) (exponent : Int)
  | infinite (negative : Bool)
  | undefined
deriving DecidableEq

namespace Binary64

/-- A quotient rounded to the nearest integer, ties to even. -/
def roundHalfEven (num den : Nat) : Nat :=
  let q := num / den
  let twice := 2 * (num % den)
  if twice < den ∨ (twice = den ∧ q % 2 = 0) then q else q + 1

def leastExponent : Int := -1074

def greatestExponent : Int := 971

/-- The largest integer `k` with `2 ^ k ≤ num / den`. -/
def floorLog2 (num den : Nat) : Int :=
  let k : Int := num.log2 - den.log2
  if num <<< (-k).toNat < den <<< k.toNat then k - 1 else k

def ofRatio (negative : Bool) (num den : Nat) : Binary64 :=
  if num = 0 then .finite negative 0 leastExponent
  else
    let exponent := max (floorLog2 num den - 52) leastExponent
    let digits := roundHalfEven (num <<< (-exponent).toNat) (den <<< exponent.toNat)
    let (digits, exponent) :=
      if digits = 1 <<< 53 then (1 <<< 52, exponent + 1) else (digits, exponent)
    if greatestExponent < exponent then .infinite negative else .finite negative digits exponent

def ofScaled (negative : Bool) (digits : Nat) (exponent : Int) : Binary64 :=
  ofRatio negative (digits <<< exponent.toNat) (1 <<< (-exponent).toNat)

def ofNat (n : Nat) : Binary64 :=
  ofRatio false n 1

def zero : Binary64 :=
  ofNat 0

/-- The nearest number to `digits * 10 ^ exponent`. Numbers far outside the range of the format are
settled before any power is computed. -/
def ofDecimal (negative : Bool) (digits : Nat) (exponent : Int) : Binary64 :=
  let magnitude := exponent + (Nat.toDigits 10 digits).length
  if digits = 0 ∨ magnitude < -400 then .finite negative 0 leastExponent
  else if 400 < magnitude then .infinite negative
  else
    ofRatio negative (digits * Nat.pow 10 exponent.toNat) (Nat.pow 10 (-exponent).toNat)

def neg : Binary64 → Binary64
  | .finite negative digits exponent => .finite (!negative) digits exponent
  | .infinite negative => .infinite (!negative)
  | .undefined => .undefined

def isNegative : Binary64 → Bool
  | .finite negative _ _ => negative
  | .infinite negative => negative
  | .undefined => false

def isZero : Binary64 → Bool
  | .finite _ digits _ => digits = 0
  | _ => false

/-- The signed digits, counted at an exponent that is not above that of the number. -/
def unitsAt (least : Int) (negative : Bool) (digits : Nat) (exponent : Int) : Int :=
  let units : Int := (digits <<< (exponent - least).toNat : Nat)
  if negative then -units else units

def add (x y : Binary64) : Binary64 :=
  match x, y with
  | .finite n d e, .finite m c f =>
      let least := min e f
      let sum := unitsAt least n d e + unitsAt least m c f
      if sum = 0 then .finite (n && m) 0 leastExponent
      else ofScaled (decide (sum < 0)) sum.natAbs least
  | .infinite n, .infinite m => if n = m then x else .undefined
  | .undefined, _ => .undefined
  | _, .undefined => .undefined
  | .infinite _, _ => x
  | _, .infinite _ => y

def mul (x y : Binary64) : Binary64 :=
  let negative := x.isNegative != y.isNegative
  match x, y with
  | .finite _ d e, .finite _ c f => ofScaled negative (d * c) (e + f)
  | .undefined, _ => .undefined
  | _, .undefined => .undefined
  | _, _ => if x.isZero || y.isZero then .undefined else .infinite negative

def toInt? : Binary64 → Option Int
  | .finite negative digits exponent =>
      let unit := 1 <<< (-exponent).toNat
      if digits % unit = 0 then
        let n : Int := ((digits / unit) <<< exponent.toNat : Nat)
        some (if negative then -n else n)
      else none
  | _ => none

@[simp] theorem neg_neg (x : Binary64) : x.neg.neg = x := by
  cases x <;> simp [neg]

end Binary64

end Remit
