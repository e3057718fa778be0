/-!
Digits of numerals and the numbers that they stand for.
-/

namespace Remit.Digits

def digitValue? (base : Nat) (c : Char) : Option Nat :=
  let n :=
    if '0' ≤ c ∧ c ≤ '9' then c.toNat - '0'.toNat
    else if 'a' ≤ c ∧ c ≤ 'f' then c.toNat - 'a'.toNat + 10
    else if 'A' ≤ c ∧ c ≤ 'F' then c.toNat - 'A'.toNat + 10
    else base
  if n < base then some n else none

/-- The value of a numeral, highest digit first; other characters are passed over. -/
def value (base : Nat) (digits : List Char) : Nat :=
  digits.foldl
    (fun n c =>
      match digitValue? base c with
      | some d => n * base + d
      | none => n)
    0

def splitSign : List Char → Int × List Char
  | '-' :: rest => (-1, rest)
  | '+' :: rest => (1, rest)
  | text => (1, text)

end Remit.Digits
