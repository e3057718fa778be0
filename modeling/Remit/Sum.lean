/-!
Sums of sizes, which are natural numbers, and of amounts, which are integers.
-/

namespace Remit

def sumNat (ns : List Nat) : Nat :=
  ns.foldr (· + ·) 0

def sumInt (is : List Int) : Int :=
  is.foldr (· + ·) 0

@[simp] theorem sumNat_nil : sumNat [] = 0 := rfl

@[simp] theorem sumNat_cons (n : Nat) (ns : List Nat) : sumNat (n :: ns) = n + sumNat ns := rfl

@[simp] theorem sumInt_nil : sumInt [] = 0 := rfl

@[simp] theorem sumInt_cons (i : Int) (is : List Int) : sumInt (i :: is) = i + sumInt is := rfl

@[simp] theorem sumNat_append (ms ns : List Nat) :
    sumNat (ms ++ ns) = sumNat ms + sumNat ns := by
  induction ms with
  | nil => simp
  | cons m ms ih => simp [ih, Nat.add_assoc]

@[simp] theorem sumInt_append (is js : List Int) :
    sumInt (is ++ js) = sumInt is + sumInt js := by
  induction is with
  | nil => simp
  | cons i is ih => simp [ih, Int.add_assoc]

end Remit
