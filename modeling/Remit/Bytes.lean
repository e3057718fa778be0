/-!
Byte strings and fixed-width little-endian numbers. `toNat_ofNat` and `ofNat_toNat` say that the
two directions are inverse, up to the width.
-/

namespace Remit

/-- Byte strings are lists, so that an encoding is the concatenation of its parts. -/
abbrev Bytes := List UInt8

namespace LittleEndian

/-- The `width` low bytes of a number, lowest first. -/
def ofNat : Nat → Nat → Bytes
  | 0, _ => []
  | width + 1, n => UInt8.ofNat (n % 256) :: ofNat width (n / 256)

def toNat : Bytes → Nat
  | [] => 0
  | b :: rest => b.toNat + 256 * toNat rest

def range : Nat → Nat
  | 0 => 1
  | width + 1 => 256 * range width

/-- Two's complement in `width` bytes. -/
def ofInt (width : Nat) (i : Int) : Bytes :=
  ofNat width (i % range width).toNat

def toInt (bytes : Bytes) : Int :=
  (toNat bytes : Int).bmod (range bytes.length)

def FitsUnsigned (width : Nat) (i : Int) : Prop :=
  0 ≤ i ∧ i < range width

def FitsSigned (width : Nat) (i : Int) : Prop :=
  -(range width : Int) ≤ 2 * i ∧ 2 * i < range width

instance (width : Nat) (i : Int) : Decidable (FitsUnsigned width i) :=
  inferInstanceAs (Decidable (_ ∧ _))

instance (width : Nat) (i : Int) : Decidable (FitsSigned width i) :=
  inferInstanceAs (Decidable (_ ∧ _))

@[simp] theorem length_ofNat (width n : Nat) : (ofNat width n).length = width := by
  induction width generalizing n with
  | zero => rfl
  | succ width ih => simp [ofNat, ih]

@[simp] theorem length_ofInt (width : Nat) (i : Int) : (ofInt width i).length = width :=
  length_ofNat _ _

theorem toNat_ofNat (width n : Nat) : toNat (ofNat width n) = n % range width := by
  induction width generalizing n with
  | zero => simp [ofNat, toNat, range, Nat.mod_one]
  | succ width ih => simp [ofNat, toNat, ih, range, Nat.mod_mul]

theorem toNat_lt (bytes : Bytes) : toNat bytes < range bytes.length := by
  induction bytes with
  | nil => simp [toNat, range]
  | cons b rest ih =>
      have low := b.toNat_lt
      simp only [toNat, List.length_cons, range]
      omega

theorem ofNat_toNat (bytes : Bytes) : ofNat bytes.length (toNat bytes) = bytes := by
  induction bytes with
  | nil => rfl
  | cons b rest ih =>
      have low := b.toNat_lt
      have head : (b.toNat + 256 * toNat rest) % 256 = b.toNat := by omega
      have tail : (b.toNat + 256 * toNat rest) / 256 = toNat rest := by omega
      simp [ofNat, toNat, head, tail, ih]

end LittleEndian

/-- The bytes of a number in base 256, highest first, without leading zero bytes. -/
def BigEndian.minimal (n : Nat) : Bytes :=
  if n = 0 then [] else minimal (n / 256) ++ [UInt8.ofNat (n % 256)]

def BigEndian.toNat (bytes : Bytes) : Nat :=
  bytes.foldl (fun n b => n * 256 + b.toNat) 0

end Remit
