import Remit.Wire.CompactSize

/-!
Fields of fixed width and counts. What fits a field is written, and the bytes give it back. The
bytes of a field are those of the number that is read off them.
-/

namespace Remit

namespace LittleEndian

theorem toNat_ofInt {width : Nat} {i : Int} (fits : FitsUnsigned width i) :
    (toNat (ofInt width i) : Int) = i := by
  have residue : i % range width = i := Int.emod_eq_of_lt fits.1 fits.2
  have small : i.toNat < range width :=
    (Int.toNat_lt fits.1).mpr fits.2
  rw [ofInt, residue, toNat_ofNat, Nat.mod_eq_of_lt small]
  exact Int.toNat_of_nonneg fits.1

theorem range_pos (width : Nat) : 0 < range width := by
  induction width with
  | zero => exact Nat.one_pos
  | succ width induction => exact Nat.mul_pos (by decide) induction

theorem toInt_ofInt {width : Nat} {i : Int} (fits : FitsSigned width i) :
    toInt (ofInt width i) = i := by
  have positive : (0 : Int) < range width := Int.natCast_pos.mpr (range_pos width)
  have nonnegative : 0 ≤ i % range width := Int.emod_nonneg _ (by omega)
  have below : i % range width < range width := Int.emod_lt_of_pos _ positive
  have small : (i % range width).toNat < range width := by omega
  unfold toInt
  rw [length_ofInt, ofInt, toNat_ofNat, Nat.mod_eq_of_lt small,
    Int.toNat_of_nonneg nonnegative, Int.emod_bmod]
  obtain ⟨lower, upper⟩ := fits
  exact Int.bmod_eq_of_le_mul_two (by omega) (by omega)

theorem fitsSigned_toInt (bytes : Bytes) : FitsSigned bytes.length (toInt bytes) := by
  have positive : 0 < range bytes.length := range_pos _
  have lower := Int.le_bmod (x := toNat bytes) positive
  have upper := Int.bmod_lt (x := toNat bytes) positive
  unfold FitsSigned toInt
  omega

theorem ofInt_toInt (bytes : Bytes) : ofInt bytes.length (toInt bytes) = bytes := by
  have small : (toNat bytes : Int) % range bytes.length = toNat bytes :=
    Int.emod_eq_of_lt (Int.natCast_nonneg _) (Int.ofNat_lt.mpr (toNat_lt bytes))
  rw [ofInt, toInt, Int.bmod_emod, small, Int.toNat_natCast, ofNat_toNat]

theorem ofInt_natCast {width n : Nat} (fits : FitsUnsigned width n) :
    ofInt width n = ofNat width n := by
  rw [ofInt, Int.emod_eq_of_lt fits.1 fits.2, Int.toNat_natCast]

theorem fitsUnsigned_four {i : Int} :
    FitsUnsigned 4 i ↔ 0 ≤ i ∧ i < 0x100000000 := Iff.rfl

theorem fitsSigned_four {i : Int} :
    FitsSigned 4 i ↔ -0x80000000 ≤ i ∧ i < 0x80000000 := by
  have width : range 4 = 0x100000000 := rfl
  unfold FitsSigned
  rw [width]
  omega

theorem fitsSigned_eight {i : Int} :
    FitsSigned 8 i ↔ -0x8000000000000000 ≤ i ∧ i < 0x8000000000000000 := by
  have width : range 8 = 0x10000000000000000 := rfl
  unfold FitsSigned
  rw [width]
  omega

end LittleEndian

namespace Wire

theorem encodeUnsigned_of_fits {width : Nat} {i : Int}
    (fits : LittleEndian.FitsUnsigned width i) :
    encodeUnsigned width i = .ok (LittleEndian.ofInt width i) :=
  if_pos fits

theorem encodeSigned_of_fits {width : Nat} {i : Int}
    (fits : LittleEndian.FitsSigned width i) :
    encodeSigned width i = .ok (LittleEndian.ofInt width i) :=
  if_pos fits

theorem CompactSize.encode_natCast {n : Nat} (small : n < 0x10000000000000000) :
    encode n = .ok (bytes n) := by
  have nonnegative : ¬ (n : Int) < 0 := by omega
  have fits : (n : Int) ≤ 0xFFFFFFFFFFFFFFFF := by omega
  unfold encode
  rw [if_neg nonnegative, if_pos fits]
  rfl

end Wire

end Remit
