import Remit.Proofs.Wire.Ending

/-!
The canonical form of a count. A number has one just if eight bytes hold it. The form is as long as
the size policy reckons, and any other bytes that are read as the same number are longer.
-/

namespace Remit.Wire

namespace CompactSize

variable {i : Int} {n : Nat} {form : Bytes}

theorem encode_int_eq_ok_iff :
    encode i = .ok form ↔ ∃ count : Nat, (count : Int) = i ∧ Shortest count form := by
  constructor
  · intro encoded
    by_cases negative : i < 0
    · rw [encode, if_pos negative] at encoded
      cases encoded
    · obtain ⟨count, rfl⟩ := Int.eq_ofNat_of_zero_le (Int.not_lt.mp negative)
      exact ⟨count, rfl, encode_eq_ok_iff.mp encoded⟩
  · rintro ⟨count, rfl, shortest⟩
    exact encode_eq_ok_iff.mpr shortest

theorem exists_encode_iff :
    (∃ form, encode i = .ok form) ↔ 0 ≤ i ∧ i < 0x10000000000000000 := by
  simp only [encode_int_eq_ok_iff]
  constructor
  · rintro ⟨form, count, rfl, shortest⟩
    have small := shortest.spells.small
    omega
  · rintro ⟨nonnegative, small⟩
    have fits : i.toNat < 0x10000000000000000 := by omega
    exact ⟨bytes i.toNat, i.toNat, Int.toNat_of_nonneg nonnegative, shortest_bytes fits⟩

theorem Shortest.length_eq (shortest : Shortest n form) : form.length = width n := by
  rw [shortest.eq_bytes, length_bytes]

/-- No form is shorter than the canonical one, and no other is as short. -/
theorem Spells.length_eq_iff (spells : Spells n form) :
    (bytes n).length ≤ form.length ∧ (form.length = (bytes n).length ↔ form = bytes n) := by
  rcases spells.eq_or_longer with rfl | longer
  · exact ⟨Nat.le_refl _, iff_of_true rfl rfl⟩
  · refine ⟨Nat.le_of_lt longer, ?_⟩
    constructor
    · intro equal
      omega
    · rintro rfl
      rfl

end CompactSize

/-- Writing a count succeeds on the numbers of eight bytes, in the estimated length and so that it
is read back. Whatever is read as that number took no fewer bytes, and as many only if they are
those that are written. -/
theorem counts_are_canonical (i : Int) :
    ((∃ form, CompactSize.encode i = .ok form) ↔ 0 ≤ i ∧ i < 0x10000000000000000) ∧
    (∀ form, CompactSize.encode i = .ok form →
      form.length = CompactSize.width i ∧ Reads readCount form i.toNat) ∧
    ∀ (before after : Stream) (count : Nat),
      execute readCount before = (.ok count, after) → (count : Int) = i →
      ∃ taken form, before.Takes taken after ∧ CompactSize.encode i = .ok form ∧
        form.length ≤ taken.length ∧ (taken.length = form.length ↔ taken = form) := by
  refine ⟨CompactSize.exists_encode_iff, ?written, ?read⟩
  case written =>
    intro form encoded
    obtain ⟨count, rfl, shortest⟩ := CompactSize.encode_int_eq_ok_iff.mp encoded
    rw [Int.toNat_natCast]
    exact ⟨shortest.length_eq, shortest.spells.reads⟩
  case read =>
    rintro before after count run rfl
    obtain ⟨taken, spells, rest, position⟩ := recognises_count before count after run
    exact ⟨taken, CompactSize.bytes count, ⟨rest, position⟩,
      CompactSize.encode_natCast spells.small, spells.length_eq_iff⟩

/-- The largest number of one byte, read off three bytes in the middle of a stream. -/
theorem counts_are_canonical_one_byte_in_three :
    let before : Stream := ⟨[0xFD, 0xFC, 0, 0xAB], 7⟩
    execute readCount before = (.ok 252, ⟨[0xAB], 10⟩) ∧
      (∃ form, CompactSize.encode 252 = .ok form ∧ form.length = 1) ∧
      ∃ taken form, before.Takes taken ⟨[0xAB], 10⟩ ∧ CompactSize.encode 252 = .ok form ∧
        form.length ≤ taken.length ∧ taken ≠ form := by
  intro before
  have run : execute readCount before = (.ok 252, ⟨[0xAB], 10⟩) := by decide +kernel
  obtain ⟨writable, written, read⟩ := counts_are_canonical 252
  obtain ⟨form, encoded⟩ := writable.mpr (by decide)
  obtain ⟨taken, shortest, takes, shortestEncoded, le, exact⟩ := read before _ 252 run rfl
  refine ⟨run, ⟨form, encoded, (written form encoded).1⟩, taken, shortest, takes,
    shortestEncoded, le, ?_⟩
  intro same
  have equal := exact.mpr same
  have length : shortest.length = 1 := (written shortest shortestEncoded).1
  have position := takes.position
  change 10 = 7 + taken.length at position
  omega

end Remit.Wire
