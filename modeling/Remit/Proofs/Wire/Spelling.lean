import Remit.Proofs.Wire.Field

/-!
The forms of a count. A number may be written in any width that holds it, and its canonical bytes
are the shortest of these forms.
-/

namespace Remit.Wire

/-- The bytes are of a kind, or longer than some bytes of that kind. -/
def AtLeast (kind : Bytes → Prop) (bytes : Bytes) : Prop :=
  ∃ least, kind least ∧ (bytes = least ∨ least.length < bytes.length)

namespace AtLeast

variable {kind first second : Bytes → Prop} {bytes front back : Bytes}

theorem exactly (holds : kind bytes) : AtLeast kind bytes :=
  ⟨bytes, holds, .inl rfl⟩

theorem combine (firstBound : AtLeast first front) (secondBound : AtLeast second back)
    (join : Bytes → Bytes → Bytes)
    (grows : ∀ front back longFront longBack : Bytes,
      front.length + back.length < longFront.length + longBack.length →
      (join front back).length < (join longFront longBack).length)
    (joined : ∀ front back, first front → second back → kind (join front back)) :
    AtLeast kind (join front back) := by
  obtain ⟨leastFront, firstHolds, frontLonger⟩ := firstBound
  obtain ⟨leastBack, secondHolds, backLonger⟩ := secondBound
  refine ⟨join leastFront leastBack, joined _ _ firstHolds secondHolds, ?_⟩
  rcases frontLonger with rfl | frontLonger
  · rcases backLonger with rfl | backLonger
    · exact .inl rfl
    · exact .inr (grows _ _ _ _ (by omega))
  · rcases backLonger with rfl | backLonger
    · exact .inr (grows _ _ _ _ (by omega))
    · exact .inr (grows _ _ _ _ (by omega))

end AtLeast

namespace CompactSize

variable {n : Nat} {form : Bytes}

inductive Spells (n : Nat) : Bytes → Prop
  | one (fits : n < 0xFD) : Spells n (LittleEndian.ofNat 1 n)
  | two (fits : n < 0x10000) : Spells n (0xFD :: LittleEndian.ofNat 2 n)
  | four (fits : n < 0x100000000) : Spells n (0xFE :: LittleEndian.ofNat 4 n)
  | eight (fits : n < 0x10000000000000000) : Spells n (0xFF :: LittleEndian.ofNat 8 n)

structure Shortest (n : Nat) (form : Bytes) : Prop where
  spells : Spells n form
  le : ∀ other, Spells n other → form.length ≤ other.length

theorem Spells.small (spells : Spells n form) : n < 0x10000000000000000 := by
  cases spells <;> omega

theorem spells_bytes (small : n < 0x10000000000000000) : Spells n (bytes n) := by
  unfold bytes
  split
  case isTrue one => exact .one one
  case isFalse one =>
    split
    case isTrue two => exact .two (by omega)
    case isFalse two =>
      split
      case isTrue four => exact .four (by omega)
      case isFalse four => exact .eight small

theorem Spells.eq_or_longer (spells : Spells n form) :
    form = bytes n ∨ (bytes n).length < form.length := by
  unfold bytes
  cases spells with
  | one fits => exact .inl (if_pos fits).symm
  | two fits =>
      by_cases one : n < 0xFD
      · simp [one]
      · have two : n ≤ 0xFFFF := by omega
        simp [one, two]
  | four fits =>
      by_cases one : n < 0xFD
      · simp [one]
      by_cases two : n ≤ 0xFFFF
      · simp [one, two]
      · have four : n ≤ 0xFFFFFFFF := by omega
        simp [one, two, four]
  | eight fits =>
      by_cases one : n < 0xFD
      · simp [one]
      by_cases two : n ≤ 0xFFFF
      · simp [one, two]
      by_cases four : n ≤ 0xFFFFFFFF
      · simp [one, two, four]
      · simp [one, two, four]

theorem shortest_bytes (small : n < 0x10000000000000000) : Shortest n (bytes n) where
  spells := spells_bytes small
  le other spells := by
    rcases spells.eq_or_longer with rfl | longer
    · exact Nat.le_refl _
    · exact Nat.le_of_lt longer

theorem Shortest.eq_bytes (shortest : Shortest n form) : form = bytes n := by
  rcases shortest.spells.eq_or_longer with equal | longer
  · exact equal
  · have le := shortest.le _ (spells_bytes shortest.spells.small)
    omega

theorem Spells.atLeast (spells : Spells n form) : AtLeast (Shortest n) form :=
  ⟨bytes n, shortest_bytes spells.small, spells.eq_or_longer⟩

end CompactSize

end Remit.Wire
