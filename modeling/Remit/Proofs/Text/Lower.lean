import Mathlib.Tactic.Common
import Remit.Text.Lower

/-!
Lower case does not lead into the Latin capitals, and only capitals, the Kelvin sign and the dotted
capital I lead into the Latin small letters. So a text that is in lower case already has no other
spelling of a name without an `i` and a `k`.
-/

namespace Remit.Text

def isCapital (c : Char) : Bool :=
  0x41 ≤ c.toNat && c.toNat ≤ 0x5A

/-- The small letters that nothing but their own capital leads into. -/
def isPlainLetter (c : Char) : Bool :=
  0x61 ≤ c.toNat && c.toNat ≤ 0x7A && c ≠ 'i' && c ≠ 'k'

theorem lowerRuns_letters : ∀ run ∈ lowerRuns,
    (run.first = 0x41 ∧ run.last = 0x5A ∧ run.distance = 32) ∨
    (run.first = 0x212A ∧ run.last = 0x212A ∧ run.distance = -8383) ∨
    0x7A < run.first + run.distance := by
  decide +kernel

theorem find?_lowerRuns_capital {c : Char} (capital : isCapital c) :
    lowerRuns.find? (·.contains c.toNat) = some ⟨0x41, 0x5A, 1, 32⟩ := by
  simp only [isCapital, Bool.and_eq_true, decide_eq_true_eq] at capital
  rw [lowerRuns, List.find?_cons_of_pos]
  simp [LowerRun.contains, capital, Nat.mod_one]

theorem toNat_ofNat_cases (n : Nat) : (Char.ofNat n).toNat = n ∨ (Char.ofNat n).toNat = 0 := by
  by_cases valid : n.isValidChar
  · left
    rw [Char.ofNat, dif_pos valid]
    rfl
  · right
    rw [Char.ofNat, dif_neg valid]
    rfl

/-- What a character becomes: two characters, one at a distance, or itself. -/
theorem lowerChar_cases (c : Char) :
    lowerChar c = ['i', '\u0307'] ∨
    (∃ run ∈ lowerRuns, run.contains c.toNat ∧
      lowerChar c = [Char.ofNat (c.toNat + run.distance).toNat]) ∨
    (isCapital c = false ∧ lowerChar c = [c]) := by
  unfold lowerChar
  by_cases dotted : c = '\u0130'
  · exact .inl (if_pos dotted)
  · right
    rw [if_neg dotted]
    cases found : lowerRuns.find? (·.contains c.toNat) with
    | some run =>
        have within := List.find?_some found
        exact .inl ⟨run, List.mem_of_find?_eq_some found, within, rfl⟩
    | none =>
        refine .inr ⟨?_, rfl⟩
        cases capital : isCapital c with
        | false => rfl
        | true =>
            rw [find?_lowerRuns_capital capital] at found
            cases found

theorem lowerChar_ne_nil (c : Char) : lowerChar c ≠ [] := by
  obtain two | ⟨_, _, _, one⟩ | ⟨_, same⟩ := lowerChar_cases c
  · simp [two]
  · simp [one]
  · simp [same]

theorem isCapital_lowerChar (c : Char) : ∀ lowered ∈ lowerChar c, isCapital lowered = false := by
  obtain two | ⟨run, member, within, one⟩ | ⟨capital, same⟩ := lowerChar_cases c
  · rw [two, List.forall_mem_cons, List.forall_mem_singleton]
    exact ⟨rfl, rfl⟩
  · rw [one, List.forall_mem_singleton]
    have start := lowerRuns_letters run member
    simp only [LowerRun.contains, Bool.and_eq_true, decide_eq_true_eq] at within
    have place := toNat_ofNat_cases (c.toNat + run.distance).toNat
    simp only [isCapital, Bool.and_eq_false_iff, decide_eq_false_iff_not]
    omega
  · rw [same, List.forall_mem_singleton]
    exact capital

theorem isCapital_lowerAfter (before text : List Char) :
    ∀ c ∈ lowerAfter before text, isCapital c = false := by
  induction text generalizing before with
  | nil => exact List.forall_mem_nil _
  | cons head rest induction =>
      rw [lowerAfter, List.forall_mem_append]
      refine ⟨?_, induction _⟩
      split_ifs
      · exact List.forall_mem_singleton.mpr rfl
      · exact List.forall_mem_singleton.mpr rfl
      · exact isCapital_lowerChar head

theorem isCapital_lower {text : String} {c : Char} (member : c ∈ (lower text).toList) :
    isCapital c = false := by
  rw [lower, String.toList_ofList] at member
  exact isCapital_lowerAfter _ _ c member

theorem lowerChar_letter {c letter : Char} {more : List Char} (capital : isCapital c = false)
    (plain : isPlainLetter letter) (lowered : lowerChar c = letter :: more) :
    c = letter ∧ more = [] := by
  obtain two | ⟨run, member, within, one⟩ | ⟨-, same⟩ := lowerChar_cases c
  · rw [two] at lowered
    cases lowered
    cases plain
  · have start := lowerRuns_letters run member
    have place := toNat_ofNat_cases (c.toNat + run.distance).toNat
    simp only [LowerRun.contains, Bool.and_eq_true, decide_eq_true_eq] at within
    simp only [isCapital, Bool.and_eq_false_iff, decide_eq_false_iff_not] at capital
    rw [one] at lowered
    cases lowered
    simp only [isPlainLetter, Bool.and_eq_true, decide_eq_true_eq, ne_eq] at plain
    -- The Kelvin sign leads into `k`, which is no plain letter.
    have kelvin : (Char.ofNat (c.toNat + run.distance).toNat).toNat ≠ 0x6B :=
      fun same => plain.2 (Char.ext (UInt32.toNat_inj.mp same))
    omega
  · rw [same] at lowered
    cases lowered
    exact ⟨rfl, rfl⟩

theorem eq_of_lowerAfter {before text name : List Char}
    (capitals : ∀ c ∈ text, isCapital c = false) (letters : ∀ c ∈ name, isPlainLetter c)
    (lowered : lowerAfter before text = name) : text = name := by
  induction text generalizing before name with
  | nil => exact lowered
  | cons c rest induction =>
      rw [List.forall_mem_cons] at capitals
      rw [lowerAfter] at lowered
      split_ifs at lowered with sigma final
      · rw [← lowered] at letters
        exact absurd (letters 'ς' List.mem_cons_self) (by decide)
      · rw [← lowered] at letters
        exact absurd (letters 'σ' List.mem_cons_self) (by decide)
      · cases head : lowerChar c with
        | nil => exact absurd head (lowerChar_ne_nil c)
        | cons letter more =>
            rw [head] at lowered
            subst lowered
            rw [List.cons_append, List.forall_mem_cons] at letters
            obtain ⟨rfl, rfl⟩ := lowerChar_letter capitals.1 letters.1 head
            exact congrArg (c :: ·) (induction capitals.2 letters.2 rfl)

theorem eq_of_lower {text name : String} (capitals : ∀ c ∈ text.toList, isCapital c = false)
    (letters : ∀ c ∈ name.toList, isPlainLetter c) (lowered : lower text = name) :
    text = name := by
  rw [lower, ← String.toList_inj, String.toList_ofList] at lowered
  exact String.toList_inj.mp (eq_of_lowerAfter capitals letters lowered)

end Remit.Text
