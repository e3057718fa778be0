import Remit.Proofs.Address.Base58

/-!
Which texts stand for bytes. Without a checksum every text over the alphabet does, with one only
the texts that payloads are given. Any other text is refused, and for its leftmost character that
is no digit if it has one.
-/

namespace Remit

namespace Base58

/-- Digits stand before the character, which is none itself. -/
def LeftmostForeign (text : List Char) (c : Char) : Prop :=
  ∃ front rest, text = front ++ c :: rest ∧ (∀ digit ∈ front, digit ∈ alphabet) ∧ c ∉ alphabet

def leadingOnes (text : String) : Nat :=
  (text.toList.takeWhile (· = '1')).length

theorem digitValue?_eq_none_iff {c : Char} : digitValue? c = none ↔ c ∉ alphabet :=
  List.idxOf?_eq_none_iff

theorem digitChar_mem {digit : Nat} (within : digit < 58) : digitChar digit ∈ alphabet := by
  by_contra foreign
  have value := digitValue?_digitChar ⟨digit, within⟩
  rw [digitValue?_eq_none_iff.mpr foreign] at value
  cases value

theorem ascii_of_mem {c : Char} (member : c ∈ alphabet) : c.toNat < 0x80 := by
  have all : alphabet.all (·.toNat < 0x80) = true := by decide
  exact of_decide_eq_true (List.all_eq_true.mp all c member)

section

variable {first c : Char} {rest text : List Char}

theorem leftmostForeign_cons :
    LeftmostForeign (first :: rest) c ↔
      first ∉ alphabet ∧ first = c ∨ first ∈ alphabet ∧ LeftmostForeign rest c := by
  constructor
  · rintro ⟨front, back, split, digits, foreign⟩
    cases front with
    | nil =>
        cases split
        exact .inl ⟨foreign, rfl⟩
    | cons digit front =>
        cases split
        rw [List.forall_mem_cons] at digits
        exact .inr ⟨digits.1, front, back, rfl, digits.2, foreign⟩
  · rintro (⟨foreign, rfl⟩ | ⟨digit, front, back, rfl, digits, foreign⟩)
    · exact ⟨[], rest, rfl, List.forall_mem_nil _, foreign⟩
    · exact ⟨first :: front, back, rfl, List.forall_mem_cons.mpr ⟨digit, digits⟩, foreign⟩

theorem readDigits_eq_error_iff : readDigits text = .error c ↔ LeftmostForeign text c := by
  induction text with
  | nil => simp [readDigits, LeftmostForeign]
  | cons first rest induction =>
      rw [leftmostForeign_cons, ← induction, readDigits]
      cases value : digitValue? first with
      | none => simp [digitValue?_eq_none_iff.mp value]
      | some digit =>
          obtain ⟨within, rfl⟩ := digitValue?_eq_some_iff.mp value
          have member := digitChar_mem within
          cases readDigits rest <;> simp [member]

theorem exists_readDigits_iff :
    (∃ numeral, readDigits text = .ok numeral) ↔ ∀ c ∈ text, c ∈ alphabet := by
  constructor
  · rintro ⟨numeral, read⟩
    obtain ⟨bounded, rfl⟩ := readDigits_eq_ok_iff.mp read
    rw [List.forall_mem_map]
    exact fun digit member => digitChar_mem (bounded digit member)
  · intro digits
    cases read : readDigits text with
    | ok numeral => exact ⟨numeral, rfl⟩
    | error c =>
        obtain ⟨front, rest, rfl, -, foreign⟩ := readDigits_eq_error_iff.mp read
        exact absurd (digits c (by simp)) foreign

end

section

variable {text : String} {c : Char}

theorem exists_decode_iff :
    (∃ bytes, decode text = .ok bytes) ↔ ∀ c ∈ text.toList, c ∈ alphabet := by
  rw [← exists_readDigits_iff, decode, decodeChars]
  cases readDigits text.toList <;> simp [bind, Except.bind, pure, Except.pure]

theorem decode_eq_error_iff : decode text = .error c ↔ LeftmostForeign text.toList c := by
  rw [← readDigits_eq_error_iff, decode, decodeChars]
  cases readDigits text.toList <;> simp [bind, Except.bind, pure, Except.pure]

end

theorem leadingOnes_encode (bytes : Bytes) :
    leadingOnes (encode bytes) = (bytes.takeWhile (· = 0)).length := by
  rw [leadingOnes, encode, String.toList_ofList, encodeChars_eq,
    zeros_map_digitChar (changeBase_lt (by decide)), leadingZeros_changeBase,
    BigEndian.zeros_numeral]

end Base58

theorem Base58Check.decode_eq_character {text : String} {c : Char}
    (foreign : Base58.LeftmostForeign text.toList c) :
    decode text = .error (.character c) := by
  rw [decode, Base58.decode_eq_error_iff.mpr foreign]
  rfl

namespace Base58

/-- Bytes and the texts over the alphabet name each other, zero for one, and so do payloads and
the texts that end in their checksum. -/
theorem bytes_and_texts_correspond :
    (∀ bytes : Bytes, decode (encode bytes) = .ok bytes ∧
      leadingOnes (encode bytes) = (bytes.takeWhile (· = 0)).length) ∧
    (∀ payload : Bytes, Base58Check.decode (Base58Check.encode payload) = .ok payload) ∧
    (alphabet.length = 58 ∧ alphabet.Nodup ∧ ∀ c ∈ alphabet, c.toNat < 0x80) ∧
    ∀ text : String,
      ((∃ bytes, decode text = .ok bytes) ↔ ∀ c ∈ text.toList, c ∈ alphabet) ∧
      (∀ bytes, decode text = .ok bytes → encode bytes = text) ∧
      (∀ c, decode text = .error c ↔ LeftmostForeign text.toList c) ∧
      (∀ c, LeftmostForeign text.toList c →
        Base58Check.decode text = .error (.character c) ∧
        (AddressError.character c).message = "Invalid Base58 character: " ++ Text.quoteChar c) ∧
      ∀ payload, Base58Check.decode text = .ok payload ↔ text = Base58Check.encode payload := by
  refine ⟨?_, ?_, ⟨length_alphabet, by decide, fun _ => ascii_of_mem⟩, ?_⟩
  · intro bytes
    exact ⟨decode_eq_ok_iff.mpr rfl, leadingOnes_encode bytes⟩
  · intro payload
    exact Base58Check.decode_eq_ok_iff.mpr rfl
  · intro text
    refine ⟨exists_decode_iff, ?_, fun c => decode_eq_error_iff, ?_, ?_⟩
    · intro bytes
      exact decode_eq_ok_iff.mp
    · intro c foreign
      exact ⟨Base58Check.decode_eq_character foreign, rfl⟩
    · intro payload
      exact Base58Check.decode_eq_ok_iff.trans eq_comm

/-- Two zeros before a digit, and two characters that are none. -/
theorem bytes_and_texts_correspond_accented :
    decode "11z" = .ok [0, 0, 57] ∧ encode [0, 0, 57] = "11z" ∧
      ('z' ∈ alphabet ∧ 'z'.toNat < 0x80) ∧
      LeftmostForeign "1é0".toList 'é' ∧ decode "1é0" = .error 'é' ∧
      Base58Check.decode "1é0" = .error (.character 'é') := by
  obtain ⟨-, -, ⟨-, -, ascii⟩, texts⟩ := bytes_and_texts_correspond
  obtain ⟨-, spelled, -⟩ := texts "11z"
  obtain ⟨-, -, blamed, refused, -⟩ := texts "1é0"
  have decoded : decode "11z" = .ok [0, 0, 57] := by decide +kernel
  have digit : 'z' ∈ alphabet := by decide
  have foreign : LeftmostForeign "1é0".toList 'é' :=
    ⟨['1'], ['0'], by decide, List.forall_mem_singleton.mpr (by decide), by decide⟩
  exact ⟨decoded, spelled _ decoded, ⟨digit, ascii 'z' digit⟩, foreign,
    (blamed 'é').mpr foreign, (refused 'é' foreign).1⟩

end Base58

end Remit
