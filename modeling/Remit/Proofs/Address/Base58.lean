import Mathlib.Data.Nat.Digits.Lemmas
import Remit.Address
import Remit.Proofs.Execution

/-!
Base 58 text and byte strings name each other. Both are numerals with leading zeros: changing the
base and keeping the zeros can be undone, so a text is accepted only in the spelling it would be
given.
-/

namespace Remit

section

variable {base source target : Nat} {numeral : List Nat}

def leadingZeros (numeral : List Nat) : Nat :=
  (numeral.takeWhile (· = 0)).length

/-- The same number in another base, highest digit first, with as many zeros in front. -/
def changeBase (source target : Nat) (numeral : List Nat) : List Nat :=
  List.replicate (leadingZeros numeral) 0 ++
    (Nat.digits target (Nat.ofDigits source numeral.reverse)).reverse

theorem takeWhile_digits_reverse (number : Nat) :
    (Nat.digits base number).reverse.takeWhile (· = 0) = [] := by
  cases number with
  | zero => simp
  | succ number =>
      have nonempty : Nat.digits base (number + 1) ≠ [] :=
        Nat.digits_ne_nil_iff_ne_zero.mpr number.succ_ne_zero
      have last := Nat.getLast_digit_ne_zero base number.succ_ne_zero
      rw [← List.dropLast_append_getLast nonempty, List.reverse_append]
      simp [last]

@[simp] theorem leadingZeros_changeBase :
    leadingZeros (changeBase source target numeral) = leadingZeros numeral := by
  rw [leadingZeros, changeBase, List.takeWhile_append_of_pos (by simp),
    takeWhile_digits_reverse, List.append_nil, List.length_replicate]

@[simp] theorem ofDigits_changeBase :
    Nat.ofDigits target (changeBase source target numeral).reverse =
      Nat.ofDigits source numeral.reverse := by
  rw [changeBase, List.reverse_append, List.reverse_reverse, List.reverse_replicate,
    Nat.ofDigits_append_replicate_zero, Nat.ofDigits_digits]

theorem changeBase_lt (wide : 1 < target) :
    ∀ digit ∈ changeBase source target numeral, digit < target := by
  intro digit member
  rw [changeBase, List.mem_append, List.mem_reverse] at member
  cases member with
  | inl zero =>
      rw [List.eq_of_mem_replicate zero]
      omega
  | inr proper => exact Nat.digits_lt_base wide proper

/-- A numeral is determined by its number and its leading zeros. -/
theorem changeBase_self (wide : 1 < base) (digits : ∀ digit ∈ numeral, digit < base) :
    changeBase base base numeral = numeral := by
  induction numeral with
  | nil => simp [changeBase, leadingZeros]
  | cons digit rest induction =>
      -- A zero is counted and goes. Any other digit ends the count, and begins a proper numeral.
      cases digit with
      | zero =>
          have tail := induction fun digit member => digits digit (List.mem_cons_of_mem _ member)
          rw [changeBase, Nat.ofDigits_reverse_zero_cons]
          simpa [leadingZeros, changeBase, List.replicate_succ] using tail
      | succ digit =>
          have proper : Nat.digits base (Nat.ofDigits base ((digit + 1) :: rest).reverse) =
              ((digit + 1) :: rest).reverse := by
            apply Nat.digits_ofDigits base wide
            · simpa [or_comm] using digits
            · simp
          rw [changeBase, proper, List.reverse_reverse]
          simp [leadingZeros]

theorem changeBase_changeBase (wide : 1 < source) (digits : ∀ digit ∈ numeral, digit < source) :
    changeBase target source (changeBase source target numeral) = numeral := by
  rw [changeBase, leadingZeros_changeBase, ofDigits_changeBase]
  exact changeBase_self wide digits

/-- Zeros are counted alike on the symbols that stand for the digits. -/
theorem length_takeWhile_map {α : Type} {symbol : Nat → α} {isZero : α → Bool}
    (zeros : ∀ digit ∈ numeral, isZero (symbol digit) = decide (digit = 0)) :
    ((numeral.map symbol).takeWhile isZero).length = leadingZeros numeral := by
  rw [leadingZeros]
  induction numeral with
  | nil => rfl
  | cons digit rest induction =>
      rw [List.forall_mem_cons] at zeros
      rw [List.map_cons, List.takeWhile_cons, List.takeWhile_cons, zeros.1]
      cases decide (digit = 0) with
      | true => simpa using induction zeros.2
      | false => rfl

end

namespace BigEndian

def numeral (bytes : Bytes) : List Nat :=
  bytes.map UInt8.toNat

theorem numeral_lt (bytes : Bytes) : ∀ digit ∈ numeral bytes, digit < 256 := by
  rw [numeral, List.forall_mem_map]
  exact fun byte _ => byte.toNat_lt

@[simp] theorem map_ofNat_numeral (bytes : Bytes) :
    (numeral bytes).map UInt8.ofNat = bytes := by
  rw [numeral, List.map_map]
  exact List.map_id'' (fun _ => UInt8.ofNat_toNat) bytes

theorem numeral_map_ofNat {digits : List Nat} (bounded : ∀ digit ∈ digits, digit < 256) :
    numeral (digits.map UInt8.ofNat) = digits := by
  rw [numeral, List.map_map]
  calc
    digits.map (UInt8.toNat ∘ UInt8.ofNat) = digits.map id :=
      List.map_congr_left fun digit member => UInt8.toNat_ofNat_of_lt' (bounded digit member)
    _ = digits := List.map_id digits

theorem minimal_eq (number : Nat) :
    minimal number = (Nat.digits 256 number).reverse.map UInt8.ofNat := by
  induction number using minimal.induct with
  | case1 => simp [minimal]
  | case2 number positive induction =>
      rw [minimal, if_neg positive, induction,
        Nat.digits_def' (by decide) (Nat.pos_of_ne_zero positive)]
      simp

theorem toNat_eq (bytes : Bytes) : toNat bytes = Nat.ofDigits 256 (numeral bytes).reverse := by
  rw [Nat.ofDigits_eq_foldr, List.foldr_reverse, numeral, List.foldl_map, toNat]
  congr
  funext number byte
  simp only [Nat.cast_id]
  ring

theorem zeros_numeral (bytes : Bytes) :
    (bytes.takeWhile (· = 0)).length = leadingZeros (numeral bytes) := by
  conv_lhs => rw [← map_ofNat_numeral bytes]
  apply length_takeWhile_map
  intro digit member
  have bounded := numeral_lt bytes digit member
  rw [decide_eq_decide, ← UInt8.toNat_inj, UInt8.toNat_ofNat_of_lt' bounded]
  rfl

end BigEndian

namespace Base58

theorem length_alphabet : alphabet.length = 58 := by
  decide

theorem digitValue?_digitChar :
    ∀ digit : Fin 58, digitValue? (digitChar digit) = some digit.val := by
  decide +kernel

theorem digitChar_eq_one : ∀ digit : Fin 58, (digitChar digit = '1') = (digit.val = 0) := by
  decide +kernel

theorem digitValue?_eq_some_iff {c : Char} {digit : Nat} :
    digitValue? c = some digit ↔ digit < 58 ∧ digitChar digit = c := by
  constructor
  · intro found
    rw [digitValue?, List.idxOf?, List.findIdx?_eq_some_iff_getElem] at found
    obtain ⟨within, same, -⟩ := found
    refine ⟨length_alphabet ▸ within, ?_⟩
    rw [digitChar, List.getD_eq_getElem?_getD, List.getElem?_eq_getElem within]
    exact eq_of_beq same
  · rintro ⟨within, rfl⟩
    exact digitValue?_digitChar ⟨digit, within⟩

theorem readDigits_cons_eq_ok_iff {c : Char} {rest : List Char} {numeral : List Nat} :
    readDigits (c :: rest) = .ok numeral ↔
      ∃ digit digits, digitValue? c = some digit ∧ readDigits rest = .ok digits ∧
        digit :: digits = numeral := by
  rw [readDigits]
  cases digitValue? c with
  | none => simp
  | some digit => cases readDigits rest <;> simp

theorem readDigits_eq_ok_iff {text : List Char} {numeral : List Nat} :
    readDigits text = .ok numeral ↔
      (∀ digit ∈ numeral, digit < 58) ∧ numeral.map digitChar = text := by
  induction text generalizing numeral with
  | nil =>
      rw [readDigits, List.map_eq_nil_iff]
      constructor
      · rintro ⟨⟩
        exact ⟨List.forall_mem_nil _, rfl⟩
      · rintro ⟨-, rfl⟩
        rfl
  | cons c rest induction =>
      rw [readDigits_cons_eq_ok_iff, List.map_eq_cons_iff]
      constructor
      · rintro ⟨digit, digits, value, read, rfl⟩
        obtain ⟨below, char⟩ := digitValue?_eq_some_iff.mp value
        obtain ⟨bounded, chars⟩ := induction.mp read
        exact ⟨List.forall_mem_cons.mpr ⟨below, bounded⟩, digit, digits, rfl, char, chars⟩
      · rintro ⟨bounded, digit, digits, rfl, char, chars⟩
        rw [List.forall_mem_cons] at bounded
        exact ⟨digit, digits, digitValue?_eq_some_iff.mpr ⟨bounded.1, char⟩,
          induction.mpr ⟨bounded.2, chars⟩, rfl⟩

theorem digits_eq (number : Nat) : digits number = (Nat.digits 58 number).reverse := by
  induction number using digits.induct with
  | case1 => simp [digits]
  | case2 number positive induction =>
      rw [digits, if_neg positive, induction,
        Nat.digits_def' (by decide) (Nat.pos_of_ne_zero positive), List.reverse_cons]

theorem value_eq (numeral : List Nat) : value numeral = Nat.ofDigits 58 numeral.reverse := by
  rw [Nat.ofDigits_eq_foldr, List.foldr_reverse, value]
  congr
  funext number digit
  simp only [Nat.cast_id]
  ring

theorem zeros_map_digitChar {numeral : List Nat} (bounded : ∀ digit ∈ numeral, digit < 58) :
    ((numeral.map digitChar).takeWhile (· = '1')).length = leadingZeros numeral := by
  apply length_takeWhile_map
  intro digit member
  exact decide_eq_decide.mpr (iff_of_eq (digitChar_eq_one ⟨digit, bounded digit member⟩))

theorem encodeChars_eq (bytes : Bytes) :
    encodeChars bytes = (changeBase 256 58 (BigEndian.numeral bytes)).map digitChar := by
  rw [encodeChars, BigEndian.zeros_numeral, digits_eq, BigEndian.toNat_eq, changeBase,
    List.map_append, List.map_replicate]
  rfl

theorem decodeChars_map_digitChar {numeral : List Nat}
    (bounded : ∀ digit ∈ numeral, digit < 58) :
    decodeChars (numeral.map digitChar) = .ok ((changeBase 58 256 numeral).map UInt8.ofNat) := by
  have read : readDigits (numeral.map digitChar) = .ok numeral :=
    readDigits_eq_ok_iff.mpr ⟨bounded, rfl⟩
  rw [decodeChars, read, zeros_map_digitChar bounded, changeBase, List.map_append,
    List.map_replicate, ← value_eq, ← BigEndian.minimal_eq]
  rfl

theorem decodeChars_eq_ok_iff {text : List Char} {bytes : Bytes} :
    decodeChars text = .ok bytes ↔ encodeChars bytes = text := by
  constructor
  · intro decoded
    obtain ⟨numeral, read, -⟩ := bind_eq_ok.mp decoded
    obtain ⟨bounded, rfl⟩ := readDigits_eq_ok_iff.mp read
    rw [decodeChars_map_digitChar bounded] at decoded
    cases decoded
    rw [encodeChars_eq, BigEndian.numeral_map_ofNat (changeBase_lt (by decide)),
      changeBase_changeBase (by decide) bounded]
  · rintro rfl
    rw [encodeChars_eq, decodeChars_map_digitChar (changeBase_lt (by decide)),
      changeBase_changeBase (by decide) (BigEndian.numeral_lt bytes),
      BigEndian.map_ofNat_numeral]

/-- A text stands for the bytes that are spelled so, and for no others. -/
theorem decode_eq_ok_iff {text : String} {bytes : Bytes} :
    decode text = .ok bytes ↔ encode bytes = text := by
  rw [decode, decodeChars_eq_ok_iff, encode, ← String.toList_inj, String.toList_ofList]

end Base58

namespace Base58Check

theorem length_checksum (payload : Bytes) : (checksum payload).length = checksumLength := by
  rw [checksum, List.length_take, (sha256d payload).length_eq]
  rfl

theorem split_checksum (payload : Bytes) :
    let raw := payload ++ checksum payload
    raw.take (raw.length - checksumLength) = payload ∧
      raw.drop (raw.length - checksumLength) = checksum payload := by
  intro raw
  have front : raw.length - checksumLength = payload.length := by
    rw [List.length_append, length_checksum, Nat.add_sub_cancel]
  rw [front]
  exact ⟨List.take_left, List.drop_left⟩

theorem decode_eq_ok_iff {text : String} {payload : Bytes} :
    decode text = .ok payload ↔ encode payload = text := by
  rw [encode, ← Base58.decode_eq_ok_iff, decode]
  constructor
  · intro decoded
    cases spelled : Base58.decode text with
    | error c =>
        rw [spelled] at decoded
        cases decoded
    | ok raw =>
        rw [spelled] at decoded
        simp only [mapError_ok, bind, Except.bind] at decoded
        split_ifs at decoded with short mismatch
        cases decoded
        rw [← not_not.mp mismatch, List.take_append_drop]
  · intro spelled
    obtain ⟨front, back⟩ := split_checksum payload
    rw [spelled]
    simp only [mapError_ok, bind, Except.bind, front, back]
    simp [length_checksum, pure, Except.pure]

theorem decode_eq_error {text : String} {error : AddressError}
    (refused : decode text = .error error) :
    (∃ c, error = .character c) ∨ error = .tooShort ∨ error = .checksum := by
  rw [decode] at refused
  cases spelled : Base58.decode text with
  | error c =>
      rw [spelled] at refused
      cases refused
      exact .inl ⟨c, rfl⟩
  | ok raw =>
      rw [spelled] at refused
      by_cases short : raw.length < checksumLength
      · simp only [mapError_ok, bind, Except.bind, if_pos short] at refused
        cases refused
        exact .inr (.inl rfl)
      · simp only [mapError_ok, bind, Except.bind, if_neg short] at refused
        split at refused
        · cases refused
          exact .inr (.inr rfl)
        · cases refused

end Base58Check

end Remit
