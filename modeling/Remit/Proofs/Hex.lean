import Remit.Hex

/-!
Hexadecimal text gives its bytes back. The texts that are read are pairs of digits with blanks
before, between and after them, and what they are read as is written as their digits in lower
case.
-/

namespace Remit.Hex

theorem value?_digit : ∀ n : Fin 16, value? (digit n) = some n.val := by
  decide

theorem isBlank_digit : ∀ n : Fin 16, isBlank (digit n) = false := by
  decide

theorem readPairs_ofByte_append (b : UInt8) (rest : List Char) :
    readPairs (ofByte b ++ rest) = (readPairs rest).map (b :: ·) := by
  have below : b.toNat < 256 := b.toNat_lt
  have high : b.toNat / 16 < 16 := by omega
  have low : b.toNat % 16 < 16 := by omega
  have notBlank := isBlank_digit ⟨b.toNat / 16, high⟩
  have highValue := value?_digit ⟨b.toNat / 16, high⟩
  have lowValue := value?_digit ⟨b.toNat % 16, low⟩
  have whole : UInt8.ofNat (16 * (b.toNat / 16) + b.toNat % 16) = b := by
    rw [Nat.div_add_mod, UInt8.ofNat_toNat]
  simp only [ofByte, List.cons_append, List.nil_append, readPairs, notBlank, highValue,
    lowValue, whole]
  rfl

theorem readPairs_flatMap_ofByte (bytes : Bytes) :
    readPairs (bytes.flatMap ofByte) = some bytes := by
  induction bytes with
  | nil => rfl
  | cons b rest induction =>
      rw [List.flatMap_cons, readPairs_ofByte_append, induction]
      rfl

theorem toBytes?_ofBytes (bytes : Bytes) : toBytes? (ofBytes bytes) = some bytes := by
  unfold toBytes? ofBytes
  rw [String.toList_ofList]
  exact readPairs_flatMap_ofByte bytes

/-! ### Texts that are read -/

def digits : List Char :=
  ['0', '1', '2', '3', '4', '5', '6', '7', '8', '9', 'a', 'b', 'c', 'd', 'e', 'f',
    'A', 'B', 'C', 'D', 'E', 'F']

def blanks : List Char :=
  [' ', '\t', '\n', '\x0b', '\x0c', '\r']

/-- Two classes of ASCII characters are one if they agree on those. -/
theorem eq_of_ascii {p q : Char → Bool}
    (agree : ∀ n : Fin 128, p (Char.ofNat n) = q (Char.ofNat n))
    (left : ∀ c, p c = true → c.toNat < 128) (right : ∀ c, q c = true → c.toNat < 128)
    (c : Char) : p c = q c := by
  by_cases ascii : c.toNat < 128
  · have same := agree ⟨c.toNat, ascii⟩
    rwa [Char.ofNat_toNat] at same
  · rw [Bool.eq_false_iff.mpr fun member => ascii (left c member),
      Bool.eq_false_iff.mpr fun member => ascii (right c member)]

theorem ascii_of_contains {chars : List Char} (all : chars.all (·.toNat < 128) = true) (c : Char)
    (member : chars.contains c = true) : c.toNat < 128 :=
  of_decide_eq_true (List.all_eq_true.mp all c (List.contains_iff_mem.mp member))

theorem ascii_of_le {c last : Char} (le : c ≤ last) (ascii : last.toNat < 128) :
    c.toNat < 128 :=
  Nat.lt_of_le_of_lt (UInt32.le_iff_toNat_le.mp (Char.le_def.mp le)) ascii

theorem isBlank_eq : ∀ c, isBlank c = blanks.contains c := by
  refine eq_of_ascii (by decide +kernel) ?_ (ascii_of_contains (by decide))
  intro c blank
  simp only [isBlank, Bool.or_eq_true, Bool.and_eq_true, decide_eq_true_eq] at blank
  obtain rfl | ⟨-, le⟩ := blank
  · decide
  · exact ascii_of_le le (by decide)

theorem isSome_value?_eq : ∀ c, (value? c).isSome = digits.contains c := by
  refine eq_of_ascii (by decide +kernel) ?_ (ascii_of_contains (by decide))
  intro c digit
  unfold value? at digit
  split at digit
  case isTrue decimal => exact ascii_of_le decimal.2 (by decide)
  case isFalse =>
    split at digit
    case isTrue small => exact ascii_of_le small.2 (by decide)
    case isFalse =>
      split at digit
      case isTrue capital => exact ascii_of_le capital.2 (by decide)
      case isFalse => cases digit

/-- A digit is no blank, and its value is written as the digit in lower case. -/
theorem value?_of_mem {c : Char} (member : c ∈ digits) :
    isBlank c = false ∧ ∃ n, value? c = some n ∧ n < 16 ∧ digit n = c.toLower := by
  have all : digits.all (fun c => !isBlank c &&
      (value? c).any fun n => decide (n < 16) && digit n = c.toLower) = true := by
    decide
  have own := List.all_eq_true.mp all c member
  simp only [Bool.and_eq_true, Bool.not_eq_true', Option.any_eq_true, decide_eq_true_eq] at own
  exact own

/-- Two digits and the blanks behind them. -/
structure Pair where
  high : Char
  low : Char
  gap : List Char
  high_mem : high ∈ digits
  low_mem : low ∈ digits
  blank_of_gap : ∀ c ∈ gap, c ∈ blanks

namespace Pair

def chars (pair : Pair) : List Char :=
  pair.high :: pair.low :: pair.gap

def byte (pair : Pair) : UInt8 :=
  UInt8.ofNat (16 * (value? pair.high).getD 0 + (value? pair.low).getD 0)

end Pair

/-- Pairs of digits, with blanks before, between and after them. -/
def PairsText (text : List Char) (pairs : List Pair) : Prop :=
  ∃ front, (∀ c ∈ front, c ∈ blanks) ∧ text = front ++ pairs.flatMap Pair.chars

/-- A text without its blanks and in lower case. -/
def compact (text : String) : String :=
  String.ofList ((text.toList.filter fun c => !blanks.contains c).map Char.toLower)

theorem readPairs_blank {c : Char} (blank : isBlank c = true) (rest : List Char) :
    readPairs (c :: rest) = readPairs rest := by
  cases rest <;> simp [readPairs, blank]

theorem readPairs_blanks_append {front : List Char} (blank : ∀ c ∈ front, c ∈ blanks)
    (rest : List Char) : readPairs (front ++ rest) = readPairs rest := by
  induction front with
  | nil => rfl
  | cons c front induction =>
      rw [List.forall_mem_cons] at blank
      have first : isBlank c = true := by
        rw [isBlank_eq, List.contains_iff_mem]
        exact blank.1
      rw [List.cons_append, readPairs_blank first, induction blank.2]

theorem readPairs_chars_append (pair : Pair) (rest : List Char) :
    readPairs (pair.chars ++ rest) = (readPairs rest).map (pair.byte :: ·) := by
  obtain ⟨notBlank, high, highValue, -⟩ := value?_of_mem pair.high_mem
  obtain ⟨-, low, lowValue, -⟩ := value?_of_mem pair.low_mem
  simp only [Pair.chars, List.cons_append, readPairs, notBlank, Bool.false_eq_true, if_false,
    highValue, lowValue, readPairs_blanks_append pair.blank_of_gap, Pair.byte, Option.getD_some]

theorem readPairs_of_pairsText {text : List Char} {pairs : List Pair}
    (spelled : PairsText text pairs) : readPairs text = some (pairs.map Pair.byte) := by
  obtain ⟨front, blank, rfl⟩ := spelled
  rw [readPairs_blanks_append blank]
  induction pairs with
  | nil => rfl
  | cons pair rest induction =>
      rw [List.flatMap_cons, readPairs_chars_append, induction]
      rfl

/-- What stands behind a pair begins with its gap. -/
theorem pairsText_pair {high low : Char} {rest : List Char} {pairs : List Pair}
    (highMem : high ∈ digits) (lowMem : low ∈ digits) (spelled : PairsText rest pairs) :
    ∃ pair, PairsText (high :: low :: rest) (pair :: pairs) := by
  obtain ⟨gap, blank, rfl⟩ := spelled
  exact ⟨⟨high, low, gap, highMem, lowMem, blank⟩, [], List.forall_mem_nil _, rfl⟩

theorem exists_pairsText {text : List Char} {bytes : Bytes} (read : readPairs text = some bytes) :
    ∃ pairs, PairsText text pairs := by
  induction text using readPairs.induct generalizing bytes with
  | case1 => exact ⟨[], [], List.forall_mem_nil _, rfl⟩
  | case2 c rest blank induction =>
      rw [readPairs_blank blank] at read
      obtain ⟨pairs, front, gap, rfl⟩ := induction read
      rw [isBlank_eq, List.contains_iff_mem] at blank
      exact ⟨pairs, c :: front, List.forall_mem_cons.mpr ⟨blank, gap⟩, rfl⟩
  | case3 c notBlank => simp [readPairs, notBlank] at read
  | case4 c notBlank d rest high low lowValue highValue induction =>
      simp only [readPairs, notBlank, Bool.false_eq_true, if_false, highValue, lowValue,
        Option.map_eq_some_iff] at read
      obtain ⟨later, readLater, -⟩ := read
      obtain ⟨pairs, spelled⟩ := induction readLater
      have highMem : c ∈ digits := by
        rw [← List.contains_iff_mem, ← isSome_value?_eq, highValue]
        rfl
      have lowMem : d ∈ digits := by
        rw [← List.contains_iff_mem, ← isSome_value?_eq, lowValue]
        rfl
      obtain ⟨pair, whole⟩ := pairsText_pair highMem lowMem spelled
      exact ⟨pair :: pairs, whole⟩
  | case5 c notBlank d rest noPair => simp [readPairs, notBlank] at read

theorem toBytes?_eq_some_iff {text : String} {bytes : Bytes} :
    toBytes? text = some bytes ↔
      ∃ pairs, PairsText text.toList pairs ∧ bytes = pairs.map Pair.byte := by
  constructor
  · intro read
    obtain ⟨pairs, spelled⟩ := exists_pairsText read
    exact ⟨pairs, spelled, Option.some.inj (read.symm.trans (readPairs_of_pairsText spelled))⟩
  · rintro ⟨pairs, spelled, rfl⟩
    exact readPairs_of_pairsText spelled

theorem ofByte_byte (pair : Pair) : ofByte pair.byte = [pair.high.toLower, pair.low.toLower] := by
  obtain ⟨-, high, highValue, highLt, highDigit⟩ := value?_of_mem pair.high_mem
  obtain ⟨-, low, lowValue, lowLt, lowDigit⟩ := value?_of_mem pair.low_mem
  have byte : pair.byte.toNat = 16 * high + low := by
    rw [Pair.byte, highValue, lowValue]
    exact UInt8.toNat_ofNat_of_lt (by change 16 * high + low < 256; omega)
  have first : pair.byte.toNat / 16 = high := by omega
  have second : pair.byte.toNat % 16 = low := by omega
  rw [ofByte, first, second, highDigit, lowDigit]

theorem filter_blanks {gap : List Char} (blank : ∀ c ∈ gap, c ∈ blanks) :
    gap.filter (fun c => !blanks.contains c) = [] := by
  rw [List.filter_eq_nil_iff]
  intro c member
  simp [blank c member]

theorem filter_chars (pair : Pair) :
    pair.chars.filter (fun c => !blanks.contains c) = [pair.high, pair.low] := by
  have high := (value?_of_mem pair.high_mem).1
  have low := (value?_of_mem pair.low_mem).1
  rw [isBlank_eq] at high low
  simp only [Pair.chars, List.filter_cons, high, low, Bool.not_false, if_true,
    filter_blanks pair.blank_of_gap]

theorem compact_pairs (pairs : List Pair) :
    ((pairs.flatMap Pair.chars).filter fun c => !blanks.contains c).map Char.toLower =
      (pairs.map Pair.byte).flatMap ofByte := by
  induction pairs with
  | nil => rfl
  | cons pair rest induction =>
      rw [List.flatMap_cons, List.filter_append, List.map_append, induction, filter_chars]
      change [pair.high.toLower, pair.low.toLower] ++ _ = ofByte pair.byte ++ _
      rw [ofByte_byte]
      rfl

/-- What is read is written as the text without its blanks and in lower case. -/
theorem ofBytes_of_toBytes? {text : String} {bytes : Bytes} (read : toBytes? text = some bytes) :
    ofBytes bytes = compact text := by
  obtain ⟨pairs, ⟨front, blank, split⟩, rfl⟩ := toBytes?_eq_some_iff.mp read
  rw [compact, split, List.filter_append, filter_blanks blank, List.nil_append, compact_pairs]
  rfl

end Remit.Hex
