import Remit.Script.Template

/-!
Data pushes, read back. A push is a length that is its own opcode, or an opcode with a length of
one, two or four bytes, and then the data. A reader takes such a form off the front of a script
and knows where it ends. `push` writes the shortest form.
-/

namespace Remit.Script

open Wire (Script)

/-- So many bytes and what is left behind them, if there are as many. -/
def takeExactly? (count : Nat) (bytes : Bytes) : Option (Bytes × Bytes) :=
  if count ≤ bytes.length then some (bytes.take count, bytes.drop count) else none

def readSized? (width : Nat) (bytes : Bytes) : Option (Bytes × Bytes) := do
  let (length, rest) ← takeExactly? width bytes
  takeExactly? (LittleEndian.toNat length) rest

def lengthWidth? (opcode : UInt8) : Option Nat :=
  if opcode = Opcode.pushData1 then some 1
  else if opcode = Opcode.pushData2 then some 2
  else if opcode = Opcode.pushData4 then some 4
  else none

/-- The data of the push at the front of a script, and what is left of the script. -/
def readPush? : Script → Option (Bytes × Script)
  | [] => none
  | opcode :: rest =>
      if opcode = Opcode.empty then some ([], rest)
      else if opcode.toNat ≤ directPushLimit then takeExactly? opcode.toNat rest
      else (lengthWidth? opcode).bind (readSized? · rest)

/-- The forms of a push of the given data. Empty data is a direct push of length zero. -/
inductive Pushes (data : Bytes) : Script → Prop
  | direct (fits : data.length ≤ directPushLimit) : Pushes data (UInt8.ofNat data.length :: data)
  | sized {opcode : UInt8} {width : Nat} (marks : lengthWidth? opcode = some width)
      (fits : data.length < LittleEndian.range width) :
      Pushes data (opcode :: (LittleEndian.ofNat width data.length ++ data))

variable {count width : Nat} {opcode : UInt8} {data bytes rest : Bytes} {script form : Script}

theorem takeExactly?_eq_some_iff :
    takeExactly? count bytes = some (data, rest) ↔ data.length = count ∧ bytes = data ++ rest := by
  unfold takeExactly?
  constructor
  · intro taken
    split at taken
    case isTrue enough =>
      cases taken
      exact ⟨List.length_take_of_le enough, (List.take_append_drop count bytes).symm⟩
    case isFalse => cases taken
  · rintro ⟨rfl, rfl⟩
    simp

theorem readSized?_eq_some_iff :
    readSized? width bytes = some (data, rest) ↔
      data.length < LittleEndian.range width ∧
        bytes = LittleEndian.ofNat width data.length ++ (data ++ rest) := by
  constructor
  · intro read
    simp only [readSized?, Option.bind_eq_bind, Option.bind_eq_some_iff, Prod.exists] at read
    obtain ⟨length, behind, lengthTaken, taken⟩ := read
    obtain ⟨rfl, rfl⟩ := takeExactly?_eq_some_iff.mp lengthTaken
    obtain ⟨size, rfl⟩ := takeExactly?_eq_some_iff.mp taken
    rw [size, LittleEndian.ofNat_toNat]
    exact ⟨LittleEndian.toNat_lt length, rfl⟩
  · rintro ⟨fits, rfl⟩
    have lengthTaken : takeExactly? width
        (LittleEndian.ofNat width data.length ++ (data ++ rest)) =
          some (LittleEndian.ofNat width data.length, data ++ rest) :=
      takeExactly?_eq_some_iff.mpr ⟨LittleEndian.length_ofNat _ _, rfl⟩
    have size : LittleEndian.toNat (LittleEndian.ofNat width data.length) = data.length := by
      rw [LittleEndian.toNat_ofNat, Nat.mod_eq_of_lt fits]
    simp only [readSized?, lengthTaken, Option.bind_eq_bind, Option.bind_some, size]
    exact takeExactly?_eq_some_iff.mpr ⟨rfl, rfl⟩

theorem lengthWidth?_cases (marks : lengthWidth? opcode = some width) :
    opcode = Opcode.pushData1 ∧ width = 1 ∨ opcode = Opcode.pushData2 ∧ width = 2 ∨
      opcode = Opcode.pushData4 ∧ width = 4 := by
  unfold lengthWidth? at marks
  grind

theorem lt_of_lengthWidth? (marks : lengthWidth? opcode = some width) :
    directPushLimit < opcode.toNat := by
  obtain ⟨rfl, -⟩ | ⟨rfl, -⟩ | ⟨rfl, -⟩ := lengthWidth?_cases marks <;> decide

/-- A direct opcode is read as the length that it is, zero as any other. -/
theorem readPush?_direct (small : opcode.toNat ≤ directPushLimit) :
    readPush? (opcode :: rest) = takeExactly? opcode.toNat rest := by
  by_cases empty : opcode = Opcode.empty
  · subst empty
    exact (takeExactly?_eq_some_iff.mpr ⟨rfl, rfl⟩).symm
  · simp only [readPush?, if_neg empty, if_pos small]

theorem readPush?_marker (large : directPushLimit < opcode.toNat) :
    readPush? (opcode :: rest) = (lengthWidth? opcode).bind (readSized? · rest) := by
  have nonempty : opcode ≠ Opcode.empty := by
    rintro rfl
    cases large
  simp only [readPush?, if_neg nonempty, if_neg (Nat.not_le.mpr large)]

theorem Pushes.reads (pushes : Pushes data form) (rest : Bytes) :
    readPush? (form ++ rest) = some (data, rest) := by
  cases pushes with
  | direct fits =>
      have byte : (UInt8.ofNat data.length).toNat = data.length :=
        UInt8.toNat_ofNat_of_lt' (Nat.lt_of_le_of_lt fits (by decide))
      rw [List.cons_append, readPush?_direct (byte.symm ▸ fits), byte]
      exact takeExactly?_eq_some_iff.mpr ⟨rfl, rfl⟩
  | sized marks fits =>
      rw [List.cons_append, readPush?_marker (lt_of_lengthWidth? marks), marks,
        List.append_assoc]
      exact readSized?_eq_some_iff.mpr ⟨fits, rfl⟩

/-- What the reader takes is one of the forms, whatever the script holds behind it. -/
theorem readPush?_eq_some_iff :
    readPush? script = some (data, rest) ↔ ∃ form, Pushes data form ∧ script = form ++ rest := by
  constructor
  · intro read
    cases script with
    | nil => cases read
    | cons opcode behind =>
        by_cases small : opcode.toNat ≤ directPushLimit
        case pos =>
          rw [readPush?_direct small, takeExactly?_eq_some_iff] at read
          obtain ⟨size, rfl⟩ := read
          have byte : opcode = UInt8.ofNat data.length := by rw [size, UInt8.ofNat_toNat]
          exact ⟨_, .direct (size ▸ small), by rw [byte, List.cons_append]⟩
        case neg =>
          -- A length that was read from so many bytes fits them, so this is a form of that width.
          rw [readPush?_marker (Nat.not_le.mp small), Option.bind_eq_some_iff] at read
          obtain ⟨width, marks, read⟩ := read
          obtain ⟨fits, rfl⟩ := readSized?_eq_some_iff.mp read
          exact ⟨_, .sized marks fits, by rw [List.cons_append, List.append_assoc]⟩
  · rintro ⟨form, pushes, rfl⟩
    exact pushes.reads rest

theorem pushes_push (small : data.length < 0x100000000) : Pushes data (push data) := by
  unfold push
  dsimp only
  split
  case isTrue empty =>
    obtain rfl := List.eq_nil_of_length_eq_zero empty
    exact .direct (by decide)
  split
  case isTrue direct => exact .direct direct
  split
  case isTrue one => exact .sized rfl (Nat.lt_succ_of_le one)
  split
  case isTrue two => exact .sized rfl (Nat.lt_succ_of_le two)
  case isFalse => exact .sized rfl small

theorem length_push (data : Bytes) :
    (push data).length = data.length +
      if data.length ≤ directPushLimit then 1
      else if data.length ≤ 0xFF then 2
      else if data.length ≤ 0xFFFF then 3
      else 5 := by
  unfold push directPushLimit
  dsimp only
  by_cases empty : data.length = 0
  · simp [empty]
  rw [if_neg empty]
  by_cases direct : data.length ≤ 0x4B
  · simp [direct]
  by_cases one : data.length ≤ 0xFF
  · simp [direct, one]
    omega
  by_cases two : data.length ≤ 0xFFFF
  · simp [direct, one, two]
    omega
  · simp [direct, one, two]
    omega

theorem length_push_direct (fits : data.length ≤ directPushLimit) :
    (push data).length = data.length + 1 := by
  rw [length_push, if_pos fits]

theorem Pushes.length_push_le (pushes : Pushes data form) :
    (push data).length ≤ form.length := by
  cases pushes with
  | direct fits => exact Nat.le_of_eq (length_push_direct fits)
  | sized marks fits =>
      rw [length_push, List.length_cons, List.length_append, LittleEndian.length_ofNat]
      obtain ⟨-, rfl⟩ | ⟨-, rfl⟩ | ⟨-, rfl⟩ := lengthWidth?_cases marks
      · have byte : data.length ≤ 0xFF := Nat.le_of_lt_succ fits
        grind
      · have word : data.length ≤ 0xFFFF := Nat.le_of_lt_succ fits
        grind
      · grind

theorem readPush?_push (small : data.length < 0x100000000) (suffix : Bytes) :
    readPush? (push data ++ suffix) = some (data, suffix) :=
  (pushes_push small).reads suffix

theorem push_injective {other : Bytes} (small : data.length < 0x100000000)
    (otherSmall : other.length < 0x100000000) (same : push data = push other) : data = other := by
  have read := readPush?_push small []
  rw [same, readPush?_push otherSmall] at read
  cases read
  rfl

/-- Read front to back, the script of an unlocking gives its two pushes and no others. -/
theorem unlockPubkeyHash_inj {signature pubkey signature' pubkey' : Bytes}
    (signatureSmall : signature.length < 0x100000000) (pubkeySmall : pubkey.length < 0x100000000)
    (signatureSmall' : signature'.length < 0x100000000)
    (pubkeySmall' : pubkey'.length < 0x100000000)
    (same : unlockPubkeyHash signature pubkey = unlockPubkeyHash signature' pubkey') :
    signature = signature' ∧ pubkey = pubkey' := by
  have read : readPush? (unlockPubkeyHash signature pubkey) = some (signature, push pubkey) :=
    readPush?_push signatureSmall _
  have read' : readPush? (unlockPubkeyHash signature' pubkey') = some (signature', push pubkey') :=
    readPush?_push signatureSmall' _
  rw [same, read', Option.some.injEq, Prod.mk.injEq] at read
  exact ⟨read.1.symm, (push_injective pubkeySmall' pubkeySmall read.2).symm⟩

/-- Whatever follows it, a push is read as its data, and no other form of that data is shorter. So
a script that unlocks tells its signature from its key. -/
theorem pushes_uniquely_readable :
    (∀ data : Bytes, data.length < 0x100000000 →
      (∀ suffix, readPush? (push data ++ suffix) = some (data, suffix)) ∧
        ∀ form, readPush? form = some (data, []) → (push data).length ≤ form.length) ∧
    ∀ signature pubkey signature' pubkey' : Bytes,
      signature.length < 0x100000000 → pubkey.length < 0x100000000 →
      signature'.length < 0x100000000 → pubkey'.length < 0x100000000 →
      (unlockPubkeyHash signature pubkey = unlockPubkeyHash signature' pubkey' ↔
        signature = signature' ∧ pubkey = pubkey') := by
  refine ⟨fun data small => ⟨readPush?_push small, ?shortest⟩, ?unlocks⟩
  case shortest =>
    intro script read
    obtain ⟨form, pushes, rfl⟩ := readPush?_eq_some_iff.mp read
    rw [List.append_nil]
    exact pushes.length_push_le
  case unlocks =>
    intro signature pubkey signature' pubkey' signatureSmall pubkeySmall signatureSmall'
      pubkeySmall'
    constructor
    · exact unlockPubkeyHash_inj signatureSmall pubkeySmall signatureSmall' pubkeySmall'
    · rintro ⟨rfl, rfl⟩
      rfl

/-- Data whose bytes are opcodes of pushes, one byte longer than a direct push may be. -/
theorem pushes_uniquely_readable_one_past_direct :
    let data : Bytes := List.replicate 76 Opcode.pushData1
    let padded : Script := Opcode.pushData4 :: (LittleEndian.ofNat 4 76 ++ data)
    readPush? (push data ++ data) = some (data, data) ∧
      readPush? padded = some (data, []) ∧ (push data).length ≤ padded.length ∧
      unlockPubkeyHash data (76 :: data) ≠ unlockPubkeyHash (76 :: data) data := by
  intro data padded
  have small : data.length < 0x100000000 := by decide
  have longer : (76 :: data).length < 0x100000000 := by decide
  have full : readPush? padded = some (data, []) := by decide
  obtain ⟨reads, unlocks⟩ := pushes_uniquely_readable
  obtain ⟨read, shortest⟩ := reads data small
  have apart := mt (unlocks data (76 :: data) (76 :: data) data small longer longer small).mp
  exact ⟨read data, full, shortest padded full, apart (by decide)⟩

end Remit.Script
