import Remit.Proofs.Wire.Recognition
import Remit.Proofs.Wire.Sizes

/-!
How a read ends. It takes the bytes of a value, or it uses the stream up and wants more, or it comes
to a length that no stream can hold. The first and the last do not depend on what follows in the
stream, so an encoding that is cut short is never taken for another one.
-/

namespace Remit.Wire

open CompactSize (Shortest Spells)

inductive ReadError.EndOfStream : ReadError → Prop
  | noCount : EndOfStream .noCount
  | short {wanted got : Nat} (less : got < wanted) : EndOfStream (.short wanted got)

structure Stream.Takes (before : Stream) (bytes : Bytes) (after : Stream) : Prop where
  rest : before.rest = bytes ++ after.rest
  position : after.position = before.position + bytes.length

namespace Stream.Takes

variable {before middle after : Stream} {front back : Bytes}

theorem trans (first : before.Takes front middle) (second : middle.Takes back after) :
    before.Takes (front ++ back) after where
  rest := by rw [first.rest, second.rest, List.append_assoc]
  position := by rw [second.position, first.position, List.length_append, Nat.add_assoc]

theorem cons {rest : Bytes} {position : Nat}
    (takes : Stream.Takes ⟨rest, position + 1⟩ back after) (byte : UInt8) :
    Stream.Takes ⟨byte :: rest, position⟩ (byte :: back) after where
  rest := congrArg (byte :: ·) takes.rest
  position := by rw [takes.position, List.length_cons, Nat.add_assoc, Nat.add_comm 1]

end Stream.Takes

section

variable {α β : Type}

/-- Whatever follows these bytes in a stream, the reader takes them and refuses a length. -/
def Overflows (reader : Read α) (bytes : Bytes) (wanted : Nat) : Prop :=
  ∀ rest position, execute reader ⟨bytes ++ rest, position⟩ =
    (.error (.oversized wanted), ⟨rest, position + bytes.length⟩)

inductive Ending (reader : Read α) (before after : Stream) : Except ReadError α → Prop
  | read {value : α} {bytes : Bytes} (reads : Reads reader bytes value)
      (takes : before.Takes bytes after) : Ending reader before after (.ok value)
  | starved {error : ReadError} (ended : error.EndOfStream)
      (takes : before.Takes before.rest after) : Ending reader before after (.error error)
  | oversized {wanted : Nat} {bytes : Bytes} (overflows : Overflows reader bytes wanted)
      (takes : before.Takes bytes after) : Ending reader before after (.error (.oversized wanted))

def Settles (reader : Read α) : Prop :=
  ∀ before outcome after, execute reader before = (outcome, after) →
    Ending reader before after outcome

variable {reader : Read α} {next : α → Read β} {bytes front back : Bytes} {value : α}
  {wanted : Nat}

theorem Overflows.bind (overflows : Overflows reader bytes wanted) (next : α → Read β) :
    Overflows (reader >>= next) bytes wanted := by
  intro rest position
  exact execute_bind_error (overflows rest position) next

theorem Overflows.map (overflows : Overflows reader bytes wanted) (change : α → β) :
    Overflows (change <$> reader) bytes wanted := by
  rw [map_eq_pure_bind]
  exact overflows.bind _

theorem Reads.overflows (reads : Reads reader front value)
    (overflows : Overflows (next value) back wanted) :
    Overflows (reader >>= next) (front ++ back) wanted := by
  intro rest position
  rw [List.append_assoc, execute_bind_ok (reads (back ++ rest) position), overflows,
    Nat.add_assoc, List.length_append]

namespace Settles

theorem pure (value : α) : Settles (Pure.pure value : Read α) := by
  intro before outcome after run
  cases run
  exact .read (Reads.pure value) ⟨rfl, rfl⟩

theorem bind (settles : Settles reader)
    (nextSettles : ∀ value front, Reads reader front value → Settles (next value)) :
    Settles (reader >>= next) := by
  intro before outcome after run
  rw [execute_bind] at run
  rcases firstRun : execute reader before with ⟨first, middle⟩
  rw [firstRun] at run
  cases settles before first middle firstRun with
  | read reads takes =>
      cases nextSettles _ _ reads middle outcome after run with
      | read nextReads nextTakes => exact .read (reads.bind nextReads) (takes.trans nextTakes)
      | starved ended nextTakes =>
          refine .starved ended ?_
          rw [takes.rest]
          exact takes.trans nextTakes
      | oversized overflows nextTakes =>
          exact .oversized (reads.overflows overflows) (takes.trans nextTakes)
  | starved ended takes =>
      cases run
      exact .starved ended takes
  | oversized overflows takes =>
      cases run
      exact .oversized (overflows.bind next) takes

theorem map (settles : Settles reader) (change : α → β) : Settles (change <$> reader) := by
  rw [map_eq_pure_bind]
  exact settles.bind fun _ _ _ => pure _

theorem many (settles : Settles reader) (n : Nat) : Settles (readMany reader n) := by
  induction n with
  | zero => exact pure []
  | succ n induction => exact settles.bind fun _ _ _ => induction.bind fun _ _ _ => pure _

end Settles

/-- What a reader takes as a whole, it cannot take in part. -/
theorem Reads.starves (reads : Reads reader (front ++ back) value) (settles : Settles reader)
    (cut : back ≠ []) (position : Nat) :
    ∃ error : ReadError, error.EndOfStream ∧
      execute reader ⟨front, position⟩ = (.error error, ⟨[], position + front.length⟩) := by
  have whole := reads [] position
  rw [List.append_nil] at whole
  rcases run : execute reader ⟨front, position⟩ with ⟨outcome, rest, last⟩
  -- Bytes that are taken from the front alone would be taken with the back there as well.
  have split (bytes : Bytes) (takes : Stream.Takes ⟨front, position⟩ bytes ⟨rest, last⟩) :
      front ++ back = bytes ++ (rest ++ back) := by
    rw [← List.append_assoc, ← takes.rest]
  cases settles _ _ _ run with
  | read part takes =>
      rw [split _ takes, part] at whole
      cases back with
      | nil => exact absurd rfl cut
      | cons byte back => simp at whole
  | starved ended takes =>
      obtain rfl : [] = rest := List.append_cancel_left ((List.append_nil _).trans takes.rest)
      obtain rfl : last = position + front.length := takes.position
      exact ⟨_, ended, rfl⟩
  | oversized overflows takes =>
      rw [split _ takes, overflows] at whole
      cases whole

end

theorem overflows_bytes {wanted : Nat} (large : lengthLimit ≤ wanted) :
    Overflows (readBytes wanted) [] wanted := by
  intro rest position
  rw [execute_readBytes, if_pos large]
  rfl

theorem settles_bytes (wanted : Nat) : Settles (readBytes wanted) := by
  intro before outcome after run
  by_cases large : lengthLimit ≤ wanted
  · rw [execute_readBytes, if_pos large] at run
    cases run
    exact .oversized (overflows_bytes large) ⟨rfl, rfl⟩
  · simp only [execute_readBytes, if_neg large] at run
    by_cases less : (before.rest.take wanted).length < wanted
    · rw [if_pos less] at run
      cases run
      have all : before.rest.length ≤ wanted := by
        rw [List.length_take] at less
        omega
      refine .starved (.short less) ⟨?_, ?_⟩
      · rw [List.drop_eq_nil_of_le all, List.append_nil]
      · rw [List.take_of_length_le all]
    · rw [if_neg less] at run
      cases run
      have length : (before.rest.take wanted).length = wanted :=
        Nat.le_antisymm (List.length_take_le _ _) (Nat.not_lt.mp less)
      exact .read (reads_width length (Nat.not_le.mp large))
        ⟨(List.take_append_drop _ _).symm, rfl⟩

theorem settles_unsigned (width : Nat) : Settles (readUnsigned width) :=
  (settles_bytes width).map LittleEndian.toNat

theorem settles_signed (width : Nat) : Settles (readSigned width) :=
  (settles_bytes width).map LittleEndian.toInt

theorem settles_markedCount (marker : UInt8) : Settles (markedCount marker) := by
  unfold markedCount
  split
  · exact .pure _
  · split
    · exact settles_unsigned 2
    · split
      · exact settles_unsigned 4
      · exact settles_unsigned 8

theorem overflows_count_cons {marker : UInt8} {payload : Bytes} {wanted : Nat}
    (overflows : Overflows (markedCount marker) payload wanted) :
    Overflows readCount (marker :: payload) wanted := by
  intro rest position
  rw [List.cons_append, execute_readCount_cons, overflows, List.length_cons, Nat.add_assoc,
    Nat.add_comm 1]

theorem settles_count : Settles readCount := by
  rintro ⟨rest, position⟩ outcome after run
  cases rest with
  | nil =>
      cases run
      exact .starved .noCount ⟨rfl, rfl⟩
  | cons marker rest =>
      rw [execute_readCount_cons] at run
      cases settles_markedCount marker _ _ _ run with
      | read reads takes => exact .read (reads_count_cons reads) (takes.cons marker)
      | starved ended takes => exact .starved ended (takes.cons marker)
      | oversized overflows takes =>
          exact .oversized (overflows_count_cons overflows) (takes.cons marker)

theorem settles_counted : Settles readCounted :=
  settles_count.bind fun _ _ _ => settles_bytes _

theorem settles_digest : Settles readDigest := by
  refine (settles_bytes 32).bind fun bytes front reads => ?_
  obtain ⟨_, ⟨rfl, length⟩, -⟩ := recognises_bytes 32 _ _ _ (reads [] 0)
  have whole : Digest.ofBytes? bytes = some ⟨bytes, length⟩ := dif_pos length
  rw [whole]
  exact .pure _

theorem OutPoint.settles : Settles OutPoint.read :=
  settles_digest.bind fun _ _ _ => (settles_unsigned 4).bind fun _ _ _ => .pure _

theorem TxInput.settles : Settles TxInput.read :=
  OutPoint.settles.bind fun _ _ _ => settles_counted.bind fun _ _ _ =>
    (settles_unsigned 4).bind fun _ _ _ => .pure _

theorem TxOutput.settles : Settles TxOutput.read :=
  (settles_signed 8).bind fun _ _ _ => settles_counted.bind fun _ _ _ => .pure _

theorem Transaction.settles : Settles Transaction.read :=
  (settles_signed 4).bind fun _ _ _ =>
    settles_count.bind fun _ _ _ => (TxInput.settles.many _).bind fun _ _ _ =>
    settles_count.bind fun _ _ _ => (TxOutput.settles.many _).bind fun _ _ _ =>
    (settles_unsigned 4).bind fun _ _ _ => (settles_unsigned 4).bind fun _ _ _ => .pure _

/-- Wherever an encoding is cut, what is in front of the cut is refused for ending too early. -/
theorem truncated_refused {tx : Transaction} {data front : Bytes} (encoded : tx.encode = .ok data)
    (readable : tx.Readable) (ahead : front <+: data) (cut : front ≠ data) :
    ∃ error : ReadError, error.EndOfStream ∧ Transaction.ofBytes front = .error error := by
  obtain ⟨back, rfl⟩ := ahead
  have missing : back ≠ [] := by
    rintro rfl
    exact cut (List.append_nil front).symm
  have laid := (Transaction.encode_eq_ok_iff.mp encoded).mono fun _ _ => Shortest.spells
  obtain ⟨error, ended, run⟩ := (laid.reads readable).starves Transaction.settles missing 0
  exact ⟨error, ended, congrArg Prod.fst run⟩

/-- The cut is inside the script of the input. -/
theorem truncated_refused_inside_script :
    let tx : Transaction :=
      ⟨1, [⟨⟨⟨List.replicate 32 7, List.length_replicate⟩, 1⟩, [0x51, 0x52], 0xFFFFFFFE⟩],
        [⟨-1, [0x6A]⟩], 9, 0⟩
    ∃ data, tx.encode = .ok data ∧ tx.Readable ∧ data.take 43 <+: data ∧ data.take 43 ≠ data ∧
      ∃ error : ReadError, error.EndOfStream ∧
        Transaction.ofBytes (data.take 43) = .error error := by
  intro tx
  let data : Bytes :=
    [1, 0, 0, 0, 1] ++ List.replicate 32 7 ++
      [1, 0, 0, 0, 2, 0x51, 0x52, 0xFE, 0xFF, 0xFF, 0xFF, 1] ++ List.replicate 8 0xFF ++
      [1, 0x6A, 9, 0, 0, 0, 0, 0, 0, 0]
  have encoded : tx.encode = .ok data := by decide +kernel
  have readable : tx.Readable := ⟨by decide, by decide⟩
  have cut : data.take 43 ≠ data := by decide +kernel
  exact ⟨data, encoded, readable, data.take_prefix 43, cut,
    truncated_refused encoded readable (data.take_prefix 43) cut⟩

end Remit.Wire
