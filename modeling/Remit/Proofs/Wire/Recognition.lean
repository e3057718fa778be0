import Remit.Proofs.Wire.RoundTrip

/-!
What the decoder accepts. `Recognises reader layout` says that a reader only ever takes values in
their layout, which is the converse of `Reads`. Together they make the decoder exact: it accepts
the layouts of a transaction over all forms of its counts, and nothing else.
-/

namespace Remit.Wire

open CompactSize (Shortest Spells)

def Recognises {α : Type} (reader : Read α) (layout : α → Bytes → Prop) : Prop :=
  ∀ stream value after, execute reader stream = (.ok value, after) →
    ∃ front, layout value front ∧ stream.rest = front ++ after.rest ∧
      after.position = stream.position + front.length

namespace Recognises

variable {α β : Type} {layout wider : α → Bytes → Prop} {reader : Read α}

theorem mono (recognises : Recognises reader layout)
    (widen : ∀ value bytes, layout value bytes → wider value bytes) :
    Recognises reader wider := by
  intro stream value after run
  obtain ⟨front, laid, rest, position⟩ := recognises stream value after run
  exact ⟨front, widen value front laid, rest, position⟩

theorem pure (value : α) :
    Recognises (Pure.pure value) fun result bytes => result = value ∧ bytes = [] := by
  intro stream result after run
  cases run
  exact ⟨[], ⟨rfl, rfl⟩, rfl, rfl⟩

theorem bind {next : α → Read β} {follow : α → β → Bytes → Prop}
    (recognises : Recognises reader layout)
    (nextRecognises : ∀ value, Recognises (next value) (follow value)) :
    Recognises (reader >>= next) fun result bytes => ∃ value front back,
      layout value front ∧ follow value result back ∧ bytes = front ++ back := by
  intro stream result after run
  obtain ⟨value, middle, firstRun, nextRun⟩ := execute_bind_eq_ok run
  obtain ⟨front, laid, rest, position⟩ := recognises stream value middle firstRun
  obtain ⟨back, nextLaid, nextRest, nextPosition⟩ :=
    nextRecognises value middle result after nextRun
  refine ⟨front ++ back, ⟨value, front, back, laid, nextLaid, rfl⟩, ?_, ?_⟩
  · rw [rest, nextRest, List.append_assoc]
  · rw [nextPosition, position, List.length_append, Nat.add_assoc]

theorem bind_pure (recognises : Recognises reader layout) (next : α → β) :
    Recognises (reader >>= fun value => Pure.pure (next value)) fun result bytes =>
      ∃ value, layout value bytes ∧ result = next value := by
  refine (recognises.bind fun value => pure (next value)).mono ?_
  rintro result bytes ⟨value, front, back, laid, ⟨rfl, rfl⟩, rfl⟩
  exact ⟨value, by rwa [List.append_nil], rfl⟩

theorem map (recognises : Recognises reader layout) (change : α → β) :
    Recognises (change <$> reader) fun result bytes =>
      ∃ value, layout value bytes ∧ result = change value := by
  rw [map_eq_pure_bind]
  exact recognises.bind_pure change

theorem many (recognises : Recognises reader layout) (n : Nat) :
    Recognises (readMany reader n) fun values bytes =>
      values.length = n ∧ ∃ parts, List.Forall₂ layout values parts ∧ bytes = parts.flatten := by
  induction n with
  | zero =>
      refine (pure []).mono ?_
      rintro values bytes ⟨rfl, rfl⟩
      exact ⟨rfl, [], .nil, rfl⟩
  | succ n induction =>
      refine (recognises.bind fun first => induction.bind_pure (first :: ·)).mono ?_
      rintro values bytes ⟨first, front, back, laid, ⟨rest, ⟨rfl, parts, each, rfl⟩, rfl⟩, rfl⟩
      exact ⟨rfl, front :: parts, .cons laid each, rfl⟩

end Recognises

theorem execute_readBytes (wanted : Nat) (stream : Stream) :
    execute (readBytes wanted) stream =
      if lengthLimit ≤ wanted then (.error (.oversized wanted), stream)
      else
        let chunk := stream.rest.take wanted
        let after := ⟨stream.rest.drop wanted, stream.position + chunk.length⟩
        if chunk.length < wanted then (.error (.short wanted chunk.length), after)
        else (.ok chunk, after) := by
  unfold readBytes
  split
  · rfl
  · change execute (get >>= fun stream => _) stream = _
    rw [execute_bind_ok (execute_get _)]
    dsimp only
    rw [execute_bind_ok (execute_set _ _)]
    split <;> rfl

theorem recognises_bytes (wanted : Nat) :
    Recognises (readBytes wanted) fun value bytes => value = bytes ∧ bytes.length = wanted := by
  intro stream value after run
  rw [execute_readBytes] at run
  dsimp only at run
  split at run
  · cases run
  · split at run
    · cases run
    case isFalse whole =>
      cases run
      have length : (stream.rest.take wanted).length = wanted :=
        Nat.le_antisymm (List.length_take_le _ _) (Nat.not_lt.mp whole)
      exact ⟨stream.rest.take wanted, ⟨rfl, length⟩, (List.take_append_drop _ _).symm, rfl⟩

theorem recognises_unsigned (width : Nat) :
    Recognises (readUnsigned width) fun n bytes =>
      n < LittleEndian.range width ∧ bytes = LittleEndian.ofNat width n := by
  refine ((recognises_bytes width).map LittleEndian.toNat).mono ?_
  rintro _ _ ⟨bytes, ⟨rfl, rfl⟩, rfl⟩
  exact ⟨LittleEndian.toNat_lt bytes, (LittleEndian.ofNat_toNat bytes).symm⟩

theorem recognises_signed (width : Nat) :
    Recognises (readSigned width) fun i bytes =>
      LittleEndian.FitsSigned width i ∧ bytes = LittleEndian.ofInt width i := by
  refine ((recognises_bytes width).map LittleEndian.toInt).mono ?_
  rintro _ _ ⟨bytes, ⟨rfl, rfl⟩, rfl⟩
  exact ⟨LittleEndian.fitsSigned_toInt bytes, (LittleEndian.ofInt_toInt bytes).symm⟩

/-- A field that is read as a number is kept as an integer. -/
theorem field_of_unsigned {width n : Nat} {bytes : Bytes}
    (laid : n < LittleEndian.range width ∧ bytes = LittleEndian.ofNat width n) :
    LittleEndian.FitsUnsigned width n ∧ bytes = LittleEndian.ofInt width n := by
  have fits : LittleEndian.FitsUnsigned width n :=
    ⟨Int.natCast_nonneg n, Int.ofNat_lt.mpr laid.1⟩
  exact ⟨fits, laid.2.trans (LittleEndian.ofInt_natCast fits).symm⟩

theorem recognises_markedCount (marker : UInt8) :
    Recognises (markedCount marker) fun n payload => Spells n (marker :: payload) := by
  unfold markedCount
  split
  case isTrue below =>
    refine (Recognises.pure marker.toNat).mono ?_
    rintro _ _ ⟨rfl, rfl⟩
    have form : LittleEndian.ofNat 1 marker.toNat = [marker] := by
      simpa [LittleEndian.toNat] using LittleEndian.ofNat_toNat [marker]
    rw [← form]
    exact .one (UInt8.lt_iff_toNat_lt.mp below)
  case isFalse notBelow =>
    split
    case isTrue two =>
      subst two
      refine (recognises_unsigned 2).mono ?_
      rintro n _ ⟨fits, rfl⟩
      exact .two fits
    case isFalse notTwo =>
      split
      case isTrue four =>
        subst four
        refine (recognises_unsigned 4).mono ?_
        rintro n _ ⟨fits, rfl⟩
        exact .four fits
      case isFalse notFour =>
        have eight : marker = 0xFF := by
          have atLeast : ¬ marker.toNat < 253 :=
            fun below => notBelow (UInt8.lt_iff_toNat_lt.mpr below)
          have two : marker.toNat ≠ 253 := fun equal => notTwo (UInt8.toNat_inj.mp equal)
          have four : marker.toNat ≠ 254 := fun equal => notFour (UInt8.toNat_inj.mp equal)
          have below : marker.toNat < 256 := marker.toNat_lt
          exact UInt8.toNat_inj.mp (show marker.toNat = 255 by omega)
        subst eight
        refine (recognises_unsigned 8).mono ?_
        rintro n _ ⟨fits, rfl⟩
        exact .eight fits

theorem recognises_count : Recognises readCount Spells := by
  rintro ⟨rest, position⟩ n after run
  cases rest with
  | nil => cases run
  | cons marker rest =>
      rw [execute_readCount_cons] at run
      obtain ⟨payload, spells, split, moved⟩ := recognises_markedCount marker _ n after run
      refine ⟨marker :: payload, spells, ?_, ?_⟩
      · rw [List.cons_append, ← split]
      · rw [moved, List.length_cons, Nat.add_assoc, Nat.add_comm 1]

theorem recognises_counted :
    Recognises readCounted fun script bytes =>
      ∃ length, Spells script.length length ∧ bytes = length ++ script := by
  refine (recognises_count.bind recognises_bytes).mono ?_
  rintro script bytes ⟨n, length, _, spells, ⟨rfl, rfl⟩, rfl⟩
  exact ⟨length, spells, rfl⟩

theorem recognises_digest : Recognises readDigest fun digest bytes => bytes = digest.bytes := by
  intro stream digest after run
  obtain ⟨bytes, middle, firstRun, nextRun⟩ := execute_bind_eq_ok run
  obtain ⟨_, ⟨rfl, length⟩, rest, position⟩ := recognises_bytes 32 stream bytes middle firstRun
  have whole : Digest.ofBytes? bytes = some ⟨bytes, length⟩ := dif_pos length
  rw [whole] at nextRun
  cases nextRun
  exact ⟨bytes, rfl, rest, position⟩

theorem OutPoint.recognises : Recognises OutPoint.read fun p bytes => bytes = p.bytes := by
  unfold OutPoint.read
  refine (recognises_digest.bind fun txId => (recognises_unsigned 4).bind_pure _).mono ?_
  rintro p _ ⟨txId, _, _, rfl, ⟨index, ⟨fits, rfl⟩, rfl⟩, rfl⟩
  have value : (UInt32.ofNat index).toNat = index := UInt32.toNat_ofNat_of_lt' fits
  rw [OutPoint.bytes, value]

theorem TxInput.recognises : Recognises TxInput.read (TxInput.Layout Spells) := by
  unfold TxInput.read
  refine (OutPoint.recognises.bind fun outPoint => recognises_counted.bind fun script =>
    (recognises_unsigned 4).bind_pure _).mono ?_
  rintro i _ ⟨outPoint, _, _, rfl, ⟨script, _, _, ⟨length, spells, rfl⟩,
    ⟨sequence, read, rfl⟩, rfl⟩, rfl⟩
  obtain ⟨fits, rfl⟩ := field_of_unsigned read
  exact .fields spells fits

theorem TxOutput.recognises : Recognises TxOutput.read (TxOutput.Layout Spells) := by
  unfold TxOutput.read
  refine ((recognises_signed 8).bind fun value => recognises_counted.bind_pure _).mono ?_
  rintro o _ ⟨value, _, _, ⟨fits, rfl⟩, ⟨script, ⟨length, spells, rfl⟩, rfl⟩, rfl⟩
  exact .fields fits spells

theorem recognises_list {α : Type} {reader : Read α} {item : α → Bytes → Prop}
    (recognises : Recognises reader item) :
    Recognises (readCount >>= readMany reader) (ListLayout Spells item) := by
  refine (recognises_count.bind recognises.many).mono ?_
  rintro values _ ⟨n, length, _, spells, ⟨rfl, parts, each, rfl⟩, rfl⟩
  exact .items spells each

theorem Transaction.recognises : Recognises Transaction.read (Transaction.Layout Spells) := by
  rw [Transaction.read_eq]
  refine ((recognises_signed 4).bind fun version =>
    (recognises_list TxInput.recognises).bind fun inputs =>
    (recognises_list TxOutput.recognises).bind fun outputs =>
    (recognises_unsigned 4).bind fun locktime => (recognises_unsigned 4).bind_pure _).mono ?_
  rintro tx _ ⟨version, _, _, ⟨fits, rfl⟩, ⟨inputs, _, _, inputsLaid, ⟨outputs, _, _, outputsLaid,
    ⟨locktime, _, _, locktimeRead, ⟨expiry, expiryRead, rfl⟩, rfl⟩, rfl⟩, rfl⟩, rfl⟩
  obtain ⟨locktimeFits, rfl⟩ := field_of_unsigned locktimeRead
  obtain ⟨expiryFits, rfl⟩ := field_of_unsigned expiryRead
  exact .fields fits inputsLaid outputsLaid locktimeFits expiryFits

section

variable {count : Nat → Bytes → Prop} {i : TxInput} {o : TxOutput} {tx : Transaction}
  {bytes data : Bytes}

theorem TxInput.Layout.script_le (laid : i.Layout count bytes) :
    i.script.length ≤ bytes.length := by
  obtain ⟨-, -⟩ := laid
  simp only [List.length_append]
  omega

theorem TxOutput.Layout.script_le (laid : o.Layout count bytes) :
    o.script.length ≤ bytes.length := by
  obtain ⟨-, -⟩ := laid
  simp only [List.length_append]
  omega

/-- A script is part of the bytes that hold it, so it is no longer than a stream may be. -/
theorem Transaction.Layout.readable (laid : tx.Layout count bytes)
    (short : bytes.length < lengthLimit) : tx.Readable := by
  obtain ⟨-, inputs, outputs, -, -⟩ := laid
  simp only [List.length_append] at short
  constructor
  · intro i member
    obtain ⟨part, laid, partLe⟩ := inputs.exists_part member
    have scriptLe := laid.script_le
    omega
  · intro o member
    obtain ⟨part, laid, partLe⟩ := outputs.exists_part member
    have scriptLe := laid.script_le
    omega

theorem Transaction.exists_front (decoded : Transaction.ofBytes data = .ok tx) :
    ∃ front rest, data = front ++ rest ∧ tx.Layout Spells front ∧
      execute Transaction.read (.ofBytes data) = (.ok tx, ⟨rest, front.length⟩) := by
  have run : execute Transaction.read (.ofBytes data) =
      (.ok tx, (execute Transaction.read (.ofBytes data)).2) := Prod.ext decoded rfl
  obtain ⟨front, laid, split, position⟩ := Transaction.recognises _ tx _ run
  have consumed : (execute Transaction.read (.ofBytes data)).2.position = front.length :=
    position.trans (Nat.zero_add _)
  refine ⟨front, _, split, laid, run.trans ?_⟩
  rw [← consumed]

theorem Transaction.Layout.ofBytes_append {front : Bytes} (laid : tx.Layout Spells front)
    (rest : Bytes) (short : front.length < lengthLimit) :
    Transaction.ofBytes (front ++ rest) = .ok tx :=
  Transaction.ofBytes_of_reads (laid.reads (laid.readable short)) rest

/-- The decoder accepts what begins with a layout of a transaction, whatever forms its counts are
written in. What it returns can be encoded, to the shortest of its layouts. -/
theorem ofBytes_iff_layout (data : Bytes) (tx : Transaction)
    (short : data.length < 0x8000000000000000) :
    (Transaction.ofBytes data = .ok tx ↔
      ∃ front, front <+: data ∧ tx.Layout Spells front) ∧
    (Transaction.ofBytes data = .ok tx →
      ∃ front rest encoded, data = front ++ rest ∧
        execute Transaction.read (.ofBytes data) = (.ok tx, ⟨rest, front.length⟩) ∧
        tx.encode = .ok encoded ∧ Transaction.ofBytes encoded = .ok tx ∧
        tx.size ≤ front.length ∧ (tx.size = front.length ↔ tx.Layout Shortest front) ∧
        (tx.Layout Shortest front → encoded = front)) := by
  refine ⟨⟨?_, ?_⟩, ?_⟩
  · intro decoded
    obtain ⟨front, rest, rfl, laid, -⟩ := Transaction.exists_front decoded
    exact ⟨front, List.prefix_append front rest, laid⟩
  · rintro ⟨front, ⟨rest, rfl⟩, laid⟩
    rw [List.length_append] at short
    exact laid.ofBytes_append rest (show front.length < 0x8000000000000000 by omega)
  · intro decoded
    obtain ⟨front, rest, rfl, laid, run⟩ := Transaction.exists_front decoded
    -- The shortest layout of the same transaction is what the encoder writes.
    obtain ⟨encoded, encodedLaid, bound⟩ := laid.atLeast
    have encodedLength := encodedLaid.length_eq
    have encodedLe : encoded.length ≤ front.length := by
      rcases bound with rfl | longer
      · exact Nat.le_refl _
      · exact Nat.le_of_lt longer
    have encodedShort : encoded.length < lengthLimit := by
      rw [List.length_append] at short
      unfold lengthLimit
      omega
    have redecoded := (encodedLaid.mono fun _ _ => Shortest.spells).ofBytes_append []
      encodedShort
    rw [List.append_nil] at redecoded
    refine ⟨front, rest, encoded, rfl, run, encodedLaid.encode_eq, redecoded,
      encodedLength ▸ encodedLe, ⟨?_, ?_⟩, ?_⟩
    · intro equal
      rcases bound with rfl | longer
      · exact encodedLaid
      · omega
    · intro shortest
      exact shortest.length_eq.symm
    · intro shortest
      exact Except.ok.inj (encodedLaid.encode_eq.symm.trans shortest.encode_eq)

/-- Two counts and a script length are written wider than they need to be. -/
theorem ofBytes_iff_layout_wide_counts :
    let tx : Transaction := ⟨1, [], [⟨5, [0x51]⟩], 0, 0⟩
    let data : Bytes :=
      [1, 0, 0, 0, 0xFD, 0, 0, 0xFE, 1, 0, 0, 0, 5, 0, 0, 0, 0, 0, 0, 0, 0xFD, 1, 0, 0x51,
        0, 0, 0, 0, 0, 0, 0, 0, 0xAB]
    data.length < 0x8000000000000000 ∧ Transaction.ofBytes data = .ok tx ∧
      (∃ front, front <+: data ∧ tx.Layout Spells front) ∧
      ∃ front encoded, front <+: data ∧ front.length = 32 ∧ tx.encode = .ok encoded ∧
        Transaction.ofBytes encoded = .ok tx ∧ tx.size = 24 ∧ ¬ tx.Layout Shortest front := by
  intro tx data
  have short : data.length < 0x8000000000000000 := by decide
  have run : execute Transaction.read (.ofBytes data) = (.ok tx, ⟨[0xAB], 32⟩) := by
    decide +kernel
  have decoded : Transaction.ofBytes data = .ok tx := congrArg Prod.fst run
  obtain ⟨accepts, reencodes⟩ := ofBytes_iff_layout data tx short
  obtain ⟨front, rest, encoded, split, frontRun, encodes, redecodes, -, exact, -⟩ :=
    reencodes decoded
  have length : front.length = 32 :=
    congrArg (Stream.position ∘ Prod.snd) (frontRun.symm.trans run)
  have size : tx.size = 24 := by decide
  refine ⟨short, decoded, accepts.mp decoded, front, encoded, ⟨rest, split.symm⟩, length,
    encodes, redecodes, size, ?_⟩
  intro shortest
  have equal := exact.mpr shortest
  omega

end

end Remit.Wire
