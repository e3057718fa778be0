import Remit.Proofs.Wire.Ending

/-!
Which lengths are refused, and where. The length of a script that no stream can hold is refused as
soon as it is read, and no other length ever is.
-/

namespace Remit.Wire

open CompactSize (Spells)

/-- A layout of an item whose script a stream can hold. -/
structure Held (layout : Bytes → Prop) (script : Script) (bytes : Bytes) : Prop where
  laid : layout bytes
  short : script.length < lengthLimit

abbrev TxInput.Held (i : TxInput) : Bytes → Prop :=
  Wire.Held (i.Layout Spells) i.script

abbrev TxOutput.Held (o : TxOutput) : Bytes → Prop :=
  Wire.Held (o.Layout Spells) o.script

section

variable (n : Nat)

/-- The bytes of an input up to and with the length of its script. -/
inductive TxInput.Declares : Bytes → Prop
  | script {outPoint : OutPoint} {form : Bytes} (spelled : Spells n form) :
      Declares (outPoint.bytes ++ form)

inductive TxOutput.Declares : Bytes → Prop
  | script {value : Int} {form : Bytes} (fits : LittleEndian.FitsSigned 8 value)
      (spelled : Spells n form) : Declares (LittleEndian.ofInt 8 value ++ form)

/-- Fewer items than were counted, and the bytes of one more up to the length of its script. -/
inductive ListDeclares {α : Type} (item : α → Bytes → Prop) (declares : Bytes → Prop) :
    Bytes → Prop
  | inside {count : Nat} {length front : Bytes} {values : List α} {parts : List Bytes}
      (spelled : Spells count length) (each : List.Forall₂ item values parts)
      (more : values.length < count) (declared : declares front) :
      ListDeclares item declares (length ++ (parts.flatten ++ front))

inductive Transaction.Declares : Bytes → Prop
  | input {version : Int} {inputs : Bytes} (fits : LittleEndian.FitsSigned 4 version)
      (declared : ListDeclares TxInput.Held (TxInput.Declares n) inputs) :
      Declares (LittleEndian.ofInt 4 version ++ inputs)
  | output {version : Int} {values : List TxInput} {inputs outputs : Bytes}
      (fits : LittleEndian.FitsSigned 4 version)
      (laid : ListLayout Spells TxInput.Held values inputs)
      (declared : ListDeclares TxOutput.Held (TxOutput.Declares n) outputs) :
      Declares (LittleEndian.ofInt 4 version ++ (inputs ++ outputs))

def ItemKind.Declares : ItemKind → Bytes → Prop
  | count => fun _ => False
  | input => TxInput.Declares n
  | output => TxOutput.Declares n
  | transaction => Transaction.Declares n

end

section

variable {α β : Type} {reader item : Read α} {next : α → Read β} {layout : α → Bytes → Prop}
  {declares : Nat → Bytes → Prop} {values : List α} {parts : List Bytes} {front bytes : Bytes}
  {n count : Nat}

theorem Overflows.many (each : List.Forall₂ (fun value part => Reads item part value) values parts)
    (overflows : Overflows item front n) (more : values.length < count) :
    Overflows (readMany item count) (parts.flatten ++ front) n := by
  induction each generalizing count with
  | nil =>
      obtain ⟨count, rfl⟩ := Nat.exists_eq_succ_of_ne_zero (Nat.ne_of_gt more)
      exact overflows.bind _
  | cons first _ induction =>
      obtain ⟨count, rfl⟩ := Nat.exists_eq_succ_of_ne_zero (Nat.ne_of_gt (Nat.zero_lt_of_lt more))
      rw [List.flatten_cons, List.append_assoc]
      exact first.overflows ((induction (Nat.lt_of_succ_lt_succ more)).bind _)

theorem ListDeclares.overflows {declares : Bytes → Prop}
    (declared : ListDeclares layout declares bytes)
    (reads : ∀ value part, layout value part → Reads item part value)
    (overflows : ∀ front, declares front → Overflows item front n) :
    Overflows (readCount >>= readMany item) bytes n := by
  obtain ⟨spelled, each, more, declared⟩ := declared
  exact spelled.reads.overflows (.many (each.imp reads) (overflows _ declared) more)

theorem CompactSize.Spells.overflows (spelled : Spells n bytes) (large : lengthLimit ≤ n) :
    Overflows readCounted bytes n := by
  have overflows := spelled.reads.overflows (overflows_bytes large)
  rwa [List.append_nil] at overflows

theorem TxInput.Declares.overflows (declared : TxInput.Declares n bytes)
    (large : lengthLimit ≤ n) : Overflows TxInput.read bytes n := by
  obtain ⟨spelled⟩ := declared
  exact (OutPoint.reads _).overflows ((spelled.overflows large).bind _)

theorem TxOutput.Declares.overflows (declared : TxOutput.Declares n bytes)
    (large : lengthLimit ≤ n) : Overflows TxOutput.read bytes n := by
  obtain ⟨fits, spelled⟩ := declared
  exact (reads_signed (by decide) fits).overflows ((spelled.overflows large).bind _)

theorem TxInput.Held.reads {i : TxInput} (held : i.Held bytes) : Reads TxInput.read bytes i :=
  held.laid.reads held.short

theorem TxOutput.Held.reads {o : TxOutput} (held : o.Held bytes) : Reads TxOutput.read bytes o :=
  held.laid.reads held.short

theorem Transaction.Declares.overflows (declared : Transaction.Declares n bytes)
    (large : lengthLimit ≤ n) : Overflows Transaction.read bytes n := by
  rw [Transaction.read_eq]
  cases declared with
  | input fits declared =>
      have inputs := declared.overflows (fun _ _ => TxInput.Held.reads)
        fun _ declared => declared.overflows large
      exact (reads_signed (by decide) fits).overflows (inputs.bind _)
  | output fits laid declared =>
      have outputs := declared.overflows (fun _ _ => TxOutput.Held.reads)
        fun _ declared => declared.overflows large
      exact (reads_signed (by decide) fits).overflows
        ((laid.reads fun _ _ _ held => held.reads).overflows (outputs.bind _))

/-- A length is only refused at the end of bytes that declare it. -/
def Refuses (reader : Read α) (declares : Nat → Bytes → Prop) : Prop :=
  ∀ before wanted after, execute reader before = (.error (.oversized wanted), after) →
    ∃ front, declares wanted front ∧ before.Takes front after

namespace Refuses

theorem mono {wider : Nat → Bytes → Prop} (refuses : Refuses reader declares)
    (widen : ∀ n bytes, declares n bytes → wider n bytes) : Refuses reader wider := by
  intro before wanted after run
  obtain ⟨front, declared, takes⟩ := refuses before wanted after run
  exact ⟨front, widen _ _ declared, takes⟩

theorem pure (value : α) (declares : Nat → Bytes → Prop) :
    Refuses (Pure.pure value) declares := by
  intro before wanted after run
  cases run

theorem bind {follow : α → Nat → Bytes → Prop} (refuses : Refuses reader declares)
    (recognises : Recognises reader layout)
    (nextRefuses : ∀ value, Refuses (next value) (follow value)) :
    Refuses (reader >>= next) fun n bytes => declares n bytes ∨
      ∃ value front back, layout value front ∧ follow value n back ∧ bytes = front ++ back := by
  intro before wanted after run
  obtain failed | ⟨value, middle, firstRun, nextRun⟩ := execute_bind_eq_error run
  · obtain ⟨front, declared, takes⟩ := refuses before wanted after failed
    exact ⟨front, .inl declared, takes⟩
  · obtain ⟨front, laid, rest, position⟩ := recognises before value middle firstRun
    obtain ⟨back, declared, takes⟩ := nextRefuses value middle wanted after nextRun
    exact ⟨front ++ back, .inr ⟨value, front, back, laid, declared, rfl⟩,
      Stream.Takes.trans ⟨rest, position⟩ takes⟩

theorem bind_never (refuses : Refuses reader declares)
    (never : ∀ value, Refuses (next value) fun _ _ => False) :
    Refuses (reader >>= next) declares := by
  intro before wanted after run
  obtain failed | ⟨value, middle, -, nextRun⟩ := execute_bind_eq_error run
  · exact refuses before wanted after failed
  · obtain ⟨_, impossible, -⟩ := never value middle wanted after nextRun
    exact impossible.elim

theorem never_bind {follow : α → Nat → Bytes → Prop} (never : Refuses reader fun _ _ => False)
    (recognises : Recognises reader layout)
    (nextRefuses : ∀ value, Refuses (next value) (follow value)) :
    Refuses (reader >>= next) fun n bytes =>
      ∃ value front back, layout value front ∧ follow value n back ∧ bytes = front ++ back := by
  refine (never.bind recognises nextRefuses).mono ?_
  rintro n bytes (impossible | declared)
  · exact impossible.elim
  · exact declared

theorem map (refuses : Refuses reader declares) (change : α → β) :
    Refuses (change <$> reader) declares := by
  rw [map_eq_pure_bind]
  exact refuses.bind_never fun _ => pure _ _

theorem many (refuses : Refuses reader declares) (recognises : Recognises reader layout)
    (count : Nat) :
    Refuses (readMany reader count) fun n bytes => ∃ values parts front,
      List.Forall₂ layout values parts ∧ values.length < count ∧ declares n front ∧
        bytes = parts.flatten ++ front := by
  induction count with
  | zero => exact pure [] _
  | succ count induction =>
      refine (refuses.bind recognises fun _ => induction.bind_never fun _ => pure _ _).mono ?_
      rintro n bytes (declared | ⟨value, part, _, laid, ⟨values, parts, front, each, more,
        declared, rfl⟩, rfl⟩)
      · exact ⟨[], [], bytes, .nil, Nat.succ_pos count, declared, rfl⟩
      · refine ⟨value :: values, part :: parts, front, .cons laid each, Nat.succ_lt_succ more,
          declared, ?_⟩
        rw [List.flatten_cons, List.append_assoc]

end Refuses

/-- A reader that refuses a length in every layout of a value never takes that value. -/
theorem Recognises.restrict (recognises : Recognises reader layout) (keeps : α → Prop)
    (refused : ∀ value bytes, layout value bytes → ¬ keeps value →
      ∃ front n, front <+: bytes ∧ Overflows reader front n) :
    Recognises reader fun value bytes => layout value bytes ∧ keeps value := by
  rintro ⟨rest, position⟩ value after run
  obtain ⟨bytes, laid, rfl, moved⟩ := recognises _ value after run
  refine ⟨bytes, ⟨laid, ?_⟩, rfl, moved⟩
  by_contra excluded
  obtain ⟨front, n, ⟨back, rfl⟩, overflows⟩ := refused value bytes laid excluded
  rw [List.append_assoc, overflows] at run
  cases run

end

theorem TxInput.recognises_held : Recognises TxInput.read TxInput.Held := by
  refine (TxInput.recognises.restrict (fun i => i.script.length < lengthLimit) ?_).mono
    fun _ _ held => ⟨held.1, held.2⟩
  rintro i _ ⟨spelled, sequence⟩ large
  have declared : TxInput.Declares i.script.length (i.outPoint.bytes ++ _) := .script spelled
  refine ⟨_, _, ?_, declared.overflows (Nat.not_lt.mp large)⟩
  simp only [List.append_assoc, List.prefix_append_right_inj, List.prefix_append]

theorem TxOutput.recognises_held : Recognises TxOutput.read TxOutput.Held := by
  refine (TxOutput.recognises.restrict (fun o => o.script.length < lengthLimit) ?_).mono
    fun _ _ held => ⟨held.1, held.2⟩
  rintro o _ ⟨fits, spelled⟩ large
  have declared : TxOutput.Declares o.script.length _ := .script fits spelled
  refine ⟨_, _, ?_, declared.overflows (Nat.not_lt.mp large)⟩
  simp only [List.prefix_append_right_inj, List.prefix_append]

theorem refuses_bytes (wanted : Nat) :
    Refuses (readBytes wanted) fun n bytes => n = wanted ∧ lengthLimit ≤ n ∧ bytes = [] := by
  intro before n after run
  rw [execute_readBytes] at run
  split at run
  case isTrue large =>
    cases run
    exact ⟨[], ⟨rfl, large, rfl⟩, rfl, rfl⟩
  case isFalse small =>
    dsimp only at run
    split at run <;> cases run

theorem refuses_width {width : Nat} (short : width < lengthLimit) :
    Refuses (readBytes width) fun _ _ => False := by
  refine (refuses_bytes width).mono ?_
  rintro _ _ ⟨rfl, large, -⟩
  exact Nat.not_le.mpr short large

theorem refuses_unsigned {width : Nat} (short : width < lengthLimit) :
    Refuses (readUnsigned width) fun _ _ => False :=
  (refuses_width short).map LittleEndian.toNat

theorem refuses_signed {width : Nat} (short : width < lengthLimit) :
    Refuses (readSigned width) fun _ _ => False :=
  (refuses_width short).map LittleEndian.toInt

theorem refuses_count : Refuses readCount fun _ _ => False := by
  rintro ⟨rest, position⟩ n after run
  cases rest with
  | nil => cases run
  | cons marker rest =>
      have marked : Refuses (markedCount marker) fun _ _ => False := by
        unfold markedCount
        split
        · exact .pure _ _
        · split
          · exact refuses_unsigned (by decide)
          · split
            · exact refuses_unsigned (by decide)
            · exact refuses_unsigned (by decide)
      obtain ⟨_, impossible, -⟩ := marked _ n after run
      exact impossible.elim

theorem refuses_counted :
    Refuses readCounted fun n bytes => Spells n bytes ∧ lengthLimit ≤ n := by
  refine (refuses_count.never_bind recognises_count refuses_bytes).mono ?_
  rintro n _ ⟨_, form, _, spelled, ⟨rfl, large, rfl⟩, rfl⟩
  rw [List.append_nil]
  exact ⟨spelled, large⟩

theorem refuses_digest : Refuses readDigest fun _ _ => False := by
  refine (refuses_width (by decide)).bind_never fun bytes => ?_
  cases Digest.ofBytes? bytes with
  | some digest => exact .pure _ _
  | none =>
      intro before wanted after run
      cases run

theorem OutPoint.refuses : Refuses OutPoint.read fun _ _ => False :=
  refuses_digest.bind_never fun _ => (refuses_unsigned (by decide)).bind_never fun _ =>
    .pure _ _

theorem TxInput.refuses :
    Refuses TxInput.read fun n bytes => TxInput.Declares n bytes ∧ lengthLimit ≤ n := by
  unfold TxInput.read
  refine (OutPoint.refuses.never_bind OutPoint.recognises fun _ => refuses_counted.bind_never
    fun _ => (refuses_unsigned (by decide)).bind_never fun _ => .pure _ _).mono ?_
  rintro n _ ⟨outPoint, _, form, rfl, ⟨spelled, large⟩, rfl⟩
  exact ⟨.script spelled, large⟩

theorem TxOutput.refuses :
    Refuses TxOutput.read fun n bytes => TxOutput.Declares n bytes ∧ lengthLimit ≤ n := by
  unfold TxOutput.read
  refine ((refuses_signed (by decide)).never_bind (recognises_signed 8) fun _ =>
    refuses_counted.bind_never fun _ => .pure _ _).mono ?_
  rintro n _ ⟨value, _, form, ⟨fits, rfl⟩, ⟨spelled, large⟩, rfl⟩
  exact ⟨.script fits spelled, large⟩

theorem refuses_list {α : Type} {reader : Read α} {layout : α → Bytes → Prop}
    {declares : Nat → Bytes → Prop} (recognises : Recognises reader layout)
    (refuses : Refuses reader fun n bytes => declares n bytes ∧ lengthLimit ≤ n) :
    Refuses (readCount >>= readMany reader) fun n bytes =>
      ListDeclares layout (declares n) bytes ∧ lengthLimit ≤ n := by
  refine (refuses_count.never_bind recognises_count fun count =>
    refuses.many recognises count).mono ?_
  rintro n _ ⟨count, length, _, spelled, ⟨values, parts, front, each, more, ⟨declared, large⟩,
    rfl⟩, rfl⟩
  exact ⟨.inside spelled each more declared, large⟩

theorem Transaction.refuses :
    Refuses Transaction.read fun n bytes => Transaction.Declares n bytes ∧ lengthLimit ≤ n := by
  rw [Transaction.read_eq]
  refine ((refuses_signed (by decide)).never_bind (recognises_signed 4) fun _ =>
    (refuses_list TxInput.recognises_held TxInput.refuses).bind
      (recognises_list TxInput.recognises_held) fun _ =>
    (refuses_list TxOutput.recognises_held TxOutput.refuses).bind_never fun _ =>
    (refuses_unsigned (by decide)).bind_never fun _ =>
    (refuses_unsigned (by decide)).bind_never fun _ => .pure _ _).mono ?_
  rintro n _ ⟨version, _, _, ⟨fits, rfl⟩, declared, rfl⟩
  rcases declared with ⟨declared, large⟩ | ⟨inputs, front, back, laid, ⟨declared, large⟩, rfl⟩
  · exact ⟨.input fits declared, large⟩
  · exact ⟨.output fits laid declared, large⟩

namespace ItemKind

theorem refuses (kind : ItemKind) :
    Refuses kind.read fun n bytes => kind.Declares n bytes ∧ lengthLimit ≤ n := by
  cases kind with
  | count => exact (refuses_count.map _).mono fun _ _ => False.elim
  | input => exact TxInput.refuses.map _
  | output => exact TxOutput.refuses.map _
  | transaction => exact Transaction.refuses.map _

theorem settles (kind : ItemKind) : Settles kind.read := by
  cases kind with
  | count => exact settles_count.map _
  | input => exact TxInput.settles.map _
  | output => exact TxOutput.settles.map _
  | transaction => exact Transaction.settles.map _

theorem Declares.overflows {kind : ItemKind} {n : Nat} {bytes : Bytes}
    (declared : kind.Declares n bytes) (large : lengthLimit ≤ n) :
    Overflows kind.read bytes n := by
  cases kind with
  | count => exact False.elim declared
  | input => exact Overflows.map (TxInput.Declares.overflows declared large) _
  | output => exact Overflows.map (TxOutput.Declares.overflows declared large) _
  | transaction => exact Overflows.map (Transaction.Declares.overflows declared large) _

/-- A length is refused exactly where it is declared and no stream can hold it. -/
theorem refused_iff (kind : ItemKind) (n : Nat) (stream : Stream) :
    (execute kind.read stream).1 = .error (.oversized n) ↔
      lengthLimit ≤ n ∧ ∃ front, kind.Declares n front ∧ front <+: stream.rest := by
  constructor
  · intro outcome
    obtain ⟨front, ⟨declared, large⟩, takes⟩ :=
      kind.refuses stream n _ (Prod.ext outcome rfl)
    exact ⟨large, front, declared, ⟨_, takes.rest.symm⟩⟩
  · rintro ⟨large, front, declared, back, split⟩
    obtain ⟨rest, position⟩ := stream
    obtain rfl : front ++ back = rest := split
    rw [Declares.overflows declared large]

end ItemKind

/-- A length that no stream can hold takes nine bytes. -/
theorem CompactSize.Spells.wide {n : Nat} {form : Bytes} (spelled : Spells n form)
    (large : lengthLimit ≤ n) : form = 0xFF :: LittleEndian.ofNat 8 n := by
  unfold lengthLimit at large
  cases spelled with
  | eight => rfl
  | _ => omega

section

variable {n : Nat} {bytes : Bytes}

theorem ListDeclares.exists_suffix {α : Type} {item : α → Bytes → Prop} {declares : Bytes → Prop}
    (declared : ListDeclares item declares bytes) : ∃ front, declares front ∧ front <:+ bytes := by
  obtain ⟨-, -, -, declared⟩ := declared
  exact ⟨_, declared, (List.suffix_append _ _).trans (List.suffix_append _ _)⟩

theorem TxInput.Declares.wide (declared : TxInput.Declares n bytes) (large : lengthLimit ≤ n) :
    0xFF :: LittleEndian.ofNat 8 n <:+ bytes := by
  obtain ⟨spelled⟩ := declared
  rw [spelled.wide large]
  exact List.suffix_append _ _

theorem TxOutput.Declares.wide (declared : TxOutput.Declares n bytes) (large : lengthLimit ≤ n) :
    0xFF :: LittleEndian.ofNat 8 n <:+ bytes := by
  obtain ⟨-, spelled⟩ := declared
  rw [spelled.wide large]
  exact List.suffix_append _ _

theorem Transaction.Declares.wide (declared : Transaction.Declares n bytes)
    (large : lengthLimit ≤ n) : 0xFF :: LittleEndian.ofNat 8 n <:+ bytes := by
  cases declared with
  | input _ declared =>
      obtain ⟨front, declared, last⟩ := declared.exists_suffix
      exact (declared.wide large).trans (last.trans (List.suffix_append _ _))
  | output _ _ declared =>
      obtain ⟨front, declared, last⟩ := declared.exists_suffix
      exact (declared.wide large).trans (last.trans
        ((List.suffix_append _ _).trans (List.suffix_append _ _)))

theorem ItemKind.Declares.wide {kind : ItemKind} (declared : kind.Declares n bytes)
    (large : lengthLimit ≤ n) : 0xFF :: LittleEndian.ofNat 8 n <:+ bytes := by
  cases kind with
  | count => exact False.elim declared
  | input => exact TxInput.Declares.wide declared large
  | output => exact TxOutput.Declares.wide declared large
  | transaction => exact Transaction.Declares.wide declared large

end

end Remit.Wire
