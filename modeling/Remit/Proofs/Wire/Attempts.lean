import Remit.Proofs.Wire.Checked
import Remit.Proofs.Wire.Refusal

/-!
Reads one after another on one stream, each from where the last one ended, whether it failed or
not. Only two things can go wrong: a stream that ends too early, which no later read recovers from,
and the length of a script that no stream can hold.
-/

namespace Remit.Wire

structure Attempt where
  kind : ItemKind
  before : Stream
  outcome : Except ReadError Item
  after : Stream

def attempts (reader : ItemKind → Read Item) : List ItemKind → Stream → List Attempt
  | [], _ => []
  | kind :: rest, before =>
      let result := execute (reader kind) before
      ⟨kind, before, result.1, result.2⟩ :: attempts reader rest result.2

namespace Attempt

def Starved (a : Attempt) : Prop :=
  ∃ error : ReadError, error.EndOfStream ∧ a.outcome = .error error

/-- The bytes from where the attempt began go on to the length of a script, which is `n`. -/
def Meets (data : Bytes) (a : Attempt) (n : Nat) (front : Bytes) : Prop :=
  a.kind.Declares n front ∧ front <+: data.drop a.before.position

structure Classified (data : Bytes) (a : Attempt) : Prop where
  forward : a.before.position ≤ a.after.position
  inside : a.after.position ≤ data.length
  ends : (∃ item, a.outcome = .ok item) ∨ (a.Starved ∧ a.after.position = data.length) ∨
    ∃ n, a.outcome = .error (.oversized n)
  refused_iff : ∀ n, a.outcome = .error (.oversized n) ↔
    0x8000000000000000 ≤ n ∧ ∃ front, a.Meets data n front
  refused_after : ∀ n, a.outcome = .error (.oversized n) → ∃ front, a.Meets data n front ∧
    0xFF :: LittleEndian.ofNat 8 n <:+ front ∧
    a.after.position = a.before.position + front.length

structure Precedes (earlier later : Attempt) : Prop where
  forward : earlier.after.position ≤ later.before.position
  starves : earlier.Starved → later.Starved ∧ later.after = earlier.after

end Attempt

/-- What is left of the data is what comes after the position. -/
structure Stream.Within (data : Bytes) (stream : Stream) : Prop where
  position_le : stream.position ≤ data.length
  rest : stream.rest = data.drop stream.position

section

variable {data bytes : Bytes} {before after : Stream} {kind : ItemKind} {kinds : List ItemKind}
  {outcome : Except ReadError Item} {a : Attempt}

theorem Stream.Takes.within (takes : before.Takes bytes after) (within : before.Within data) :
    after.Within data := by
  have split : data.drop before.position = bytes ++ after.rest :=
    within.rest.symm.trans takes.rest
  have length := congrArg List.length split
  rw [List.length_drop, List.length_append] at length
  have le := within.position_le
  constructor
  · rw [takes.position]
    omega
  · rw [takes.position, ← List.drop_drop, split, List.drop_left]

theorem Ending.exists_takes {reader : Read Item} (ending : Ending reader before after outcome) :
    ∃ bytes, before.Takes bytes after := by
  cases ending with
  | read _ takes => exact ⟨_, takes⟩
  | starved _ takes => exact ⟨_, takes⟩
  | oversized _ takes => exact ⟨_, takes⟩

theorem Ending.rest_eq_nil {reader : Read Item} {error : ReadError}
    (ending : Ending reader before after (.error error)) (ended : error.EndOfStream) :
    after.rest = [] := by
  cases ending with
  | starved _ takes => exact (List.append_cancel_left ((List.append_nil _).trans takes.rest)).symm
  | oversized => cases ended

/-- Every item has a first byte. -/
theorem ItemKind.execute_read_nil (kind : ItemKind) (position : Nat) :
    ∃ error : ReadError, error.EndOfStream ∧
      execute kind.read ⟨[], position⟩ = (.error error, ⟨[], position⟩) := by
  cases kind with
  | count => exact ⟨.noCount, .noCount, rfl⟩
  | input => exact ⟨.short 32 0, .short (by decide), rfl⟩
  | output => exact ⟨.short 8 0, .short (by decide), rfl⟩
  | transaction => exact ⟨.short 4 0, .short (by decide), rfl⟩

theorem within_of_run (within : before.Within data)
    (run : execute kind.read before = (outcome, after)) : after.Within data := by
  obtain ⟨bytes, takes⟩ := (kind.settles _ _ _ run).exists_takes
  exact takes.within within

theorem classified_of_run (within : before.Within data)
    (run : execute kind.read before = (outcome, after)) :
    Attempt.Classified data ⟨kind, before, outcome, after⟩ where
  forward := by
    obtain ⟨bytes, takes⟩ := (kind.settles _ _ _ run).exists_takes
    exact takes.position ▸ Nat.le_add_right _ _
  inside := (within_of_run within run).position_le
  ends := by
    cases ending : kind.settles _ _ _ run with
    | read => exact .inl ⟨_, rfl⟩
    | starved ended =>
        have last := within_of_run within run
        have none : data.drop after.position = [] :=
          last.rest.symm.trans ((kind.settles _ _ _ run).rest_eq_nil ended)
        refine .inr (.inl ⟨⟨_, ended, rfl⟩, ?_⟩)
        exact Nat.le_antisymm last.position_le (List.drop_eq_nil_iff.mp none)
    | oversized => exact .inr (.inr ⟨_, rfl⟩)
  refused_iff n := by
    have refused := kind.refused_iff n before
    rw [run, within.rest] at refused
    exact refused
  refused_after n refused := by
    obtain rfl : outcome = .error (.oversized n) := refused
    obtain ⟨front, ⟨declared, large⟩, takes⟩ := kind.refuses _ _ _ run
    exact ⟨front, ⟨declared, within.rest ▸ ⟨_, takes.rest.symm⟩⟩, declared.wide large,
      takes.position⟩

theorem attempts_classified (within : before.Within data) :
    ∀ a ∈ attempts ItemKind.read kinds before, a.Classified data := by
  induction kinds generalizing before with
  | nil => simp [attempts]
  | cons kind rest induction =>
      rw [attempts, List.forall_mem_cons]
      exact ⟨classified_of_run within rfl, induction (within_of_run within rfl)⟩

theorem position_le_of_mem (member : a ∈ attempts ItemKind.read kinds before) :
    before.position ≤ a.before.position := by
  induction kinds generalizing before with
  | nil => cases member
  | cons kind rest induction =>
      rcases List.mem_cons.mp member with rfl | later
      · exact Nat.le_refl _
      · obtain ⟨bytes, takes⟩ := (kind.settles before _ _ rfl).exists_takes
        exact Nat.le_trans (takes.position ▸ Nat.le_add_right _ _) (induction later)

theorem starved_of_mem (ended : before.rest = [])
    (member : a ∈ attempts ItemKind.read kinds before) : a.Starved ∧ a.after = before := by
  obtain ⟨rest, position⟩ := before
  obtain rfl : rest = [] := ended
  induction kinds with
  | nil => cases member
  | cons kind rest induction =>
      obtain ⟨error, short, run⟩ := kind.execute_read_nil position
      rw [attempts, run] at member
      rcases List.mem_cons.mp member with rfl | later
      · exact ⟨⟨error, short, rfl⟩, rfl⟩
      · exact induction later

theorem pairwise_precedes (kinds : List ItemKind) (before : Stream) :
    (attempts ItemKind.read kinds before).Pairwise Attempt.Precedes := by
  induction kinds generalizing before with
  | nil => exact .nil
  | cons kind rest induction =>
      refine .cons (fun later member => ⟨position_le_of_mem member, ?_⟩) (induction _)
      rintro ⟨error, short, failed⟩
      have run : execute kind.read before = (.error error, (execute kind.read before).2) :=
        Prod.ext failed rfl
      exact starved_of_mem ((kind.settles _ _ _ run).rest_eq_nil short) member

theorem map_kind_attempts (reader : ItemKind → Read Item) (kinds : List ItemKind)
    (before : Stream) : (attempts reader kinds before).map Attempt.kind = kinds := by
  induction kinds generalizing before with
  | nil => rfl
  | cons kind rest induction => exact congrArg (kind :: ·) (induction _)

end

/-- Reads on one stream go forward and stay inside it, and fail in two ways only, whatever the
checks raise. One leaves nothing for later reads. The other is the length of a script that no
stream can hold, and leaves what comes after that length. -/
theorem failures_classified (data : Bytes) (kinds : List ItemKind) (alarms : Alarms) :
    let run := attempts (ItemKind.readChecked alarms) kinds (.ofBytes data)
    run = attempts ItemKind.read kinds (.ofBytes data) ∧ run.map Attempt.kind = kinds ∧
      (∀ a ∈ run, a.Classified data) ∧ run.Pairwise Attempt.Precedes := by
  rw [ItemKind.readChecked_eq]
  exact ⟨rfl, map_kind_attempts _ kinds _, attempts_classified ⟨Nat.zero_le _, rfl⟩,
    pairwise_precedes kinds _⟩

/-- The length in the input is refused and passed over, and the transaction uses the stream up. -/
theorem failures_classified_past_length :
    let data : Bytes :=
      List.replicate 36 7 ++ [0xFF, 0, 0, 0, 0, 0, 0, 0, 0x80, 5, 1, 0]
    let run := attempts ItemKind.read [.input, .count, .transaction, .count] (.ofBytes data)
    run.map (fun a => (a.outcome.toOption.isSome, a.after.position)) =
        [(false, 45), (true, 46), (false, 48), (false, 48)] ∧
      (∀ a ∈ run, a.Classified data) ∧ run.Pairwise Attempt.Precedes := by
  intro data run
  have ends : run.map (fun a => (a.outcome.toOption.isSome, a.after.position)) =
      [(false, 45), (true, 46), (false, 48), (false, 48)] := by
    decide +kernel
  obtain ⟨plain, -, classified⟩ := failures_classified data
    [.input, .count, .transaction, .count] ⟨.noCount, fun _ => .noCount⟩
  rw [plain] at classified
  exact ⟨ends, classified⟩

end Remit.Wire
