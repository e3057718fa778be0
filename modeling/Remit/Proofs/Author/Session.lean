import Remit.Proofs.Author.CursorOutcome
import Remit.Proofs.Author.Service
import Remit.Proofs.Funding.History

/-!
Sessions of authoring calls on one cursor. A call takes the cursor as far as its payment asks for,
whether it succeeds or not, so the cursor at the end and the answers to later calls depend on the
earlier ones through the largest payment only.
-/

namespace Remit.Author

open Funding (Change Coin Cursor largest worth worth_mono)
open Wire (TxOutput)

inductive Request where
  | direct (payment : TxOutput) (rate : Int) (change : Change) (operation : String)
  | service (settings : Settings) (payment : TxOutput) (rate : Option Int) (change : Change)

namespace Request

def payment : Request → TxOutput
  | direct payment _ _ _ => payment
  | service _ payment _ _ => payment

def rate : Request → Int
  | direct _ rate _ _ => rate
  | service settings _ rate _ => Service.rate { settings } rate

def change : Request → Change
  | direct _ _ change _ => change
  | service _ _ _ change => change

def operation : Request → String
  | direct _ _ _ operation => operation
  | service _ _ _ _ => serviceOperation

def run : Request → AuthorM Cursor Draft
  | direct payment rate change operation =>
      minusFee payment rate .ofCursor (.ofChange change) operation
  | service settings payment rate change =>
      Service.authorMinusFee { settings } payment .ofCursor (.ofChange change) rate

end Request

structure Turn where
  request : Request
  outcome : Except Failure Draft

def session : List Request → Activity Cursor → List Turn × Activity Cursor
  | [], activity => ([], activity)
  | request :: rest, activity =>
      let turn := execute request.run activity
      let later := session rest turn.2
      (⟨request, turn.1⟩ :: later.1, later.2)

structure Follows (earlier later : Turn) : Prop where
  grows : ∀ draft laterDraft, earlier.outcome = .ok draft → later.outcome = .ok laterDraft →
    draft.transaction.inputs.map (·.outPoint) <+:
      laterDraft.transaction.inputs.map (·.outPoint) ∧
    draft.totalInput ≤ laterDraft.totalInput
  staysShort : ∀ operation amount target notes,
    earlier.outcome = .error ⟨.insufficient .gathered operation amount target, notes⟩ →
    earlier.request.payment.value ≤ later.request.payment.value →
    later.outcome = .error ⟨.insufficient .gathered later.request.operation amount
      later.request.payment.value, []⟩
  reported : ∀ operation amount target notes,
    earlier.outcome = .error ⟨.insufficient .gathered operation amount target, notes⟩ →
    later.request.payment.value = amount →
    (∀ operation amount target notes,
      later.outcome ≠ .error ⟨.insufficient .gathered operation amount target, notes⟩) ∧
    ∀ draft, later.outcome = .ok draft → draft.changeIndex = -1 ∧ draft.change = .ok none ∧
      draft.transaction.outputs.length = 1

section

variable {request laterRequest : Request} {before later : Activity Cursor} {draft : Draft}

theorem Request.execute_run (request : Request) (before : Activity Cursor) :
    let call := execute (minusFee request.payment request.rate .ofCursor (.ofChange request.change)
      request.operation) before
    ∃ records, execute request.run before = (call.1, call.2.logged records) := by
  cases request with
  | direct payment rate change operation =>
      refine ⟨[], ?_⟩
      rw [Activity.logged, List.append_nil]
      rfl
  | service settings payment rate change => exact execute_authorMinusFee _ _ _ _ _ _

theorem Request.outcome_run (request : Request) (before : Activity Cursor) :
    (execute request.run before).1 =
      (execute (minusFee request.payment request.rate .ofCursor (.ofChange request.change)
        request.operation) before).1 := by
  obtain ⟨records, run⟩ := request.execute_run before
  rw [run]

theorem Request.source_run (request : Request) (before : Activity Cursor) :
    (execute request.run before).2.source =
      before.source.advance request.payment.value := by
  obtain ⟨records, run⟩ := request.execute_run before
  obtain ⟨calls, outcome, concludes⟩ := exists_concludes request.payment request.rate .ofCursor
    (.ofChange request.change) request.operation policySize policyFee before.source
  obtain ⟨after, ran, -, source⟩ := concludes.run
  rw [run, ran]
  change after.source = _
  rw [source]
  split
  case isTrue negative => exact (Cursor.advance_of_le_total (by omega)).symm
  case isFalse => rfl

theorem Request.of_ok (success : (execute request.run before).1 = .ok draft) :
    let reached := before.source.advance request.payment.value
    draft.transaction.inputs.map (·.outPoint) = reached.consumed.map (·.outPoint) ∧
      draft.totalInput = reached.total ∧ request.payment.value ≤ reached.total ∧
      ∃ paid size, draft =
        assemble reached.funds paid (returned request.payment reached request.change) size := by
  rw [request.outcome_run] at success
  obtain ⟨-, -, enough, -, rfl⟩ := minusFee_cursor_ok success
  refine ⟨?_, rfl, enough, _, _, rfl⟩
  rw [inputs_assemble, unsigned, List.map_map]
  exact Funding.outPoints_funds _

/-- A call whose funds fall short has used up a pool that is worth less than its payment. -/
theorem Request.of_gathered {operation : String} {amount target : Int} {notes : List String}
    (failed : (execute request.run before).1 =
      .error ⟨.insufficient .gathered operation amount target, notes⟩) :
    (worth before.source.pool : Int) < request.payment.value ∧
      amount = worth before.source.pool := by
  rw [request.outcome_run] at failed
  obtain ⟨-, ⟨⟩⟩ | ⟨short, ⟨⟩⟩ | ⟨-, ⟨⟩⟩ | ⟨-, -, ⟨⟩⟩ := minusFee_cursor_error failed
  exact ⟨short, rfl⟩

theorem Request.run_short (nonnegative : 0 ≤ request.payment.value)
    (short : (worth before.source.pool : Int) < request.payment.value) :
    (execute request.run before).1 = .error ⟨.insufficient .gathered request.operation
      (worth before.source.pool) request.payment.value, []⟩ := by
  rw [request.outcome_run, execute_minusFee_poolShort nonnegative short]
  rfl

theorem Request.follows {target : Int}
    (ahead : later.source = (before.source.advance request.payment.value).advance target) :
    Follows ⟨request, (execute request.run before).1⟩
      ⟨laterRequest, (execute laterRequest.run later).1⟩ := by
  have pooled : later.source.pool = before.source.pool := by
    rw [ahead, Cursor.pool_advance, Cursor.pool_advance]
  refine { grows := ?grows, staysShort := ?staysShort, reported := ?reported }
  case grows =>
    intro draft laterDraft success laterSuccess
    obtain ⟨outPoints, total, -⟩ := Request.of_ok success
    obtain ⟨laterOutPoints, laterTotal, -⟩ := Request.of_ok laterSuccess
    have front : (before.source.advance request.payment.value).consumed <+:
        (later.source.advance laterRequest.payment.value).consumed := by
      refine List.IsPrefix.trans ?_ (Cursor.consumed_prefix_advance _ _)
      rw [ahead]
      exact Cursor.consumed_prefix_advance _ _
    rw [outPoints, laterOutPoints, total, laterTotal]
    refine ⟨front.map _, Int.ofNat_le.mpr ?_⟩
    rw [← Cursor.worth_consumed, ← Cursor.worth_consumed]
    exact worth_mono front
  case staysShort =>
    intro operation amount target notes failed le
    obtain ⟨short, rfl⟩ := Request.of_gathered failed
    have laterShort : (worth later.source.pool : Int) < laterRequest.payment.value := by
      rw [pooled]
      exact Int.lt_of_lt_of_le short le
    have nonnegative : 0 ≤ laterRequest.payment.value := by omega
    rw [Request.run_short nonnegative laterShort, pooled]
  case reported =>
    intro operation amount target notes failed equal
    obtain ⟨-, rfl⟩ := Request.of_gathered failed
    rw [← pooled] at equal
    constructor
    · intro operation amount target notes laterFailed
      obtain ⟨short, -⟩ := Request.of_gathered laterFailed
      exact Int.lt_irrefl _ (equal ▸ short)
    · intro draft laterSuccess
      obtain ⟨-, -, enough, paid, size, rfl⟩ := Request.of_ok laterSuccess
      -- The payment is worth as much as the pool, so it takes every coin and leaves no surplus.
      let reached := later.source.advance laterRequest.payment.value
      have pool : reached.total ≤ worth later.source.pool :=
        later.source.total_advance_le_worth_pool _
      have spent : (reached.total : Int) = laterRequest.payment.value :=
        Int.le_antisymm (equal ▸ Int.ofNat_le.mpr pool) enough
      rw [returned, if_pos spent]
      exact ⟨rfl, rfl, rfl⟩

/-- A turn of a session began where the largest payment before it had taken the cursor. -/
theorem exists_start {requests : List Request} {turn : Turn}
    (member : turn ∈ (session requests before).1) :
    ∃ target activity, activity.source = before.source.advance target ∧
      turn = ⟨turn.request, (execute turn.request.run activity).1⟩ := by
  -- The first call moves the cursor, so the induction is over all starts at once.
  induction requests generalizing before with
  | nil => cases member
  | cons request rest induction =>
      rcases List.mem_cons.mp member with rfl | later
      · exact ⟨0, before, (Cursor.advance_of_le_total (Int.natCast_nonneg _)).symm, rfl⟩
      · obtain ⟨target, activity, ahead, run⟩ := induction later
        rw [request.source_run, Cursor.advance_advance] at ahead
        exact ⟨_, activity, ahead, run⟩

theorem pairwise_follows (requests : List Request) (before : Activity Cursor) :
    (session requests before).1.Pairwise Follows := by
  induction requests generalizing before with
  | nil => exact .nil
  | cons request rest induction =>
      refine .cons ?_ (induction _)
      intro turn member
      obtain ⟨target, activity, ahead, run⟩ := exists_start member
      rw [request.source_run] at ahead
      rw [run]
      exact Request.follows ahead

theorem source_session (requests : List Request) (before : Activity Cursor) :
    (session requests before).2.source =
      before.source.asked (requests.map fun request => request.payment.value) := by
  induction requests generalizing before with
  | nil => rfl
  | cons request rest induction =>
      change (session rest _).2.source = _
      rw [induction, request.source_run]
      rfl

end

/-- The cursor ends where the largest payment takes it, and of any two calls the later one answers
for all that the earlier one has found. -/
theorem session_on_one_cursor (requests : List Request) (before : Activity Cursor) :
    let ran := session requests before
    let payments := requests.map fun request => request.payment.value
    ran.2.source = before.source.advance (largest (payments.filter (0 ≤ ·))) ∧
      ran.1.Pairwise Follows := by
  intro ran payments
  refine ⟨?_, pairwise_follows requests before⟩
  rw [← Cursor.asked_eq_advance, Cursor.asked_filter_nonneg]
  exact source_session requests before

/-- The second of three calls asks for more than the pool holds, the third for all of it. -/
theorem session_on_one_cursor_three_calls :
    let coin := fun (seed : UInt8) value => Coin.mk
      ⟨⟨List.replicate 32 seed, List.length_replicate⟩, 0⟩ value 107
    let cursor := Cursor.ofPool [coin 1 1000, coin 2 500]
    let change : Change := ⟨List.replicate 25 0x52, 0, by decide⟩
    let requests : List Request :=
      [.direct ⟨800, [0x51]⟩ 0 change "pay", .service {} ⟨2000, [0x51]⟩ none change,
        .direct ⟨1500, [0x51]⟩ 0 change "pay"]
    let ran := session requests (.start cursor)
    ran.1.map (·.outcome) =
        [.ok (assemble (cursor.advance 800).funds ⟨800, [0x51]⟩ (some ⟨200, change.script⟩) 206),
          .error ⟨.insufficient .gathered serviceOperation 1500 2000, []⟩,
          .ok (assemble (cursor.advance 1500).funds ⟨1500, [0x51]⟩ none 354)] ∧
      ran.2.source = cursor.advance 2000 ∧ ran.1.Pairwise Follows := by
  intro coin cursor change requests ran
  obtain ⟨source, follows⟩ := session_on_one_cursor requests (.start cursor)
  exact ⟨by decide +kernel, source, follows⟩

end Remit.Author
