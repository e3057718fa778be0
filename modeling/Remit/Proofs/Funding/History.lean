import Mathlib.Order.Bounds.Basic
import Remit.Author.Collaborators
import Remit.Proofs.Funding.Reach

/-!
A cursor after any number of targets. It stands where the largest of them alone would have taken it,
so neither their order nor their repetition matters.
-/

namespace Remit.Funding

open Author (InputSource)

/-- The largest of the targets, zero without any. -/
def largest (targets : List Int) : Int :=
  targets.max?.getD 0

def Cursor.asked (cursor : Cursor) (targets : List Int) : Cursor :=
  targets.foldl Cursor.advance cursor

section

variable {targets others : List Int}

theorem largest_congr (same : ∀ target, target ∈ others ↔ target ∈ targets) :
    largest others = largest targets := by
  unfold largest
  cases found : targets.max? with
  | none =>
      rw [List.max?_eq_none_iff] at found
      subst found
      have empty : others = [] :=
        List.eq_nil_iff_forall_not_mem.mpr fun target member =>
          List.not_mem_nil ((same target).mp member)
      rw [empty]
      rfl
  | some top =>
      rw [List.max?_eq_some_iff] at found
      have othersFound : others.max? = some top :=
        List.max?_eq_some_iff.mpr
          ⟨(same top).mpr found.1, fun target member => found.2 target ((same target).mp member)⟩
      rw [othersFound]

end

namespace Cursor

theorem asked_advance (cursor : Cursor) (first : Int) (targets : List Int) :
    (cursor.advance first).asked targets = cursor.advance (targets.foldl max first) := by
  induction targets generalizing first with
  | nil => rfl
  | cons target rest induction =>
      change ((cursor.advance first).advance target).asked rest = _
      rw [advance_advance, induction, List.foldl_cons]

theorem asked_eq_advance (cursor : Cursor) (targets : List Int) :
    cursor.asked targets = cursor.advance (largest targets) := by
  cases targets with
  | nil => exact (advance_of_le_total (Int.natCast_nonneg _)).symm
  | cons target rest => exact cursor.asked_advance target rest

theorem asked_append (cursor : Cursor) (targets more : List Int) :
    cursor.asked (targets ++ more) = (cursor.asked targets).asked more :=
  List.foldl_append

/-- Nothing is consumed for a target below zero. -/
theorem asked_filter_nonneg (cursor : Cursor) (targets : List Int) :
    cursor.asked (targets.filter (0 ≤ ·)) = cursor.asked targets := by
  induction targets generalizing cursor with
  | nil => rfl
  | cons target rest induction =>
      by_cases nonnegative : 0 ≤ target
      · rw [List.filter_cons_of_pos (by simpa using nonnegative)]
        exact induction (cursor.advance target)
      · have unmoved : cursor.advance target = cursor := advance_of_le_total (by omega)
        rw [List.filter_cons_of_neg (by simpa using nonnegative), induction]
        exact (congrArg (asked · rest) unmoved).symm

@[simp] theorem pool_ofPool (pool : List Coin) : (ofPool pool).pool = pool := rfl

@[simp] theorem pool_asked (cursor : Cursor) (targets : List Int) :
    (cursor.asked targets).pool = cursor.pool := by
  rw [asked_eq_advance, pool_advance]

theorem consumed_ofPool_advance (pool : List Coin) (target : Int) :
    ((ofPool pool).advance target).consumed = (splitReaching target pool).1 := by
  rw [((ofPool pool).advance_splits target).1]
  change [] ++ (splitReaching (target - (0 : Nat)) pool).1 = _
  rw [Int.natCast_zero, Int.sub_zero, List.nil_append]

end Cursor

/-- Where the largest target has taken a cursor that began before the first coin of a pool. -/
structure StandsAt (pool : List Coin) (need : Int) (cursor : Cursor) : Prop where
  consumed : cursor.consumed = pool.take cursor.position
  remaining : cursor.remaining = pool.drop cursor.position
  least : (∃ p, need ≤ worth (pool.take p)) →
    IsLeast {p | need ≤ worth (pool.take p)} cursor.position
  usedUp : (∀ p, (worth (pool.take p) : Int) < need) → cursor.position = pool.length
  total : cursor.total = worth (pool.take cursor.position)
  exhausted : cursor.exhausted = true ↔ cursor.position = pool.length

theorem standsAt_advance (pool : List Coin) (need : Int) :
    StandsAt pool need ((Cursor.ofPool pool).advance need) := by
  let cursor := (Cursor.ofPool pool).advance need
  have pooled : cursor.pool = pool := Cursor.pool_advance _ _
  have consumed : cursor.consumed = pool.take cursor.position := by
    rw [Cursor.consumed, pooled]
  have remaining : cursor.remaining = pool.drop cursor.position := by
    rw [Cursor.remaining, pooled]
  have total := cursor.worth_consumed
  have exhausted := cursor.exhausted_iff
  rw [consumed] at total
  rw [pooled] at exhausted
  refine
    { consumed := consumed
      remaining := remaining
      least := ?least
      usedUp := ?usedUp
      total := total.symm
      exhausted := exhausted }
  case least =>
    rintro ⟨p, enough⟩
    have pooledEnough : need ≤ worth (Cursor.ofPool pool).pool :=
      Int.le_trans enough (Int.ofNat_le.mpr (worth_mono (List.take_prefix p pool)))
    constructor
    · change need ≤ worth (pool.take cursor.position)
      rw [total]
      exact Cursor.le_total_advance pooledEnough
    · intro q reached
      -- A position within what was consumed has not reached the need, or the cursor had stopped.
      by_contra before
      have beforeFront : q < (splitReaching need pool).1.length := by
        rw [← Cursor.consumed_ofPool_advance, Cursor.length_consumed]
        exact Nat.not_le.mp before
      exact Int.not_le.mpr (worth_take_lt beforeFront) reached
  case usedUp =>
    intro short
    have poolShort := short pool.length
    rw [List.take_length] at poolShort
    obtain ⟨-, -, usedUp⟩ := (Cursor.ofPool pool).usedUp_of_worth_lt poolShort
    exact exhausted.mp usedUp

/-- What a cursor hands out: the coins it has consumed, as inputs that are still to be signed. -/
structure Gathers (pool : List Coin) (cursor : Cursor) (funds : Funds) : Prop where
  checked : Funds.make cursor.total ((pool.take cursor.position).map Coin.input)
    ((pool.take cursor.position).map fun coin => (coin.redeemSize : Int)) = .ok funds
  amount : funds.amount = cursor.total
  inputs : funds.inputs = (pool.take cursor.position).map fun coin =>
    { outPoint := coin.outPoint, script := [], sequence := 0xFFFFFFFF }
  redeemSizes : funds.redeemSizes =
    (pool.take cursor.position).map fun coin => (coin.redeemSize : Int)
  complete : funds.inputs.map (·.outPoint) ++ cursor.remaining.map (·.outPoint) =
    pool.map (·.outPoint)
  distinct : (pool.map (·.outPoint)).Nodup → (funds.inputs.map (·.outPoint)).Nodup

theorem outPoints_funds (cursor : Cursor) :
    cursor.funds.inputs.map (·.outPoint) = cursor.consumed.map (·.outPoint) :=
  List.map_map

theorem gathers_funds (cursor : Cursor) : Gathers cursor.pool cursor cursor.funds where
  checked := by
    rw [Funds.make, dif_pos (by simp), if_neg (by omega)]
    rfl
  amount := rfl
  inputs := rfl
  redeemSizes := rfl
  complete := by
    rw [outPoints_funds, ← List.map_append, cursor.consumed_append_remaining]
  distinct nodup := by
    rw [outPoints_funds]
    exact nodup.sublist ((List.take_sublist _ _).map _)

/-- A cursor stands at the least position that reaches the largest target so far, or at the end of
the pool. It never goes back, and each answer holds what it has consumed, in the pool's order. -/
theorem cursor_history (pool : List Coin) (targets : List Int) :
    let cursor := (Cursor.ofPool pool).asked targets
    StandsAt pool (largest targets) cursor ∧
    (∀ more, cursor.position ≤ ((Cursor.ofPool pool).asked (targets ++ more)).position ∧
      cursor.total ≤ ((Cursor.ofPool pool).asked (targets ++ more)).total) ∧
    (∀ others, (∀ target, target ∈ others ↔ target ∈ targets) →
      (Cursor.ofPool pool).asked others = cursor) ∧
    ∀ target,
      let answer := InputSource.ofCursor.fetch target cursor
      answer.state = (Cursor.ofPool pool).asked (targets ++ [target]) ∧
      ∃ funds, answer.outcome = .ok funds ∧ Gathers pool answer.state funds := by
  intro cursor
  refine ⟨?_, ?_, ?_, ?_⟩
  · have position : cursor = (Cursor.ofPool pool).advance (largest targets) :=
      Cursor.asked_eq_advance _ _
    rw [position]
    exact standsAt_advance pool (largest targets)
  · intro more
    rw [Cursor.asked_append, Cursor.asked_eq_advance _ more]
    exact ⟨cursor.position_le_advance _, cursor.total_le_advance _⟩
  · intro others same
    rw [Cursor.asked_eq_advance, largest_congr same]
    exact (Cursor.asked_eq_advance _ _).symm
  · intro target answer
    refine ⟨(Cursor.asked_append _ targets [target]).symm, _, rfl, ?_⟩
    have pooled : (cursor.advance target).pool = pool := by
      rw [Cursor.pool_advance, Cursor.pool_asked, Cursor.pool_ofPool]
    have gathers := gathers_funds (cursor.advance target)
    rwa [pooled] at gathers

/-- Four coins, the second of them worth nothing, and targets below zero, met and out of reach. -/
theorem cursor_history_four_coins :
    let coin := fun (seed : UInt8) value => Coin.mk
      ⟨⟨List.replicate 32 seed, List.length_replicate⟩, 0⟩ value 107
    let pool := [coin 1 5, coin 2 0, coin 3 3, coin 4 7]
    let cursor := (Cursor.ofPool pool).asked [-2, 6, 4]
    IsLeast {p | (6 : Int) ≤ worth (pool.take p)} 3 ∧ cursor.position = 3 ∧ cursor.total = 8 ∧
      (Cursor.ofPool pool).asked [4, 6, 6, -2] = cursor ∧
      ((Cursor.ofPool pool).asked ([-2, 6, 4] ++ [16])).position = 4 ∧
      ∃ funds, (InputSource.ofCursor.fetch 16 cursor).outcome = .ok funds ∧
        funds.amount = 15 ∧ (funds.inputs.map (·.outPoint)).Nodup := by
  intro coin pool cursor
  obtain ⟨stands, -, order, answers⟩ := cursor_history pool [-2, 6, 4]
  obtain ⟨state, funds, gathered, gathers⟩ := answers 16
  have position : cursor.position = 3 := by decide +kernel
  have least := stands.least ⟨3, by decide⟩
  refine ⟨position ▸ least, position, by decide +kernel, order _ (by grind), by decide +kernel,
    funds, gathered, ?_, gathers.distinct (by decide)⟩
  rw [gathers.amount, state]
  decide +kernel

end Remit.Funding
