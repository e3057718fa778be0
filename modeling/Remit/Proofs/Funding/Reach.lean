import Remit.Funding.Cursor

/-!
How far a cursor gets. Its loop splits the coins that remain where the target is reached: a target
within the value of the pool is reached, with no coin more than it takes, and any other one uses the
pool up. Two targets take a cursor as far as the larger one.
-/

namespace Remit.Funding

def worth (coins : List Coin) : Nat :=
  sumNat (coins.map Coin.value)

@[simp] theorem worth_nil : worth [] = 0 := rfl

@[simp] theorem worth_cons (coin : Coin) (coins : List Coin) :
    worth (coin :: coins) = coin.value + worth coins := rfl

@[simp] theorem worth_append (front back : List Coin) :
    worth (front ++ back) = worth front + worth back := by
  simp [worth]

/-- The shortest front of a list of coins that is worth `need`, or all of it, and the rest. -/
def splitReaching (need : Int) : List Coin → List Coin × List Coin
  | [] => ([], [])
  | coin :: rest =>
      if need ≤ 0 then ([], coin :: rest)
      else
        let (front, back) := splitReaching (need - coin.value) rest
        (coin :: front, back)

theorem splitReaching_of_worth_lt {need : Int} {coins : List Coin}
    (short : (worth coins : Int) < need) : splitReaching need coins = (coins, []) := by
  induction coins generalizing need with
  | nil => rfl
  | cons coin rest induction =>
      rw [worth_cons, Int.natCast_add] at short
      have unmet : ¬ need ≤ 0 := by omega
      have restShort : (worth rest : Int) < need - coin.value := by omega
      simp only [splitReaching, unmet, ↓reduceIte, induction restShort]

theorem le_worth_splitReaching {need : Int} {coins : List Coin}
    (enough : need ≤ worth coins) : need ≤ worth (splitReaching need coins).1 := by
  induction coins generalizing need with
  | nil => exact enough
  | cons coin rest induction =>
      by_cases met : need ≤ 0
      · simp only [splitReaching, met, ↓reduceIte, worth_nil]
        exact met
      · rw [worth_cons, Int.natCast_add] at enough
        have restReached :
            need - coin.value ≤ worth (splitReaching (need - coin.value) rest).1 :=
          induction (by omega)
        simp only [splitReaching, met, ↓reduceIte, worth_cons, Int.natCast_add]
        omega

theorem worth_mono {front coins : List Coin} (ahead : front <+: coins) :
    worth front ≤ worth coins := by
  obtain ⟨back, rfl⟩ := ahead
  rw [worth_append]
  exact Nat.le_add_right _ _

theorem worth_take_lt {need : Int} {coins : List Coin} {p : Nat}
    (before : p < (splitReaching need coins).1.length) : (worth (coins.take p) : Int) < need := by
  induction coins generalizing need p with
  | nil => cases before
  | cons coin rest induction =>
      by_cases met : need ≤ 0
      · simp only [splitReaching, met, ↓reduceIte, List.length_nil] at before
        cases before
      · cases p with
        | zero =>
            rw [List.take_zero, worth_nil]
            exact Int.not_le.mp met
        | succ p =>
            simp only [splitReaching, met, ↓reduceIte, List.length_cons] at before
            have restBefore := induction (Nat.lt_of_succ_lt_succ before)
            rw [List.take_succ_cons, worth_cons, Int.natCast_add]
            omega

theorem splitReaching_of_nonpos {need : Int} (met : need ≤ 0) (coins : List Coin) :
    splitReaching need coins = ([], coins) := by
  cases coins with
  | nil => rfl
  | cons coin rest => simp only [splitReaching, met, ↓reduceIte]

/-- Splitting what is left once more is splitting for the larger need. -/
theorem splitReaching_max (first second : Int) (coins : List Coin) :
    let split := splitReaching first coins
    let next := splitReaching (second - worth split.1) split.2
    splitReaching (max first second) coins = (split.1 ++ next.1, next.2) := by
  induction coins generalizing first second with
  | nil => rfl
  | cons coin rest induction =>
      by_cases met : first ≤ 0
      · -- The first split is empty, and only the second need counts.
        rw [splitReaching_of_nonpos met]
        simp only [worth_nil, Int.natCast_zero, Int.sub_zero, List.nil_append]
        by_cases secondMet : second ≤ 0
        · rw [splitReaching_of_nonpos secondMet, splitReaching_of_nonpos (by omega)]
        · rw [Int.max_eq_right (by omega)]
      · have unmet : ¬ max first second ≤ 0 := by omega
        have needs : max first second - coin.value =
            max (first - coin.value) (second - coin.value) := by omega
        have rest := induction (first - coin.value) (second - coin.value)
        simp only [splitReaching, met, unmet, ↓reduceIte, needs, rest, worth_cons,
          Int.natCast_add, Int.sub_sub, List.cons_append]

namespace Cursor

def remaining (cursor : Cursor) : List Coin :=
  cursor.pool.drop cursor.position

section

variable {cursor other : Cursor} {target : Int}

theorem worth_consumed (cursor : Cursor) : worth cursor.consumed = cursor.total :=
  cursor.total_eq.symm

theorem length_consumed (cursor : Cursor) : cursor.consumed.length = cursor.position :=
  List.length_take_of_le cursor.position_le

theorem consumed_append_remaining (cursor : Cursor) :
    cursor.consumed ++ cursor.remaining = cursor.pool :=
  List.take_append_drop _ _

/-- The pool and what of it is consumed are all that there is to a cursor. -/
theorem eq_of_consumed (pool : cursor.pool = other.pool)
    (consumed : cursor.consumed = other.consumed) : cursor = other := by
  have position : cursor.position = other.position := by
    rw [← length_consumed, consumed, length_consumed]
  have total : cursor.total = other.total := by
    rw [← worth_consumed, consumed, worth_consumed]
  cases cursor
  cases other
  cases pool
  cases position
  cases total
  rfl

theorem consumed_next (left : cursor.position < cursor.pool.length) :
    (cursor.next left).consumed = cursor.consumed ++ [cursor.pool[cursor.position]] :=
  List.take_succ_eq_append_getElem left

theorem remaining_eq_cons (left : cursor.position < cursor.pool.length) :
    cursor.remaining = cursor.pool[cursor.position] :: (cursor.next left).remaining :=
  List.drop_eq_getElem_cons left

theorem advance_of_lt (short : (cursor.total : Int) < target)
    (left : cursor.position < cursor.pool.length) :
    cursor.advance target = (cursor.next left).advance target := by
  rw [advance, dif_pos ⟨short, left⟩]

theorem advance_of_le_total (reached : target ≤ cursor.total) :
    cursor.advance target = cursor := by
  rw [advance, dif_neg fun turn => Int.not_lt.mpr reached turn.1]

@[simp] theorem pool_advance (cursor : Cursor) (target : Int) :
    (cursor.advance target).pool = cursor.pool := by
  induction cursor using advance.induct target with
  | case1 cursor turn induction => rw [advance_of_lt turn.1 turn.2, induction]; rfl
  | case2 cursor stop => rw [advance, dif_neg stop]

/-- Each turn of the loop moves the head of what remains to what is consumed, just as long as the
target is not reached. -/
theorem advance_splits (cursor : Cursor) (target : Int) :
    let split := splitReaching (target - cursor.total) cursor.remaining
    (cursor.advance target).consumed = cursor.consumed ++ split.1 ∧
      (cursor.advance target).remaining = split.2 := by
  induction cursor using advance.induct target with
  | case1 cursor turn induction =>
      obtain ⟨short, left⟩ := turn
      -- The turn consumes the head of what remained and lowers the need by its value.
      have unmet : ¬ target - cursor.total ≤ 0 := by omega
      have needs : target - ((cursor.next left).total : Int) =
          target - cursor.total - cursor.pool[cursor.position].value := by
        rw [next, Int.natCast_add, Int.sub_sub]
      rw [needs, consumed_next] at induction
      obtain ⟨consumed, remaining⟩ := induction
      rw [advance_of_lt short left, remaining_eq_cons left, splitReaching, if_neg unmet]
      rw [List.append_assoc] at consumed
      exact ⟨consumed, remaining⟩
  | case2 cursor stop =>
      rw [advance, dif_neg stop]
      by_cases reached : target ≤ cursor.total
      · rw [splitReaching_of_nonpos (by omega)]
        exact ⟨(List.append_nil _).symm, rfl⟩
      · have done : cursor.pool.length ≤ cursor.position := by omega
        have nothing : cursor.remaining = [] := List.drop_eq_nil_of_le done
        rw [nothing]
        exact ⟨(List.append_nil _).symm, rfl⟩

theorem worth_pool (cursor : Cursor) :
    worth cursor.pool = cursor.total + worth cursor.remaining := by
  rw [← worth_consumed, ← worth_append, consumed_append_remaining]

theorem total_advance (cursor : Cursor) (target : Int) :
    (cursor.advance target).total =
      cursor.total + worth (splitReaching (target - cursor.total) cursor.remaining).1 := by
  rw [← worth_consumed, (cursor.advance_splits target).1, worth_append, worth_consumed]

theorem exhausted_iff (cursor : Cursor) :
    cursor.exhausted = true ↔ cursor.position = cursor.pool.length := by
  rw [exhausted, decide_eq_true_iff]
  exact ⟨Nat.le_antisymm cursor.position_le, Nat.le_of_eq ∘ Eq.symm⟩

theorem usedUp_of_worth_lt (short : (worth cursor.pool : Int) < target) :
    let reached := cursor.advance target
    reached.consumed = cursor.pool ∧ reached.total = worth cursor.pool ∧
      reached.exhausted = true := by
  intro reached
  rw [worth_pool, Int.natCast_add] at short
  have remainingShort : (worth cursor.remaining : Int) < target - cursor.total := by omega
  have consumed : reached.consumed = cursor.pool := by
    rw [(cursor.advance_splits target).1, splitReaching_of_worth_lt remainingShort,
      consumed_append_remaining]
  refine ⟨consumed, ?_, ?_⟩
  · rw [← worth_consumed, consumed]
  · rw [exhausted_iff, ← length_consumed, consumed, pool_advance]

theorem le_total_advance (enough : target ≤ worth cursor.pool) :
    target ≤ (cursor.advance target).total := by
  rw [worth_pool, Int.natCast_add] at enough
  have reached : target - cursor.total ≤
      worth (splitReaching (target - cursor.total) cursor.remaining).1 :=
    le_worth_splitReaching (by omega)
  rw [total_advance, Int.natCast_add]
  omega

theorem advance_advance (cursor : Cursor) (first second : Int) :
    (cursor.advance first).advance second = cursor.advance (max first second) := by
  have needs : max first second - (cursor.total : Int) =
      max (first - cursor.total) (second - cursor.total) := by omega
  have secondNeeds : second - ((cursor.advance first).total : Int) =
      second - cursor.total -
        worth (splitReaching (first - cursor.total) cursor.remaining).1 := by
    rw [total_advance]
    omega
  obtain ⟨consumed, remaining⟩ := cursor.advance_splits first
  apply eq_of_consumed
  · simp only [pool_advance]
  · rw [((cursor.advance first).advance_splits second).1, consumed, remaining, secondNeeds,
      (cursor.advance_splits (max first second)).1, needs, splitReaching_max, List.append_assoc]

theorem consumed_prefix_advance (cursor : Cursor) (target : Int) :
    cursor.consumed <+: (cursor.advance target).consumed := by
  rw [(cursor.advance_splits target).1]
  exact List.prefix_append _ _

theorem position_le_advance (cursor : Cursor) (target : Int) :
    cursor.position ≤ (cursor.advance target).position := by
  rw [← length_consumed, ← length_consumed]
  exact (cursor.consumed_prefix_advance target).length_le

theorem total_le_advance (cursor : Cursor) (target : Int) :
    cursor.total ≤ (cursor.advance target).total := by
  rw [← worth_consumed, ← worth_consumed]
  exact worth_mono (cursor.consumed_prefix_advance target)

theorem consumed_advance_prefix_pool (cursor : Cursor) (target : Int) :
    (cursor.advance target).consumed <+: cursor.pool := by
  rw [← pool_advance cursor target]
  exact List.take_prefix _ _

theorem total_advance_le_worth_pool (cursor : Cursor) (target : Int) :
    (cursor.advance target).total ≤ worth cursor.pool := by
  rw [← worth_consumed]
  exact worth_mono (cursor.consumed_advance_prefix_pool target)

end

end Cursor

end Remit.Funding
