import Remit.Funding.Coin
import Remit.Log.Record

/-!
A cursor over an ordered pool of coins: how many of them it has consumed, and what these are worth.
It only moves forward, until the total reaches the target or the pool is at its end.
-/

namespace Remit.Funding

structure Cursor where
  pool : List Coin
  position : Nat
  total : Nat
  position_le : position ≤ pool.length
  total_eq : total = sumNat ((pool.take position).map Coin.value)
deriving DecidableEq

namespace Cursor

def ofPool (coins : List Coin) : Cursor where
  pool := coins
  position := 0
  total := 0
  position_le := Nat.zero_le _
  total_eq := rfl

def exhausted (cursor : Cursor) : Bool :=
  cursor.pool.length ≤ cursor.position

def consumed (cursor : Cursor) : List Coin :=
  cursor.pool.take cursor.position

/-- The coin at the position is consumed. -/
def next (cursor : Cursor) (h : cursor.position < cursor.pool.length) : Cursor where
  pool := cursor.pool
  position := cursor.position + 1
  total := cursor.total + cursor.pool[cursor.position].value
  position_le := h
  total_eq := by
    rw [List.take_succ_eq_append_getElem h, List.map_append, sumNat_append, cursor.total_eq]
    rfl

def advance (cursor : Cursor) (target : Int) : Cursor :=
  if h : (cursor.total : Int) < target ∧ cursor.position < cursor.pool.length then
    (cursor.next h.2).advance target
  else cursor
termination_by cursor.pool.length - cursor.position
decreasing_by exact Nat.sub_lt_sub_left h.2 (Nat.lt_succ_self _)

/-- All that was consumed, by this step or an earlier one. -/
def funds (cursor : Cursor) : Funds where
  amount := cursor.total
  inputs := cursor.consumed.map Coin.input
  redeemSizes := cursor.consumed.map fun coin => (coin.redeemSize : Int)
  length_eq := by simp

def record (cursor : Cursor) (target : Int) : Log.Record where
  level := .debug
  logger := Log.sourcesLogger
  text :=
    s!"Cursor advanced to {cursor.consumed.length}/{cursor.pool.length} unspents, " ++
      s!"total {cursor.total} (target {target})"

end Cursor

end Remit.Funding
