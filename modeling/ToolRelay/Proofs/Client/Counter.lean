import Mathlib.Data.Nat.ModEq
import Mathlib.Logic.Function.Iterate
import ToolRelay.Client.Basic

/-!
# The counter of ids

A client takes the ids of its requests from a counter of 64 bits that wraps around. Zero, which
marks notifications, is left out. So the ids run through all other numbers, and after the greatest
they start anew with 1: no id comes again before all others have come.

## Main definitions

* `counterAfter`, `requestIdAt`: the counter, and the ids that are taken from it.
* `idCount`: the number of ids.

## Main results

* `toNat_requestIdAt`: the ids as numbers.
* `requestIdAt_inj`: as many ids as there are, one after the other, are all different.
-/

namespace ToolRelay

/-- The counter of ids after some ids were taken. -/
def counterAfter (start : UInt64) (taken : Nat) : UInt64 :=
  (fun counter => (nextRequestId counter).2)^[taken] start

/-- The id that is taken after some others. -/
def requestIdAt (start : UInt64) (taken : Nat) : UInt64 :=
  (nextRequestId (counterAfter start taken)).1

/-- The number of ids: all values of the counter but the one that marks notifications. -/
def idCount : Nat := 2 ^ 64 - 1

theorem counterAfter_succ (start : UInt64) (taken : Nat) :
    counterAfter start (taken + 1) = (nextRequestId (counterAfter start taken)).2 :=
  Function.iterate_succ_apply' _ taken start

/-- The counter stands at the number after the id that was taken last. -/
theorem nextRequestId_snd (counter : UInt64) :
    (nextRequestId counter).2 = (nextRequestId counter).1 + 1 := by
  rw [nextRequestId]
  split_ifs
  · rw [UInt64.add_assoc]
    rfl
  · rfl

/-- The mark of notifications is left out. -/
theorem nextRequestId_fst_ne (counter : UInt64) :
    (nextRequestId counter).1 ≠ Rpc.notificationId := by
  rw [nextRequestId]
  split_ifs with h
  · rw [h]
    decide
  · exact h

theorem requestIdAt_ne (start : UInt64) (taken : Nat) :
    requestIdAt start taken ≠ Rpc.notificationId :=
  nextRequestId_fst_ne _

theorem ne_of_mem_requestIds (start : UInt64) (n : Nat) {id : UInt64}
    (h : id ∈ (List.range n).map (requestIdAt start)) : id ≠ Rpc.notificationId := by
  obtain ⟨k, -, rfl⟩ := List.mem_map.1 h
  exact requestIdAt_ne start k

/-- After an id comes the next number, and 1 after the greatest. -/
theorem toNat_requestIdAt_succ (start : UInt64) (taken : Nat) :
    (requestIdAt start (taken + 1)).toNat = (requestIdAt start taken).toNat % idCount + 1 := by
  have hnext : requestIdAt start (taken + 1) = (nextRequestId (requestIdAt start taken + 1)).1 := by
    rw [requestIdAt, counterAfter_succ, nextRequestId_snd]
    rfl
  have hlt := (requestIdAt start taken).toNat_lt
  have hsucc := (requestIdAt start taken).toNat_add 1
  rw [show (1 : UInt64).toNat = 1 from rfl] at hsucc
  rw [hnext, nextRequestId, idCount]
  split_ifs with h
  · -- the counter has wrapped around, and its zero is left out
    rw [h] at hsucc ⊢
    rw [show Rpc.notificationId.toNat = 0 from rfl] at hsucc
    rw [show (Rpc.notificationId + 1).toNat = 1 from rfl]
    omega
  · have hne : (requestIdAt start taken + 1).toNat ≠ 0 := fun h₀ =>
      h (UInt64.toNat_inj.1 h₀)
    dsimp only
    omega

example : requestIdAt 18446744073709551615 1 = 1 := by decide

/-- The ids as numbers: they run through all ids, and then start anew. -/
theorem toNat_requestIdAt (start : UInt64) (taken : Nat) :
    (requestIdAt start taken).toNat =
      ((requestIdAt start 0).toNat - 1 + taken) % idCount + 1 := by
  have hpos : 0 < (requestIdAt start 0).toNat :=
    Nat.pos_of_ne_zero fun h => requestIdAt_ne start 0 (UInt64.toNat_inj.1 h)
  induction taken with
  | zero =>
    have hlt := (requestIdAt start 0).toNat_lt
    rw [Nat.add_zero, idCount, Nat.mod_eq_of_lt (by omega)]
    omega
  | succ taken ih =>
    rw [toNat_requestIdAt_succ, ih, Nat.mod_add_mod, Nat.add_assoc]

/-- The ids of a new client are 1, 2, 3 and so on. -/
theorem toNat_requestIdAt_one (taken : Nat) :
    (requestIdAt 1 taken).toNat = taken % idCount + 1 := by
  rw [toNat_requestIdAt, show (requestIdAt 1 0).toNat - 1 = 0 from rfl, Nat.zero_add]

/-- No id comes again before all others have come. -/
theorem requestIdAt_inj (start : UInt64) (first : Nat) {i j : Nat} (hi : i < idCount)
    (hj : j < idCount) (h : requestIdAt start (first + i) = requestIdAt start (first + j)) :
    i = j := by
  -- of two places less than a whole round apart, both leave the same remainder
  have hmod := congrArg UInt64.toNat h
  rw [toNat_requestIdAt start (first + i), toNat_requestIdAt start (first + j), ← Nat.add_assoc,
    ← Nat.add_assoc] at hmod
  have hcancel : Nat.ModEq idCount i j := Nat.ModEq.add_left_cancel' _ (Nat.succ.inj hmod)
  exact hcancel.eq_of_lt_of_lt hi hj

end ToolRelay
