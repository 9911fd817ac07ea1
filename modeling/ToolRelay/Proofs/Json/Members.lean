import Mathlib.Tactic.SplitIfs
import ToolRelay.Json.Value

/-!
# Members of objects

Looking up a member after another was put among the members of an object: the member that was put
there is found under its key, and all others are found as before. No order of the keys is needed for
this.

## Main results

* `Json.findMember_insertMember_self`, `Json.findMember_insertMember_of_ne`: looking up after one
  member was put among others.
* `Json.get?_ofMembers`: of several members given for one key the last is found.
-/

namespace ToolRelay.Json

variable {k k' : String} {v : Json}

/-- What was put under a key is found there. -/
@[simp] theorem findMember_insertMember_self (k : String) (v : Json)
    (members : List (String × Json)) :
    findMember k (insertMember k v members) = some v := by
  induction members with
  | nil => simp [insertMember, findMember]
  | cons m rest ih =>
    rw [insertMember]
    split_ifs with hlt heq
    · simp [findMember]
    · simp [findMember]
    · rw [findMember, if_neg heq, ih]

/-- What was put under another key changes nothing. -/
theorem findMember_insertMember_of_ne (h : k ≠ k') (v : Json) (members : List (String × Json)) :
    findMember k (insertMember k' v members) = findMember k members := by
  induction members with
  | nil => simp [insertMember, findMember, h]
  | cons m rest ih =>
    rw [insertMember]
    split_ifs with hlt heq
    · rw [findMember, if_neg h]
    · subst heq
      rw [findMember, findMember, if_neg h, if_neg h]
    · rw [findMember, findMember, ih]

/-- Once members were put among others, the last of them that has a key is found under it, or what
was there before. -/
theorem findMember_foldl (members acc : List (String × Json)) (k : String) :
    findMember k (members.foldl (fun acc m => insertMember m.1 m.2 acc) acc) =
      (members.reverse.lookup k).or (findMember k acc) := by
  induction members generalizing acc with
  | nil => rfl
  | cons m rest ih =>
    obtain ⟨k', v⟩ := m
    rw [List.foldl_cons, ih, List.reverse_cons, List.lookup_append, Option.or_assoc]
    by_cases hk : k = k'
    · subst hk
      simp
    · have hne : (k == k') = false := beq_eq_false_iff_ne.2 hk
      simp [findMember_insertMember_of_ne hk, List.lookup_cons, hne]

/-- The member of a key is the last one that was given for it. -/
theorem get?_ofMembers (members : List (String × Json)) (k : String) :
    (ofMembers members).get? k = members.reverse.lookup k := by
  rw [ofMembers, get?, findMember_foldl]
  exact Option.or_none

/-- Members are looked up as the pairs of any list are. -/
theorem lookup_eq_findMember (members : List (String × Json)) (k : String) :
    members.lookup k = findMember k members := by
  induction members with
  | nil => rfl
  | cons m rest ih =>
    obtain ⟨k', v⟩ := m
    rw [List.lookup_cons, findMember, ih]
    by_cases hk : k = k'
    · simp [hk]
    · have hne : (k == k') = false := beq_eq_false_iff_ne.2 hk
      simp only [hne, if_neg hk]

end ToolRelay.Json
