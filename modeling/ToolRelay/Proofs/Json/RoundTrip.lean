import Mathlib.Data.List.Chain
import ToolRelay.Proofs.Json.Spelling

/-!
# Reading written values

A well-formed value without floats that is not nested too deep is read back from its compact text.

## Main results

* `Json.ofMembers_of_wellFormed`: ordered members keep their order.
* `Json.Draft.toJson?_ofJson`: a value's draft denotes it.
* `Json.read?_render`: a written value is read back.
-/

namespace ToolRelay.Json

/-- The keys ascend. -/
def Ascending (members : List (String × Json)) : Prop :=
  members.Pairwise fun m m' => m.1 < m'.1

theorem wellFormedMembers_cons {k : String} {v : Json} {rest : List (String × Json)}
    (h : wellFormedMembers ((k, v) :: rest) = true) :
    v.WellFormed ∧ (∀ m ∈ rest.head?, k < m.1) ∧ wellFormedMembers rest = true := by
  simp only [wellFormedMembers, Bool.and_eq_true, Option.all_eq_true, decide_eq_true_eq] at h
  exact ⟨h.1.1, h.1.2, h.2⟩

theorem ascending_of_wellFormed {members : List (String × Json)}
    (h : wellFormedMembers members = true) : Ascending members := by
  have hchain : members.IsChain fun m m' => m.1 < m'.1 := by
    induction members with
    | nil => exact .nil
    | cons m rest ih =>
      obtain ⟨k, v⟩ := m
      obtain ⟨-, hhead, hrest⟩ := wellFormedMembers_cons h
      rw [List.isChain_cons]
      exact ⟨hhead, ih hrest⟩
  have : IsTrans (String × Json) fun m m' => m.1 < m'.1 := ⟨fun _ _ _ => String.lt_trans⟩
  exact List.isChain_iff_pairwise.1 hchain

/-- A member whose key is greater than all others comes last. -/
theorem insertMember_of_greater {k : String} {v : Json} {members : List (String × Json)}
    (h : ∀ m ∈ members, m.1 < k) : insertMember k v members = members ++ [(k, v)] := by
  induction members with
  | nil => rfl
  | cons m rest ih =>
    obtain ⟨k', v'⟩ := m
    have hlt : k' < k := h (k', v') List.mem_cons_self
    rw [insertMember, if_neg (String.lt_asymm hlt), if_neg (String.ne_of_lt hlt).symm,
      ih fun m hm => h m (List.mem_cons_of_mem _ hm)]
    rfl

theorem foldl_insertMember {before members : List (String × Json)}
    (h : Ascending (before ++ members)) :
    members.foldl (fun acc m => insertMember m.1 m.2 acc) before = before ++ members := by
  induction members generalizing before with
  | nil => exact (List.append_nil before).symm
  | cons m rest ih =>
    -- the members come in the order of their keys, so each goes behind those that are there
    have hgreater : ∀ m' ∈ before, m'.1 < m.1 := fun m' hm' =>
      (List.pairwise_append.1 h).2.2 m' hm' m List.mem_cons_self
    have hsplit : before ++ m :: rest = before ++ [m] ++ rest := by
      rw [List.append_assoc, List.singleton_append]
    rw [List.foldl_cons, insertMember_of_greater hgreater, hsplit]
    exact ih (hsplit ▸ h)

theorem ofMembers_of_wellFormed {members : List (String × Json)}
    (h : wellFormedMembers members = true) : ofMembers members = .obj members := by
  rw [ofMembers, foldl_insertMember]
  · rfl
  · exact ascending_of_wellFormed h

mutual

/-- The draft of a value denotes it, if there are levels enough. -/
theorem Draft.toJson?_ofJson {v : Json} (hwf : v.WellFormed) {levels : Nat}
    (hdepth : v.depth ≤ levels) : (Draft.ofJson v).toJson? levels = some v := by
  match v with
  | .null | .bool _ | .int _ | .float _ | .str _ => rfl
  | .arr items =>
    rw [depth] at hdepth
    rw [Draft.ofJson, Draft.toJson?, if_neg (by simp; omega),
      Draft.itemsToJson?_ofItems hwf (by omega), Option.map_some]
  | .obj members =>
    rw [depth] at hdepth
    rw [Draft.ofJson, Draft.toJson?, if_neg (by simp; omega),
      Draft.membersToJson?_ofMembers hwf (by omega), Option.map_some,
      ofMembers_of_wellFormed hwf]

theorem Draft.itemsToJson?_ofItems {items : List Json} (hwf : wellFormedItems items = true)
    {levels : Nat} (hdepth : depthItems items ≤ levels) :
    Draft.itemsToJson? levels (Draft.ofItems items) = some items := by
  match items with
  | [] => rfl
  | v :: rest =>
    rw [wellFormedItems, Bool.and_eq_true] at hwf
    rw [depthItems, max_le_iff] at hdepth
    rw [Draft.ofItems, Draft.itemsToJson?, Draft.toJson?_ofJson hwf.1 hdepth.1,
      Draft.itemsToJson?_ofItems hwf.2 hdepth.2]
    rfl

theorem Draft.membersToJson?_ofMembers {members : List (String × Json)}
    (hwf : wellFormedMembers members = true) {levels : Nat}
    (hdepth : depthMembers members ≤ levels) :
    Draft.membersToJson? levels (Draft.ofMembers members) = some members := by
  match members with
  | [] => rfl
  | (k, v) :: rest =>
    obtain ⟨hv, -, hrest⟩ := wellFormedMembers_cons hwf
    rw [depthMembers, max_le_iff] at hdepth
    rw [Draft.ofMembers, Draft.membersToJson?, Draft.toJson?_ofJson hv hdepth.1,
      Draft.membersToJson?_ofMembers hrest hdepth.2]
    rfl

end

mutual

theorem plain_of_floatFree {v : Json} (hwf : v.WellFormed) (hfree : v.floatFree = true) :
    v.plain = true := by
  match v with
  | .null | .bool _ | .str _ => rfl
  | .int n => exact hwf
  | .float _ => cases hfree
  | .arr items => exact plainItems_of_floatFree hwf hfree
  | .obj members => exact plainMembers_of_floatFree hwf hfree

theorem plainItems_of_floatFree {items : List Json} (hwf : wellFormedItems items = true)
    (hfree : floatFreeItems items = true) : plainItems items = true := by
  match items with
  | [] => rfl
  | v :: rest =>
    rw [wellFormedItems, Bool.and_eq_true] at hwf
    rw [floatFreeItems, Bool.and_eq_true] at hfree
    rw [plainItems, plain_of_floatFree hwf.1 hfree.1, plainItems_of_floatFree hwf.2 hfree.2]
    rfl

theorem plainMembers_of_floatFree {members : List (String × Json)}
    (hwf : wellFormedMembers members = true) (hfree : floatFreeMembers members = true) :
    plainMembers members = true := by
  match members with
  | [] => rfl
  | (k, v) :: rest =>
    obtain ⟨hv, -, hrest⟩ := wellFormedMembers_cons hwf
    rw [floatFreeMembers, Bool.and_eq_true] at hfree
    rw [plainMembers, plain_of_floatFree hv hfree.1, plainMembers_of_floatFree hrest hfree.2]
    rfl

end

variable {v : Json}

/-- A value is read back from its compact text. -/
theorem read?_render (hwf : v.WellFormed) (hfree : v.floatFree = true)
    (hdepth : v.depth ≤ maxLevels) : read? v.render = some v := by
  rw [read?, Draft.read_render (plain_of_floatFree hwf hfree)]
  exact Draft.toJson?_ofJson hwf hdepth

/-- A text is read back from its literal. -/
theorem read?_render_str (s : String) : read? (Json.str s).render = some (.str s) :=
  read?_render rfl rfl (Nat.zero_le _)

end ToolRelay.Json
