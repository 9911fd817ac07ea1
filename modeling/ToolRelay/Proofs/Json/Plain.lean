import ToolRelay.Proofs.Json.Members
import ToolRelay.Proofs.Json.RoundTrip

/-!
# Plain values

Values without floats that are not nested too deep are read back from their text. An object that is
put together from such values is one too, one level deeper, in whatever order its members are given.

## Main definitions

* `Json.PlainWithin`, `Json.Plain`: values that are read back from their text.

## Main results

* `Json.PlainWithin.read?_render`: a plain value is read back.
* `Json.PlainWithin.ofMembers`: an object of plain values is plain.
-/

namespace ToolRelay.Json

/-- A value made of null, truth values, integers of 64 bits, texts, sequences and objects, nested at
most so many levels deep. -/
structure PlainWithin (levels : Nat) (v : Json) : Prop where
  /-- Keys ascend, and integers fit a word. -/
  wellFormed : v.WellFormed
  /-- There are no floats. -/
  floatFree : v.floatFree = true
  /-- It is not nested too deep. -/
  depth_le : v.depth ≤ levels

/-- A value made of null, truth values, integers of 64 bits, texts, sequences and objects, nested at
most 120 deep. -/
structure Plain (v : Json) : Prop where
  /-- Keys ascend, and integers fit a word. -/
  wellFormed : v.WellFormed
  /-- There are no floats. -/
  floatFree : v.floatFree = true
  /-- It is not nested too deep. -/
  depth_le : v.depth ≤ 120

variable {levels : Nat} {k : String} {v : Json} {members rest : List (String × Json)}

theorem Plain.within (h : v.Plain) : v.PlainWithin 120 := ⟨h.wellFormed, h.floatFree, h.depth_le⟩

/-- A value that is nested less deep than a reader follows is read back from its text. -/
theorem PlainWithin.read?_render (h : v.PlainWithin levels) (hlevels : levels ≤ maxLevels) :
    read? v.render = some v :=
  Json.read?_render h.wellFormed h.floatFree (h.depth_le.trans hlevels)

/-- A plain value is read back from its text. -/
theorem Plain.read?_render (h : v.Plain) : read? v.render = some v :=
  h.within.read?_render (by decide)

theorem PlainWithin.mono {levels' : Nat} (h : v.PlainWithin levels) (hle : levels ≤ levels') :
    v.PlainWithin levels' :=
  ⟨h.wellFormed, h.floatFree, h.depth_le.trans hle⟩

/-! ## Single values -/

theorem PlainWithin.str (levels : Nat) (s : String) : (Json.str s).PlainWithin levels :=
  ⟨rfl, rfl, Nat.zero_le _⟩

theorem PlainWithin.int {n : Int} (h : IntInRange n) : (Json.int n).PlainWithin levels :=
  ⟨decide_eq_true h, rfl, Nat.zero_le _⟩

theorem PlainWithin.int64 (levels : Nat) (n : Int64) : (Json.int n.toInt).PlainWithin levels := by
  have hmax : n.toInt ≤ 9223372036854775807 := n.toInt_le
  exact .int ⟨n.minValue_le_toInt, lt_of_le_of_lt hmax (by decide)⟩

theorem PlainWithin.uint64 (levels : Nat) (n : UInt64) : (ofUInt64 n).PlainWithin levels := by
  have hmin : Int64.minValue.toInt ≤ 0 := by decide
  have hlt : n.toNat < UInt64.size := n.toNat_lt
  exact .int ⟨hmin.trans (Int.natCast_nonneg _), by exact_mod_cast hlt⟩

/-! ## Objects -/

/-- The empty object is as plain as can be. -/
theorem PlainWithin.empty (levels : Nat) : (obj []).PlainWithin (levels + 1) :=
  ⟨rfl, rfl, Nat.succ_le_succ (Nat.zero_le _)⟩

theorem plainWithin_cons : (obj ((k, v) :: rest)).PlainWithin (levels + 1) ↔
    v.PlainWithin levels ∧ (∀ m ∈ rest.head?, k < m.1) ∧ (obj rest).PlainWithin (levels + 1) := by
  have hdepth : (obj ((k, v) :: rest)).depth ≤ levels + 1 ↔
      v.depth ≤ levels ∧ (obj rest).depth ≤ levels + 1 := by
    rw [depth, depth, depthMembers]
    omega
  constructor
  · rintro ⟨hwf, hfree, hle⟩
    obtain ⟨hv, hhead, hrest⟩ := wellFormedMembers_cons hwf
    obtain ⟨hvfree, hrestfree⟩ := Bool.and_eq_true_iff.1 hfree
    obtain ⟨hvle, hrestle⟩ := hdepth.1 hle
    exact ⟨⟨hv, hvfree, hvle⟩, hhead, ⟨hrest, hrestfree, hrestle⟩⟩
  · rintro ⟨hv, hhead, hrest⟩
    have hwf : wellFormedMembers ((k, v) :: rest) = true := by
      simp only [wellFormedMembers, Bool.and_eq_true, Option.all_eq_true, decide_eq_true_eq]
      exact ⟨⟨hv.wellFormed, hhead⟩, hrest.wellFormed⟩
    exact ⟨hwf, Bool.and_eq_true_iff.2 ⟨hv.floatFree, hrest.floatFree⟩,
      hdepth.2 ⟨hv.depth_le, hrest.depth_le⟩⟩

/-- What is below the first key, and below a key that is put among the members, is still below the
first key afterwards. -/
theorem head?_insertMember {x : String} (hk : x < k) (h : ∀ m ∈ members.head?, x < m.1) :
    ∀ m ∈ (insertMember k v members).head?, x < m.1 := by
  cases members with
  | nil => simpa [insertMember] using hk
  | cons m rest =>
    rw [insertMember]
    split_ifs
    · simpa using hk
    · simpa using hk
    · simpa using h

/-- An object stays plain when a plain member is put into it. -/
theorem PlainWithin.insert (h : (obj members).PlainWithin (levels + 1))
    (hv : v.PlainWithin levels) : (obj (insertMember k v members)).PlainWithin (levels + 1) := by
  induction members with
  | nil => exact plainWithin_cons.2 ⟨hv, nofun, h⟩
  | cons m rest ih =>
    obtain ⟨k', v'⟩ := m
    obtain ⟨hv', hhead, hrest⟩ := plainWithin_cons.1 h
    rw [insertMember]
    split_ifs with hlt heq
    · exact plainWithin_cons.2 ⟨hv, by simpa using hlt, h⟩
    · exact plainWithin_cons.2 ⟨hv, heq ▸ hhead, hrest⟩
    · -- the key is neither below that of the first member nor the same
      have hgt : k' < k := by
        by_contra hge
        exact heq (String.le_antisymm (String.not_lt.1 hge) (String.not_lt.1 hlt))
      exact plainWithin_cons.2 ⟨hv', head?_insertMember hgt hhead, ih hrest⟩

/-- An object of plain values is plain, one level deeper. -/
theorem PlainWithin.ofMembers (h : ∀ m ∈ members, m.2.PlainWithin levels) :
    (ofMembers members).PlainWithin (levels + 1) := by
  have hall (acc : List (String × Json)) (hacc : (obj acc).PlainWithin (levels + 1)) :
      (obj (members.foldl (fun acc m => insertMember m.1 m.2 acc) acc)).PlainWithin
        (levels + 1) := by
    induction members generalizing acc with
    | nil => exact hacc
    | cons m rest ih =>
      exact ih (fun m' hm' => h m' (List.mem_cons_of_mem _ hm')) _
        (hacc.insert (h m List.mem_cons_self))
  exact hall [] (.empty levels)

/-- A member that may be absent is plain if its value is. -/
theorem PlainWithin.optional {o : Option Json} (h : ∀ v ∈ o, v.PlainWithin levels) :
    ∀ m ∈ (o.map fun v => (k, v)).toList, m.2.PlainWithin levels := by
  cases o with
  | none => exact nofun
  | some v => simpa using h

end ToolRelay.Json
