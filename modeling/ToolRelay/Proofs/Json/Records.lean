import Mathlib.Tactic.SplitIfs
import ToolRelay.Json.Decoder
import ToolRelay.Proofs.Json.Members

/-!
# Decoding records

A record is read from members each of which is fit for the field of its key, when no key occurs
twice. What is built from it is put together field by field: from the member of the field, or from
the default of a field that is absent.

## Main results

* `Json.Record.scan_eq_none`: members that are fit have no fault.
* `Json.Record.build_field`, `Json.Record.build_fieldOr`: one more field of what is built.
* `Json.Record.build_of_decoder_ok`: what was read from an object is built from its members.
* `Json.Decoder.list_ok`: a sequence is read item by item.
-/

namespace ToolRelay.Json

variable {α β : Type} {levels : Nat}

/-- What succeeds for what is written of each item succeeds for the sequence. -/
theorem mapM_map_of_pure {γ : Type} {m : Type → Type} [Monad m] [LawfulMonad m] {f : β → m γ}
    {write : α → β} {read : α → γ} {xs : List α} (h : ∀ x ∈ xs, f (write x) = pure (read x)) :
    (xs.map write).mapM f = pure (xs.map read) := by
  induction xs with
  | nil => simp
  | cons x rest ih =>
    rw [List.map_cons, List.mapM_cons, h x List.mem_cons_self,
      ih fun y hy => h y (List.mem_cons_of_mem x hy)]
    simp

namespace Record

theorem faultOf_eq_none {f : Decoder α} {d : Draft} {a : α} (h : f levels d = .ok a) :
    faultOf f levels d = none := by
  rw [faultOf, h]

/-- A member is fit when the field of its key has no objection. -/
def Fit (fields : List FieldInfo) (levels : Nat) (m : String × Json) : Prop :=
  ∃ field, fields.find? (·.name == m.1) = some field ∧
    field.check levels (Draft.ofJson m.2) = none

/-- A member is fit when the decoder of the field of its key reads it. -/
theorem fit_of_ok {fields : List FieldInfo} {k : String} {v : Json} {f : Decoder α} {a : α}
    {isOptional mayEnd : Bool}
    (hfield : fields.find? (·.name == k) = some ⟨k, faultOf f, isOptional, mayEnd⟩)
    (h : f levels (Draft.ofJson v) = .ok a) : Fit fields levels (k, v) :=
  ⟨_, hfield, faultOf_eq_none h⟩

/-- Members that are fit have no fault, unless a key occurs twice. -/
theorem scan_eq_none {fields : List FieldInfo} {members : List (String × Json)}
    (hfit : ∀ m ∈ members, Fit fields levels m) {seen : List String}
    (hkeys : (seen ++ members.map (·.1)).Nodup) :
    scan fields levels seen (Draft.ofMembers members) = none := by
  induction members generalizing seen with
  | nil => rfl
  | cons m rest ih =>
    obtain ⟨k, v⟩ := m
    obtain ⟨field, hfield, hcheck⟩ := hfit (k, v) List.mem_cons_self
    rw [List.map_cons] at hkeys
    have hnew : seen.contains k = false := by
      apply Bool.eq_false_iff.2
      intro hmem
      have hseen : k ∈ seen := List.contains_iff_mem.1 hmem
      exact (List.nodup_append.1 hkeys).2.2 k hseen k List.mem_cons_self rfl
    -- the key counts as seen from here on
    have hkeys' : (k :: seen ++ rest.map (·.1)).Nodup :=
      List.perm_middle.nodup_iff.1 hkeys
    rw [Draft.ofMembers, scan, hfield]
    simp only [hnew, hcheck, Bool.false_eq_true, if_false]
    exact ih (fun m' hm' => hfit m' (List.mem_cons_of_mem _ hm')) hkeys'

/-- The draft of a member is that of the value under its key. -/
theorem memberOf_ofMembers (members : List (String × Json)) (name : String) :
    memberOf (Draft.ofMembers members) name = (members.lookup name).map Draft.ofJson := by
  induction members with
  | nil => rfl
  | cons m rest ih =>
    obtain ⟨k, v⟩ := m
    rw [Draft.ofMembers, memberOf, List.find?_cons, List.lookup_cons]
    by_cases hk : k = name
    · subst hk
      simp
    · have hne : (some k == some name) = false := by simp [hk]
      have hne' : (name == k) = false := by simp [Ne.symm hk]
      simp only [hne, hne']
      exact ih

variable {r : Record (α → β)} {get : String → Option Draft} {g : α → β} {f : Decoder α} {a : α}
  {name : String}

theorem build_field (hr : r.build levels get = .ok g) {d : Draft} (hd : get name = some d)
    (hf : f levels d = .ok a) : (r.field name f).build levels get = .ok (g a) := by
  simp only [field, fieldWith, hr, hd, hf]
  rfl

/-- A field that may be absent is read from its member or is the default. -/
theorem build_fieldOr (hr : r.build levels get = .ok g) {absent : α}
    (hf : (get name).elim (.ok absent) (f levels) = .ok a) :
    (r.fieldOr name f absent).build levels get = .ok (g a) := by
  rcases hd : get name with _ | d
  · rw [hd] at hf
    cases hf
    simp only [fieldOr, fieldWith, hr, hd]
    rfl
  · rw [hd] at hf
    change f levels d = .ok a at hf
    simp only [fieldOr, fieldWith, hr, hd, hf]
    rfl

/-- A record is read from its members when none has a fault and it can be built. -/
theorem decoder_ok {r : Record α} {what : String} {members : List (String × Json)} {a : α}
    (hscan : scan r.fields levels [] (Draft.ofMembers members) = none)
    (hbuild : r.build levels (memberOf (Draft.ofMembers members)) = .ok a) :
    r.decoder what (levels + 1) (Draft.ofJson (.obj members)) = .ok a := by
  rw [Draft.ofJson, decoder, decoderWith]
  simp only [hscan, hbuild, if_true]

/-- What was read from an object is built from its members. -/
theorem build_of_decoder_ok {r : Record α} (what : String) {members : List (String × Json)} {a : α}
    (h : r.decoder what (levels + 1) (Draft.ofJson (.obj members)) = .ok a) :
    r.build levels (memberOf (Draft.ofMembers members)) = .ok a := by
  rw [Draft.ofJson, decoder, decoderWith] at h
  split at h
  · cases h
  · simpa using h

/-- A last field that may be absent changes nothing of what the fields before it are read as. -/
theorem exists_of_build_fieldOr {absent : α} {b : β} (hr : r.build levels get = .ok g)
    (h : (r.fieldOr name f absent).build levels get = .ok b) : ∃ a, b = g a := by
  simp only [fieldOr, fieldWith, hr] at h
  rcases hd : get name with _ | d
  · rw [hd] at h
    exact ⟨absent, (Except.ok.inj h).symm⟩
  · rw [hd] at h
    rcases hf : f levels d with why | a
    · simp only [hf] at h
      cases h
    · simp only [hf] at h
      exact ⟨a, (Except.ok.inj h).symm⟩

/-- The draft of a member that an object has. -/
theorem memberOf_of_get? {members : List (String × Json)} {k : String} {v : Json}
    (h : (obj members).get? k = some v) :
    memberOf (Draft.ofMembers members) k = some (Draft.ofJson v) := by
  rw [memberOf_ofMembers, lookup_eq_findMember]
  exact congrArg (Option.map Draft.ofJson) h

end Record

namespace Decoder

theorem ofMembers_eq_map (members : List (String × Json)) :
    Draft.ofMembers members = members.map fun m => (some m.1, Draft.ofJson m.2) := by
  induction members with
  | nil => rfl
  | cons m rest ih =>
    obtain ⟨k, v⟩ := m
    rw [Draft.ofMembers, ih, List.map_cons]

theorem ofItems_map (write : α → Json) (xs : List α) :
    Draft.ofItems (xs.map write) = xs.map fun x => Draft.ofJson (write x) := by
  induction xs with
  | nil => rfl
  | cons x rest ih => rw [List.map_cons, Draft.ofItems, ih, List.map_cons]

/-- A sequence is read when each of its items is. -/
theorem list_ok {f : Decoder α} {write : α → Json} {xs : List α}
    (h : ∀ x ∈ xs, f levels (Draft.ofJson (write x)) = .ok x) :
    list f (levels + 1) (Draft.ofJson (.arr (xs.map write))) = .ok xs := by
  have hitems : (xs.map fun x => Draft.ofJson (write x)).mapM (f levels) = .ok (xs.map id) :=
    mapM_map_of_pure h
  rw [List.map_id] at hitems
  rw [Draft.ofJson, list, ofItems_map, hitems]
  rfl

theorem optional_ok {f : Decoder α} {d : Draft} {a : α} (hd : d ≠ .null)
    (h : f levels d = .ok a) : optional f levels d = .ok (some a) := by
  cases d with
  | null => exact absurd rfl hd
  | _ => simp only [optional, h, Except.map]

theorem uint64_ok (n : UInt64) : uint64 levels (Draft.ofJson (ofUInt64 n)) = .ok n := by
  have hrange : (0 : Int) ≤ n.toNat ∧ (n.toNat : Int) < UInt64.size :=
    ⟨Int.natCast_nonneg _, by exact_mod_cast n.toNat_lt⟩
  rw [ofUInt64, Draft.ofJson, uint64, if_pos hrange, Int.toNat_natCast, UInt64.ofNat_toNat]

theorem int64_ok (n : Int64) : int64 levels (Draft.ofJson (.int n.toInt)) = .ok n := by
  rw [Draft.ofJson, int64, if_pos ⟨n.minValue_le_toInt, n.toInt_le⟩, Int64.ofInt_toInt]

/-- What a text denotes is what its draft is decoded to. -/
theorem ofText_ok {f : Decoder α} {text : String} {d : Draft} {a : α}
    (hread : Draft.read text = (d, true)) (h : f maxLevels d = .ok a) : ofText f text = .ok a := by
  simp only [ofText, hread, h]
  rfl

end Decoder

end ToolRelay.Json
