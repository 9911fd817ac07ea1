import ToolRelay.Proofs.Json.Records
import ToolRelay.Proofs.Json.Spelling
import ToolRelay.Proofs.Toml.Document
import ToolRelay.Server.Written

/-!
# What is written of an entry

Both formats write an entry as the same slots, of which those with a default are left empty and not
written. An entry is read back from its slots in either format, and so is a listing from its JSON
text.

## Main definitions

* `Entry.slots`: the slots of an entry, for any kind of values.
* `filled`: the slots that are written.

## Main results

* `Entry.members_eq`, `Entry.tomlFields?_eq`: what is written are the slots that are filled.
* `Entry.decoder_toJson`, `Entry.ofToml?_table`: an entry is read back.
* `Listing.ofJson?_toJsonText`: a listing is read back from its JSON text.
-/

namespace ToolRelay

/-! ## Slots -/

section Slots

variable {α : Type} {slots : List (String × Option α)}

/-- The slots that hold something, in order. -/
def filled (slots : List (String × Option α)) : List (String × α) :=
  slots.filterMap fun slot => slot.2.map (slot.1, ·)

theorem mem_filled {m : String × α} : m ∈ filled slots ↔ (m.1, some m.2) ∈ slots := by
  rw [filled, List.mem_filterMap]
  constructor
  · rintro ⟨⟨k, o⟩, hmem, hm⟩
    obtain ⟨v, rfl, rfl⟩ := Option.map_eq_some_iff.1 hm
    exact hmem
  · intro hmem
    exact ⟨_, hmem, rfl⟩

theorem keys_filled_sublist (slots : List (String × Option α)) :
    ((filled slots).map (·.1)).Sublist (slots.map (·.1)) := by
  induction slots with
  | nil => exact .slnil
  | cons slot rest ih =>
    obtain ⟨k, _ | v⟩ := slot
    · exact ih.cons _
    · exact ih.cons_cons _

/-- Under a key that no other slot has, what is found is what its slot holds. -/
theorem lookup_filled (h : (slots.map (·.1)).Nodup) (k : String) :
    (filled slots).lookup k = (slots.lookup k).join := by
  induction slots with
  | nil => rfl
  | cons slot rest ih =>
    obtain ⟨k', o⟩ := slot
    rw [List.map_cons, List.nodup_cons] at h
    have hrest := ih h.2
    by_cases hk : k = k'
    · subst hk
      rw [List.lookup_cons_self]
      cases o with
      | none =>
        -- an empty slot is skipped, and its key does not occur again
        change (filled rest).lookup k = none
        rw [List.lookup_eq_none_iff]
        intro p hp
        have hmem : (p.1, some p.2) ∈ rest := mem_filled.1 hp
        have hkey : p.1 ∈ rest.map (·.1) := List.mem_map.2 ⟨_, hmem, rfl⟩
        exact bne_iff_ne.2 fun hkp => h.1 (hkp ▸ hkey)
      | some v => exact List.lookup_cons_self
    · have hne : (k == k') = false := by simp [hk]
      rw [List.lookup_cons, hne]
      cases o with
      | none => exact hrest
      | some v =>
        change ((k', v) :: filled rest).lookup k = _
        rw [List.lookup_cons, hne]
        exact hrest

end Slots

namespace Entry

variable {α : Type} (text : String → α) (number : UInt64 → α) (flag : Bool → α) (e : Entry)

/-- The slots of an entry, in the order of the fields. A field that has its default fills none. -/
def slots : List (String × Option α) :=
  [("name", some (text e.name)), ("url", some (text e.url)), ("apiKey", e.apiKey.map text),
    ("timeoutMs", e.timeoutMs.map number),
    ("enabled", if e.enabled then none else some (flag false)),
    ("transport", e.transport.map fun t => text t.name),
    ("verifyTls", if e.verifyTls then none else some (flag false))]

theorem keys_slots : (e.slots text number flag).map (·.1) = fieldNames := rfl

theorem nodup_fieldNames : fieldNames.Nodup := by decide

theorem lookup_filled_slots (k : String) :
    (filled (e.slots text number flag)).lookup k = ((e.slots text number flag).lookup k).join :=
  lookup_filled (by rw [keys_slots]; exact nodup_fieldNames) k

theorem nodup_keys_filled_slots :
    ((filled (e.slots text number flag)).map (·.1)).Nodup :=
  (keys_filled_sublist _).nodup (by rw [keys_slots]; exact nodup_fieldNames)

/-- An optional field has its default. -/
def holdsDefault (e : Entry) (field : String) : Bool :=
  if field = "apiKey" then e.apiKey.isNone
  else if field = "timeoutMs" then e.timeoutMs.isNone
  else if field = "enabled" then e.enabled
  else if field = "transport" then e.transport.isNone
  else if field = "verifyTls" then e.verifyTls
  else false

/-- The fields that are written: the required ones, and those of the optional ones that differ from
their default. -/
def writtenFields (e : Entry) : List String := fieldNames.filter fun field => !e.holdsDefault field

theorem keys_filled_slots : (filled (e.slots text number flag)).map (·.1) = e.writtenFields := by
  obtain ⟨name, url, apiKey, timeoutMs, enabled, transport, verifyTls⟩ := e
  cases apiKey <;> cases timeoutMs <;> cases enabled <;> cases transport <;> cases verifyTls <;> rfl

/-- The timeout of an entry fits the integers of TOML. -/
def FitsToml (e : Entry) : Prop := ∀ n ∈ e.timeoutMs, (n.toNat : Int) ≤ Int64.maxValue.toInt

instance : Decidable e.FitsToml := inferInstanceAs (Decidable (∀ n ∈ e.timeoutMs, _))

theorem members_eq : e.members = filled (e.slots Json.str Json.ofUInt64 Json.bool) := by
  obtain ⟨name, url, apiKey, timeoutMs, enabled, transport, verifyTls⟩ := e
  cases apiKey <;> cases timeoutMs <;> cases enabled <;> cases transport <;> cases verifyTls <;> rfl

/-- The slots of an entry in TOML, whose integers are signed. -/
def tomlSlots (e : Entry) : List (String × Option Toml) :=
  e.slots Toml.str (fun n => Toml.int n.toNat) Toml.bool

theorem tomlFields?_eq :
    e.tomlFields? = if e.FitsToml then some (filled e.tomlSlots) else none := by
  have hfits : (e.timeoutMs.any fun n => Int64.maxValue.toInt < n.toNat) = true ↔ ¬e.FitsToml := by
    rw [FitsToml]
    cases e.timeoutMs <;> simp
  rw [tomlFields?]
  by_cases h : e.FitsToml
  · rw [if_neg (fun hany => hfits.1 hany h), if_pos h]
    obtain ⟨name, url, apiKey, timeoutMs, enabled, transport, verifyTls⟩ := e
    cases apiKey <;> cases timeoutMs <;> cases enabled <;> cases transport <;>
      cases verifyTls <;> rfl
  · rw [if_pos (hfits.2 h), if_neg h]

/-! ## Back from JSON -/

variable {e}

open Json (Decoder Record)

theorem lookup_members (e : Entry) (k : String) :
    e.members.lookup k = ((e.slots Json.str Json.ofUInt64 Json.bool).lookup k).join := by
  rw [members_eq, lookup_filled_slots]

theorem kind_ok (t : TransportKind) (levels : Nat) :
    TransportKind.decoder levels (.str t.name) = .ok t := by
  cases t <;> rfl

theorem timeout_ok (n : UInt64) (levels : Nat) :
    Decoder.optional Decoder.uint64 levels (Json.Draft.ofJson (Json.ofUInt64 n)) = .ok (some n) :=
  Decoder.optional_ok (by simp [Json.ofUInt64, Json.Draft.ofJson]) (Decoder.uint64_ok n)

theorem fit_members (e : Entry) (levels : Nat) {m : String × Json} (hm : m ∈ e.members) :
    Record.Fit record.fields levels m := by
  rw [members_eq, mem_filled] at hm
  obtain ⟨k, v⟩ := m
  simp only [slots, List.mem_cons, Prod.mk.injEq, Option.some.injEq, List.not_mem_nil,
    or_false] at hm
  -- one case for each slot, which holds what the field of its key reads
  rcases hm with ⟨rfl, rfl⟩ | ⟨rfl, rfl⟩ | ⟨rfl, hv⟩ | ⟨rfl, hv⟩ | ⟨rfl, hv⟩ | ⟨rfl, hv⟩ | ⟨rfl, hv⟩
  · exact Record.fit_of_ok rfl (rfl : Decoder.text levels (.str e.name) = _)
  · exact Record.fit_of_ok rfl (rfl : Decoder.text levels (.str e.url) = _)
  · obtain ⟨key, -, rfl⟩ := Option.map_eq_some_iff.1 hv.symm
    exact Record.fit_of_ok rfl (rfl : Decoder.optional Decoder.text levels (.str key) = _)
  · obtain ⟨n, -, rfl⟩ := Option.map_eq_some_iff.1 hv.symm
    exact Record.fit_of_ok rfl (timeout_ok n levels)
  · obtain ⟨-, rfl⟩ : e.enabled = false ∧ v = .bool false := by simpa using hv
    exact Record.fit_of_ok rfl (rfl : Decoder.bool levels (.bool false) = _)
  · obtain ⟨t, -, rfl⟩ := Option.map_eq_some_iff.1 hv.symm
    have hkind := Decoder.optional_ok (by simp) (kind_ok t levels)
    exact Record.fit_of_ok rfl hkind
  · obtain ⟨-, rfl⟩ : e.verifyTls = false ∧ v = .bool false := by simpa using hv
    exact Record.fit_of_ok rfl (rfl : Decoder.bool levels (.bool false) = _)

/-- A flag is read from its slot, or is set when its slot is empty. -/
theorem flag_ok (b : Bool) (levels : Nat) :
    ((if b then none else some (Json.bool false)).map Json.Draft.ofJson).elim (.ok true)
      (Decoder.bool levels) = .ok b := by
  cases b <;> rfl

/-- What may be missing is read from its slot, or is nothing when its slot is empty. -/
theorem option_ok {γ : Type} {f : Decoder γ} {levels : Nat} (write : γ → Json)
    (hnull : ∀ a, Json.Draft.ofJson (write a) ≠ .null)
    (h : ∀ a, f levels (Json.Draft.ofJson (write a)) = .ok a) (o : Option γ) :
    ((o.map write).map Json.Draft.ofJson).elim (.ok none) (Decoder.optional f levels) = .ok o := by
  cases o with
  | none => rfl
  | some a => exact Decoder.optional_ok (hnull a) (h a)

theorem build_members (e : Entry) (levels : Nat) :
    record.build levels (Record.memberOf (Json.Draft.ofMembers e.members)) = .ok e := by
  have hget (k : String) : Record.memberOf (Json.Draft.ofMembers e.members) k =
      (((e.slots Json.str Json.ofUInt64 Json.bool).lookup k).join).map Json.Draft.ofJson := by
    rw [Record.memberOf_ofMembers, lookup_members]
  generalize Record.memberOf (Json.Draft.ofMembers e.members) = get at hget ⊢
  have hname : (get "name").map (Decoder.text levels) = some (.ok e.name) := by rw [hget]; rfl
  have hurl : (get "url").map (Decoder.text levels) = some (.ok e.url) := by rw [hget]; rfl
  have hkey : (get "apiKey").elim (.ok none) (Decoder.optional Decoder.text levels) =
      .ok e.apiKey := by
    rw [hget]
    exact option_ok Json.str (by simp [Json.Draft.ofJson]) (fun _ => rfl) e.apiKey
  have htimeout : (get "timeoutMs").elim (.ok none) (Decoder.optional Decoder.uint64 levels) =
      .ok e.timeoutMs := by
    rw [hget]
    exact option_ok Json.ofUInt64 (by simp [Json.ofUInt64, Json.Draft.ofJson]) Decoder.uint64_ok _
  have henabled : (get "enabled").elim (.ok true) (Decoder.bool levels) = .ok e.enabled := by
    rw [hget]
    exact flag_ok e.enabled levels
  have hkind : (get "transport").elim (.ok none)
      (Decoder.optional TransportKind.decoder levels) = .ok e.transport := by
    rw [hget]
    exact option_ok (fun t => Json.str t.name) (by simp [Json.Draft.ofJson]) (kind_ok · levels) _
  have hverify : (get "verifyTls").elim (.ok true) (Decoder.bool levels) = .ok e.verifyTls := by
    rw [hget]
    exact flag_ok e.verifyTls levels
  obtain ⟨name, hgetName, hname⟩ := Option.map_eq_some_iff.1 hname
  obtain ⟨url, hgetUrl, hurl⟩ := Option.map_eq_some_iff.1 hurl
  -- the fields are put into the constructor one after the other
  have hstart : (Record.pure Entry.mk).build levels get = .ok Entry.mk := rfl
  have hrequired := Record.build_field (Record.build_field hstart hgetName hname) hgetUrl hurl
  have hlimits := Record.build_fieldOr (Record.build_fieldOr hrequired hkey) htimeout
  exact Record.build_fieldOr (Record.build_fieldOr (Record.build_fieldOr hlimits henabled) hkind)
    hverify

/-- An entry is read back from its JSON form. -/
theorem decoder_toJson (e : Entry) (levels : Nat) :
    decoder (levels + 1) (Json.Draft.ofJson e.toJson) = .ok e := by
  refine Record.decoder_ok (Record.scan_eq_none (fun m hm => fit_members e levels hm) ?_)
    (build_members e levels)
  rw [List.nil_append, members_eq]
  exact nodup_keys_filled_slots _ _ _ e

theorem plain_toJson (e : Entry) : e.toJson.plain = true := by
  have hword (n : UInt64) : (Json.ofUInt64 n).plain = true := by
    have hrange : Json.IntInRange n.toNat :=
      ⟨le_trans (by decide) (Int.natCast_nonneg n.toNat), by exact_mod_cast n.toNat_lt⟩
    rw [Json.ofUInt64, Json.plain, decide_eq_true hrange]
  obtain ⟨name, url, apiKey, timeoutMs, enabled, transport, verifyTls⟩ := e
  cases apiKey <;> cases timeoutMs <;> cases enabled <;> cases transport <;> cases verifyTls <;>
    simp [toJson, members, Json.plain, Json.plainMembers, hword]

/-! ## Back from TOML -/

theorem tomlField?_option {γ : Type} {get : String → Option Toml} {name : String}
    (read : Toml → Option γ) (write : γ → Toml) (h : ∀ a, read (write a) = some a) {o : Option γ}
    (hget : get name = o.map write) : tomlField? get name read = some o := by
  rw [tomlField?, hget]
  cases o with
  | none => rfl
  | some a => exact congrArg (Option.map some) (h a)

theorem tomlNumber?_ok (n : UInt64) : tomlNumber? (.int n.toNat) = some n := by
  rw [tomlNumber?, if_pos (Int.natCast_nonneg _), Int.toNat_natCast, UInt64.ofNat_toNat]

theorem tomlKind?_ok (t : TransportKind) : tomlKind? (.str t.name) = some t := by
  cases t <;> rfl

/-- The lines of an entry whose timeout fits are read back, whatever its texts are. -/
theorem isSection_tomlSlots {e : Entry} (h : e.FitsToml) : Toml.IsSection (filled e.tomlSlots) := by
  have hkey {m : String × Toml} (hm : m ∈ filled e.tomlSlots) : m.1 ∈ fieldNames :=
    (keys_filled_sublist _).subset (List.mem_map_of_mem hm)
  have hbare : ∀ k ∈ fieldNames, Toml.IsBare k := by
    simp [fieldNames, Toml.IsBare, Toml.isKeyChar]
  refine ⟨fun m hm => hbare _ (hkey hm), ?_, nodup_keys_filled_slots _ _ _ e⟩
  rintro ⟨k, v⟩ hm
  rw [mem_filled] at hm
  simp only [tomlSlots, slots, List.mem_cons, Prod.mk.injEq, Option.some.injEq, List.not_mem_nil,
    or_false] at hm
  -- one case for each slot; only the timeout can fail to fit
  rcases hm with ⟨-, rfl⟩ | ⟨-, rfl⟩ | ⟨-, hv⟩ | ⟨-, hv⟩ | ⟨-, hv⟩ | ⟨-, hv⟩ | ⟨-, hv⟩
  · exact .str _
  · exact .str _
  · obtain ⟨key, -, rfl⟩ := Option.map_eq_some_iff.1 hv.symm
    exact .str _
  · obtain ⟨n, hn, rfl⟩ := Option.map_eq_some_iff.1 hv.symm
    exact .int (h n hn)
  · obtain ⟨-, rfl⟩ : e.enabled = false ∧ v = .bool false := by simpa using hv
    exact .bool _
  · obtain ⟨t, -, rfl⟩ := Option.map_eq_some_iff.1 hv.symm
    exact .str _
  · obtain ⟨-, rfl⟩ : e.verifyTls = false ∧ v = .bool false := by simpa using hv
    exact .bool _

theorem ofTomlFields?_slots (e : Entry) {get : String → Option Toml}
    (hget : ∀ k, get k = (e.tomlSlots.lookup k).join) : ofTomlFields? get = some e := by
  have hname : (get "name").bind tomlText? = some e.name := by rw [hget]; rfl
  have hurl : (get "url").bind tomlText? = some e.url := by rw [hget]; rfl
  have hkey := tomlField?_option tomlText? Toml.str (fun _ => rfl) (hget "apiKey")
  have htimeout :=
    tomlField?_option tomlNumber? (fun n => .int n.toNat) tomlNumber?_ok (hget "timeoutMs")
  have hkind := tomlField?_option tomlKind? (fun t => .str t.name) tomlKind?_ok (hget "transport")
  have hslot {name : String} {b : Bool} (hb : get name = if b then none else some (.bool false)) :
      tomlField? get name tomlBool? = some (if b then none else some false) := by
    rw [tomlField?, hb]
    cases b <;> rfl
  have henabled := hslot (b := e.enabled) (hget "enabled")
  have hverify := hslot (b := e.verifyTls) (hget "verifyTls")
  have hflag (b : Bool) : (if b then none else some false : Option Bool).getD true = b := by
    cases b <;> rfl
  simp only [ofTomlFields?, hname, hurl, hkey, htimeout, hkind, henabled, hverify, hflag,
    Option.bind_eq_bind, Option.bind_some, Option.pure_def]

/-- An entry is read back from the table of its lines. -/
theorem ofToml?_table (e : Entry) : ofToml? (.table (filled e.tomlSlots)) = some e :=
  e.ofTomlFields?_slots fun k => lookup_filled_slots _ _ _ e k

end Entry

namespace Listing

open Json (Decoder Record)

theorem plain_toJson (l : Listing) : l.toJson.plain = true := by
  have hitems : ∀ es : List Entry, Json.plainItems (es.map Entry.toJson) = true := by
    intro es
    induction es with
    | nil => rfl
    | cons e rest ih => rw [List.map_cons, Json.plainItems, e.plain_toJson, ih]; rfl
  simp [toJson, Json.plain, Json.plainMembers, hitems]

/-- A listing is read back from its JSON text. -/
theorem ofJson?_toJsonText (l : Listing) : ofJson? l.toJsonText = .ok l := by
  have hread : Json.Draft.read l.toJsonText = (Json.Draft.ofJson l.toJson, true) :=
    Json.Draft.read_renderIndented l.plain_toJson
  have hlist : Decoder.list Entry.decoder 126
      (Json.Draft.ofJson (.arr (l.servers.map Entry.toJson))) = .ok l.servers :=
    Decoder.list_ok fun e _ => e.decoder_toJson 124
  -- the list of servers is the only member, and stands under its key
  have hfit : ∀ m ∈ [("servers", Json.arr (l.servers.map Entry.toJson))],
      Record.Fit record.fields 126 m := by
    intro m hm
    rw [List.mem_singleton.1 hm]
    exact ⟨_, rfl, Record.faultOf_eq_none hlist⟩
  have hstart : (Record.pure Listing.mk).build 126 (Record.memberOf (Json.Draft.ofMembers
      [("servers", Json.arr (l.servers.map Entry.toJson))])) = .ok Listing.mk := rfl
  have hdecode : record.decoder "McpServersConfig" Json.maxLevels (Json.Draft.ofJson l.toJson) =
      .ok l := by
    refine Record.decoder_ok (Record.scan_eq_none hfit (by simp)) ?_
    exact Record.build_fieldOr hstart (a := l.servers) (by
      rw [Record.memberOf_ofMembers, List.lookup_cons_self]
      exact hlist)
  rw [ofJson?, Decoder.ofText_ok hread hdecode]

/-- The names that JSON text gives the members of each server. -/
def jsonKeys? (text : String) : Option (List (List String)) :=
  match Json.Draft.read text with
  | (.obj [(some "servers", .arr items true)] true, true) =>
    items.mapM fun
      | .obj members true => members.mapM (·.1)
      | _ => none
  | _ => none

/-- The JSON text of a listing has just the members of fields that are to be written. -/
theorem jsonKeys?_toJsonText (l : Listing) :
    jsonKeys? l.toJsonText = some (l.servers.map Entry.writtenFields) := by
  have hkeys (e : Entry) : (Json.Draft.ofMembers e.members).mapM (·.1) = some e.writtenFields := by
    rw [Decoder.ofMembers_eq_map, ← Entry.keys_filled_slots Json.str Json.ofUInt64 Json.bool,
      ← Entry.members_eq]
    exact Json.mapM_map_of_pure fun _ _ => rfl
  have hread : Json.Draft.read l.toJsonText = (Json.Draft.ofJson l.toJson, true) :=
    Json.Draft.read_renderIndented l.plain_toJson
  rw [jsonKeys?, hread, toJson, Json.Draft.ofJson, Json.Draft.ofMembers, Json.Draft.ofJson,
    Decoder.ofItems_map]
  exact Json.mapM_map_of_pure fun e _ => hkeys e

/-- The TOML text of a listing whose timeouts fit. -/
def tomlText (l : Listing) : String :=
  Toml.renderSections "servers" (l.servers.map fun e => filled e.tomlSlots)

theorem toToml?_eq (l : Listing) :
    l.toToml? = if ∀ e ∈ l.servers, e.FitsToml then .ok l.tomlText else .error .tomlRange := by
  have hfields : ∀ es : List Entry, es.mapM Entry.tomlFields? =
      if ∀ e ∈ es, e.FitsToml then some (es.map fun e => filled e.tomlSlots) else none := by
    intro es
    induction es with
    | nil => rfl
    | cons e rest ih =>
      rw [List.mapM_cons, ih, Entry.tomlFields?_eq]
      by_cases he : e.FitsToml
      · by_cases hrest : ∀ e ∈ rest, e.FitsToml
        · rw [if_pos he, if_pos hrest, if_pos (List.forall_mem_cons.2 ⟨he, hrest⟩)]
          rfl
        · rw [if_pos he, if_neg hrest, if_neg fun hall => hrest (List.forall_mem_cons.1 hall).2]
          rfl
      · rw [if_neg he, if_neg fun hall => he (List.forall_mem_cons.1 hall).1]
        rfl
  rw [toToml?, hfields]
  by_cases h : ∀ e ∈ l.servers, e.FitsToml
  · rw [if_pos h, if_pos h]
    rfl
  · rw [if_neg h, if_neg h]

theorem read?_tomlText {l : Listing} (h : ∀ e ∈ l.servers, e.FitsToml) :
    Toml.read? l.tomlText =
      some (.table [("servers", .arr (l.servers.map fun e => .table (filled e.tomlSlots)))]) := by
  have hkey : Toml.IsBare "servers" := by simp [Toml.IsBare, Toml.isKeyChar]
  rw [tomlText, Toml.read?_renderSections hkey, List.map_map]
  · rfl
  · intro s hs
    obtain ⟨e, he, rfl⟩ := List.mem_map.1 hs
    exact Entry.isSection_tomlSlots (h e he)

/-- A listing whose timeouts fit is read back from its TOML text. -/
theorem ofToml?_tomlText {l : Listing} (h : ∀ e ∈ l.servers, e.FitsToml) :
    ofToml? l.tomlText = .ok l := by
  have hitems : (l.servers.map fun e => Toml.table (filled e.tomlSlots)).mapM Entry.ofToml? =
      some (l.servers.map id) := Json.mapM_map_of_pure fun e _ => e.ofToml?_table
  rw [List.map_id] at hitems
  rw [ofToml?, read?_tomlText h]
  simp only [Option.bind_eq_bind, Option.bind_some, Toml.get?, List.lookup_cons_self, hitems,
    Option.pure_def]

/-- The names that TOML text gives the entries of each server. -/
def tomlKeys? (text : String) : Option (List (List String)) :=
  match Toml.read? text with
  | some (.table [("servers", .arr items)]) =>
    items.mapM fun
      | .table entries => some (entries.map (·.1))
      | _ => none
  | _ => none

/-- The TOML text of a listing has just the lines of fields that are to be written. -/
theorem tomlKeys?_tomlText {l : Listing} (h : ∀ e ∈ l.servers, e.FitsToml) :
    tomlKeys? l.tomlText = some (l.servers.map Entry.writtenFields) := by
  rw [tomlKeys?, read?_tomlText h]
  apply Json.mapM_map_of_pure
  intro e _
  change some ((filled e.tomlSlots).map (·.1)) = some e.writtenFields
  rw [Entry.tomlSlots, Entry.keys_filled_slots]

end Listing

end ToolRelay
