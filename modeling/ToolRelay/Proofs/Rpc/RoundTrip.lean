import ToolRelay.Proofs.Json.Records
import ToolRelay.Proofs.Rpc.Envelope
import ToolRelay.Proofs.Stream.Reader
import ToolRelay.Proofs.Text.Numerals

/-!
# Messages there and back

A request names its id and is not taken for a response, not even where the server sends it back. A
reply that names the id, as a number or as its numeral, is taken for the answer to the request, also
once it was written and read again: the event that carries it puts it into the box of whoever is
registered for the id, and what it tells is read as it was meant, a result as that result and an
error as an error with the same code and the same words. An error counts even beside a result. No
response at all is read as a message that breaks the protocol.

## Main definitions

* `Rpc.Spells`: the spellings of an id.
* `Rpc.reply`, `Rpc.errorMember`: what servers reply.
* `Rpc.Arrives`: a reply reaches whoever waits for it.

## Main results

* `Rpc.ErrorObject.failure_ofValue`: an error is read as it was written.
* `Rpc.result_of_isResponse`: a response is read as its result or as an error.
* `StreamLink.handle_of_waiter`: what an event does that carries an awaited response.
* `Rpc.wire_round_trip`: the round trip of requests and replies.
-/

namespace ToolRelay

/-- An event that carries a response puts it into the box of whoever waits for it, and uses up the
registration. -/
theorem StreamLink.handle_of_waiter {l : StreamLink} {e : StreamEvent} {id : UInt64} {raw : Json}
    {t : Nat} (hname : e.name ≠ "endpoint") (hread : Json.read? e.data = some raw)
    (hanswers : Rpc.Answers id raw) (halive : l.desk.readerAlive = true)
    (hticket : l.desk.ticketOf? id = some t) (hbox : l.desk.box t = .empty) :
    l.handle e = ([], { l with desk := { l.desk with
      waiters := l.desk.others id, boxes := l.desk.boxes.set t (.full raw) } }) := by
  have hresponse : responseOf? e.data = some (id, raw) := responseOf?_eq_some.2 ⟨hread, hanswers⟩
  have hdeliver : l.desk.deliver id raw = (.handed t, { l.desk with
      waiters := l.desk.others id, boxes := l.desk.boxes.set t (.full raw) }) := by
    rcases StreamState.deliver_cases l.desk id raw with ⟨hdead, -⟩ | ⟨-, t', ht', -, heq⟩ | ⟨-,
      hfull, -⟩
    · exact absurd (halive.symm.trans hdead) (by decide)
    · obtain rfl := Option.some.inj (hticket.symm.trans ht')
      exact heq
    · exact absurd hbox (hfull t hticket)
  rw [handle, if_neg hname, hresponse]
  simp only [hdeliver]
  rfl

/-- What was put into a box is what its caller finds there. -/
theorem StreamState.look_of_set {d : StreamState} {t : Nat} (h : d.box t = .empty) (raw : Json)
    (waiters : List (UInt64 × Nat)) :
    ({ d with waiters, boxes := d.boxes.set t (.full raw) } : StreamState).look t =
      .response raw := by
  have hlt : t < d.boxes.length := lt_of_box_ne (by simp [h])
  rw [look, box_eq, List.getElem?_set_self hlt]
  rfl

namespace Rpc

variable {id : UInt64} {v i : Json}

/-! ## Ids -/

/-- The spellings of an id. -/
inductive Spells (id : UInt64) : Json → Prop where
  /-- A number. -/
  | number : Spells id (.ofUInt64 id)
  /-- The decimal numeral, as a text. -/
  | numeral : Spells id (.str (toString id))

/-- An id is read from either of its spellings. -/
theorem id?_of_spells (hi : Spells id i) (hv : v.get? "id" = some i) : id? v = some id := by
  cases hi with
  | number =>
    have hlt : id.toNat < UInt64.size := id.toNat_lt
    have hrange : (0 : Int) ≤ id.toNat ∧ (id.toNat : Int) < UInt64.size :=
      ⟨Int.natCast_nonneg _, by exact_mod_cast hlt⟩
    rw [id?, hv, Json.ofUInt64]
    simp only [Json.asUInt64?, if_pos hrange, Int.toNat_natCast, UInt64.ofNat_toNat]
  | numeral =>
    have htext : (toString id).toList = Decimal.digitChars id.toNat := String.toList_ofList
    rw [id?, hv]
    simp only [htext, Text.trimChars_digitChars, Text.readUInt64?_digitChars]

theorem Spells.plain (hi : Spells id i) (levels : Nat) : i.PlainWithin levels := by
  cases hi with
  | number => exact .uint64 levels id
  | numeral => exact .str levels _

/-! ## Requests -/

/-- A request with an id names it. -/
theorem id?_envelope (hid : id ≠ notificationId) (method : String) (params : Option Json) :
    id? (envelope id method params) = some id :=
  id?_of_spells .number (by rw [id_envelope, if_neg hid])

/-- A notification names none. -/
theorem id?_notification (method : String) (params : Option Json) :
    id? (envelope notificationId method params) = none := by
  rw [id?, id_envelope, if_pos rfl]

/-! ## Errors -/

/-- An error with a code and words is read as an error with this code and these words, whatever else
is told of it. -/
theorem ErrorObject.failure_ofValue {e : Json} {code : Int64} {words : String}
    (hcode : e.get? "code" = some (.int code.toInt))
    (hwords : e.get? "message" = some (.str words)) :
    (ofValue e).failure = .rpc code words := by
  rw [ofValue]
  split
  · -- the error is written as it should be
    next e' h =>
    cases e with
    | obj members =>
      have hbuild := Json.Record.build_of_decoder_ok "JsonRpcErrorObject" h
      have hfields : (((Json.Record.pure mk).field "code" Json.Decoder.int64).field "message"
          Json.Decoder.text).build (Json.obj members).depth
            (Json.Record.memberOf (Json.Draft.ofMembers members)) = .ok (mk code words) :=
        Json.Record.build_field (Json.Record.build_field rfl (Json.Record.memberOf_of_get? hcode)
          (Json.Decoder.int64_ok code)) (Json.Record.memberOf_of_get? hwords) rfl
      obtain ⟨data, rfl⟩ := Json.Record.exists_of_build_fieldOr hfields hbuild
      rfl
    | _ => cases hcode
  · -- it is not, but code and words are there
    have hread : (Json.int code.toInt).asInt64? = some code := by
      rw [Json.asInt64?, if_pos ⟨code.minValue_le_toInt, code.toInt_le⟩, Int64.ofInt_toInt]
    simp only [failure, hcode, hwords, Option.bind_some, hread, Json.asString?, Option.getD_some]

/-- An error as a reply tells it. -/
def errorMember (code : Int64) (words : String) (data : Option Json) : Json :=
  .ofMembers ([("code", .int code.toInt), ("message", .str words)] ++
    (data.map fun d => ("data", d)).toList)

theorem failure_errorMember (code : Int64) (words : String) (data : Option Json) :
    (ErrorObject.ofValue (errorMember code words data)).failure = .rpc code words := by
  apply ErrorObject.failure_ofValue <;> rw [errorMember, Json.get?_ofMembers] <;> cases data <;> rfl

theorem plain_errorMember (code : Int64) (words : String) {data : Option Json} {levels : Nat}
    (h : ∀ d ∈ data, d.PlainWithin levels) :
    (errorMember code words data).PlainWithin (levels + 1) := by
  refine .ofMembers (List.forall_mem_append.2 ⟨?_, .optional h⟩)
  simpa using ⟨Json.PlainWithin.int64 levels code, Json.PlainWithin.str levels words⟩

/-! ## Responses -/

theorem result_of_told {r : Json} (herror : v.get? "error" = none)
    (hr : v.get? "result" = some r) : result v = .ok r := by
  cases v with
  | obj members => rw [result, herror, hr]
  | _ => cases hr

/-- An error counts, whatever else there is. -/
theorem result_of_error {e : Json} (he : v.get? "error" = some e) :
    result v = .error (ErrorObject.ofValue e).failure := by
  cases v with
  | obj members => rw [result, he]
  | _ => cases he

/-- A response is read as its result or, when it tells of an error, as an error. -/
theorem result_of_isResponse (h : isResponse v = true) :
    (∃ r, v.get? "error" = none ∧ v.get? "result" = some r ∧ result v = .ok r) ∨
      ∃ e, v.get? "error" = some e ∧ ∃ code words, result v = .error (.rpc code words) := by
  simp only [isResponse, Bool.and_eq_true, Bool.or_eq_true, Json.hasMember] at h
  rcases herror : v.get? "error" with _ | e
  · obtain ⟨r, hr⟩ := Option.isSome_iff_exists.1 (h.2.resolve_right (by simp [herror]))
    exact .inl ⟨r, rfl, hr, result_of_told herror hr⟩
  · exact .inr ⟨e, rfl, _, _, result_of_error herror⟩

/-- A reply: it names the id of its request, and tells what came of it. -/
def reply (version id : Json) (told : List (String × Json)) : Json :=
  .ofMembers ([("jsonrpc", version), ("id", id)] ++ told)

theorem get?_reply (version i : Json) (told : List (String × Json)) (k : String) :
    (reply version i told).get? k =
      (told.reverse.lookup k).or ([("id", i), ("jsonrpc", version)].lookup k) := by
  rw [reply, Json.get?_ofMembers, List.reverse_append, List.lookup_append]
  rfl

/-- A reply that tells a result, an error or both, and nothing else, answers the request whose id it
names. -/
theorem answers_reply {told : List (String × Json)} (version : Json) (hid : id ≠ notificationId)
    (hi : Spells id i) (hkeys : ∀ m ∈ told, m.1 = "result" ∨ m.1 = "error") (htold : told ≠ []) :
    Answers id (reply version i told) := by
  have hother {k : String} (hresult : k ≠ "result") (herror : k ≠ "error") :
      (reply version i told).get? k = [("id", i), ("jsonrpc", version)].lookup k := by
    have hnone : told.reverse.lookup k = none := by
      refine List.lookup_eq_none_iff.2 fun m hm => bne_iff_ne.2 ?_
      rcases hkeys m (List.mem_reverse.1 hm) with h | h
      · exact h ▸ hresult
      · exact h ▸ herror
    rw [get?_reply, hnone, Option.none_or]
  -- whatever is told is found under one of the two keys
  have htells : (reply version i told).hasMember "result" = true ∨
      (reply version i told).hasMember "error" = true := by
    obtain ⟨m, hm⟩ := List.exists_mem_of_ne_nil told htold
    have hfound : (reply version i told).hasMember m.1 = true := by
      rw [Json.hasMember, get?_reply, Option.isSome_or, Bool.or_eq_true]
      refine .inl (Option.isSome_iff_ne_none.2 fun hnone => ?_)
      exact bne_iff_ne.1 (List.lookup_eq_none_iff.1 hnone m (List.mem_reverse.2 hm)) rfl
    rcases hkeys m hm with h | h
    · exact .inl (h ▸ hfound)
    · exact .inr (h ▸ hfound)
  refine ⟨hid, ?_, id?_of_spells hi (hother (by decide) (by decide))⟩
  have hversion : (reply version i told).hasMember "jsonrpc" = true := by
    rw [Json.hasMember, hother (by decide) (by decide)]
    rfl
  have hmethod : (reply version i told).hasMember "method" = false := by
    rw [Json.hasMember, hother (by decide) (by decide)]
    rfl
  rw [isResponse, hversion, hmethod, Bool.or_eq_true_iff.2 htells]
  rfl

theorem plain_reply {version : Json} {told : List (String × Json)} {levels : Nat}
    (hversion : version.PlainWithin levels) (hi : i.PlainWithin levels)
    (htold : ∀ m ∈ told, m.2.PlainWithin levels) :
    (reply version i told).PlainWithin (levels + 1) := by
  refine .ofMembers (List.forall_mem_append.2 ⟨?_, htold⟩)
  simpa using ⟨hversion, hi⟩

/-- A reply reaches whoever waits for it: it answers the request with the id, it is read back from
its text, and an event with this text puts it into the box of the ticket that is registered for the
id, if its caller still waits. -/
structure Arrives (id : UInt64) (raw : Json) : Prop where
  /-- It answers the request. -/
  answers : Answers id raw
  /-- It is read back. -/
  read_back : Json.read? raw.render = some raw
  /-- It is put into the box of whoever waits. -/
  handed : ∀ (l : StreamLink) (name : String) (t : Nat), name ≠ "endpoint" →
    l.desk.readerAlive = true → l.desk.ticketOf? id = some t → l.desk.box t = .empty →
    (l.handle ⟨name, raw.render⟩).2.desk.look t = .response raw ∧
      l.handle ⟨name, raw.render⟩ = ([], { l with desk := { l.desk with
        waiters := l.desk.others id, boxes := l.desk.boxes.set t (.full raw) } })

/-- An answer that is read back reaches whoever waits for it. -/
theorem Arrives.of_answers {raw : Json} (h : Answers id raw)
    (hread : Json.read? raw.render = some raw) : Arrives id raw := by
  refine ⟨h, hread, fun l name t hname halive hticket hbox => ?_⟩
  have hhandle := StreamLink.handle_of_waiter (e := ⟨name, raw.render⟩) hname hread h halive
    hticket hbox
  exact ⟨by rw [hhandle]; exact StreamState.look_of_set hbox raw _, hhandle⟩

/-- The round trip of messages. A request names its id, is a message and no response, and is read
back from its text; a notification has no id. A reply with a result reaches whoever waits for it and
is read as the result, and a reply with an error does so and is read as an error with its code and
its words, also where it has a result as well. Both hold for any id of a request in either spelling.
No response whatever is read as a message that breaks the protocol. -/
theorem wire_round_trip :
    (∀ (id : UInt64) (method : String) (params : Option Json), id ≠ notificationId →
      let m := envelope id method params
      (id? m = some id ∧ isMessage m = true ∧ isResponse m = false) ∧
        ((∀ p ∈ params, p.Plain) → Json.read? m.render = some m)) ∧
    (∀ (method : String) (params : Option Json),
      let m := envelope notificationId method params
      (m.hasMember "id" = false ∧ id? m = none) ∧
        ((∀ p ∈ params, p.Plain) → Json.read? m.render = some m)) ∧
    (∀ (id : UInt64) (i version r : Json), id ≠ notificationId → Spells id i → version.Plain →
      r.Plain →
      let m := reply version i [("result", r)]
      Arrives id m ∧ result m = .ok r) ∧
    (∀ (id : UInt64) (i version : Json) (code : Int64) (words : String) (data r : Option Json),
      id ≠ notificationId → Spells id i → version.Plain → (∀ d ∈ data, d.Plain) →
      (∀ v ∈ r, v.Plain) →
      let m := reply version i
        (("error", errorMember code words data) :: (r.map fun v => ("result", v)).toList)
      Arrives id m ∧ result m = .error (.rpc code words)) ∧
    ∀ v, isResponse v = true →
      (∃ r, v.get? "error" = none ∧ v.get? "result" = some r ∧ result v = .ok r) ∨
        ∃ e, v.get? "error" = some e ∧ ∃ code words, result v = .error (.rpc code words) := by
  have hrequest (id : UInt64) (method : String) (params : Option Json)
      (h : ∀ p ∈ params, p.Plain) :
      Json.read? (envelope id method params).render = some (envelope id method params) :=
    (plain_envelope id method params fun p hp => (h p hp).within).read?_render (by decide)
  refine ⟨fun id method params hid => ?_, fun method params => ?_,
    fun id i version r hid hi hv hr => ?_,
    fun id i version code words data r hid hi hv hdata hr => ?_, fun v => result_of_isResponse⟩
  · exact ⟨⟨id?_envelope hid method params, isMessage_envelope id method params,
      isResponse_envelope id method params⟩, hrequest id method params⟩
  · have hmember : (envelope notificationId method params).hasMember "id" = false := by
      rw [Json.hasMember, id_envelope, if_pos rfl]
      rfl
    exact ⟨⟨hmember, id?_notification method params⟩, hrequest notificationId method params⟩
  · have hplain : (reply version i [("result", r)]).PlainWithin 121 :=
      plain_reply hv.within (hi.plain 120) (by simpa using hr.within)
    exact ⟨.of_answers (answers_reply version hid hi (by simp) (by simp))
      (hplain.read?_render (by decide)),
      result_of_told (by rw [get?_reply]; rfl) (by rw [get?_reply]; rfl)⟩
  · have hplain : (reply version i (("error", errorMember code words data) ::
        (r.map fun v => ("result", v)).toList)).PlainWithin 122 := by
      refine plain_reply (hv.within.mono (by decide)) (hi.plain 121)
        (List.forall_mem_cons.2 ⟨?_, ?_⟩)
      · exact plain_errorMember code words fun d hd => (hdata d hd).within
      · exact .optional fun v hv => (hr v hv).within.mono (by decide)
    refine ⟨.of_answers (answers_reply version hid hi ?_ (by simp))
      (hplain.read?_render (by decide)), ?_⟩
    · cases r <;> simp
    · have herror : (reply version i (("error", errorMember code words data) ::
          (r.map fun v => ("result", v)).toList)).get? "error" =
            some (errorMember code words data) := by
        rw [get?_reply]
        cases r <;> rfl
      exact (result_of_error herror).trans (congrArg _ (failure_errorMember code words data))

/-- A link whose reader is alive, with a caller who waits for an answer to the request with the
greatest id. -/
def awaiting : StreamLink where
  settings := { serverName := "s", url := "http://s/sse" }
  base := "http://s"
  desk := (({} : StreamState).openReader.register 18446744073709551615).2

/-- The greatest id, as a number and as a numeral, with the least code and the least integer. -/
theorem wire_round_trip_of_greatest :
    let id : UInt64 := 18446744073709551615
    let least : Json := .arr [.int (-9223372036854775808)]
    let request := envelope id "tools/call" (some least)
    let good := reply (.str "2.0") (.ofUInt64 id) [("result", least)]
    let bad := reply (.str "2.0") (.str (toString id))
      (("error", errorMember (-9223372036854775808) "\"\x00" (some least)) ::
        ((some least).map fun v => ("result", v)).toList)
    id ≠ notificationId ∧ least.Plain ∧
      (id? request = some id ∧ isResponse request = false ∧
        Json.read? request.render = some request) ∧
      id? (envelope notificationId "tools/list" none) = none ∧
      ((awaiting.handle ⟨"message", good.render⟩).2.desk.look 0 = .response good ∧
        result good = .ok least) ∧
      ((awaiting.handle ⟨"", bad.render⟩).2.desk.look 0 = .response bad ∧
        result bad = .error (.rpc (-9223372036854775808) "\"\x00")) ∧
      ∃ code words, result (.obj [("error", .null), ("jsonrpc", .null)]) =
        .error (.rpc code words) := by
  intro id least request good bad
  dsimp only [request, good, bad]
  obtain ⟨hrequest, hnotification, hgood, hbad, hread⟩ := wire_round_trip
  have hid : id ≠ notificationId := by decide
  have hleast : least.Plain := ⟨by decide +kernel, by decide +kernel, by decide +kernel⟩
  have hversion : (Json.str "2.0").Plain := ⟨rfl, rfl, by decide⟩
  have hticket : awaiting.desk.ticketOf? id = some 0 := by decide +kernel
  obtain ⟨⟨hnames, -, hother⟩, hback⟩ := hrequest id "tools/call" (some least) hid
  obtain ⟨hgoodArrives, hgoodRead⟩ := hgood id _ _ least hid .number hversion hleast
  obtain ⟨hbadArrives, hbadRead⟩ := hbad id _ _ (-9223372036854775808) "\"\x00" (some least)
    (some least) hid .numeral hversion (by simpa using hleast) (by simpa using hleast)
  refine ⟨hid, hleast, ⟨hnames, hother, hback (by simpa using hleast)⟩,
    (hnotification "tools/list" none).1.2, ⟨?_, hgoodRead⟩, ⟨?_, hbadRead⟩, ?_⟩
  · exact (hgoodArrives.handed awaiting "message" 0 (by decide) rfl hticket rfl).1
  · exact (hbadArrives.handed awaiting "" 0 (by decide) rfl hticket rfl).1
  · have hresponse : isResponse (.obj [("error", .null), ("jsonrpc", .null)]) = true := by
      decide +kernel
    rcases hread _ hresponse with ⟨r, hnone, -⟩ | ⟨e, -, h⟩
    · exact absurd hnone (by decide +kernel)
    · exact h

end Rpc

end ToolRelay
