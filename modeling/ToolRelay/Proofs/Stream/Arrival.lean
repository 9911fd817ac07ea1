import Mathlib.Data.List.Nodup
import ToolRelay.Proofs.Stream.History
import ToolRelay.Proofs.Stream.Waiting

/-!
# The order of arrival

A server may answer its callers in any order. As long as everybody who is registered waits at a
ticket of its own, it makes no difference to them: each gets the response to its own id, and the
same registrations are left. What nobody waits for is set aside; while there is room for all of it,
only the order in which it lies there depends on the order of arrival, and whoever asks for a
response gets the same one.

## Main definitions

* `StreamState.Expectant`: everybody who is registered waits.
* `StreamState.deliverAll`, `StreamLink.handleAll`: several responses, or events, one after the
  other.
* `StreamState.unawaited`, `StreamState.brought`: what is left over, and what somebody finds in the
  own box.

## Main results

* `StreamState.waiters_deliverAll`, `StreamState.Expectant.box_deliverAll`,
  `StreamState.Expectant.parked_deliverAll`: what several responses do to registrations, boxes and
  the responses set aside.
* `StreamLink.arrival_order_irrelevant`: two orders of the same events.
-/

namespace ToolRelay

namespace StreamState

variable {d : StreamState} {id id' : UInt64} {raw : Json} {t : Nat} {rs rs' : List (UInt64 × Json)}

/-- Everybody who is registered still waits, at a ticket of its own. -/
structure Expectant (d : StreamState) : Prop where
  /-- No two ids share a ticket. -/
  alone : ∀ id id' t, d.ticketOf? id = some t → d.ticketOf? id' = some t → id = id'
  /-- Nothing has come yet, and nobody has gone away. -/
  empty : ∀ id t, d.ticketOf? id = some t → d.box t = .empty

/-- Take in several responses, one after the other. -/
def deliverAll (d : StreamState) (rs : List (UInt64 × Json)) : StreamState :=
  rs.foldl (fun d r => (d.deliver r.1 r.2).2) d

/-- The responses for whose ids nobody is registered. -/
def unawaited (d : StreamState) (rs : List (UInt64 × Json)) : List (UInt64 × Json) :=
  rs.filter fun r => d.ticketOf? r.1 = none

/-- What somebody finds in an empty box to whom responses to an id are brought. -/
def brought (rs : List (UInt64 × Json)) (id : UInt64) : Box :=
  match rs.find? (·.1 = id) with
  | some r => .full r.2
  | none => .empty

@[simp] theorem deliverAll_nil (d : StreamState) : d.deliverAll [] = d := rfl

@[simp] theorem deliverAll_cons (d : StreamState) (r : UInt64 × Json) (rs : List (UInt64 × Json)) :
    d.deliverAll (r :: rs) = (d.deliver r.1 r.2).2.deliverAll rs := rfl

/-! ## One response -/

theorem readerAlive_deliver (d : StreamState) (id : UInt64) (raw : Json) :
    (d.deliver id raw).2.readerAlive = d.readerAlive := by
  rcases d.deliver_cases id raw with ⟨-, hd⟩ | ⟨-, t, -, -, hd⟩ | ⟨-, -, hd⟩
  · rw [hd]
  · rw [hd]
  · rw [hd]
    rcases (d.withdraw id).park_cases id raw with ⟨-, hp⟩ | ⟨-, hp⟩ <;> rw [hp] <;> rfl

/-- Whatever becomes of a response, nobody is registered for its id any more. -/
theorem waiters_deliver (halive : d.readerAlive = true) :
    (d.deliver id raw).2.waiters = d.others id := by
  rcases d.deliver_cases id raw with ⟨hdead, -⟩ | ⟨-, t, -, -, hd⟩ | ⟨-, -, hd⟩
  · rw [halive] at hdead
    cases hdead
  · rw [hd]
  · rw [hd]
    rcases (d.withdraw id).park_cases id raw with ⟨-, hp⟩ | ⟨-, hp⟩ <;> rw [hp] <;> rfl

theorem lookup_others_self (d : StreamState) (id : UInt64) : (d.others id).lookup id = none := by
  rw [List.lookup_eq_none_iff]
  intro w hw
  exact bne_iff_ne.2 (mem_others.1 hw).2.symm

theorem ticketOf?_deliver (halive : d.readerAlive = true) :
    (d.deliver id raw).2.ticketOf? id' = if id' = id then none else d.ticketOf? id' := by
  rw [ticketOf?, waiters_deliver halive]
  split_ifs with heq
  · rw [heq]
    exact d.lookup_others_self id
  · exact lookup_others heq

/-- A response for whose id nobody is registered is set aside, or lost. -/
theorem deliver_of_no_ticket (halive : d.readerAlive = true) (ht : d.ticketOf? id = none) :
    d.deliver id raw = d.park id raw := by
  have hsame : d.withdraw id = d := by rw [withdraw, others_eq_self ht]
  rcases d.deliver_cases id raw with ⟨hdead, -⟩ | ⟨-, t, hsome, -, -⟩ | ⟨-, -, hd⟩
  · rw [halive] at hdead
    cases hdead
  · rw [ht] at hsome
    cases hsome
  · rw [hd, hsame]

/-- A response reaches whoever waits for it, and nothing is set aside. -/
theorem Expectant.deliver_of_ticket (h : d.Expectant) (halive : d.readerAlive = true)
    (ht : d.ticketOf? id = some t) : (d.deliver id raw).2 =
      { d with waiters := d.others id, boxes := d.boxes.set t (.full raw) } := by
  rcases d.deliver_cases id raw with ⟨hdead, -⟩ | ⟨-, t', ht', -, hd⟩ | ⟨-, hbusy, -⟩
  · rw [halive] at hdead
    cases hdead
  · rw [ht] at ht'
    cases ht'
    rw [hd]
  · exact absurd (h.empty id t ht) (hbusy t ht)

/-- What somebody who waits finds in the own box after a response has come. -/
theorem Expectant.box_deliver (h : d.Expectant) (halive : d.readerAlive = true)
    (ht : d.ticketOf? id' = some t) :
    (d.deliver id raw).2.box t = if id' = id then .full raw else .empty := by
  have hempty := h.empty id' t ht
  have hlt : t < d.boxes.length := lt_of_box_ne (by simp [hempty])
  rcases hid : d.ticketOf? id with _ | u
  · -- nobody waits for the response, so no box changes
    have hne : id' ≠ id := by
      rintro rfl
      rw [ht] at hid
      cases hid
    rw [if_neg hne, deliver_of_no_ticket halive hid]
    rcases d.park_cases id raw with ⟨-, hp⟩ | ⟨-, hp⟩ <;> rw [hp] <;> exact hempty
  · rw [h.deliver_of_ticket halive hid, box_eq, List.getElem?_set]
    by_cases heq : id' = id
    · subst heq
      rw [ht] at hid
      cases hid
      rw [if_pos rfl, if_pos hlt, if_pos rfl]
      rfl
    · -- the box that is filled is somebody else's
      have hne : u ≠ t := by
        rintro rfl
        exact heq (h.alone id' id u ht hid)
      rw [if_neg hne, if_neg heq, ← box_eq]
      exact hempty

/-- Whoever the response was not for still waits. -/
theorem Expectant.deliver (h : d.Expectant) (halive : d.readerAlive = true) (id : UInt64)
    (raw : Json) : (d.deliver id raw).2.Expectant := by
  have hticket : ∀ id' t, (d.deliver id raw).2.ticketOf? id' = some t →
      id' ≠ id ∧ d.ticketOf? id' = some t := by
    intro id' t ht
    rw [ticketOf?_deliver halive] at ht
    split_ifs at ht with heq
    exact ⟨heq, ht⟩
  refine ⟨fun id₁ id₂ t h₁ h₂ => ?_, fun id' t ht => ?_⟩
  · exact h.alone id₁ id₂ t (hticket id₁ t h₁).2 (hticket id₂ t h₂).2
  · obtain ⟨hne, ht⟩ := hticket id' t ht
    rw [h.box_deliver halive ht, if_neg hne]

/-! ## Several responses -/

/-- Nobody is registered any more for an id to which a response has come. -/
theorem waiters_deliverAll (halive : d.readerAlive = true) (rs : List (UInt64 × Json)) :
    (d.deliverAll rs).waiters = d.waiters.filter fun w => w.1 ∉ rs.map Prod.fst := by
  induction rs generalizing d with
  | nil => simp
  | cons r rs ih =>
    rw [deliverAll_cons, ih (by rw [readerAlive_deliver, halive]), waiters_deliver halive, others,
      List.filter_filter]
    refine List.filter_congr fun w _ => ?_
    simp only [List.map_cons, List.mem_cons, not_or, Bool.decide_and, ne_eq, Bool.and_comm]

/-- A response in a box stays there. -/
theorem box_deliverAll_of_full (h : d.box t = .full raw) (rs : List (UInt64 × Json)) :
    (d.deliverAll rs).box t = .full raw := by
  induction rs generalizing d with
  | nil => exact h
  | cons r rs ih => exact ih ((StreamState.box_deliver (by simp [h])).trans h)

/-- Everybody who waits finds the first response to the own id, or nothing. -/
theorem Expectant.box_deliverAll (h : d.Expectant) (halive : d.readerAlive = true)
    (ht : d.ticketOf? id = some t) (rs : List (UInt64 × Json)) :
    (d.deliverAll rs).box t = brought rs id := by
  induction rs generalizing d with
  | nil => exact h.empty id t ht
  | cons r rs ih =>
    have hbox : (d.deliver r.1 r.2).2.box t = if id = r.1 then .full r.2 else .empty :=
      h.box_deliver halive ht
    rw [deliverAll_cons, brought]
    by_cases heq : r.1 = id
    · -- this is the response; nothing that comes later changes the box
      rw [if_pos heq.symm] at hbox
      rw [List.find?_cons_of_pos (by simpa using heq)]
      exact box_deliverAll_of_full hbox rs
    · rw [List.find?_cons_of_neg (by simpa using heq)]
      refine ih (h.deliver halive r.1 r.2) (by rw [readerAlive_deliver, halive]) ?_
      rw [ticketOf?_deliver halive, if_neg (Ne.symm heq)]
      exact ht

/-- Where no two responses are to one id, what is left over does not depend on those that came
before. -/
theorem unawaited_deliver (halive : d.readerAlive = true) (hid : id ∉ rs.map Prod.fst) :
    (d.deliver id raw).2.unawaited rs = d.unawaited rs := by
  refine List.filter_congr fun r hr => ?_
  have hne : r.1 ≠ id := fun heq => hid (heq ▸ List.mem_map_of_mem hr)
  rw [ticketOf?_deliver halive, if_neg hne]

/-- A response that is left over, as it is set aside. -/
def toParked (r : UInt64 × Json) : PendingResponse := ⟨r.1, r.2⟩

/-- What nobody waits for is set aside in the order in which it comes, as much of it as there is
room for. -/
theorem Expectant.parked_deliverAll (h : d.Expectant) (halive : d.readerAlive = true)
    (hids : (rs.map Prod.fst).Nodup) : (d.deliverAll rs).parked =
      d.parked ++ ((d.unawaited rs).map toParked).take (maxParked - d.parked.length) := by
  induction rs generalizing d with
  | nil => simp [unawaited]
  | cons r rs ih =>
    obtain ⟨hnew, hids⟩ := List.nodup_cons.1 hids
    rw [deliverAll_cons, ih (h.deliver halive r.1 r.2) (by rw [readerAlive_deliver, halive]) hids,
      unawaited_deliver halive hnew]
    rcases ht : d.ticketOf? r.1 with _ | t
    · have hleft : d.unawaited (r :: rs) = r :: d.unawaited rs :=
        List.filter_cons_of_pos (by simpa using ht)
      rw [deliver_of_no_ticket halive ht, hleft, List.map_cons]
      rcases d.park_cases r.1 r.2 with ⟨hroom, hp⟩ | ⟨hfull, hp⟩
      · -- the response takes the next place
        obtain ⟨n, hn⟩ : ∃ n, maxParked - d.parked.length = n + 1 := ⟨_, (Nat.succ_pred_eq_of_pos
          (Nat.sub_pos_of_lt hroom)).symm⟩
        have hn' : maxParked - (d.parked.length + 1) = n := by omega
        rw [hp, hn, List.take_succ_cons, List.length_append, List.length_singleton, hn',
          List.append_assoc]
        rfl
      · have hzero : maxParked - d.parked.length = 0 := Nat.sub_eq_zero_of_le hfull
        rw [hp, hzero, List.take_zero, List.take_zero]
    · have hleft : d.unawaited (r :: rs) = d.unawaited rs :=
        List.filter_cons_of_neg (by simp [ht])
      rw [h.deliver_of_ticket halive ht, hleft]

/-! ## Two orders -/

/-- Among things with different keys, those with one key are the same in any order. -/
theorem filter_key_of_perm {α : Type} {f : α → UInt64} {l l' : List α} (h : l.Perm l')
    (hkeys : (l.map f).Nodup) (k : UInt64) : l.filter (f · = k) = l'.filter (f · = k) := by
  have hfilter := h.filter (f · = k)
  have hsub : ((l.filter (f · = k)).map f).Nodup := hkeys.sublist ((List.filter_sublist).map f)
  have hkey : ∀ a ∈ l.filter (f · = k), f a = k := fun a ha => by simpa using List.of_mem_filter ha
  -- at most one thing has the key
  match hl : l.filter (f · = k) with
  | [] =>
    rw [hl] at hfilter
    exact hfilter.nil_eq
  | [a] =>
    rw [hl] at hfilter
    exact List.singleton_perm.1 hfilter
  | a :: b :: rest =>
    rw [hl] at hsub hkey
    have hab : f a = f b := (hkey a (by simp)).trans (hkey b (by simp)).symm
    simp [hab] at hsub

/-- Each caller is brought the same in any order. -/
theorem brought_of_perm (h : rs.Perm rs') (hids : (rs.map Prod.fst).Nodup) (id : UInt64) :
    brought rs id = brought rs' id := by
  rw [brought, brought, ← List.head?_filter, ← List.head?_filter, filter_key_of_perm h hids]

/-- The oldest response to an id is the first of those to this id. -/
theorem collect_eq (d : StreamState) (id : UInt64) :
    (d.collect id).1 = ((d.parked.filter (·.id = id)).head?).map (·.raw) := by
  have hsame : d.parked.filter (·.id == id) = d.parked.filter (·.id = id) :=
    List.filter_congr fun p _ => Bool.beq_eq_decide_eq p.id id
  rw [collect, ← List.head?_filter, hsame]

/-- Where there is room for all responses, those to one id are set aside alike in any order. -/
theorem Expectant.parked_of_perm (h : d.Expectant) (halive : d.readerAlive = true)
    (hperm : rs.Perm rs') (hids : (rs.map Prod.fst).Nodup)
    (hroom : d.parked.length + (d.unawaited rs).length ≤ maxParked) :
    (d.deliverAll rs).parked.Perm (d.deliverAll rs').parked ∧
      ∀ id, (d.deliverAll rs).parked.filter (·.id = id) =
        (d.deliverAll rs').parked.filter (·.id = id) := by
  have hleft : ((d.unawaited rs).map toParked).Perm ((d.unawaited rs').map toParked) :=
    (hperm.filter _).map _
  have hlen := hleft.length_eq
  rw [List.length_map, List.length_map] at hlen
  have hall : (d.deliverAll rs).parked = d.parked ++ (d.unawaited rs).map toParked := by
    rw [h.parked_deliverAll halive hids, List.take_of_length_le (by rw [List.length_map]; omega)]
  have hall' : (d.deliverAll rs').parked = d.parked ++ (d.unawaited rs').map toParked := by
    rw [h.parked_deliverAll halive ((hperm.map _).nodup_iff.1 hids),
      List.take_of_length_le (by rw [List.length_map]; omega)]
  have hkeys : (((d.unawaited rs).map toParked).map PendingResponse.id).Nodup := by
    rw [List.map_map]
    exact hids.sublist ((List.filter_sublist).map _)
  rw [hall, hall']
  refine ⟨hleft.append_left _, fun id => ?_⟩
  rw [List.filter_append, List.filter_append, filter_key_of_perm hleft hkeys]

end StreamState

/-- In every history no two ids share a ticket, so that callers who have not gone away are all
waiting, as long as nothing has come to them. -/
theorem StreamHistory.Sound.expectant {s : StreamHistory} (h : s.Sound)
    (hempty : ∀ w ∈ s.link.desk.waiters, s.link.desk.box w.2 = .empty) :
    s.link.desk.Expectant := by
  refine ⟨fun id id' t ht ht' => ?_, fun id t ht => ?_⟩
  · have hid := h.issued_of_mem (StreamState.mem_waiters_of_ticketOf? ht)
    have hid' := h.issued_of_mem (StreamState.mem_waiters_of_ticketOf? ht')
    rw [hid] at hid'
    exact Option.some.inj hid'
  · exact hempty (id, t) (StreamState.mem_waiters_of_ticketOf? ht)

namespace StreamLink

/-- Handle several events, one after the other. -/
def handleAll (l : StreamLink) (es : List StreamEvent) : StreamLink :=
  es.foldl (fun l e => (l.handle e).2) l

/-- Events that carry responses only touch the stream state, where the responses are taken in. -/
theorem handleAll_of_responses (l : StreamLink) {es : List StreamEvent}
    (hes : ∀ e ∈ es, e.response?.isSome = true) : l.handleAll es =
      { l with desk := l.desk.deliverAll (es.filterMap StreamEvent.response?) } := by
  induction es generalizing l with
  | nil => rfl
  | cons e es ih =>
    obtain ⟨⟨id, raw⟩, hr⟩ := Option.isSome_iff_exists.1 (hes e List.mem_cons_self)
    rw [List.filterMap_cons_some hr]
    refine (ih (l.handle e).2 fun e' he' => hes e' (List.mem_cons_of_mem _ he')).trans ?_
    rw [l.handle_of_response hr]
    rfl

/-- The order of arrival makes no difference. Somebody reads the stream, everybody who is registered
waits, and events arrive that carry responses to different ids. In any two orders of them everybody
who waits gets the same, which is the response to the own id, or nothing when there is none, and the
same registrations are left. If there is room for what nobody waits for, the same responses are set
aside, except for their order, and whoever asks for a response to any id gets the same one. -/
theorem arrival_order_irrelevant {l : StreamLink} {es es' : List StreamEvent}
    (halive : l.desk.readerAlive = true) (hwait : l.desk.Expectant) (hperm : es.Perm es')
    (hes : ∀ e ∈ es, e.response?.isSome = true)
    (hids : ((es.filterMap StreamEvent.response?).map Prod.fst).Nodup) :
    let d := (l.handleAll es).desk
    let d' := (l.handleAll es').desk
    let rs := es.filterMap StreamEvent.response?
    (∀ id t, l.desk.ticketOf? id = some t →
        d.box t = StreamState.brought rs id ∧ d'.box t = StreamState.brought rs id) ∧
      d.waiters = d'.waiters ∧
      (d.waiters = l.desk.waiters.filter fun w => w.1 ∉ rs.map Prod.fst) ∧
      (l.desk.parked.length + (l.desk.unawaited rs).length ≤ 64 →
        d.parked.Perm d'.parked ∧ ∀ id, (d.collect id).1 = (d'.collect id).1) := by
  intro d d' rs
  have hrs : rs.Perm (es'.filterMap StreamEvent.response?) := hperm.filterMap _
  have hd : d = l.desk.deliverAll rs := congrArg desk (l.handleAll_of_responses hes)
  have hd' : d' = l.desk.deliverAll (es'.filterMap StreamEvent.response?) :=
    congrArg desk (l.handleAll_of_responses fun e he => hes e (hperm.mem_iff.2 he))
  rw [hd, hd']
  refine ⟨fun id t ht => ⟨hwait.box_deliverAll halive ht rs, ?_⟩, ?_,
    StreamState.waiters_deliverAll halive rs, fun hroom => ?_⟩
  · rw [StreamState.brought_of_perm hrs hids]
    exact hwait.box_deliverAll halive ht _
  · rw [StreamState.waiters_deliverAll halive, StreamState.waiters_deliverAll halive]
    refine List.filter_congr fun w _ => ?_
    simp only [(hrs.map Prod.fst).mem_iff]
  · obtain ⟨hparked, hsame⟩ := hwait.parked_of_perm halive hrs hids hroom
    refine ⟨hparked, fun id => ?_⟩
    rw [StreamState.collect_eq, StreamState.collect_eq, hsame id]

/-- A response with an empty result, as it arrives. -/
def answerEvent (id : String) : StreamEvent :=
  ⟨"message", "\x7b\"jsonrpc\":\"2.0\",\"id\":" ++ id ++ ",\"result\":null\x7d"⟩

/-- Two callers wait, and a response to somebody else is set aside. -/
def twoWaiting : StreamHistory :=
  ({ link := { settings := { serverName := "s", url := "http://a/sse" }, base := "http://a" } } :
    StreamHistory).replay [.openReader, .register 1, .register 2, .event (answerEvent "7")]

/-- One of two callers gets a response, and one nothing, in either order of three events; the two
responses that nobody waits for are set aside. -/
theorem arrival_order_irrelevant_of_two :
    let d := (twoWaiting.link.handleAll [answerEvent "9", answerEvent "2", answerEvent "7"]).desk
    let d' := (twoWaiting.link.handleAll [answerEvent "7", answerEvent "9", answerEvent "2"]).desk
    d.box 0 = .empty ∧ d'.box 0 = .empty ∧ d.box 1 = d'.box 1 ∧ d.waiters = d'.waiters ∧
      d.parked.Perm d'.parked ∧ (d.collect 7).1 = (d'.collect 7).1 := by
  intro d d'
  have hsound : twoWaiting.Sound := (StreamHistory.Sound.new _ _).replay _
  obtain ⟨hbox, hwaiters, -, hparked⟩ := @arrival_order_irrelevant twoWaiting.link
    [answerEvent "9", answerEvent "2", answerEvent "7"]
    [answerEvent "7", answerEvent "9", answerEvent "2"]
    (by decide +kernel) (hsound.expectant (by decide +kernel))
    (by decide +kernel) (by decide +kernel) (by decide +kernel)
  have hfirst := hbox 1 0 (by decide +kernel)
  have hsecond := hbox 2 1 (by decide +kernel)
  obtain ⟨hperm, hcollect⟩ := hparked (by decide +kernel)
  have hnothing : StreamState.brought ([answerEvent "9", answerEvent "2", answerEvent "7"].filterMap
      StreamEvent.response?) 1 = .empty := by decide +kernel
  exact ⟨hfirst.1.trans hnothing, hfirst.2.trans hnothing, hsecond.1.trans hsecond.2.symm,
    hwaiters, hperm, hcollect 7⟩

end StreamLink

end ToolRelay
