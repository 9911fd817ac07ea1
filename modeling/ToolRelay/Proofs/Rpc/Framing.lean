import ToolRelay.Proofs.EventStream.Body
import ToolRelay.Proofs.Json.Layout
import ToolRelay.Rpc.Envelope

/-!
# Framed replies

A reply's message stands in the reply as it is, or in the data of one of its events. Either way the
reader finds it, however the frame is written; in a body of events it finds the first message.

## Main definitions

* `Rpc.Relayable`: a message that is read back from its text.
* `Rpc.Carries`: the data of an event is a message.

## Main results

* `Rpc.parse_blank`: a reply of white space is refused as empty.
* `Rpc.parse_body`: the message in a body of events is the first one among the data of its events,
  the end of the body trimmed.
* `Rpc.framing_transparent`: a message is found in every frame, and none where there is none.
-/

namespace ToolRelay.Rpc

open EventStream (Body)

/-- A message that is read back from its text: an object with a `jsonrpc` member, as a program
builds it, without floats and nested as deep as the reader goes or less. -/
structure Relayable (m : Json) : Prop where
  /-- The keys ascend and the integers fit a word. -/
  wellFormed : m.WellFormed
  /-- No float occurs. -/
  floatFree : m.floatFree = true
  /-- It is nested at most 127 deep. -/
  depth : m.depth ≤ Json.maxLevels
  /-- It is a message. -/
  isMessage : Rpc.isMessage m = true

/-- The data of an event is a message. -/
def Carries (data : List Char) (m : Json) : Prop :=
  Json.read? (String.ofList data) = some m ∧ isMessage m = true

instance (data : List Char) (m : Json) : Decidable (Carries data m) :=
  inferInstanceAs (Decidable (_ ∧ _))

variable {m : Json}

/-- A message is an object. -/
theorem exists_members_of_isMessage (h : isMessage m = true) : ∃ members, m = .obj members := by
  cases m with
  | obj members => exact ⟨members, rfl⟩
  | _ => cases h

/-! ## Messages as they are -/

section Plain

variable {front back : List Char}

/-- Byte order marks at the front count for nothing, and neither does the white space behind
them. -/
theorem significant_of_marks (marks : Nat) (hfront : ∀ c ∈ front, Text.isBlank c = true)
    {rest : List Char} (hrest : ∀ c ∈ rest.head?, c ≠ Text.byteOrderMark) :
    significant (String.ofList (List.replicate marks Text.byteOrderMark ++ (front ++ rest))) =
      Text.trimChars rest := by
  have hmarks : ∀ c ∈ List.replicate marks Text.byteOrderMark,
      (c == Text.byteOrderMark) = true := by
    intro c hc
    rw [List.eq_of_mem_replicate hc]
    decide
  have hhead : ∀ c ∈ (front ++ rest).head?, c ≠ Text.byteOrderMark := by
    cases front with
    | nil => exact hrest
    | cons c front =>
      -- a mark is no white space
      rintro c hc rfl
      have hblank := hfront _ (List.mem_of_mem_head? hc)
      exact absurd hblank (by decide)
  have hnoMark : (front ++ rest).dropWhile (· == Text.byteOrderMark) = front ++ rest := by
    rcases hall : front ++ rest with _ | ⟨c, cs⟩
    · rfl
    · rw [hall] at hhead
      have hc : ¬(c == Text.byteOrderMark) = true := fun hmark => hhead c rfl (beq_iff_eq.1 hmark)
      rw [List.dropWhile_cons, if_neg hc]
  rw [significant, String.toList_ofList, List.dropWhile_append_of_pos hmarks, hnoMark,
    Text.trimChars, Text.trimStart_append_of_blank hfront, Text.trimChars]

/-- A reply without anything else is refused as empty. -/
theorem parse_blank (marks : Nat) (hfront : ∀ c ∈ front, Text.isBlank c = true) :
    parse (String.ofList (List.replicate marks Text.byteOrderMark ++ front)) =
      .error (.protocol .emptyBody) := by
  have hnothing : ∀ c ∈ ([] : List Char).head?, c ≠ Text.byteOrderMark := by simp
  have hsignificant := significant_of_marks marks hfront hnothing
  rw [List.append_nil] at hsignificant
  rw [parse, hsignificant]
  rfl

/-- A message is read from its text, whatever stands around it that does not count. -/
theorem parse_object (hm : Relayable m) (marks : Nat) (hfront : ∀ c ∈ front, Text.isBlank c = true)
    (hback : ∀ c ∈ back, Text.isBlank c = true) :
    parse (String.ofList (List.replicate marks Text.byteOrderMark ++
      (front ++ (m.render.toList ++ back)))) = .ok m := by
  obtain ⟨members, rfl⟩ := exists_members_of_isMessage hm.isMessage
  have hread := Json.read?_render hm.wellFormed hm.floatFree hm.depth
  obtain ⟨inner, htext⟩ : ∃ inner,
      (Json.obj members).render.toList = '\x7b' :: (inner ++ ['\x7d']) :=
    ⟨_, Json.toList_render_obj members⟩
  have hkept : Text.trimChars ('\x7b' :: (inner ++ ['\x7d']) ++ back) =
      '\x7b' :: (inner ++ ['\x7d']) := by
    have hlast : Text.isBlank '\x7d' = false := by decide
    rw [Text.trimChars, Text.trimStart_of_head (by simp; decide),
      Text.trimEnd_append_of_blank hback]
    exact Text.trimEnd_append_cons hlast ('\x7b' :: inner) []
  rw [htext, parse, significant_of_marks marks hfront (by simp; decide), hkept]
  simp only [true_or, if_true, ← htext, String.ofList_toList, hread]

end Plain

/-! ## Bodies of events -/

/-- The message that some data is. -/
def messageOf? (data : List Char) : Option Json :=
  (Json.read? (String.ofList data)).filter isMessage

theorem messageOf?_eq_some {data : List Char} : messageOf? data = some m ↔ Carries data m :=
  Option.filter_eq_some_iff

theorem messageOf?_eq_none {data : List Char} :
    messageOf? data = none ↔ ∀ m, ¬Carries data m := by
  rw [Option.eq_none_iff_forall_ne_some]
  exact forall_congr' fun m => not_congr messageOf?_eq_some

theorem ofEvent?_eq (e : StreamEvent) : ofEvent? e = messageOf? e.data.toList := by
  rw [ofEvent?, messageOf?, String.ofList_toList]
  cases Json.read? e.data <;> rfl

/-- The reader looks for a message in the data of the body's events. -/
theorem findSome?_ofEvent? (body : Body) :
    (EventStream.events (Text.trimChars body.chars ++ ['\n', '\n'])).findSome? ofEvent? =
      body.heard.findSome? messageOf? := by
  have hevent : ofEvent? = (messageOf? ∘ String.toList) ∘ StreamEvent.data := by
    funext e
    simp only [Function.comp_apply, ofEvent?_eq]
  have hdata : (messageOf? ∘ String.toList) ∘ String.ofList = messageOf? := by
    funext d
    simp only [Function.comp_apply, String.toList_ofList]
  rw [hevent, ← List.findSome?_map, body.data_events_trimChars, List.findSome?_map, hdata]

/-- The message in a body of events is the first one among the data of its events, the white space
at the end of the body taken away. -/
theorem parse_body (body : Body) :
    parse body.text = match body.heard.findSome? messageOf? with
      | some v => .ok v
      | none => .error (.protocol .noMessage) := by
  obtain ⟨c, rest, hc, hopen⟩ := body.exists_trimChars_eq_cons
  have hsignificant : significant body.text = c :: rest := by
    have hfront : ∀ c ∈ ([] : List Char), Text.isBlank c = true := by simp
    rw [← hc]
    exact significant_of_marks 0 hfront body.ne_mark_of_head?_chars
  have hfound := findSome?_ofEvent? body
  rw [hc] at hfound
  cases hmessage : body.heard.findSome? messageOf? with
  | none => simp only [parse, hsignificant, if_neg hopen, hfound, hmessage]
  | some v => simp only [parse, hsignificant, if_neg hopen, hfound, hmessage]

/-- The first message among some data is found. -/
theorem findSome?_messageOf? {earlier later : List (List Char)} {data : List Char}
    (hearlier : ∀ d ∈ earlier, ∀ m, ¬Carries d m) (hdata : Carries data m) :
    (earlier ++ data :: later).findSome? messageOf? = some m := by
  have hnone : earlier.findSome? messageOf? = none :=
    List.findSome?_eq_none_iff.2 fun d hd => messageOf?_eq_none.2 (hearlier d hd)
  rw [List.findSome?_append, hnone, Option.none_or, List.findSome?_cons,
    messageOf?_eq_some.2 hdata]

/-- Where the data of an event is a text of a message, white space at its end may be missing. -/
theorem Carries.of_textOf (hm : Relayable m) {data blanks : List Char}
    (h : Json.TextOf (data ++ blanks) m) (hblanks : ∀ c ∈ blanks, Text.isBlank c = true) :
    Carries data m := by
  obtain ⟨members, rfl⟩ := exists_members_of_isMessage hm.isMessage
  exact ⟨(h.of_append_blank hblanks).read? hm.wellFormed hm.depth, hm.isMessage⟩

/-- **Framing transparency.** A message is read from its compact text, whatever byte order marks and
white space stand around it. It is read from every body of events one of which has a text of the
message as its data, if no event before it carries a message. A body none of whose events carries a
message, the end of the body trimmed, is refused. -/
theorem framing_transparent :
    (∀ m, Relayable m →
      (∀ (marks : Nat) (front back : List Char), (∀ c ∈ front ++ back, Text.isBlank c = true) →
        parse (String.ofList (List.replicate marks Text.byteOrderMark ++
          (front ++ (m.render.toList ++ back)))) = .ok m) ∧
      ∀ (body : Body) (earlier later : List (List Char)) (data : List Char),
        body.events = earlier ++ data :: later → (∀ d ∈ earlier, ∀ m', ¬Carries d m') →
        Json.TextOf data m → parse body.text = .ok m) ∧
    ∀ body : Body, (∀ d ∈ body.heard, ∀ m, ¬Carries d m) →
      parse body.text = .error (.protocol .noMessage) := by
  refine ⟨fun m hm => ⟨?plain, ?framed⟩, ?none⟩
  case plain =>
    intro marks front back hblank
    exact parse_object hm marks (fun c hc => hblank c (List.mem_append_left _ hc))
      fun c hc => hblank c (List.mem_append_right _ hc)
  case framed =>
    intro body earlier later data hevents hearlier hdata
    -- trimming may reach the event, but not the message in it
    obtain ⟨data', later', hheard, blanks, rfl, hblanks⟩ := body.heard_of_events hevents
    rw [parse_body, hheard, findSome?_messageOf? hearlier (.of_textOf hm hdata hblanks)]
  case none =>
    intro body hnone
    have hall : body.heard.findSome? messageOf? = none :=
      List.findSome?_eq_none_iff.2 fun d hd => messageOf?_eq_none.2 (hnone d hd)
    rw [parse_body, hall]

/-- A body of one data line. -/
def oneLine (value : List Char) (h : EventStream.Unbroken value) : Body where
  front := []
  last := .field .data true value
  after := [.feed]
  front_plain := by simp
  last_plain := ⟨h, by simp⟩
  last_solid := rfl

/-- A body that spreads a message over three data lines, behind a comment and with both line
ends. -/
def spread : Body where
  front := [(.comment " ping".toList, .returnFeed), (.blank, .feed),
    (.field .event true "message".toList, .feed), (.field .data true "\x7b".toList, .returnFeed),
    (.field .data false "\"jsonrpc\":".toList, .feed)]
  last := .field .data true "\"2.0\"\x7d".toList
  after := []
  front_plain := by decide
  last_plain := by decide
  last_solid := rfl

/-- The three kinds of reply for one message: as it is, spread over data lines, and missing. -/
theorem framing_transparent_of_spread :
    parse "\ufeff \x7b\"jsonrpc\":\"2.0\"\x7d\n" = .ok (.obj [("jsonrpc", .str "2.0")]) ∧
    parse ": ping\r\n\nevent: message\ndata: \x7b\r\ndata:\"jsonrpc\":\ndata: \"2.0\"\x7d" =
      .ok (.obj [("jsonrpc", .str "2.0")]) ∧
    parse "data: ping\n" = .error (.protocol .noMessage) := by
  have hm : Relayable (.obj [("jsonrpc", .str "2.0")]) :=
    ⟨by decide, by decide, by decide, by decide⟩
  have ⟨hplain, hframed⟩ := framing_transparent.1 _ hm
  have htext : Json.TextOf "\x7b\n\"jsonrpc\":\n\"2.0\"\x7d".toList
      (.obj [("jsonrpc", .str "2.0")]) := by
    refine ⟨_, [], (List.append_nil _).symm, ?_, by simp⟩
    have hmember : Json.SpellsMembers "\n\"jsonrpc\":\n\"2.0\"\x7d".toList
        [("jsonrpc", .str "2.0")] [] :=
      @Json.SpellsMembers.last _ _ ":\n\"2.0\"\x7d".toList "\n\"2.0\"\x7d".toList _
        "\x7d".toList [] (by decide +kernel) (by decide +kernel) (.str (by decide +kernel))
        (by decide +kernel)
    exact .obj (by decide +kernel) hmember
  have hevents : spread.events = [] ++ ["\x7b\n\"jsonrpc\":\n\"2.0\"\x7d".toList] := by
    decide +kernel
  have hnone : ∀ d ∈ (oneLine "ping".toList (by decide)).heard, messageOf? d = none := by
    decide +kernel
  have hmarked : String.ofList (List.replicate 1 Text.byteOrderMark ++
      ([' '] ++ ((Json.obj [("jsonrpc", .str "2.0")]).render.toList ++ ['\n']))) =
      "\ufeff \x7b\"jsonrpc\":\"2.0\"\x7d\n" := by decide +kernel
  have hspread : spread.text =
      ": ping\r\n\nevent: message\ndata: \x7b\r\ndata:\"jsonrpc\":\ndata: \"2.0\"\x7d" := by
    decide +kernel
  have hping : (oneLine "ping".toList (by decide)).text = "data: ping\n" := by decide +kernel
  refine ⟨?_, ?_, ?_⟩
  · rw [← hmarked]
    exact hplain 1 [' '] ['\n'] (List.all_eq_true.1 (by decide))
  · rw [← hspread]
    exact hframed spread [] [] _ hevents (by simp) htext
  · rw [← hping]
    exact framing_transparent.2 _ fun d hd => messageOf?_eq_none.1 (hnone d hd)

/-- Where the last data line ends with white space that JSON does not know, the event carries no
message and one is read from the body all the same. -/
theorem message_before_no_break_space :
    ¬∀ body : Body, (∀ d ∈ body.events, ∀ m, ¬Carries d m) →
      parse body.text = .error (.protocol .noMessage) := by
  intro h
  have hevents : ∀ d ∈ (oneLine "\x7b\"jsonrpc\":\"2.0\"\x7d\u00a0".toList (by decide)).events,
      messageOf? d = none := by decide +kernel
  have hheard : (oneLine "\x7b\"jsonrpc\":\"2.0\"\x7d\u00a0".toList (by decide)).heard.findSome?
      messageOf? = some (.obj [("jsonrpc", .str "2.0")]) := by decide +kernel
  have hparse := h _ fun d hd => messageOf?_eq_none.1 (hevents d hd)
  rw [parse_body, hheard] at hparse
  cases hparse

end ToolRelay.Rpc
