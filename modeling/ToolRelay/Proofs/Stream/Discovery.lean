import ToolRelay.Proofs.Stream.Trace

/-!
# How an endpoint is found

A reader knows no endpoint until one is announced to it, and from then on the one that was announced
last. What else happens on the stream, how often it is opened again and what callers do beside the
reader makes no difference. That an endpoint is known is told once, with the first announcement.

## Main definitions

* `ReaderTrace.started`: the trace of a reader that was just started.
* `ReaderTrace.Discovers`: what the reader knows, in terms of what was announced to it.

## Main results

* `StreamLink.endpoint_discovered`: every reader discovers the endpoint in this way.
-/

namespace ToolRelay

open ReaderAct

namespace ReaderTrace

/-- The trace of a reader that was just started: it has asked for the stream once. -/
def started (l : StreamLink) : ReaderTrace := (launched l).turn (.meet .rested)

/-- What a reader knows about the endpoint of a server, at any time. -/
structure Discovers (server : String) (d : ReaderTrace) : Prop where
  /-- As long as nothing is announced, no endpoint is known and no message can be posted. -/
  unknown : announcedIn d.acts = [] →
    d.link.desk.endpoint = none ∧ d.link.desk.connected = false
  /-- After that, the text that was announced last stands for the endpoint. -/
  known : ∀ earlier text, announcedIn d.acts = earlier ++ [text] →
    ∃ address, Endpoint.Names server text address ∧ d.link.desk.endpoint = some address ∧
      d.link.desk.connected = true
  /-- An event that meets a reader that reads is one more that it was told. -/
  hears : ∀ e attempt, d.link.reader = some (.reading attempt) →
    announcedIn (d.turn (.meet (.event e))).acts = announcedIn d.acts ++ e.announced?.toList
  /-- Nothing else counts as an announcement. -/
  others : ∀ t, (∀ e, t ≠ .meet (.event e)) → announcedIn (d.turn t).acts = announcedIn d.acts
  /-- A turn without an announcement leaves the endpoint as it is. -/
  unchanged : ∀ t, announcedIn (d.turn t).acts = announcedIn d.acts →
    (d.turn t).link.desk.endpoint = d.link.desk.endpoint ∧
      (d.turn t).link.desk.connected = d.link.desk.connected
  /-- Those who wait see what was told last. -/
  status : (publishedIn d.acts).getLast? = some d.link.status
  /-- That an endpoint is known is told exactly once, if one was announced. -/
  once : (publishedIn d.acts).count .ready = if announcedIn d.acts = [] then 0 else 1
  /-- It is told when the first endpoint was announced. -/
  first : ∀ past later, d.acts = past ++ .published .ready :: later →
    ∃ front e, past = front ++ [.heard e] ∧ e.announced? ≠ none ∧ announcedIn front = []

variable {d : ReaderTrace} {server : String}

/-- Turns without an announcement leave the endpoint as it is. -/
theorem Sound.unchanged (h : d.Sound server) {t : StreamTurn}
    (ht : announcedIn (d.turn t).acts = announcedIn d.acts) :
    (d.turn t).link.desk.endpoint = d.link.desk.endpoint ∧
      (d.turn t).link.desk.connected = d.link.desk.connected := by
  have h' := h.turn t
  have hendpoint : (d.turn t).link.desk.endpoint = d.link.desk.endpoint := by
    rw [h'.endpoint, h.endpoint, ht]
  refine ⟨hendpoint, ?_⟩
  rw [h'.connected, h.connected, hendpoint]

/-- Only events are announcements. -/
theorem announcedIn_acts (l : StreamLink) (h : Happening) :
    announcedIn (l.acts h) = ((l.heard? h).bind StreamEvent.announced?).toList := by
  have hhearing : ∀ e, announcedIn (l.hearing e) = e.announced?.toList := by
    intro e
    rw [StreamLink.hearing]
    rcases he : e.announced? with _ | text <;> split_ifs <;>
      simp [announcedIn, ReaderAct.announced?, he]
  rw [StreamLink.acts, announcedIn_append, announcedIn_append]
  have hstop : announcedIn (if l.Stops h then [.published .stopped] else []) = [] := by
    split_ifs <;> rfl
  have hfailing : announcedIn ((l.failure? h).elim [] l.failing) = [] := by
    rcases l.failure? h with _ | why
    · rfl
    · exact l.announcedIn_failing why
  rw [hstop, hfailing, List.append_nil, List.append_nil]
  rcases l.heard? h with _ | e
  · rfl
  · exact hhearing e

/-- Where link and trace agree, the reader knows what was announced to it. -/
theorem Sound.discovers (h : d.Sound server) : d.Discovers server where
  unknown := by
    intro hnone
    have hendpoint := h.endpoint_eq_none_iff.2 hnone
    exact ⟨hendpoint, h.connected.trans (by rw [hendpoint]; rfl)⟩
  known := by
    intro earlier text hlast
    have hendpoint : d.link.desk.endpoint = some (Endpoint.resolve server text) := by
      rw [h.endpoint, hlast, List.getLast?_concat]
      rfl
    exact ⟨_, Endpoint.names_resolve server text, hendpoint,
      h.connected.trans (by rw [hendpoint]; rfl)⟩
  hears := by
    intro e attempt hr
    have hheard : d.link.heard? (.event e) = some e := by simp only [StreamLink.heard?, hr]
    rw [ReaderTrace.turn, announcedIn_append, announcedIn_acts, hheard]
    rfl
  others := by
    intro t ht
    cases t with
    | meet happening =>
      have hheard : d.link.heard? happening = none := by
        cases happening with
        | event e => exact absurd rfl (ht e)
        | _ => simp [StreamLink.heard?]
      rw [ReaderTrace.turn, announcedIn_append, announcedIn_acts, hheard]
      exact List.append_nil _
    | caller s hs => rfl
    | keep why => rfl
    | stop =>
      rw [ReaderTrace.turn]
      split_ifs
      · exact announcedIn_append.trans (List.append_nil _)
      · rfl
  unchanged := fun _ => h.unchanged
  status := h.status
  once := h.once
  first := fun past later heq => h.timely past _ later heq

end ReaderTrace

namespace StreamLink

/-- Starting a reader is putting one there and letting it ask for the stream. -/
theorem startReader_eq_started {l : StreamLink} (hr : l.hasReader = false) :
    l.startReader.2 = (ReaderTrace.started l).link :=
  congrArg Prod.snd (startReader_eq hr)

/-- A reader that is started knows no endpoint until one is announced to it, and from then on the
one that was announced last. It is announced by an event with this purpose: as the text of the
event, or in an object under `uri`, or under `url` when there is nothing under `uri`. An address
stands for itself, and any other text for an address on the server. That an endpoint is known is
told once, by the first announcement. All this holds at any time, whatever the reader meets, however
often it opens the stream again, and whatever callers do beside it. -/
theorem endpoint_discovered {l : StreamLink} (hr : l.hasReader = false) :
    (∀ (e : StreamEvent) (text : String), e.announced? = some text ↔
        e.name = "endpoint" ∧ Endpoint.Announces e.data text) ∧
      (ReaderTrace.started l).link = l.startReader.2 ∧
      ∀ turns, ((ReaderTrace.started l).run turns).Discovers l.base := by
  refine ⟨fun e text => ?_, (startReader_eq_started hr).symm, fun turns => ?_⟩
  · rw [StreamEvent.announced?, ← Endpoint.announced?_eq_some_iff]
    split_ifs with hn
    · exact (and_iff_right hn).symm
    · exact iff_of_false (by simp) fun h => hn h.1
  · exact (((ReaderTrace.Sound.launched l).turn (.meet .rested)).run turns).discovers

/-- A link whose reader may open the stream as often as it likes. -/
def untiring : StreamLink where
  settings := { serverName := "files", url := "http://files.test/sse" }
  base := "http://files.test"

/-- The stream is opened twice; a reader hears of nothing, of one endpoint, of nothing again, and of
another endpoint. -/
def twoAnnouncements : List StreamTurn :=
  [.meet (.event ⟨"endpoint", " "⟩), .meet (.event ⟨"endpoint", " /messages\n"⟩),
    .meet (.ended .closed), .meet .rested, .meet (.event ⟨"endpoint", "\x7b\"uri\":1\x7d"⟩),
    .caller (.register 3) rfl, .meet (.event ⟨"endpoint", "\x7b\"url\": \" rpc\"\x7d"⟩)]

/-- The second of two endpoints counts, and that one is known is told once. -/
theorem endpoint_discovered_twice :
    untiring.hasReader = false ∧
      ((ReaderTrace.started untiring).run twoAnnouncements).link.desk.endpoint =
        some "http://files.test/rpc" ∧
      (publishedIn ((ReaderTrace.started untiring).run twoAnnouncements).acts).count .ready =
        1 := by
  obtain ⟨-, -, hrun⟩ := endpoint_discovered (l := untiring) rfl
  have hd := hrun twoAnnouncements
  have htold : announcedIn ((ReaderTrace.started untiring).run twoAnnouncements).acts =
      ["/messages"] ++ ["rpc"] := by decide +kernel
  obtain ⟨address, hnames, hendpoint, -⟩ := hd.known ["/messages"] "rpc" htold
  have haddress : address = "http://files.test/rpc" :=
    hnames.relative (by rw [Endpoint.IsAddress]; decide) (by decide)
  refine ⟨rfl, by rw [hendpoint, haddress], ?_⟩
  rw [hd.once, htold]
  rfl

end StreamLink

end ToolRelay
