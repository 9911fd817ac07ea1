import ToolRelay.Link.Basic
import ToolRelay.Proofs.Client.Guard
import ToolRelay.Proofs.Routine.Throughout

/-!
# The handshake comes first

A client counts as connected when it remembers a handshake and its transport is up. When the
connection drops, what it remembers stays. So whether the handshake comes first is a matter of what
a new connection finds: it does exactly when no connection is established while the client remembers
a handshake, or while somebody has found the client connected and has not sent its message yet.

## Main definitions

* `ObservedClient.Relies`: somebody who has found the client connected relies on that rightly.
* `ObservedClient.Unhurried`: what holds while every new connection finds nothing of an earlier one.

## Main results

* `ObservedClient.Honest.step`, `ObservedClient.Unhurried.turn`: what one step and one turn keep.
* `ObservedClient.handshake_before_use`: exactly when the handshake comes first.
-/

namespace ToolRelay

namespace ObservedClient

variable {τ β : Type} {T : Transport τ} {w : ObservedClient τ} {standings : Nat → Standing}
  {c : TaskGroup ClientStep (ObservedClient τ) Unit}

/-! ## What a client that counts as connected has done -/

/-- A client counts as connected when it remembers a handshake and its transport is up. -/
theorem isConnected_eq_true :
    w.client.isConnected T = true ↔ w.client.cache.connected = true ∧ w.isUp T = true := by
  rw [Client.isConnected, Bool.and_eq_true]
  exact Iff.rfl

/-- Whoever has greeted stays so while the connection is up. -/
theorem perform_greeted (hup : w.isUp T = true) (hr : w.rapport = .greeted) (e : ClientStep β) :
    (perform T e () w).2.rapport = .greeted := by
  simp [perform, hup, hr]

/-- An allowed step keeps a client honest, unless it establishes a connection while the client
remembers a handshake. -/
theorem Honest.step {s : Standing} {e : ClientStep β} (h : w.Honest T) (hs : s.Fits T w)
    (hT : T.OpenedByConnect) (ha : allowed s e)
    (hclear : w.isUp T = false → (perform T e () w).2.isUp T = true →
      w.client.cache.connected = false) : (perform T e () w).2.Honest T := by
  intro hcon
  obtain ⟨hkept, hup⟩ := isConnected_eq_true.1 hcon
  rcases hbefore : w.isUp T
  · -- a new connection: connecting changes nothing of what the client remembers
    have hopens := opens_of_established hT hbefore hup
    have hcache : (perform T e () w).2.client.cache = w.client.cache := by
      cases e with
      | connect => rfl
      | _ => cases hopens
    rw [hcache, hclear hbefore hup] at hkept
    cases hkept
  · have hgreeted : w.client.cache.connected = true → w.rapport = .greeted := fun hc =>
      h (isConnected_eq_true.2 ⟨hc, hbefore⟩)
    refine perform_greeted hbefore ?_ e
    cases e with
    | write change =>
      -- only those who are welcomed make the client remember a handshake
      rcases ha with hwelcomed | ⟨-, hquiet⟩
      · exact hs.welcomed hwelcomed hbefore
      · exact hgreeted (hquiet _ hkept)
    | _ => exact hgreeted hkept

/-- What happens around the callers keeps a client honest. -/
theorem Honest.drift (h : w.Honest T) (link : τ) : (drift T link w).Honest T := by
  intro hcon
  obtain ⟨hkept, hup⟩ := isConnected_eq_true.1 hcon
  obtain ⟨hcache, -, hrapport, -⟩ := drift_others T link w
  rw [hcache] at hkept
  rw [hrapport]
  exact h (isConnected_eq_true.2 ⟨hkept, isUp_of_drift hup⟩)

/-- A turn keeps a client honest, unless it establishes a connection while the client remembers a
handshake. -/
theorem Honest.turn (h : c.state.Honest T) (hguarded : Guarded T standings c)
    (hT : T.OpenedByConnect) {t : Turn Unit τ}
    (hclear : Establishes T c t → c.state.client.cache.connected = false) :
    (c.turn (machine T) t).state.Honest T := by
  cases t with
  | drift link => exact h.drift link
  | act place input =>
    rcases hguarded.act hT place with heq | ⟨β, e, next, -, ha, heq, -⟩
    · rwa [heq]
    · have hstep : (perform T e () c.state).2.Honest T :=
        h.step (hguarded.fits place) hT ha fun hdown hup => hclear ⟨hdown, by rw [heq]; exact hup⟩
      rw [heq]
      exact hstep

/-! ## Messages about tools -/

/-- The standing of a caller who has found the client connected still means that the client has
greeted. -/
def Relies (T : Transport τ) (s : Standing) (w : ObservedClient τ) : Prop :=
  s = .cleared → w.isUp T = true → w.rapport = .greeted

/-- The standing of whoever does a step is relied upon rightly afterwards: the caller was cleared
before, or has just found an honest client connected. -/
theorem Relies.step {s : Standing} {e : ClientStep β} (h : Relies T s w) (ho : w.Honest T)
    (hT : T.OpenedByConnect) (ha : allowed s e) :
    Relies T (standingAfter s e (perform T e () w).1) (perform T e () w).2 := by
  intro hs hup
  cases e with
  | lock | unlock => cases hs
  | isConnected =>
    -- the only step after which somebody is cleared who was not before
    have hbefore := (perform_up hT rfl hup).1
    refine perform_greeted hbefore (ho ?_) .isConnected
    rw [standingAfter] at hs
    split_ifs at hs with hfree
    · exact hfree.2
    · exact absurd hs ha
  | takeId =>
    have hbefore := (perform_up hT rfl hup).1
    exact perform_greeted hbefore (h hs hbefore) .takeId
  | request message id => exact absurd hs (s.exchange_ne_cleared message _)
  | write change =>
    obtain rfl : s = .cleared := hs
    exact absurd rfl (ha.resolve_left (by decide)).1
  | connect =>
    obtain rfl : s = .cleared := hs
    cases ha
  | _ => exact absurd hs ha

/-- Other standings are relied upon rightly after a step that establishes no connection. -/
theorem Relies.other {s : Standing} (h : Relies T s w) (e : ClientStep β)
    (hup : (perform T e () w).2.isUp T = true → w.isUp T = true) :
    Relies T s (perform T e () w).2 := by
  intro hs hafter
  have hbefore := hup hafter
  exact perform_greeted hbefore (h hs hbefore) e

/-- Whoever relies on the client rightly hands over nothing too early. -/
theorem hasty_of_allowed {s : Standing} {e : ClientStep β} (h : Relies T s w)
    (ha : allowed s e) : (perform T e () w).2.hasty = w.hasty := by
  by_cases hgreeted : w.isUp T = true → w.rapport = .greeted
  · -- nothing is too early, whatever the step is
    have hcond : (w.isUp T && w.rapport != .greeted) = false := by
      rcases hup : w.isUp T
      · rfl
      · simp [hgreeted hup]
    simp [perform, hcond]
  · -- the caller is not cleared, so the step hands over nothing about tools
    have hnothing : e.aboutTools = [] := by
      cases e with
      | request message id =>
        rw [ClientStep.aboutTools, if_neg]
        exact fun htools => hgreeted (h (ha.1 htools))
      | _ => rfl
    simp [perform, hnothing]

/-- What holds while every new connection finds nothing of an earlier one. -/
structure Unhurried (T : Transport τ) (standings : Nat → Standing)
    (c : TaskGroup ClientStep (ObservedClient τ) Unit) : Prop where
  /-- The callers are guarded. -/
  guarded : Guarded T standings c
  /-- The handshake comes first. -/
  first : HandshakeFirst T c.state
  /-- Every caller relies on the client rightly. -/
  relies : ∀ p q, c.members[p]? = some q → Relies T (standings p) c.state

/-- Who has found the client connected is about to hand over a message about tools. -/
theorem Guarded.due (h : Guarded T standings c) {p : Nat} {q : Client.Calls Unit}
    (hq : c.members[p]? = some q) (hs : standings p = .cleared) : Due q := by
  have hkeeps := h.abides p q hq
  rw [hs] at hkeeps
  exact due_of_keeps hkeeps c.state

/-- A turn leaves callers unhurried, unless it establishes a connection that finds something of an
earlier one. -/
theorem Unhurried.turn (h : Unhurried T standings c) (hT : T.OpenedByConnect) {t : Turn Unit τ}
    (hunmarked : Establishes T c t → Unmarked c) :
    ∃ standings', Unhurried T standings' (c.turn (machine T) t) := by
  have hhonest := h.first.honest.turn h.guarded hT fun he => (hunmarked he).clear
  cases t with
  | drift link =>
    obtain ⟨-, -, hrapport, hhasty⟩ := drift_others T link c.state
    refine ⟨standings, h.guarded.drift link, ⟨hhonest, ?_⟩, fun p q hq => ?_⟩
    · exact hhasty.trans h.first.unhurried
    · exact fun hs hup => hrapport.trans (h.relies p q hq hs (isUp_of_drift hup))
  | act place input =>
    rcases h.guarded.act hT place with heq | ⟨β, e, next, hm, ha, heq, hguarded⟩
    · exact ⟨standings, by rwa [heq]⟩
    · have hplace := h.relies place _ hm
      refine ⟨_, hguarded, ⟨hhonest, ?_⟩, fun p q hq => ?_⟩
      · rw [heq]
        exact (hasty_of_allowed hplace ha).trans h.first.unhurried
      · rw [heq] at hq ⊢
        by_cases hp : p = place
        · subst hp
          rw [Function.update_self]
          exact hplace.step h.first.honest hT ha
        · rw [Function.update_of_ne hp]
          rw [List.getElem?_set_ne (Ne.symm hp)] at hq
          intro hs
          refine (h.relies p q hq).other e (fun hup => ?_) hs
          -- a new connection finds nobody who relies on an earlier one
          by_contra hdown
          have he : Establishes T c (.act place ()) :=
            ⟨by simpa using hdown, by rw [heq]; exact hup⟩
          exact (hunmarked he).nobody q (List.mem_of_getElem? hq) (h.guarded.due hq hs)

/-- Callers of a new client are unhurried. -/
theorem Unhurried.tasks (T : Transport τ) (name : String) (link : τ) (calls : List ClientCall) :
    Unhurried T (fun _ => .free) (tasks name link calls) :=
  ⟨.tasks T name link calls, ⟨nofun, rfl⟩, nofun⟩

/-! ## What a new connection must find -/

/-- A connection that is established while the client remembers a handshake makes it count as
connected before it has greeted. -/
theorem Guarded.clear_of_honest (h : Guarded T standings c) (hT : T.OpenedByConnect)
    {t : Turn Unit τ} (he : Establishes T c t) (ho : (c.turn (machine T) t).state.Honest T) :
    c.state.client.cache.connected = false := by
  obtain ⟨place, next, rfl, -, heq⟩ := h.establishes hT he
  obtain ⟨hdown, hup⟩ := he
  rw [heq] at ho hup
  by_contra hmarked
  have hkept : (perform T .connect () c.state).2.client.cache.connected = true :=
    Bool.ne_false_iff.1 hmarked
  -- the client counts as connected, and nothing has been said yet
  have hgreeted := ho (isConnected_eq_true.2 ⟨hkept, hup⟩)
  rw [strange_of_established hdown hup] at hgreeted
  cases hgreeted

/-- Somebody who is about to hand over a message about tools may do so before the greeting. -/
theorem hasty_of_due {place : Nat} {p : Client.Calls Unit} (hdue : Due p)
    (hp : c.members[place]? = some p) (hup : c.state.isUp T = true)
    (hr : c.state.rapport ≠ .greeted) :
    ∃ more, c.Throughout (machine T) (fun c t => ¬ Establishes T c t) more ∧
      (c.play (machine T) more).state.hasty ≠ [] := by
  -- by induction on the steps before the message, which leave the connection as it is
  induction hdue generalizing c with
  | @now message id next htools =>
    have hcalm : ¬ Establishes T c (.act place ()) := fun he => by simp [he.1] at hup
    refine ⟨[.act place ()], TaskGroup.throughout_singleton.2 hcalm, ?_⟩
    rw [TaskGroup.play_cons, TaskGroup.play_nil, TaskGroup.turn, TaskGroup.act_of_ready hp rfl]
    simp [machine, perform, hup, hr, ClientStep.aboutTools, htools]
  | @soon next hnext ih =>
    have hcalm : ¬ Establishes T c (.act place ()) := fun he => by simp [he.1] at hup
    have heq : c.turn (machine T) (.act place ()) =
        ⟨c.members.set place (next (perform T .takeId () c.state).1),
          (perform T .takeId () c.state).2⟩ := TaskGroup.act_of_ready hp rfl ()
    have hnow : (c.turn (machine T) (.act place ())).members[place]? =
        some (next (perform T .takeId () c.state).1) := by
      rw [heq]
      exact TaskGroup.member_set hp
    have hafter : (c.turn (machine T) (.act place ())).state.isUp T = true := by
      rw [heq]
      exact hup
    have hstill : (c.turn (machine T) (.act place ())).state.rapport ≠ .greeted := by
      rw [heq]
      simpa [perform, hup, HandshakeState.after] using hr
    obtain ⟨more, hmore, hhasty⟩ := ih _ hnow hafter hstill
    exact ⟨.act place () :: more, TaskGroup.throughout_cons.2 ⟨hcalm, hmore⟩, hhasty⟩

/-- A routine has the transport connect next. -/
def opensNext : Client.Calls Unit → Bool
  | .step e _ => e.opens
  | .done _ => false

/-- Whoever is about to hand over a message about tools does not connect before. -/
theorem opensNext_of_due {p : Client.Calls Unit} (h : Due p) : opensNext p = false := by
  cases h <;> rfl

/-- A connection that is established while somebody has found the client connected and has not sent
its message yet may go on so that the message comes before the greeting. -/
theorem Guarded.nobody_due (h : Guarded T standings c) (hT : T.OpenedByConnect) {t : Turn Unit τ}
    (he : Establishes T c t)
    (hmore : ∀ more, (c.turn (machine T) t).Throughout (machine T)
      (fun c t => ¬ Establishes T c t) more →
        ((c.turn (machine T) t).play (machine T) more).state.hasty = []) :
    ∀ p ∈ c.members, ¬ Due p := by
  obtain ⟨place, next, rfl, hm, heq⟩ := h.establishes hT he
  obtain ⟨hdown, hup⟩ := he
  intro p hp hdue
  obtain ⟨other, hother⟩ := List.mem_iff_getElem?.1 hp
  -- whoever connects is somebody else, who leaves the one that is due where it is
  have hne : place ≠ other := by
    rintro rfl
    rw [hm] at hother
    obtain rfl := Option.some.inj hother
    cases opensNext_of_due hdue
  have hstill : (c.turn (machine T) (.act place ())).members[other]? = some p := by
    rw [heq, List.getElem?_set_ne hne]
    exact hother
  have hstrange : (c.turn (machine T) (.act place ())).state.rapport ≠ .greeted := by
    rw [heq] at hup ⊢
    have hstrange : (perform T .connect () c.state).2.rapport = .strange :=
      strange_of_established hdown hup
    simp [hstrange]
  obtain ⟨more, hcalm, hhasty⟩ := hasty_of_due hdue hstill hup hstrange
  exact hhasty (hmore more hcalm)

/-! ## Runs -/

/-- Whatever a run is like, the callers are guarded after it. -/
theorem Guarded.play (h : Guarded T standings c) (hT : T.OpenedByConnect)
    (turns : List (Turn Unit τ)) :
    ∃ standings', Guarded T standings' (c.play (machine T) turns) := by
  induction turns generalizing c standings with
  | nil => exact ⟨standings, h⟩
  | cons t turns ih =>
    obtain ⟨standings', h'⟩ := h.turn hT t
    exact ih h'

/-- A client stays honest while every new connection finds that it remembers no handshake. -/
theorem Honest.play (h : c.state.Honest T) (hguarded : Guarded T standings c)
    (hT : T.OpenedByConnect) {turns : List (Turn Unit τ)}
    (hclear : c.Throughout (machine T)
      (fun c t => Establishes T c t → c.state.client.cache.connected = false) turns) :
    (c.play (machine T) turns).state.Honest T := by
  refine (hclear.play (fun c => c.state.Honest T ∧ ∃ standings, Guarded T standings c)
    ⟨h, standings, hguarded⟩ ?_).1
  rintro c t hclear ⟨h, standings, hguarded⟩
  exact ⟨h.turn hguarded hT hclear, hguarded.turn hT t⟩

/-- The handshake comes first while every new connection finds nothing of an earlier one. -/
theorem Unhurried.play (h : Unhurried T standings c) (hT : T.OpenedByConnect)
    {turns : List (Turn Unit τ)}
    (hunmarked : c.Throughout (machine T) (fun c t => Establishes T c t → Unmarked c) turns) :
    HandshakeFirst T (c.play (machine T) turns).state := by
  obtain ⟨standings', h'⟩ := hunmarked.play (fun c => ∃ standings, Unhurried T standings c)
    ⟨standings, h⟩ fun c t hunmarked ⟨_, h⟩ => h.turn hT hunmarked
  exact h'.first

/-- Exactly when the handshake comes first. Callers of a new client connect, discover tools, call
them, shut the client down and tear it down, their steps come in any order, and the connection drops
whenever it likes.

Throughout a run the client counts as connected only when it has greeted on the connection that is
up, if and only if every new connection finds that the client remembers no handshake. Wherever the
run is cut off, and however it then goes on without a new connection, moreover no message about
tools is handed over before the greeting, if and only if every new connection finds besides that
nobody relies on an earlier one. -/
theorem handshake_before_use (hT : T.OpenedByConnect) (name : String) (link : τ)
    (calls : List ClientCall) (turns : List (Turn Unit τ)) :
    ((∀ seen, seen <+: turns → ((tasks name link calls).play (machine T) seen).state.Honest T) ↔
      (tasks name link calls).Throughout (machine T)
        (fun c t => Establishes T c t → c.state.client.cache.connected = false) turns) ∧
    ((∀ seen more, seen <+: turns →
        ((tasks name link calls).play (machine T) seen).Throughout (machine T)
          (fun c t => ¬ Establishes T c t) more →
        HandshakeFirst T ((tasks name link calls).play (machine T) (seen ++ more)).state) ↔
      (tasks name link calls).Throughout (machine T)
        (fun c t => Establishes T c t → Unmarked c) turns) := by
  have hnew := Unhurried.tasks T name link calls
  refine ⟨⟨fun h seen t hseen he => ?_, fun h seen hseen => ?_⟩,
    ⟨fun h seen t hseen he => ?_, fun h seen more hseen hcalm => ?_⟩⟩
  · -- an honest client remembers nothing when a connection is established
    obtain ⟨standings, hguarded⟩ := hnew.guarded.play hT seen
    have hhonest := h _ hseen
    rw [TaskGroup.play_snoc] at hhonest
    exact hguarded.clear_of_honest hT he hhonest
  · exact hnew.first.honest.play hnew.guarded hT (h.take hseen)
  · -- the run is cut off after the new connection, and goes on with whoever is due
    obtain ⟨standings, hguarded⟩ := hnew.guarded.play hT seen
    have hmore : ∀ more, (((tasks name link calls).play (machine T) seen).turn (machine T)
        t).Throughout (machine T) (fun c t => ¬ Establishes T c t) more →
          HandshakeFirst T ((((tasks name link calls).play (machine T) seen).turn (machine T)
            t).play (machine T) more).state := by
      intro more hcalm
      rw [← TaskGroup.play_snoc] at hcalm ⊢
      rw [← TaskGroup.play_append]
      exact h _ more hseen hcalm
    exact ⟨hguarded.clear_of_honest hT he (hmore [] TaskGroup.throughout_nil).honest,
      hguarded.nobody_due hT he fun more hcalm => (hmore more hcalm).unhurried⟩
  · -- what follows the first part establishes nothing
    have hrest := hcalm.mono (R := fun c t => Establishes T c t → Unmarked c)
      fun c t hnot he => absurd he hnot
    exact hnew.play hT (TaskGroup.throughout_append.2 ⟨h.take hseen, hrest⟩)

/-- An internet on which every reply tells a welcome. -/
def welcomeNet : Internet Unit where
  post _ s := (.answered
    { body := some
        "\x7b\"jsonrpc\":\"2.0\",\"id\":1,\"result\":\x7b\"protocolVersion\":\"1\"\x7d\x7d".toUTF8.toList }
    false, s)
  watch _ s := ([], s)

/-- Callers of a client over a link that posts, on that internet. -/
def welcomeTasks (calls : List ClientCall) :
    TaskGroup ClientStep (ObservedClient (Link × Unit)) Unit :=
  tasks "s" (.post { settings := { serverName := "s", url := "http://a/" } }, ()) calls

/-- A caller acts some times in a row. -/
def acts (place times : Nat) : List (Turn Unit (Link × Unit)) :=
  List.replicate times (.act place ())

/-- After one caller has connected, the client counts as connected, and rightly so. -/
theorem handshake_of_lone_caller :
    ((welcomeTasks [.connect]).play (machine (Link.transport welcomeNet))
        (acts 0 16)).state.client.isConnected (Link.transport welcomeNet) = true ∧
      ((welcomeTasks [.connect]).play (machine (Link.transport welcomeNet))
        (acts 0 16)).state.Honest (Link.transport welcomeNet) :=
  ⟨by decide +kernel,
    (handshake_before_use (Link.openedByConnect welcomeNet) "s" _ [.connect] (acts 0 16)).1.2
      (by decide +kernel) _ List.prefix_rfl⟩

/-- The handshake does not always come first. A caller who shuts the client down may do so after the
handshake of another, who then remembers it nevertheless; so the next one who connects opens the
transport of a client that counts as connected, and tools are listed before the server is greeted.
-/
theorem handshake_after_use :
    ¬ ∀ (calls : List ClientCall) (turns : List (Turn Unit (Link × Unit))),
      HandshakeFirst (Link.transport welcomeNet)
        ((welcomeTasks calls).play (machine (Link.transport welcomeNet)) turns).state := by
  intro h
  have hfirst := h [.connect, .shutdown, .connect, .discover]
    (acts 0 13 ++ acts 1 2 ++ acts 0 3 ++ acts 2 3 ++ acts 3 3)
  exact absurd hfirst.unhurried (by decide +kernel)

end ObservedClient

end ToolRelay
