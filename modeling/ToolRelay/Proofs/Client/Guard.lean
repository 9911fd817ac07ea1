import ToolRelay.Proofs.Client.Standing

/-!
# One caller at a time connects

Only whoever holds the lock opens the transport, and one caller at most holds it. So the connection
on which a handshake began is the one on which it ends, unless it drops in the meantime: what the
standing of a caller says of the connection stays true whatever the others do.

## Main definitions

* `Standing.Fits`: what the standing of a caller says of the client.
* `ObservedClient.Guarded`: one caller at most holds the lock, and all standings fit.

## Main results

* `Standing.Fits.step`, `Standing.Fits.other`: standings fit after a step.
* `ObservedClient.Guarded.act`: what one turn of a caller is, and that the callers are guarded after
  it.
* `ObservedClient.Guarded.establishes`: what a turn is that establishes a connection.
-/

namespace ToolRelay

variable {τ : Type} {T : Transport τ}

/-! ## Single steps -/

/-- A step has the transport connect. -/
def ClientStep.opens {β : Type} : ClientStep β → Bool
  | .connect => true
  | _ => false

namespace HandshakeState

/-- Who has greeted stays so. -/
@[simp] theorem after_greeted {β : Type} (up : Bool) (e : ClientStep β) (b : β) :
    greeted.after up e b = greeted := by
  cases e <;> rfl

/-- An answer is not taken back. -/
theorem after_ne_strange {β : Type} {r : HandshakeState} (h : r ≠ .strange) (up : Bool)
    (e : ClientStep β) (b : β) : r.after up e b ≠ .strange := by
  cases e with
  | request message id =>
    cases r with
    | strange => exact absurd rfl h
    | answered =>
      rw [after, exchange]
      split_ifs <;> decide
    | greeted => exact h
  | _ => exact h

/-- On a connection that is up, the answer that brings a caller further is written down. -/
theorem exchange_ne_strange {s : Standing} {r : HandshakeState} {message : Json}
    {d : Delivery (Option Json)} (h : s.exchange message d.outcome = .answered)
    (hr : s = .answered → r ≠ .strange) : r.exchange true message d ≠ .strange := by
  cases r with
  | strange =>
    cases s with
    | connecting =>
      -- the answer came just now
      rw [Standing.exchange] at h
      split_ifs at h with hw
      simp [exchange, hw]
    | answered => exact absurd rfl (hr rfl)
    | free | welcomed | cleared => cases h
  | answered =>
    rw [exchange]
    split_ifs <;> decide
  | greeted =>
    rw [exchange]
    decide

/-- On a connection that is up, the greeting that ends a handshake is written down. -/
theorem exchange_eq_greeted {s : Standing} {r : HandshakeState} {message : Json}
    {d : Delivery (Option Json)} (h : s.exchange message d.outcome = .welcomed)
    (ha : s = .answered → r ≠ .strange) (hw : s = .welcomed → r = .greeted) :
    r.exchange true message d = .greeted := by
  cases s with
  | connecting =>
    rw [Standing.exchange] at h
    split_ifs at h
  | answered =>
    -- the greeting was sent just now
    rw [Standing.exchange] at h
    split_ifs at h with hn
    cases r with
    | strange => exact absurd rfl (ha rfl)
    | answered => simp [exchange, hn]
    | greeted => rfl
  | welcomed =>
    rw [hw rfl]
    rfl
  | free | cleared => cases h

end HandshakeState

namespace ObservedClient

variable {β : Type} {w : ObservedClient τ} {e : ClientStep β}

/-- A step that does not connect brings nothing up, and what was said on the connection is still
known. -/
theorem perform_up (hT : T.OpenedByConnect) (he : e.opens = false)
    (hup : (perform T e () w).2.isUp T = true) :
    w.isUp T = true ∧
      (perform T e () w).2.rapport = w.rapport.after true e (perform T e () w).1 := by
  -- of the steps that touch the transport only connecting may bring it up
  have hbefore : w.isUp T = true := by
    cases e with
    | connect => cases he
    | request message id => exact hT.request message id _ hup
    | disconnect => exact hT.disconnect _ hup
    | destroy => exact hT.destroy _ hup
    | _ => exact hup
  refine ⟨hbefore, ?_⟩
  simp [perform, hbefore]

/-- No connection comes out of nothing. -/
theorem isUp_of_drift {link : τ} (hup : (drift T link w).isUp T = true) : w.isUp T = true := by
  rw [drift] at hup
  split_ifs at hup with h
  · exact hup
  · have hlink : T.isConnected link = true := hup
    simpa [hlink] using h

/-- What happens around the callers concerns only the transport. -/
theorem drift_others (T : Transport τ) (link : τ) (w : ObservedClient τ) :
    (drift T link w).client.cache = w.client.cache ∧
      (drift T link w).client.locked = w.client.locked ∧
      (drift T link w).rapport = w.rapport ∧ (drift T link w).hasty = w.hasty := by
  rw [drift]
  split_ifs <;> exact ⟨rfl, rfl, rfl, rfl⟩

end ObservedClient

/-! ## The lock -/

/-- What the standing of a caller says of the client. -/
structure Standing.Fits (T : Transport τ) (s : Standing) (w : ObservedClient τ) : Prop where
  /-- The lock of those who hold it is taken. -/
  locked : s.holds = true → w.client.locked = true
  /-- An answer came on the connection that is up. -/
  answered : s = .answered → w.isUp T = true → w.rapport ≠ .strange
  /-- A greeting was sent on the connection that is up. -/
  welcomed : s = .welcomed → w.isUp T = true → w.rapport = .greeted

namespace Standing.Fits

open ObservedClient

variable {β : Type} {w : ObservedClient τ} {e : ClientStep β} {s : Standing}

/-- Those who do not hold the lock say nothing. -/
theorem of_not_holds (hs : s.holds = false) : s.Fits T w := by
  cases s with
  | free | cleared => exact ⟨nofun, nofun, nofun⟩
  | connecting | answered | welcomed => cases hs

/-- What happens around the callers leaves standings fitting. -/
theorem drift (h : s.Fits T w) (link : τ) : s.Fits T (drift T link w) := by
  obtain ⟨-, hlocked, hrapport, -⟩ := drift_others T link w
  refine ⟨fun hs => ?_, fun hs hup => ?_, fun hs hup => ?_⟩
  · rw [hlocked]
    exact h.locked hs
  · rw [hrapport]
    exact h.answered hs (isUp_of_drift hup)
  · rw [hrapport]
    exact h.welcomed hs (isUp_of_drift hup)

/-- A step that concerns neither the lock nor the opening of the transport leaves standings
fitting. -/
theorem frame (h : s.Fits T w) (hT : T.OpenedByConnect) (he : e.opens = false)
    (hl : (perform T e () w).2.client.locked = w.client.locked) :
    s.Fits T (perform T e () w).2 := by
  refine ⟨fun hs => ?_, fun hs hup => ?_, fun hs hup => ?_⟩
  · rw [hl]
    exact h.locked hs
  · obtain ⟨hbefore, hrapport⟩ := perform_up hT he hup
    rw [hrapport]
    exact HandshakeState.after_ne_strange (h.answered hs hbefore) _ _ _
  · obtain ⟨hbefore, hrapport⟩ := perform_up hT he hup
    rw [hrapport, h.welcomed hs hbefore, HandshakeState.after_greeted]

/-- The standing of whoever does a step fits afterwards. -/
theorem step (h : s.Fits T w) (hT : T.OpenedByConnect) (ha : allowed s e) :
    (standingAfter s e (perform T e () w).1).Fits T (perform T e () w).2 := by
  cases e with
  | lock => exact ⟨fun _ => rfl, nofun, nofun⟩
  | unlock => exact of_not_holds rfl
  | connect =>
    obtain rfl : s = .connecting := ha
    exact ⟨h.locked, nofun, nofun⟩
  | isConnected =>
    rw [standingAfter]
    split_ifs
    · exact of_not_holds rfl
    · exact h.frame hT rfl rfl
  | request message id =>
    -- what the message does for the caller and for the rapport goes hand in hand
    refine ⟨fun hs => ?_, fun hs hup => ?_, fun hs hup => ?_⟩
    · exact h.locked ((s.holds_exchange message _).symm.trans hs)
    · obtain ⟨hbefore, hrapport⟩ := perform_up hT rfl hup
      rw [hrapport]
      exact HandshakeState.exchange_ne_strange hs fun hs => h.answered hs hbefore
    · obtain ⟨hbefore, hrapport⟩ := perform_up hT rfl hup
      rw [hrapport]
      exact HandshakeState.exchange_eq_greeted hs (fun hs => h.answered hs hbefore)
        fun hs => h.welcomed hs hbefore
  | _ => exact h.frame hT rfl rfl

/-- The standing of whoever holds the lock fits after a step of somebody else: the lock is neither
taken nor given back, and the transport is not opened. -/
theorem other (h : s.Fits T w) (hT : T.OpenedByConnect) (hs : s.holds = true)
    (hr : w.client.ready e = true) {s' : Standing} (ha : allowed s' e) (hs' : s'.holds = false) :
    s.Fits T (perform T e () w).2 := by
  cases e with
  | lock => simp [Client.ready, h.locked hs] at hr
  | unlock => exact absurd ha (by simp [allowed, hs'])
  | connect =>
    obtain rfl : s' = .connecting := ha
    cases hs'
  | _ => exact h.frame hT rfl rfl

end Standing.Fits

namespace ObservedClient

variable {β : Type} {w : ObservedClient τ} {standings : Nat → Standing}
  {c : TaskGroup ClientStep (ObservedClient τ) Unit}

/-- One caller at most holds the lock, and all standings fit. -/
structure Guarded (T : Transport τ) (standings : Nat → Standing)
    (c : TaskGroup ClientStep (ObservedClient τ) Unit) : Prop where
  /-- The callers keep the discipline. -/
  abides : c.Abides discipline Ended standings
  /-- No two of them hold the lock. -/
  alone : ∀ p q, (standings p).holds = true → (standings q).holds = true → p = q
  /-- Their standings fit. -/
  fits : ∀ p, (standings p).Fits T c.state

/-- Before the first steps nobody holds the lock. -/
theorem Guarded.tasks (T : Transport τ) (name : String) (link : τ) (calls : List ClientCall) :
    Guarded T (fun _ => .free) (tasks name link calls) where
  abides := by
    intro place p hp
    rw [ObservedClient.tasks, List.getElem?_map, Option.map_eq_some_iff] at hp
    obtain ⟨call, -, rfl⟩ := hp
    exact routine_keeps name call
  alone := nofun
  fits _ := .of_not_holds rfl

/-- What happens around the callers leaves them guarded. -/
theorem Guarded.drift (h : Guarded T standings c) (link : τ) :
    Guarded T standings (c.turn (machine T) (.drift link)) :=
  ⟨h.abides.drift _, h.alone, fun p => (h.fits p).drift link⟩

/-- Whoever holds the lock after a step held it before, or it was there to be taken. -/
theorem holds_or_unlocked {s : Standing} {e : ClientStep β} {b : β}
    (hr : w.client.ready e = true) (h : (standingAfter s e b).holds = true) :
    s.holds = true ∨ w.client.locked = false := by
  cases e with
  | lock => exact Or.inr (by simpa [Client.ready] using hr)
  | unlock => cases h
  | isConnected =>
    rw [standingAfter] at h
    split_ifs at h
    · cases h
    · exact Or.inl h
  | request message id => exact Or.inl ((s.holds_exchange message _).symm.trans h)
  | _ => exact Or.inl h

/-- After a step that is ready nobody else holds the lock beside whoever did it. -/
theorem Guarded.alone_after (h : Guarded T standings c) {place : Nat} {e : ClientStep β} {b : β}
    (hr : c.state.client.ready e = true) {p q : Nat}
    (hp : (Function.update standings place (standingAfter (standings place) e b) p).holds = true)
    (hq : (Function.update standings place (standingAfter (standings place) e b) q).holds = true) :
    p = q := by
  -- a lock that is taken in this step was free, so it was nobody's
  have hother : ∀ p, p ≠ place → (standings p).holds = true →
      (standingAfter (standings place) e b).holds = false := by
    intro p hne hp
    by_contra hplace
    rcases holds_or_unlocked hr (Bool.ne_false_iff.1 hplace) with hplace | hfree
    · exact hne (h.alone p place hp hplace)
    · simp [(h.fits p).locked hp] at hfree
  by_cases hpp : p = place
  · by_cases hqp : q = place
    · rw [hpp, hqp]
    · rw [hpp, Function.update_self] at hp
      rw [Function.update_of_ne hqp] at hq
      simp [hother q hqp hq] at hp
  · rw [Function.update_of_ne hpp] at hp
    by_cases hqp : q = place
    · rw [hqp, Function.update_self] at hq
      simp [hother p hpp hp] at hq
    · rw [Function.update_of_ne hqp] at hq
      exact h.alone p q hp hq

/-- After an allowed step all standings fit, the one of whoever did it and those of the others. -/
theorem Guarded.fits_after (h : Guarded T standings c) (hT : T.OpenedByConnect) {place : Nat}
    {e : ClientStep β} (hr : c.state.client.ready e = true) (ha : allowed (standings place) e)
    (p : Nat) :
    (Function.update standings place
      (standingAfter (standings place) e (perform T e () c.state).1) p).Fits T
        (perform T e () c.state).2 := by
  by_cases hpp : p = place
  · subst hpp
    rw [Function.update_self]
    exact (h.fits p).step hT ha
  · rw [Function.update_of_ne hpp]
    rcases hp : (standings p).holds
    · exact .of_not_holds hp
    · have hplace : (standings place).holds = false :=
        Bool.eq_false_iff.2 fun hplace => hpp (h.alone p place hp hplace)
      exact (h.fits p).other hT hp hr ha hplace

/-- A turn of a caller changes nothing, or it is one allowed step, after which the callers are still
guarded. -/
theorem Guarded.act (h : Guarded T standings c) (hT : T.OpenedByConnect) (place : Nat) :
    c.turn (machine T) (.act place ()) = c ∨
      ∃ (β : Type) (e : ClientStep β) (next : β → Client.Calls Unit),
        c.members[place]? = some (.step e next) ∧ allowed (standings place) e ∧
        c.turn (machine T) (.act place ()) =
          ⟨c.members.set place (next (perform T e () c.state).1), (perform T e () c.state).2⟩ ∧
        Guarded T
          (Function.update standings place
            (standingAfter (standings place) e (perform T e () c.state).1))
          (c.turn (machine T) (.act place ())) := by
  rcases h.abides.act (machine T) place () with heq | ⟨β, e, next, hm, hr, ha, heq, habides⟩
  · exact Or.inl heq
  · refine Or.inr ⟨β, e, next, hm, ha, heq, habides, fun p q => h.alone_after hr, fun p => ?_⟩
    have hfits := h.fits_after hT hr ha p
    show Standing.Fits T _ (c.act (machine T) place ()).state
    rw [heq]
    exact hfits

/-- Every turn leaves the callers guarded. -/
theorem Guarded.turn (h : Guarded T standings c) (hT : T.OpenedByConnect) (t : Turn Unit τ) :
    ∃ standings', Guarded T standings' (c.turn (machine T) t) := by
  cases t with
  | act place input =>
    rcases h.act hT place with heq | ⟨_, _, _, _, _, _, hguarded⟩
    · exact ⟨standings, by rwa [heq]⟩
    · exact ⟨_, hguarded⟩
  | drift link => exact ⟨standings, h.drift link⟩

/-- A step that establishes a connection has the transport connect. -/
theorem opens_of_established (hT : T.OpenedByConnect) {e : ClientStep β} (hdown : w.isUp T = false)
    (hup : (perform T e () w).2.isUp T = true) : e.opens = true := by
  by_contra he
  have hbefore : w.isUp T = true := (perform_up hT (by simpa using he) hup).1
  simp [hdown] at hbefore

/-- On a new connection nothing has been said. -/
theorem strange_of_established {e : ClientStep β} (hdown : w.isUp T = false)
    (hup : (perform T e () w).2.isUp T = true) : (perform T e () w).2.rapport = .strange := by
  have hlink : T.isConnected (w.client.act T e).2.link = true := hup
  simp [perform, hdown, hlink]

/-- A turn that establishes a connection is a step of some caller that has the transport connect. -/
theorem Guarded.establishes (h : Guarded T standings c) (hT : T.OpenedByConnect)
    {t : Turn Unit τ} (he : Establishes T c t) :
    ∃ place next, t = .act place () ∧ c.members[place]? = some (.step .connect next) ∧
      c.turn (machine T) t = ⟨c.members.set place (next (perform T .connect () c.state).1),
        (perform T .connect () c.state).2⟩ := by
  obtain ⟨hdown, hup⟩ := he
  cases t with
  | drift link =>
    have hbefore : c.state.isUp T = true := isUp_of_drift hup
    simp [hdown] at hbefore
  | act place input =>
    rcases h.act hT place with heq | ⟨β, e, next, hm, -, heq, -⟩
    · have hbefore : c.state.isUp T = true := by
        rw [← heq]
        exact hup
      simp [hdown] at hbefore
    · have hopens : e.opens = true := by
        refine opens_of_established hT hdown ?_
        rw [heq] at hup
        exact hup
      cases e with
      | connect => exact ⟨place, next, rfl, hm, heq⟩
      | _ => cases hopens

end ObservedClient

end ToolRelay
