import Mathlib.Data.List.Infix
import ToolRelay.Proofs.Stream.Reader

/-!
# The budget of a reader

A policy with a bound grants a reader that many reopenings in a row without an event. What is left
of them can be read off the reader: the end of a stream leaves it as it is, a reopening takes one
away, an event of any kind restores them all, and a reader to whose stream nothing is left stops.

## Main definitions

* `Stretch`: what comes over the stream between two openings, and how it ends.
* `StreamLink.readAll`: a reader from its start through several stretches.
* `StreamLink.reopenings`: how often the stream is reopened while the reader meets happenings.
* `ReaderPhase.left`: how many reopenings are left.
* `StreamLink.KeepsBudget`: the promise of a policy with a bound.

## Main results

* `StreamLink.meet_met`: everything that one happening can do to a reader.
* `StreamLink.reopenings_add_left`: without an event, each reopening is paid for.
* `StreamLink.readAll_reader`: what the reader does after each stretch.
* `StreamLink.reconnect_budget`: a reader keeps the budget of its policy.
-/

namespace ToolRelay

/-- A happening with which a stream ends. -/
def Happening.ends : Happening → Bool
  | .event _ | .rested => false
  | .unanswered _ | .refused _ | .otherContent _ | .broken _ | .notText | .ended _ => true

/-- What comes over the stream between two openings: any events, and then its end. -/
structure Stretch where
  /-- The events. -/
  events : List StreamEvent
  /-- How the stream ends. -/
  ending : Happening
  /-- It does end. -/
  ends : ending.ends = true

/-- What the reader meets during a stretch. -/
def Stretch.happenings (s : Stretch) : List Happening := s.events.map .event ++ [s.ending]

/-- What the reader meets when the stream is reopened for one stretch after the other. -/
def Stretch.reopened (stretches : List Stretch) : List Happening :=
  stretches.flatMap fun s => .rested :: s.happenings

/-- The server and the number that a note about giving up names. -/
def Note.givenUp? : Note → Option (String × Nat)
  | .streamGivenUp server attempts => some (server, attempts)
  | _ => none

/-- What the reader does when a stream has ended, `attempt` attempts after the last event. -/
def ReconnectPolicy.phaseAfter (p : ReconnectPolicy) (attempt : UInt32) : ReaderPhase :=
  match p.delayFor (attempt + 1) with
  | some _ => .resting (attempt + 1)
  | none => .stopped

namespace ReaderPhase

/-- How many reopenings are left of `m`. -/
def left (m : Nat) : ReaderPhase → Nat
  | .reading attempt => m - attempt.toNat
  | .resting attempt => m + 1 - attempt.toNat
  | .stopped => 0

/-- No more attempts are counted than `m`, and a reader that rests has counted one. -/
def Funded (m : Nat) : ReaderPhase → Prop
  | .reading attempt => attempt.toNat ≤ m
  | .resting attempt => 1 ≤ attempt.toNat ∧ attempt.toNat ≤ m
  | .stopped => True

/-- The attempts since the last event, as long as the reader counts them. -/
def attempt? : ReaderPhase → Option UInt32
  | .reading attempt | .resting attempt => some attempt
  | .stopped => none

end ReaderPhase

/-! ## One attempt -/

section Policy

variable {p : ReconnectPolicy} {m a : UInt32}

/-- While no more attempts are counted than a policy allows, one more can be counted. -/
theorem toNat_succ_of_le (hlt : m.toNat < UInt32.size - 1) (ha : a.toNat ≤ m.toNat) :
    (a + 1).toNat = a.toNat + 1 := by
  have hsize : a.toNat + 1 < UInt32.size := by omega
  rw [UInt32.toNat_add]
  exact Nat.mod_eq_of_lt hsize

theorem phaseAfter_of_bound (hm : p.maxAttempts = some m) (hlt : m.toNat < UInt32.size - 1)
    (ha : a.toNat ≤ m.toNat) :
    p.phaseAfter a = if a.toNat = m.toNat then .stopped else .resting (a + 1) := by
  have hsucc := toNat_succ_of_le hlt ha
  have hspent : m < a + 1 ↔ a.toNat = m.toNat := by
    rw [UInt32.lt_iff_toNat_lt, hsucc]
    omega
  -- the attempt that is counted now is one too many exactly when the budget was spent
  simp only [ReconnectPolicy.phaseAfter, ReconnectPolicy.delayFor, hm, hspent]
  by_cases h : a.toNat = m.toNat
  · rw [if_pos h, if_pos h]
  · rw [if_neg h, if_neg h]

theorem funded_phaseAfter (hm : p.maxAttempts = some m) (hlt : m.toNat < UInt32.size - 1)
    (ha : a.toNat ≤ m.toNat) : (p.phaseAfter a).Funded m.toNat := by
  rw [phaseAfter_of_bound hm hlt ha]
  split_ifs
  · trivial
  · show 1 ≤ (a + 1).toNat ∧ (a + 1).toNat ≤ m.toNat
    rw [toNat_succ_of_le hlt ha]
    omega

/-- Counting an attempt does not change what is left. -/
theorem left_phaseAfter (hm : p.maxAttempts = some m) (hlt : m.toNat < UInt32.size - 1)
    (ha : a.toNat ≤ m.toNat) : (p.phaseAfter a).left m.toNat = m.toNat - a.toNat := by
  rw [phaseAfter_of_bound hm hlt ha]
  split_ifs with h
  · show 0 = m.toNat - a.toNat
    omega
  · show m.toNat + 1 - (a + 1).toNat = m.toNat - a.toNat
    rw [toNat_succ_of_le hlt ha]
    omega

end Policy

namespace StreamLink

variable {l : StreamLink} {m a : UInt32}

/-- The stream has ended, `attempt` attempts after the last event, and this is counted. -/
structure Counts (l : StreamLink) (attempt : UInt32) (out : List Note × StreamLink) : Prop where
  /-- The reader rests, or it has stopped. -/
  reader : out.2.reader = some (l.settings.reconnect.phaseAfter attempt)
  /-- If it has stopped, a note says so, and names the attempts. -/
  givenUp : out.1.filterMap Note.givenUp? =
    if l.settings.reconnect.phaseAfter attempt = .stopped
    then [(l.settings.serverName, attempt.toNat)] else []
  /-- If it has stopped, the stream state is left. -/
  released : l.settings.reconnect.phaseAfter attempt = .stopped →
    out.2.desk.readerAlive = false ∧ out.2.desk.waiters = []

theorem counts_countAttempt (l : StreamLink) (a : UInt32) : l.Counts a (l.countAttempt a) := by
  rcases h : l.settings.reconnect.delayFor (a + 1) with _ | delay
  · have hphase : l.settings.reconnect.phaseAfter a = .stopped := by
      rw [ReconnectPolicy.phaseAfter, h]
    have hout : l.countAttempt a =
        ([.streamGivenUp l.settings.serverName (a + 1 - 1).toNat], l.stopReader) := by
      simp only [countAttempt, h]
    rw [hout]
    refine ⟨by rw [hphase]; rfl, ?_, fun _ => ⟨rfl, rfl⟩⟩
    rw [hphase, if_pos rfl, UInt32.add_sub_cancel]
    rfl
  · have hphase : l.settings.reconnect.phaseAfter a = .resting (a + 1) := by
      rw [ReconnectPolicy.phaseAfter, h]
    have hout : l.countAttempt a = ([], { l with reader := some (.resting (a + 1)) }) := by
      simp only [countAttempt, h]
    rw [hout]
    refine ⟨by rw [hphase], ?_, fun hstop => ?_⟩
    · rw [hphase, if_neg (by simp)]
      rfl
    · rw [hphase] at hstop
      cases hstop

theorem counts_fail (l : StreamLink) (a : UInt32) (why : Failure) :
    l.Counts a (l.fail a why) := by
  have h := counts_countAttempt
    { l with
      lastError := l.lastError.record why
      status := if l.desk.endpoint.isSome then l.status else .failed why.describe } a
  exact ⟨h.reader, h.givenUp, h.released⟩

/-! ## One happening -/

/-- The reader reopens the stream when it meets this. -/
def reopens (l : StreamLink) (h : Happening) : Bool :=
  match l.reader, h with
  | some (.resting _), .rested => true
  | _, _ => false

/-- Everything that one happening can do to a reader. -/
inductive Met (l : StreamLink) : Happening → List Note × StreamLink → Prop
  /-- An event is read. -/
  | event {a e out} : l.reader = some (.reading a) → out.2.reader = some (.reading 0) →
      out.1.filterMap Note.givenUp? = [] → Met l (.event e) out
  /-- The stream ends. -/
  | ended {a h out} : l.reader = some (.reading a) → h.ends = true → l.Counts a out → Met l h out
  /-- The stream is reopened. -/
  | opened {a out} : l.reader = some (.resting a) → l.openingFault? = none →
      out.2.reader = some (.reading a) → out.1.filterMap Note.givenUp? = [] → Met l .rested out
  /-- The stream cannot be asked for, which ends it at once. -/
  | unopened {a out} : l.reader = some (.resting a) → l.openingFault? ≠ none → l.Counts a out →
      Met l .rested out
  /-- The reader does not care. -/
  | idle {h out} : l.reopens h = false → (∀ a, l.reader = some (.reading a) → h = .rested) →
      out = ([], l) → Met l h out

theorem handle_reader (l : StreamLink) (e : StreamEvent) : (l.handle e).2.reader = l.reader := by
  rcases hr : e.response? with _ | ⟨id, raw⟩
  · rcases l.handle_of_no_response hr with heq | ⟨endpoint, heq⟩
    · rw [heq]
    · rw [heq]
      rfl
  · rw [l.handle_of_response hr]

theorem handle_givenUp (l : StreamLink) (e : StreamEvent) :
    (l.handle e).1.filterMap Note.givenUp? = [] := by
  rw [handle]
  split_ifs
  · cases Endpoint.ofData? l.base e.data <;> rfl
  · rcases responseOf? e.data with _ | ⟨id, raw⟩
    · rfl
    · rcases hfate : (l.desk.deliver id raw).1 <;> simp only [noteOf, hfate] <;> rfl

/-- However a stream ends, its end is counted. -/
theorem meetReading_of_ends (l : StreamLink) (a : UInt32) {h : Happening} (hh : h.ends = true) :
    l.Counts a (l.meetReading a h) := by
  rcases hf : l.failureOf? h with _ | why
  · -- the only end of a stream that is no failure
    cases h with
    | ended how => exact counts_countAttempt l a
    | event e => cases hh
    | rested => cases hh
    | _ => cases hf
  · simp only [meetReading, hf]
    exact counts_fail l a why

theorem openStream_of_fault (l : StreamLink) (a : UInt32) (hf : l.openingFault? ≠ none) :
    l.Counts a (l.openStream a) := by
  obtain ⟨why, hwhy⟩ := Option.ne_none_iff_exists'.1 hf
  let l' : StreamLink := { l with reader := some (.reading a) }
  have hfault : l'.openingFault? = some why := hwhy
  have hout : l.openStream a = l'.fail a why := by simp only [openStream, l', hfault]
  have h := counts_fail l' a why
  rw [hout]
  exact ⟨h.reader, h.givenUp, h.released⟩

theorem openStream_of_no_fault (l : StreamLink) (a : UInt32) (hf : l.openingFault? = none) :
    l.openStream a = ([], { l with reader := some (.reading a) }) := by
  have hf' : ({ l with reader := some (.reading a) } : StreamLink).openingFault? = none := hf
  simp only [openStream, hf']

theorem meet_met (l : StreamLink) (h : Happening) : l.Met h (l.meet h) := by
  -- a reader that never started or has stopped is idle, whatever happens
  rcases hr : l.reader with _ | ⟨a | a | _⟩
  · have hmeet : l.meet h = ([], l) := by simp only [meet, hr]
    rw [hmeet]
    exact .idle (by simp only [reopens, hr]) (by simp [hr]) rfl
  · rw [meet_of_reading hr]
    cases h with
    | event e =>
      rw [meetReading_event]
      exact .event hr (handle_reader _ e) (handle_givenUp _ e)
    | rested =>
      have hidle : l.meetReading a .rested = ([], l) := by simp only [meetReading, failureOf?]
      exact .idle (by simp only [reopens, hr]) (fun _ _ => rfl) hidle
    | _ => exact .ended hr rfl (meetReading_of_ends l a rfl)
  · by_cases hrest : h = .rested
    · subst hrest
      have hmeet : l.meet .rested = l.openStream a := by simp only [meet, hr]
      rw [hmeet]
      by_cases hf : l.openingFault? = none
      · rw [openStream_of_no_fault l a hf]
        exact .opened hr hf rfl rfl
      · exact .unopened hr hf (openStream_of_fault l a hf)
    · have hmeet : l.meet h = ([], l) := by
        cases h <;> first | exact absurd rfl hrest | simp only [meet, hr]
      have hno : l.reopens h = false := by
        cases h <;> first | exact absurd rfl hrest | simp only [reopens, hr]
      rw [hmeet]
      exact .idle hno (by simp [hr]) rfl
  · have hmeet : l.meet h = ([], l) := by simp only [meet, hr]
    rw [hmeet]
    exact .idle (by simp only [reopens, hr]) (by simp [hr]) rfl

/-! ## Several happenings -/

/-- How often the stream is reopened while the reader meets these happenings. -/
def reopenings (l : StreamLink) : List Happening → Nat
  | [] => 0
  | h :: rest => (if l.reopens h then 1 else 0) + (l.meet h).2.reopenings rest

/-- The reader from its start: what it notes and what becomes of it while it meets happenings. -/
def readThrough (l : StreamLink) (happenings : List Happening) : List Note × StreamLink :=
  let (notes, l) := l.startReader
  let (later, l) := l.meetAll happenings
  (notes ++ later, l)

/-- The reader from its start through a first stretch and those for which the stream is
reopened. -/
def readAll (l : StreamLink) (first : Stretch) (stretches : List Stretch) :
    List Note × StreamLink :=
  l.readThrough (first.happenings ++ Stretch.reopened stretches)

/-- An event of this stretch is read: the stream can be asked for, and carries one. -/
def Hears (l : StreamLink) (s : Stretch) : Prop := l.openingFault? = none ∧ s.events ≠ []

instance (l : StreamLink) (s : Stretch) : Decidable (l.Hears s) :=
  inferInstanceAs (Decidable (_ ∧ _))

theorem meetAll_append (l : StreamLink) (hs hs' : List Happening) :
    (l.meetAll (hs ++ hs')).2 = ((l.meetAll hs).2.meetAll hs').2 := by
  induction hs generalizing l with
  | nil => rfl
  | cons h rest ih => exact ih _

/-- Whether the stream can be asked for depends on the settings alone. -/
theorem openingFault?_congr {l l' : StreamLink} (h : l'.settings = l.settings) :
    l'.openingFault? = l.openingFault? := by
  rw [openingFault?, openingFault?, h]

/-! ## What is left of the budget -/

/-- No more attempts are counted than `m` allows. -/
def Funded (m : UInt32) (l : StreamLink) : Prop := ∃ ph, l.reader = some ph ∧ ph.Funded m.toNat

/-- How many reopenings of `m` are left. -/
def left (m : UInt32) (l : StreamLink) : Nat := (l.reader.map (·.left m.toNat)).getD 0

section Bound

variable (hm : l.settings.reconnect.maxAttempts = some m) (hlt : m.toNat < UInt32.size - 1)

include hm hlt

theorem Counts.funded {out : List Note × StreamLink} (h : l.Counts a out)
    (ha : a.toNat ≤ m.toNat) : out.2.Funded m :=
  ⟨_, h.reader, funded_phaseAfter hm hlt ha⟩

theorem Counts.left_eq {out : List Note × StreamLink} (h : l.Counts a out)
    (ha : a.toNat ≤ m.toNat) : out.2.left m = m.toNat - a.toNat := by
  rw [StreamLink.left, h.reader]
  exact left_phaseAfter hm hlt ha

/-- A reader only gives up when as many attempts are counted as are allowed. -/
theorem Counts.givenUp_eq {out : List Note × StreamLink} (h : l.Counts a out)
    (ha : a.toNat ≤ m.toNat) : out.1.filterMap Note.givenUp? =
      if out.2.reader = some .stopped then [(l.settings.serverName, m.toNat)] else [] := by
  rw [h.givenUp, h.reader, phaseAfter_of_bound hm hlt ha]
  split_ifs with hspent <;> simp_all

theorem Funded.meet (hl : l.Funded m) (h : Happening) : (l.meet h).2.Funded m := by
  obtain ⟨ph, hr, hph⟩ := hl
  cases l.meet_met h with
  | event _ hout _ => exact ⟨_, hout, Nat.zero_le _⟩
  | ended hread _ hcount =>
    rw [hr] at hread
    cases hread
    exact hcount.funded hm hlt hph
  | opened hrest _ hout _ =>
    rw [hr] at hrest
    cases hrest
    exact ⟨_, hout, hph.2⟩
  | unopened hrest _ hcount =>
    rw [hr] at hrest
    cases hrest
    exact hcount.funded hm hlt hph.2
  | idle _ _ hout => exact ⟨ph, by rw [hout]; exact hr, hph⟩

theorem Funded.meetAll (hl : l.Funded m) (hs : List Happening) : (l.meetAll hs).2.Funded m := by
  induction hs generalizing l with
  | nil => exact hl
  | cons h rest ih =>
    have hm' : (l.meet h).2.settings.reconnect.maxAttempts = some m := by
      rw [meet_settings]
      exact hm
    exact ih hm' (hl.meet hm hlt h)

omit hm hlt in
/-- An event restores the whole budget. -/
theorem left_meet_event (hr : l.reader = some (.reading a)) (e : StreamEvent) :
    (l.meet (.event e)).2.left m = m.toNat := by
  rw [meet_of_reading hr, meetReading_event, StreamLink.left, handle_reader]
  rfl

/-- Without an event, a reopening costs one of the budget, and nothing else costs anything. -/
theorem left_meet (hl : l.Funded m) {h : Happening} (hq : ∀ e, h ≠ .event e) :
    (if l.reopens h then 1 else 0) + (l.meet h).2.left m = l.left m := by
  obtain ⟨ph, hr, hph⟩ := hl
  cases l.meet_met h with
  | event _ _ _ => exact absurd rfl (hq _)
  | ended hread _ hcount =>
    rw [hr] at hread
    cases hread
    rw [hcount.left_eq hm hlt hph]
    simp [reopens, StreamLink.left, hr, ReaderPhase.left]
  | opened hrest _ hout _ =>
    rw [hr] at hrest
    cases hrest
    have hpaid := hph.2
    simp only [reopens, StreamLink.left, hr, hout, ReaderPhase.left, Option.map_some,
      Option.getD_some, if_true]
    omega
  | unopened hrest _ hcount =>
    rw [hr] at hrest
    cases hrest
    have hpaid := hph.2
    rw [hcount.left_eq hm hlt hpaid]
    simp only [reopens, StreamLink.left, hr, ReaderPhase.left, Option.map_some,
      Option.getD_some, if_true]
    omega
  | idle hno _ hout => simp [hno, hout]

/-- Without an event, each reopening is paid for out of what was left. -/
theorem reopenings_add_left (hl : l.Funded m) {quiet : List Happening}
    (hq : ∀ e, Happening.event e ∉ quiet) :
    l.reopenings quiet + (l.meetAll quiet).2.left m = l.left m := by
  induction quiet generalizing l with
  | nil => exact Nat.zero_add _
  | cons h rest ih =>
    have hm' : (l.meet h).2.settings.reconnect.maxAttempts = some m := by
      rw [meet_settings]
      exact hm
    -- what is paid at the first and what is paid at the others come out of the same budget
    have hrest := ih hm' (hl.meet hm hlt h) fun e he => hq e (List.mem_cons_of_mem h he)
    have hstep := left_meet hm hlt hl (h := h) fun e he => hq e (he ▸ List.mem_cons_self)
    show (if l.reopens h then 1 else 0) + (l.meet h).2.reopenings rest +
      ((l.meet h).2.meetAll rest).2.left m = l.left m
    omega

omit hm hlt in
/-- The budget is never more than the policy grants. -/
theorem Funded.left_le (hl : l.Funded m) : l.left m ≤ m.toNat := by
  obtain ⟨ph, hr, hph⟩ := hl
  rw [StreamLink.left, hr]
  cases ph with
  | reading a => exact Nat.sub_le _ _
  | resting a =>
    have := hph.1
    show m.toNat + 1 - a.toNat ≤ m.toNat
    omega
  | stopped => exact Nat.zero_le _

/-! ## Giving up -/

omit hm hlt in
/-- A reader that has stopped meets nothing. -/
theorem meet_of_stopped (hr : l.reader = some .stopped) (h : Happening) :
    l.meet h = ([], l) := by
  simp only [meet, hr]

omit hm hlt in
theorem meetAll_of_stopped (hr : l.reader = some .stopped) (hs : List Happening) :
    l.meetAll hs = ([], l) := by
  induction hs with
  | nil => rfl
  | cons h rest ih => simp only [StreamLink.meetAll, meet_of_stopped hr, ih, List.append_nil]

/-- A reader that stops while it meets something says so once, and names the bound. -/
theorem meet_givenUp (hl : l.Funded m) (hr : l.reader ≠ some .stopped) (h : Happening) :
    (l.meet h).1.filterMap Note.givenUp? =
      if (l.meet h).2.reader = some .stopped then [(l.settings.serverName, m.toNat)] else [] := by
  obtain ⟨ph, hph, hfunded⟩ := hl
  cases l.meet_met h with
  | event _ hout hnone => rw [hnone, hout, if_neg (by simp)]
  | ended hread _ hcount =>
    rw [hph] at hread
    cases hread
    exact hcount.givenUp_eq hm hlt hfunded
  | opened _ _ hout hnone => rw [hnone, hout, if_neg (by simp)]
  | unopened hrest _ hcount =>
    rw [hph] at hrest
    cases hrest
    exact hcount.givenUp_eq hm hlt hfunded.2
  | idle _ _ hout => rw [hout, if_neg hr, List.filterMap_nil]

theorem meetAll_givenUp (hl : l.Funded m) (hr : l.reader ≠ some .stopped) (hs : List Happening) :
    (l.meetAll hs).1.filterMap Note.givenUp? =
      if (l.meetAll hs).2.reader = some .stopped then [(l.settings.serverName, m.toNat)]
      else [] := by
  induction hs generalizing l with
  | nil => exact (if_neg hr).symm
  | cons h rest ih =>
    show ((l.meet h).1 ++ ((l.meet h).2.meetAll rest).1).filterMap Note.givenUp? =
      if ((l.meet h).2.meetAll rest).2.reader = some .stopped
      then [(l.settings.serverName, m.toNat)] else []
    rw [List.filterMap_append, meet_givenUp hm hlt hl hr h]
    by_cases hstop : (l.meet h).2.reader = some .stopped
    · -- the note is written here, and nothing is met any more
      rw [if_pos hstop, meetAll_of_stopped hstop, if_pos hstop]
      rfl
    · have hm' : (l.meet h).2.settings.reconnect.maxAttempts = some m := by
        rw [meet_settings]
        exact hm
      rw [if_neg hstop, List.nil_append, ih hm' (hl.meet hm hlt h) hstop, meet_settings]

end Bound

/-- Whoever stops reading leaves the stream state. -/
theorem desk_of_stopping (hr : l.reader ≠ some .stopped) {h : Happening}
    (hstop : (l.meet h).2.reader = some .stopped) :
    (l.meet h).2.desk.readerAlive = false ∧ (l.meet h).2.desk.waiters = [] := by
  cases l.meet_met h with
  | event _ hout _ => rw [hout] at hstop; cases hstop
  | ended _ _ hcount => exact hcount.released (Option.some.inj (hcount.reader.symm.trans hstop))
  | opened _ _ hout _ => rw [hout] at hstop; cases hstop
  | unopened _ _ hcount => exact hcount.released (Option.some.inj (hcount.reader.symm.trans hstop))
  | idle _ _ hout => rw [hout] at hstop; exact absurd hstop hr

theorem desk_of_meetAll_stopped (hr : l.reader ≠ some .stopped) {hs : List Happening}
    (hstop : (l.meetAll hs).2.reader = some .stopped) :
    (l.meetAll hs).2.desk.readerAlive = false ∧ (l.meetAll hs).2.desk.waiters = [] := by
  induction hs generalizing l with
  | nil => exact absurd hstop hr
  | cons h rest ih =>
    by_cases hnow : (l.meet h).2.reader = some .stopped
    · have heq : (l.meetAll (h :: rest)).2 = (l.meet h).2 := by
        show ((l.meet h).2.meetAll rest).2 = (l.meet h).2
        rw [meetAll_of_stopped hnow]
      rw [heq]
      exact desk_of_stopping hr hnow
    · exact ih hnow hstop

/-! ## Stretches -/

theorem rested_notMem_happenings (s : Stretch) : Happening.rested ∉ s.happenings := by
  intro h
  rcases List.mem_append.1 h with h | h
  · obtain ⟨e, -, he⟩ := List.mem_map.1 h
    cases he
  · have hends := s.ends
    rw [← List.mem_singleton.1 h] at hends
    cases hends

/-- A reader that rests only meets the end of its rest. -/
theorem meetAll_of_resting (hr : l.reader = some (.resting a)) {hs : List Happening}
    (hno : Happening.rested ∉ hs) : l.meetAll hs = ([], l) := by
  induction hs with
  | nil => rfl
  | cons h rest ih =>
    have hmeet : l.meet h = ([], l) := by
      cases h with
      | rested => exact absurd List.mem_cons_self hno
      | _ => simp only [meet, hr]
    have hrest := ih fun hin => hno (List.mem_cons_of_mem h hin)
    simp only [meetAll, hmeet, hrest, List.append_nil]

theorem reader_meetAll_events (hr : l.reader = some (.reading a)) (events : List StreamEvent) :
    (l.meetAll (events.map .event)).2.reader = some (.reading (if events = [] then a else 0)) := by
  induction events generalizing l a with
  | nil => exact hr
  | cons e rest ih =>
    have hevent : (l.meet (.event e)).2.reader = some (.reading 0) := by
      rw [meet_of_reading hr, meetReading_event, handle_reader]
    show ((l.meet (.event e)).2.meetAll (rest.map .event)).2.reader = _
    rw [ih hevent, ite_self, if_neg (List.cons_ne_nil e rest)]

/-- What a reader does at the end of a stretch that it has read. -/
theorem reader_meetAll_happenings (hr : l.reader = some (.reading a)) (s : Stretch) :
    (l.meetAll s.happenings).2.reader =
      some (l.settings.reconnect.phaseAfter (if s.events = [] then a else 0)) := by
  rw [Stretch.happenings, meetAll_append]
  have hread := reader_meetAll_events hr s.events
  have hset := l.meetAll_settings (s.events.map .event)
  set l' := (l.meetAll (s.events.map .event)).2
  show (l'.meet s.ending).2.reader = _
  have hcount := meetReading_of_ends l' (if s.events = [] then a else 0) s.ends
  rw [meet_of_reading hread, hcount.reader, hset]

/-- What a reader does after a stretch for which it reopened the stream. -/
theorem reader_meetAll_reopened (hr : l.reader = some (.resting a)) (s : Stretch) :
    (l.meetAll (.rested :: s.happenings)).2.reader =
      some (l.settings.reconnect.phaseAfter (if l.Hears s then 0 else a)) := by
  have hmeet : l.meet .rested = l.openStream a := by simp only [meet, hr]
  show ((l.meet .rested).2.meetAll s.happenings).2.reader = _
  rw [hmeet]
  by_cases hf : l.openingFault? = none
  · rw [openStream_of_no_fault l a hf]
    rw [reader_meetAll_happenings (l := { l with reader := some (.reading a) }) rfl s]
    by_cases he : s.events = []
    · rw [if_pos he, if_neg fun hhears => hhears.2 he]
    · rw [if_neg he, if_pos ⟨hf, he⟩]
  · -- the attempt is over before anything comes, and the reader rests again or has stopped
    have hcount := openStream_of_fault l a hf
    have hsame : ((l.openStream a).2.meetAll s.happenings).2 = (l.openStream a).2 := by
      rcases hphase : l.settings.reconnect.phaseAfter a with b | b | _
      · rw [ReconnectPolicy.phaseAfter] at hphase
        split at hphase <;> cases hphase
      · rw [meetAll_of_resting (hcount.reader.trans (congrArg some hphase))
          (rested_notMem_happenings s)]
      · rw [meetAll_of_stopped (hcount.reader.trans (congrArg some hphase))]
    rw [hsame, hcount.reader, if_neg fun hhears => hf hhears.1]

/-! ## Attempts in a row -/

/-- How many stretches there have been since the last one with an event that was read. -/
def spent (l : StreamLink) (stretches : List Stretch) : Nat :=
  stretches.foldl (fun k s => if l.Hears s then 0 else k + 1) 0

/-- Among the stretches there are `m` in a row without an event that is read. -/
def RunsDry (l : StreamLink) (m : Nat) (stretches : List Stretch) : Prop :=
  ∃ dry, dry <:+: stretches ∧ dry.length = m ∧ ∀ s ∈ dry, ¬l.Hears s

theorem spent_concat (l : StreamLink) (ss : List Stretch) (s : Stretch) :
    l.spent (ss ++ [s]) = if l.Hears s then 0 else l.spent ss + 1 := by
  rw [spent, List.foldl_append]
  rfl

theorem le_spent_iff {n : Nat} {ss : List Stretch} :
    n ≤ l.spent ss ↔ ∃ dry, dry <:+ ss ∧ dry.length = n ∧ ∀ s ∈ dry, ¬l.Hears s := by
  -- on the last stretch, which is where the count changes
  induction ss using List.reverseRecOn generalizing n with
  | nil =>
    constructor
    · intro hn
      exact ⟨[], List.suffix_rfl, (Nat.le_zero.1 hn).symm, by simp⟩
    · rintro ⟨dry, hsuf, rfl, -⟩
      rw [List.suffix_nil.1 hsuf]
      exact Nat.zero_le _
  | append_singleton ss s ih =>
    rw [spent_concat]
    constructor
    · intro hn
      rcases n with _ | n
      · exact ⟨[], List.nil_suffix, rfl, by simp⟩
      · by_cases hs : l.Hears s
        · rw [if_pos hs] at hn
          omega
        · rw [if_neg hs] at hn
          obtain ⟨dry, hsuf, hlen, hdry⟩ := ih.1 (Nat.le_of_succ_le_succ hn)
          have hsuf' : dry ++ [s] <:+ ss ++ [s] :=
            List.suffix_concat_iff.2 (Or.inr ⟨dry, rfl, hsuf⟩)
          refine ⟨dry ++ [s], hsuf', by simp [hlen], ?_⟩
          intro t ht
          rcases List.mem_append.1 ht with ht | ht
          · exact hdry t ht
          · rwa [List.mem_singleton.1 ht]
    · rintro ⟨dry, hsuf, rfl, hdry⟩
      rcases List.suffix_concat_iff.1 hsuf with rfl | ⟨front, rfl, hfront⟩
      · exact Nat.zero_le _
      · rw [if_neg (hdry s (by simp)), List.length_append]
        have hle := ih.2 ⟨front, hfront, rfl, fun t ht => hdry t (List.mem_append_left _ ht)⟩
        exact Nat.succ_le_succ hle

theorem runsDry_nil {n : Nat} : l.RunsDry n [] ↔ n = 0 := by
  constructor
  · rintro ⟨dry, hin, rfl, -⟩
    rw [List.infix_nil.1 hin]
    rfl
  · rintro rfl
    exact ⟨[], List.infix_rfl, rfl, by simp⟩

/-- Stretches run dry where they did so before the last one, or run dry at their end. -/
theorem runsDry_concat {n : Nat} {ss : List Stretch} {s : Stretch} :
    l.RunsDry n (ss ++ [s]) ↔ l.RunsDry n ss ∨ n ≤ l.spent (ss ++ [s]) := by
  rw [le_spent_iff]
  constructor
  · rintro ⟨dry, hin, hlen, hdry⟩
    rcases List.infix_concat_iff.1 hin with hsuf | hin
    · exact Or.inr ⟨dry, hsuf, hlen, hdry⟩
    · exact Or.inl ⟨dry, hin, hlen, hdry⟩
  · rintro (⟨dry, hin, hlen, hdry⟩ | ⟨dry, hsuf, hlen, hdry⟩)
    · exact ⟨dry, hin.trans (List.prefix_append ss [s]).isInfix, hlen, hdry⟩
    · exact ⟨dry, hsuf.isInfix, hlen, hdry⟩

theorem RunsDry.of_le_spent {n : Nat} {ss : List Stretch} (h : n ≤ l.spent ss) :
    l.RunsDry n ss := by
  obtain ⟨dry, hsuf, hlen, hdry⟩ := le_spent_iff.1 h
  exact ⟨dry, hsuf.isInfix, hlen, hdry⟩

/-! ## A reader from its start -/

section Start

variable (hm : l.settings.reconnect.maxAttempts = some m) (hlt : m.toNat < UInt32.size - 1)
  (hr : l.hasReader = false)

include hr in
theorem startReader_eq : l.startReader =
    ({ l with desk := l.desk.openReader, status := .connecting } : StreamLink).openStream 0 := by
  rw [startReader, hr]
  rfl

include hr in
/-- A reader that starts reads the stream, or the stream cannot be asked for. -/
theorem startReader_cases : (l.openingFault? = none ∧ l.startReader.2.reader = some (.reading 0) ∧
      l.startReader.1 = []) ∨
    (l.openingFault? ≠ none ∧ l.Counts 0 l.startReader) := by
  rw [startReader_eq hr]
  by_cases hf : l.openingFault? = none
  · have hout := openStream_of_no_fault
      { l with desk := l.desk.openReader, status := .connecting } 0 hf
    exact Or.inl ⟨hf, by rw [hout], by rw [hout]⟩
  · have h := openStream_of_fault
      { l with desk := l.desk.openReader, status := .connecting } 0 hf
    exact Or.inr ⟨hf, h.reader, h.givenUp, h.released⟩

include hm hlt hr

theorem funded_startReader : l.startReader.2.Funded m := by
  rcases startReader_cases hr with ⟨-, hread, -⟩ | ⟨-, hcount⟩
  · exact ⟨_, hread, Nat.zero_le _⟩
  · exact hcount.funded hm hlt (Nat.zero_le _)

theorem funded_readThrough (hs : List Happening) : (l.readThrough hs).2.Funded m := by
  have hm' : l.startReader.2.settings.reconnect.maxAttempts = some m := by
    rw [startReader_settings]
    exact hm
  exact (funded_startReader hm hlt hr).meetAll hm' hlt hs

/-- A reader gives up with one note that names the bound, and any other gives none. -/
theorem readThrough_givenUp (hs : List Happening) :
    (l.readThrough hs).1.filterMap Note.givenUp? =
      if (l.readThrough hs).2.reader = some .stopped then [(l.settings.serverName, m.toNat)]
      else [] := by
  have hm' : l.startReader.2.settings.reconnect.maxAttempts = some m := by
    rw [startReader_settings]
    exact hm
  have hfunded := funded_startReader hm hlt hr
  have hstart : l.startReader.1.filterMap Note.givenUp? =
      if l.startReader.2.reader = some .stopped then [(l.settings.serverName, m.toNat)]
      else [] := by
    rcases startReader_cases hr with ⟨-, hread, hnone⟩ | ⟨-, hcount⟩
    · rw [hread, hnone, if_neg (by simp), List.filterMap_nil]
    · exact hcount.givenUp_eq hm hlt (Nat.zero_le _)
  show (l.startReader.1 ++ (l.startReader.2.meetAll hs).1).filterMap Note.givenUp? =
    if (l.startReader.2.meetAll hs).2.reader = some .stopped
    then [(l.settings.serverName, m.toNat)] else []
  rw [List.filterMap_append, hstart]
  -- only one of the two can be the one to give up: the start itself, or what is met after it
  by_cases hstop : l.startReader.2.reader = some .stopped
  · rw [if_pos hstop, meetAll_of_stopped hstop, if_pos hstop]
    rfl
  · rw [if_neg hstop, List.nil_append, meetAll_givenUp hm' hlt hfunded hstop, startReader_settings]

omit hm hlt in
/-- Once the reader has given up, nobody reads and nobody is registered. -/
theorem readThrough_released {hs : List Happening}
    (hstop : (l.readThrough hs).2.reader = some .stopped) :
    (l.readThrough hs).2.desk.readerAlive = false ∧ (l.readThrough hs).2.desk.waiters = [] := by
  change (l.startReader.2.meetAll hs).2.reader = some .stopped at hstop
  show (l.startReader.2.meetAll hs).2.desk.readerAlive = false ∧
    (l.startReader.2.meetAll hs).2.desk.waiters = []
  by_cases hnow : l.startReader.2.reader = some .stopped
  · rw [meetAll_of_stopped hnow]
    rcases startReader_cases hr with ⟨-, hread, -⟩ | ⟨-, hcount⟩
    · rw [hread] at hnow
      cases hnow
    · exact hcount.released (Option.some.inj (hcount.reader.symm.trans hnow))
  · exact desk_of_meetAll_stopped hnow hstop

omit hm hlt in
theorem readAll_first (first : Stretch) :
    (l.readAll first []).2.reader = some (l.settings.reconnect.phaseAfter 0) := by
  show (l.startReader.2.meetAll (first.happenings ++ [])).2.reader = _
  rw [List.append_nil]
  rcases startReader_cases hr with ⟨-, hread, -⟩ | ⟨-, hcount⟩
  · rw [reader_meetAll_happenings hread, ite_self, startReader_settings]
  · rcases hphase : l.settings.reconnect.phaseAfter 0 with b | b | _
    · rw [ReconnectPolicy.phaseAfter] at hphase
      split at hphase <;> cases hphase
    · have hrest := hcount.reader.trans (congrArg some hphase)
      rw [meetAll_of_resting hrest (rested_notMem_happenings first), hrest]
    · have hstop := hcount.reader.trans (congrArg some hphase)
      rw [meetAll_of_stopped hstop, hstop]

omit hm hlt hr in
theorem readAll_concat (first : Stretch) (ss : List Stretch) (s : Stretch) :
    (l.readAll first (ss ++ [s])).2 =
      ((l.readAll first ss).2.meetAll (.rested :: s.happenings)).2 := by
  show (l.startReader.2.meetAll (first.happenings ++ Stretch.reopened (ss ++ [s]))).2 = _
  have happend : first.happenings ++ Stretch.reopened (ss ++ [s]) =
      (first.happenings ++ Stretch.reopened ss) ++ (.rested :: s.happenings) := by
    simp [Stretch.reopened]
  rw [happend, meetAll_append]
  rfl

omit hm hlt hr in
theorem readAll_settings (first : Stretch) (ss : List Stretch) :
    (l.readAll first ss).2.settings = l.settings :=
  (meetAll_settings _ _).trans (startReader_settings l)

/-- The reader has stopped as soon as `m` reopened streams in a row brought no event, and otherwise
it rests and has counted every stream since the last event. -/
theorem readAll_reader (first : Stretch) (ss : List Stretch) :
    (l.RunsDry m.toNat ss ∧ (l.readAll first ss).2.reader = some .stopped) ∨
      (¬l.RunsDry m.toNat ss ∧ ∃ a, (l.readAll first ss).2.reader = some (.resting a) ∧
        a.toNat = l.spent ss + 1) := by
  induction ss using List.reverseRecOn with
  | nil =>
    rw [readAll_first hr, runsDry_nil, phaseAfter_of_bound hm hlt (Nat.zero_le _)]
    by_cases hzero : m.toNat = 0
    · exact Or.inl ⟨hzero, by simp [hzero]⟩
    · exact Or.inr ⟨hzero, 0 + 1, by simp [Ne.symm hzero], rfl⟩
  | append_singleton ss s ih =>
    rw [readAll_concat, runsDry_concat]
    rcases ih with ⟨hdry, hstop⟩ | ⟨hdry, a, hrest, ha⟩
    · refine Or.inl ⟨Or.inl hdry, ?_⟩
      rw [meetAll_of_stopped hstop]
      exact hstop
    · have hlast : l.spent ss < m.toNat := by
        by_contra hge
        exact hdry (.of_le_spent (Nat.not_lt.1 hge))
      have hhears : (l.readAll first ss).2.Hears s ↔ l.Hears s := by
        rw [Hears, openingFault?_congr (readAll_settings first ss), Hears]
      rw [reader_meetAll_reopened hrest, readAll_settings, spent_concat]
      simp only [hhears]
      by_cases hs : l.Hears s
      · -- the event pays the whole budget back
        have hne : ¬(0 : UInt32).toNat = m.toNat := by
          show ¬0 = m.toNat
          omega
        rw [if_pos hs, if_pos hs, phaseAfter_of_bound hm hlt (Nat.zero_le _), if_neg hne]
        refine Or.inr ⟨?_, 0 + 1, rfl, rfl⟩
        rintro (h | h)
        · exact hdry h
        · omega
      · rw [if_neg hs, if_neg hs, phaseAfter_of_bound hm hlt (by omega)]
        by_cases hspent : a.toNat = m.toNat
        · exact Or.inl ⟨Or.inr (by omega), by rw [if_pos hspent]⟩
        · rw [if_neg hspent]
          refine Or.inr ⟨?_, a + 1, rfl, ?_⟩
          · rintro (h | h)
            · exact hdry h
            · omega
          · rw [toNat_succ_of_le hlt (by omega), ha]

end Start

/-! ## The promise -/

/-- The promise of a policy that allows `m` attempts in a row. -/
structure KeepsBudget (l : StreamLink) (m : UInt32) : Prop where
  /-- Whatever the reader meets, it never counts more attempts than `m`, so that one more never
  wraps around. -/
  counted : ∀ happenings ph a, (l.readThrough happenings).2.reader = some ph →
    ph.attempt? = some a → a.toNat ≤ m.toNat ∧ (a + 1).toNat = a.toNat + 1
  /-- Whenever it is, the stream is reopened at most `m` times before the next event. -/
  reopened : ∀ past quiet, (∀ e, Happening.event e ∉ quiet) →
    (l.readThrough past).2.reopenings quiet ≤ m.toNat
  /-- An event of any kind allows all of them again. -/
  restored : ∀ past e a, (l.readThrough past).2.reader = some (.reading a) →
    ((l.readThrough past).2.meet (.event e)).2.left m = m.toNat
  /-- The reader has given up exactly when `m` reopened streams in a row brought no event. -/
  gaveUp : ∀ first stretches, (l.readAll first stretches).2.reader = some .stopped ↔
    l.RunsDry m.toNat stretches
  /-- Until then it rests after each stream, and has counted all those after the last one that
  brought an event. -/
  rests : ∀ first stretches, ¬l.RunsDry m.toNat stretches →
    ∃ a, (l.readAll first stretches).2.reader = some (.resting a) ∧
      a.toNat = l.spent stretches + 1
  /-- When it gives up it says so exactly once, and names `m`. -/
  noted : ∀ happenings, (l.readThrough happenings).1.filterMap Note.givenUp? =
    if (l.readThrough happenings).2.reader = some .stopped
    then [(l.settings.serverName, m.toNat)] else []
  /-- Then nobody reads the stream, and nobody is registered for a response. -/
  released : ∀ happenings, (l.readThrough happenings).2.reader = some .stopped →
    (l.readThrough happenings).2.desk.readerAlive = false ∧
      (l.readThrough happenings).2.desk.waiters = []
  /-- The same holds when it gives up at a stream state at which callers have done anything
  meanwhile. -/
  releasedBeside : ∀ happenings desk h, (l.readThrough happenings).2.reader ≠ some .stopped →
    let out := ({ (l.readThrough happenings).2 with desk } : StreamLink).meet h
    out.2.reader = some .stopped →
      out.2.desk.readerAlive = false ∧ out.2.desk.waiters = []

/-- A reader keeps the budget of its policy. -/
theorem reconnect_budget {l : StreamLink} {m : UInt32}
    (hm : l.settings.reconnect.maxAttempts = some m) (hlt : m.toNat < UInt32.size - 1)
    (hr : l.hasReader = false) : l.KeepsBudget m where
  counted := by
    intro hs ph a hph ha
    obtain ⟨ph', hph', hfunded⟩ := funded_readThrough hm hlt hr hs
    rw [hph] at hph'
    cases hph'
    have hle : a.toNat ≤ m.toNat := by
      cases ph with
      | reading b => cases ha; exact hfunded
      | resting b => cases ha; exact hfunded.2
      | stopped => cases ha
    exact ⟨hle, toNat_succ_of_le hlt hle⟩
  reopened := by
    intro past quiet hq
    have hfunded := funded_readThrough hm hlt hr past
    have hm' : (l.readThrough past).2.settings.reconnect.maxAttempts = some m := by
      rw [readThrough, meetAll_settings, startReader_settings]
      exact hm
    have hpaid := reopenings_add_left hm' hlt hfunded hq
    have hle := hfunded.left_le
    omega
  restored := fun _ e _ hread => left_meet_event hread e
  gaveUp := by
    intro first ss
    rcases readAll_reader hm hlt hr first ss with ⟨hdry, hstop⟩ | ⟨hdry, a, hrest, -⟩
    · exact iff_of_true hstop hdry
    · rw [hrest]
      exact iff_of_false (by simp) hdry
  rests := by
    intro first ss hno
    rcases readAll_reader hm hlt hr first ss with ⟨hdry, -⟩ | ⟨-, hrests⟩
    · exact absurd hdry hno
    · exact hrests
  noted := readThrough_givenUp hm hlt hr
  released := fun _ => readThrough_released hr
  releasedBeside := by
    intro hs desk h hreads
    exact desk_of_stopping (l := { (l.readThrough hs).2 with desk }) hreads

/-- A link whose policy allows two attempts in a row. -/
def shortOfPatience : StreamLink where
  settings :=
    { serverName := "files"
      url := "http://files.test/sse"
      reconnect := { maxAttempts := some 2 } }
  base := "http://files.test"

/-- Its reader gives up when the first stream and two more were closed without an event. -/
theorem shortOfPatience_stops : shortOfPatience.KeepsBudget 2 ∧
    (shortOfPatience.readAll ⟨[], .ended .closed, rfl⟩
      [⟨[], .ended .closed, rfl⟩, ⟨[], .ended .idle, rfl⟩]).2.reader = some .stopped := by
  have h : shortOfPatience.KeepsBudget 2 := reconnect_budget rfl (by decide) rfl
  refine ⟨h, (h.gaveUp _ _).2 ⟨_, List.infix_rfl, rfl, ?_⟩⟩
  simp [Hears]

end StreamLink

end ToolRelay
