import Mathlib.Data.List.Induction
import Mathlib.Data.List.Nodup
import Mathlib.Data.List.Range
import ToolRelay.Session.Basic

/-!
# The course of a session

A session is used by registering resources, by changing its status and by closing it, in any order
and as often as one likes. Beside the session it is written down what was registered and what was
torn down since it began. A resource may be registered twice, and its teardown may fail the first
time and succeed the second: what is counted are registrations, and it is for every registration to
say how its teardown ends.

Everything rests on one equation: what was registered is what was torn down, followed by what is
held.

## Main definitions

* `SessionCall`, `SessionAnswer`: what is done with a session, and what it answers.
* `Registration`, `TeardownLog`: a resource as it was registered, and what is seen of teardowns.
* `SessionHistory`, `SessionHistory.step`, `SessionHistory.run`: a session with its past.

## Main results

* `SessionHistory.step_close_of_open`, `SessionHistory.step_close_of_closed`: what closing does.
* `SessionHistory.step_cases`: what any call does.
* `SessionHistory.Accounted.run`: the equation, after any calls.
* `SessionHistory.teardown_law`: what is torn down, when, in which order and how often.
* `SessionHistory.closed_holds_nothing_iff`: when a closed session holds nothing.
-/

namespace ToolRelay

/-- What is done with a session. -/
inductive SessionCall (ρ : Type) where
  /-- Hand it a resource. -/
  | register (resource : ρ)
  /-- Change its status. -/
  | setStatus (status : SessionStatus)
  /-- Close it. -/
  | close

/-- What a session answers. -/
inductive SessionAnswer where
  /-- Whether it took the resource. -/
  | registered (outcome : Except SessionFault Unit)
  /-- The status is changed. -/
  | changed
  /-- How many resources were torn down without a failure. -/
  | closed (clean : Nat)

/-- A resource as it was registered. -/
structure Registration (ρ : Type) where
  /-- How many registrations there were before. -/
  number : Nat
  /-- The resource. -/
  resource : ρ
  deriving DecidableEq, Repr

/-- What is seen of teardowns. -/
structure TeardownLog (ρ : Type) where
  /-- What was torn down, oldest first. -/
  tornDown : List (Registration ρ) := []
  /-- What was written down. -/
  journal : Journal := {}

instance {ρ : Type} : Journaling (StateM (TeardownLog ρ)) where
  write i := modify fun log => { log with journal := log.journal.add i }

/-- A session with its past. -/
structure SessionHistory (ρ : Type) where
  /-- The session. -/
  session : Session (Registration ρ)
  /-- What was registered, oldest first. -/
  registered : List (Registration ρ) := []
  /-- What was seen of teardowns. -/
  log : TeardownLog ρ := {}

namespace SessionHistory

variable {ρ : Type}

/-- Tear down a registration, which ends as it is given. -/
def tearDown (outcome : Registration ρ → Except String Unit) (r : Registration ρ) :
    StateM (TeardownLog ρ) (Except String Unit) := do
  modify fun log => { log with tornDown := log.tornDown ++ [r] }
  return outcome r

/-- A new session. -/
def new (id createdAt : String) : SessionHistory ρ := { session := { id, createdAt } }

/-- The registration that comes next. -/
def next (c : SessionHistory ρ) (resource : ρ) : Registration ρ := ⟨c.registered.length, resource⟩

variable (label : Registration ρ → String) (outcome : Registration ρ → Except String Unit)

/-- What a call does. -/
def step (c : SessionHistory ρ) : SessionCall ρ → SessionAnswer × SessionHistory ρ
  | .register resource =>
    match c.session.register label (c.next resource) with
    | .ok session =>
      (.registered (.ok ()), { c with session, registered := c.registered ++ [c.next resource] })
    | .error why => (.registered (.error why), c)
  | .setStatus status => (.changed, { c with session := c.session.setStatus status })
  | .close =>
    let r := (c.session.close (m := StateM (TeardownLog ρ)) label (tearDown outcome)).run c.log
    (.closed r.1.1, { c with session := r.1.2, log := r.2 })

/-- What calls in turn do. -/
def run (c : SessionHistory ρ) (calls : List (SessionCall ρ)) : SessionHistory ρ :=
  calls.foldl (fun c call => (c.step label outcome call).2) c

@[simp] theorem run_nil (c : SessionHistory ρ) : c.run label outcome [] = c := rfl

@[simp] theorem run_snoc (c : SessionHistory ρ) (calls : List (SessionCall ρ))
    (call : SessionCall ρ) :
    c.run label outcome (calls ++ [call]) =
      ((c.run label outcome calls).step label outcome call).2 :=
  List.foldl_append

/-! ## Teardowns -/

/-- A teardown ends without a failure. -/
def isClean (r : Registration ρ) : Bool := (outcome r).isOk

/-- The warnings about teardowns that fail, one for each of them. -/
def warnings (id : String) (rs : List (Registration ρ)) : List Note :=
  rs.filterMap fun r =>
    match outcome r with
    | .ok () => none
    | .error text => some (.teardownFailed id (label r) text)

/-- Every teardown either ends without a failure or leaves a warning. -/
theorem length_warnings (id : String) (rs : List (Registration ρ)) :
    rs.countP (isClean outcome) + (warnings label outcome id rs).length = rs.length := by
  induction rs with
  | nil => rfl
  | cons r rest ih =>
    unfold warnings isClean at *
    cases h : outcome r with
    | ok _ =>
      simp only [List.filterMap_cons, List.countP_cons, h, Except.isOk, Except.toBool, if_true,
        List.length_cons] at ih ⊢
      omega
    | error text =>
      simp only [List.filterMap_cons, List.countP_cons, h, Except.isOk, Except.toBool,
        Bool.false_eq_true, if_false, List.length_cons] at ih ⊢
      omega

theorem level_of_mem_warnings {id : String} {rs : List (Registration ρ)} {n : Note}
    (hn : n ∈ warnings label outcome id rs) : n.level = .warning := by
  unfold warnings at hn
  obtain ⟨r, -, hr⟩ := List.mem_filterMap.1 hn
  cases h : outcome r with
  | ok _ => simp [h] at hr
  | error text =>
    rw [h] at hr
    obtain rfl := Option.some.inj hr
    rfl

/-- Tearing down registrations goes through all of them in order, whichever of them fail. -/
theorem run_tearDown (id : String) (rs : List (Registration ρ)) (log : TeardownLog ρ) :
    (Session.tearDown (m := StateM (TeardownLog ρ)) id label (tearDown outcome) rs).run log =
      (rs.countP (isClean outcome),
        { tornDown := log.tornDown ++ rs
          journal := log.journal.addNotes (warnings label outcome id rs) }) := by
  induction rs generalizing log with
  | nil =>
    simp [Session.tearDown, warnings, Journal.addNotes]
    rfl
  | cons r rest ih =>
    rw [Session.tearDown]
    -- what is left is torn down in the same way, whether or not the first one failed
    cases h : outcome r with
    | ok _ =>
      have hwarnings : warnings label outcome id (r :: rest) = warnings label outcome id rest := by
        simp only [warnings, List.filterMap_cons, h]
      have hclean : isClean outcome r = true := by simp [isClean, h, Except.isOk, Except.toBool]
      simp [tearDown, h, ih, hwarnings, hclean, Nat.add_comm 1]
      rfl
    | error text =>
      have hwarnings : warnings label outcome id (r :: rest) =
          .teardownFailed id (label r) text :: warnings label outcome id rest := by
        simp only [warnings, List.filterMap_cons, h]
      have hclean : isClean outcome r = false := by simp [isClean, h, Except.isOk, Except.toBool]
      simp [tearDown, h, ih, hwarnings, hclean, Journaling.note, Journaling.write, Journal.add,
        Journal.addNotes]

/-! ## Single calls -/

variable {c : SessionHistory ρ}

/-- A session that is open takes a resource. -/
theorem step_register_of_open (hopen : c.session.isClosed = false) (resource : ρ) :
    c.step label outcome (.register resource) = (.registered (.ok ()),
      { c with
        session := { c.session with resources := c.session.resources ++ [c.next resource] }
        registered := c.registered ++ [c.next resource] }) := by
  simp [step, Session.register, hopen]

/-- A closed session refuses a resource, and stays as it is. -/
theorem step_register_of_closed (hclosed : c.session.isClosed = true) (resource : ρ) :
    c.step label outcome (.register resource) =
      (.registered (.error (.closed (label (c.next resource)) c.session.id)), c) := by
  simp [step, Session.register, hclosed]

/-- Closing a session that is open tears down what it holds. -/
theorem step_close_of_open (hopen : c.session.isClosed = false) :
    c.step label outcome .close = (.closed (c.session.resources.countP (isClean outcome)),
      { c with
        session := { c.session with status := .closed, resources := [] }
        log :=
          { tornDown := c.log.tornDown ++ c.session.resources
            journal := c.log.journal.addNotes
              (warnings label outcome c.session.id c.session.resources) } }) := by
  have hclose :
      (c.session.close (m := StateM (TeardownLog ρ)) label (tearDown outcome)).run c.log =
        ((c.session.resources.countP (isClean outcome),
            { c.session with status := .closed, resources := [] }),
          { tornDown := c.log.tornDown ++ c.session.resources
            journal := c.log.journal.addNotes
              (warnings label outcome c.session.id c.session.resources) }) := by
    rw [Session.close, hopen, if_neg Bool.false_ne_true, StateT.run_bind, run_tearDown]
    rfl
  simp only [step, hclose]

/-- Closing a closed session does nothing. -/
theorem step_close_of_closed (hclosed : c.session.isClosed = true) :
    c.step label outcome .close = (.closed 0, c) := by
  have hclose :
      (c.session.close (m := StateM (TeardownLog ρ)) label (tearDown outcome)).run c.log =
        ((0, c.session), c.log) := by
    rw [Session.close, hclosed, if_pos rfl]
    rfl
  simp only [step, hclose]

/-- What a call does. An open session takes a resource, or it is closed, and lets go of what it
holds; the status may be changed at any time; and a session that is closed stays as it is otherwise.
-/
theorem step_cases (c : SessionHistory ρ) (call : SessionCall ρ) :
    (c.session.isClosed = false ∧ ∃ resource, (c.step label outcome call).2 =
      { c with
        session := { c.session with resources := c.session.resources ++ [c.next resource] }
        registered := c.registered ++ [c.next resource] }) ∨
    (∃ status, call = .setStatus status ∧
      (c.step label outcome call).2 = { c with session := c.session.setStatus status }) ∨
    (∃ journal, (c.step label outcome call).2 =
      { c with
        session := { c.session with status := .closed, resources := [] }
        log := { tornDown := c.log.tornDown ++ c.session.resources, journal } }) ∨
    (c.session.isClosed = true ∧ (c.step label outcome call).2 = c) := by
  by_cases hclosed : c.session.isClosed = true
  · cases call with
    | register resource =>
      right; right; right
      exact ⟨hclosed, by rw [step_register_of_closed label outcome hclosed]⟩
    | setStatus status => exact Or.inr (Or.inl ⟨status, rfl, rfl⟩)
    | close =>
      right; right; right
      exact ⟨hclosed, by rw [step_close_of_closed label outcome hclosed]⟩
  · have hopen : c.session.isClosed = false := by simpa using hclosed
    cases call with
    | register resource =>
      left
      exact ⟨hopen, resource, by rw [step_register_of_open label outcome hopen]⟩
    | setStatus status => exact Or.inr (Or.inl ⟨status, rfl, rfl⟩)
    | close =>
      right; right; left
      exact ⟨_, by rw [step_close_of_open label outcome hopen]⟩

/-! ## Any calls -/

/-- What was registered is what was torn down, followed by what is held; registrations are numbered
from zero on. -/
structure Accounted (c : SessionHistory ρ) : Prop where
  /-- Nothing is lost, nothing is there twice, and the order is kept. -/
  registered : c.registered = c.log.tornDown ++ c.session.resources
  /-- Each registration has the number of those before it. -/
  numbered : c.registered.map (·.number) = List.range c.registered.length

variable {label outcome}

namespace Accounted

theorem new (id createdAt : String) :
    (SessionHistory.new id createdAt : SessionHistory ρ).Accounted := ⟨rfl, rfl⟩

/-- Every call keeps the accounts. -/
theorem step (h : c.Accounted) (call : SessionCall ρ) :
    (c.step label outcome call).2.Accounted := by
  rcases step_cases label outcome c call with
    ⟨-, resource, hafter⟩ | ⟨status, -, hafter⟩ | ⟨journal, hafter⟩ | ⟨-, hafter⟩ <;>
    rw [hafter]
  · refine ⟨?_, ?_⟩
    · show c.registered ++ _ = c.log.tornDown ++ (c.session.resources ++ _)
      rw [h.registered, List.append_assoc]
    · -- the number of the new registration is the length of the list before it
      show (c.registered ++ [c.next resource]).map _ = _
      rw [List.map_append, h.numbered, List.length_append, List.length_singleton, List.range_succ]
      rfl
  · exact ⟨h.registered, h.numbered⟩
  · -- what was held is torn down, and nothing is held any more
    refine ⟨?_, h.numbered⟩
    show c.registered = c.log.tornDown ++ c.session.resources ++ []
    rw [h.registered, List.append_nil]
  · exact h

/-- The accounts are kept by any calls. -/
theorem run (h : c.Accounted) (calls : List (SessionCall ρ)) :
    (c.run label outcome calls).Accounted := by
  induction calls using List.reverseRecOn with
  | nil => exact h
  | append_singleton calls call ih =>
    rw [run_snoc]
    exact ih.step call

/-- No registration is there twice. -/
theorem nodup (h : c.Accounted) : c.registered.Nodup := by
  have hnumbers : (c.registered.map (·.number)).Nodup := h.numbered ▸ List.nodup_range
  exact hnumbers.of_map _

/-- What was torn down comes in the order in which it was registered. -/
theorem sublist (h : c.Accounted) : c.log.tornDown.Sublist c.registered := by
  rw [h.registered]
  exact List.sublist_append_left _ _

end Accounted

/-- A session keeps its identity. -/
theorem id_step (c : SessionHistory ρ) (call : SessionCall ρ) :
    (c.step label outcome call).2.session.id = c.session.id := by
  rcases step_cases label outcome c call with
    ⟨-, _, hafter⟩ | ⟨_, -, hafter⟩ | ⟨_, hafter⟩ | ⟨-, hafter⟩ <;>
    rw [hafter]
  rfl

theorem id_run (c : SessionHistory ρ) (calls : List (SessionCall ρ)) :
    (c.run label outcome calls).session.id = c.session.id := by
  induction calls using List.reverseRecOn with
  | nil => rfl
  | append_singleton calls call ih => rw [run_snoc, id_step, ih]

/-! ## The laws -/

/-- After any calls, and whichever teardowns fail: every registration was torn down at most once, in
the order of registration, and what was not torn down is held. Closing a session that is open tears
down all that it holds, in order, counts what did not fail and leaves one warning for each of the
others; it leaves the session closed, with nothing to hold. A closed session does nothing when it is
closed, and refuses every resource. -/
theorem teardown_law (label : Registration ρ → String)
    (outcome : Registration ρ → Except String Unit) (id createdAt : String)
    (calls : List (SessionCall ρ)) :
    let c := (new id createdAt : SessionHistory ρ).run label outcome calls
    let held := c.session.resources
    (c.registered.Nodup ∧ c.log.tornDown.Nodup ∧ c.log.tornDown.Sublist c.registered ∧
      c.registered = c.log.tornDown ++ held) ∧
    (c.session.isClosed = false →
      c.step label outcome .close = (.closed (held.countP (isClean outcome)),
        { c with
          session := { c.session with status := .closed, resources := [] }
          log :=
            { tornDown := c.log.tornDown ++ held
              journal := c.log.journal.addNotes (warnings label outcome id held) } }) ∧
      held.countP (isClean outcome) + (warnings label outcome id held).length = held.length ∧
      ∀ n ∈ warnings label outcome id held, n.level = .warning) ∧
    (c.session.isClosed = true →
      c.step label outcome .close = (.closed 0, c) ∧
      ∀ resource, c.step label outcome (.register resource) =
        (.registered (.error (.closed (label (c.next resource)) id)), c)) := by
  intro c held
  have haccounted : c.Accounted := (Accounted.new id createdAt).run calls
  have hid : c.session.id = id := id_run _ calls
  refine ⟨⟨haccounted.nodup, haccounted.nodup.sublist haccounted.sublist, haccounted.sublist,
    haccounted.registered⟩, fun hopen => ⟨?_, length_warnings label outcome id held,
    fun n => level_of_mem_warnings label outcome⟩,
    fun hclosed => ⟨step_close_of_closed label outcome hclosed, fun resource => ?_⟩⟩
  · rw [step_close_of_open label outcome hopen, hid]
  · rw [step_register_of_closed label outcome hclosed, hid]

/-- Two resources, of which the first cannot be torn down, in a session that is declared closed,
made active again, and closed twice: each is torn down once. -/
theorem teardown_law_of_reopened :
    let outcome : Registration String → Except String Unit :=
      fun r => if r.number = 0 then .error "refused" else .ok ()
    let c := (new "s" "" : SessionHistory String).run (·.resource) outcome
      [.register "a", .register "b", .setStatus .closed, .close, .setStatus .active, .close, .close]
    c.log.tornDown = [⟨0, "a"⟩, ⟨1, "b"⟩] ∧ c.log.tornDown.Nodup ∧
      c.log.journal.notes = [.teardownFailed "s" "a" "refused"] ∧
      c.session.isClosed = true ∧ (c.step (·.resource) outcome .close).2 = c := by
  intro outcome c
  have hlaw := teardown_law (·.resource) outcome "s" "" [.register "a", .register "b",
    .setStatus .closed, .close, .setStatus .active, .close, .close]
  have hclosed : c.session.isClosed = true := by decide
  exact ⟨by decide, hlaw.1.2.1, by decide, hclosed, congrArg Prod.snd (hlaw.2.2 hclosed).1⟩

/-- A call that leaves a session closed has declared it closed, or has left nothing for it to hold,
or has found it closed and changed nothing. -/
theorem closed_step_cases (c : SessionHistory ρ) (call : SessionCall ρ)
    (hclosed : (c.step label outcome call).2.session.isClosed = true) :
    (call = .setStatus .closed ∧
        (c.step label outcome call).2.session.resources = c.session.resources) ∨
      (c.step label outcome call).2.session.resources = [] ∨
      (c.session.isClosed = true ∧ (c.step label outcome call).2 = c) := by
  rcases step_cases label outcome c call with
    ⟨hopen, _, hafter⟩ | ⟨status, rfl, hafter⟩ | ⟨_, hafter⟩ | ⟨hbefore, hafter⟩
  · -- taking a resource leaves the session open
    rw [hafter] at hclosed
    exact absurd (hopen.symm.trans hclosed) Bool.false_ne_true
  · left
    exact ⟨congrArg _ (of_decide_eq_true hclosed), by rw [hafter]; rfl⟩
  · right; left
    rw [hafter]
  · right; right
    exact ⟨hbefore, hafter⟩

/-- A session that is closed holds nothing, at every moment, exactly when it is declared closed only
where it holds nothing. Closing it leaves nothing behind of all that was ever registered, unless it
is closed already and holds something. -/
theorem closed_holds_nothing_iff (label : Registration ρ → String)
    (outcome : Registration ρ → Except String Unit) (id createdAt : String)
    (calls : List (SessionCall ρ)) :
    let after := (new id createdAt : SessionHistory ρ).run label outcome
    ((∀ first, first <+: calls → (after first).session.isClosed = true →
        (after first).session.resources = []) ↔
      ∀ first, first ++ [.setStatus .closed] <+: calls → (after first).session.resources = []) ∧
    ∀ first, first ++ [.close] <+: calls →
      ((after (first ++ [.close])).log.tornDown = (after (first ++ [.close])).registered ↔
        ((after first).session.isClosed = true → (after first).session.resources = [])) := by
  intro after
  have hsnoc (first : List (SessionCall ρ)) (call : SessionCall ρ) :
      after (first ++ [call]) = ((after first).step label outcome call).2 := run_snoc _ _ _ _ _
  refine ⟨⟨fun hempty first hfirst => ?_, fun hdeclared first hfirst hclosed => ?_⟩,
    fun first _ => ?_⟩
  · -- declaring it closed changes nothing of what it holds
    have hafter := hempty _ hfirst (by rw [hsnoc]; rfl)
    rw [hsnoc] at hafter
    exact hafter
  · induction first using List.reverseRecOn with
    | nil => rfl
    | append_singleton first call ih =>
      rw [hsnoc] at hclosed ⊢
      have hbefore : first <+: calls := (List.prefix_append _ _).trans hfirst
      rcases closed_step_cases (after first) call hclosed with
        ⟨rfl, hsame⟩ | hnothing | ⟨hwas, hsame⟩
      · rw [hsame]
        exact hdeclared first hfirst
      · exact hnothing
      · rw [hsame]
        exact ih hbefore hwas
  · -- by the accounts, all was torn down if and only if nothing is held
    have haccounted : (after (first ++ [.close])).Accounted :=
      (Accounted.new id createdAt).run _
    have hall : (after (first ++ [.close])).log.tornDown = (after (first ++ [.close])).registered ↔
        (after (first ++ [.close])).session.resources = [] := by
      rw [haccounted.registered, List.self_eq_append_right]
    rw [hall, hsnoc]
    by_cases hclosed : (after first).session.isClosed = true
    · rw [step_close_of_closed label outcome hclosed]
      exact ⟨fun h _ => h, fun h => h hclosed⟩
    · rw [step_close_of_open label outcome (by simpa using hclosed)]
      exact ⟨fun _ h => absurd h hclosed, fun _ => rfl⟩

/-- A session that is declared closed while it holds a resource keeps it, also when it is closed
afterwards. -/
theorem declared_closed_keeps_resource :
    let after := (new "s" "" : SessionHistory String).run (·.resource) fun _ => .ok ()
    let declared := after [.register "a", .setStatus .closed]
    let closed := after [.register "a", .setStatus .closed, .close]
    declared.session.isClosed = true ∧ declared.session.resources = [⟨0, "a"⟩] ∧
      closed.registered = [⟨0, "a"⟩] ∧ closed.log.tornDown = [] ∧
      closed.session.resources = [⟨0, "a"⟩] := by
  decide

end SessionHistory

end ToolRelay
