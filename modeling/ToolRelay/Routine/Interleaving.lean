import ToolRelay.Routine.Basic

/-!
# Interleaved routines

Several routines share a state. At any moment one of them does its next step, if that step is
ready; a step that is not ready waits. Between two steps the surroundings may change the state. A
list of turns tells who acts when, and every list of turns is possible.

## Main definitions

* `Machine`: what steps and surroundings do to a shared state.
* `TaskGroup`: routines that share a state.
* `Turn`, `TaskGroup.play`: what happens next, and what a list of turns leads to.
* `TaskGroup.outcome?`: what a routine has come to.
-/

namespace ToolRelay

/-- What the steps of a kind do to a shared state. With a step comes an input of type `ι` from
outside, such as a server's reply. The surroundings do things of type `ε`. -/
structure Machine.{u} (E : Type → Type u) (ι ε σ : Type) where
  /-- The step can be done now. -/
  ready : {β : Type} → E β → σ → Bool
  /-- What the step gives, and the state after it. -/
  perform : {β : Type} → E β → ι → σ → β × σ
  /-- The state after the surroundings did something. -/
  drift : ε → σ → σ

/-- Routines that share a state. -/
structure TaskGroup.{u} (E : Type → Type u) (σ α : Type) : Type (max 1 u) where
  /-- The routines. -/
  members : List (Routine E α)
  /-- What they share. -/
  state : σ

/-- What happens next. -/
inductive Turn (ι ε : Type) where
  /-- The routine at a place does its next step, with an input from outside. -/
  | act (place : Nat) (input : ι)
  /-- The surroundings do something. -/
  | drift (what : ε)
  deriving DecidableEq, Repr

namespace TaskGroup

universe u

variable {E : Type → Type u} {ι ε σ α : Type}

/-- A routine does its next step. One whose step is not ready waits, and one at its end rests. -/
def act (m : Machine E ι ε σ) (c : TaskGroup E σ α) (place : Nat) (input : ι) : TaskGroup E σ α :=
  match c.members[place]? with
  | some (.step e next) =>
    if m.ready e c.state then
      let (b, s) := m.perform e input c.state
      ⟨c.members.set place (next b), s⟩
    else c
  | _ => c

/-- What one turn leads to. -/
def turn (m : Machine E ι ε σ) (c : TaskGroup E σ α) : Turn ι ε → TaskGroup E σ α
  | .act place input => c.act m place input
  | .drift what => { c with state := m.drift what c.state }

/-- What a list of turns leads to. -/
def play (m : Machine E ι ε σ) (c : TaskGroup E σ α) (turns : List (Turn ι ε)) : TaskGroup E σ α :=
  turns.foldl (turn m) c

/-- What the routine at a place has come to, if it is at its end. -/
def outcome? (c : TaskGroup E σ α) (place : Nat) : Option α :=
  match c.members[place]? with
  | some (.done a) => some a
  | _ => none

section Act

variable {m : Machine E ι ε σ} {c : TaskGroup E σ α} {place : Nat} {β : Type} {e : E β}
  {next : β → Routine E α}

theorem act_of_ready (hm : c.members[place]? = some (.step e next))
    (hr : m.ready e c.state = true) (input : ι) :
    c.act m place input =
      ⟨c.members.set place (next (m.perform e input c.state).1),
        (m.perform e input c.state).2⟩ := by
  simp only [act, hm, hr, if_true]

theorem act_of_not_ready (hm : c.members[place]? = some (.step e next))
    (hr : m.ready e c.state = false) (input : ι) : c.act m place input = c := by
  simp only [act, hm, hr, Bool.false_eq_true, if_false]

theorem act_of_done {a : α} (hm : c.members[place]? = some (.done a)) (input : ι) :
    c.act m place input = c := by
  simp only [act, hm]

theorem act_of_absent (hm : c.members[place]? = none) (input : ι) : c.act m place input = c := by
  simp only [act, hm]

/-- A member is where it was put. -/
theorem member_set {p p' : Routine E α} {s : σ} (hm : c.members[place]? = some p) :
    (⟨c.members.set place p', s⟩ : TaskGroup E σ α).members[place]? = some p' := by
  rw [List.getElem?_set_self']
  simp [hm]

end Act

@[simp] theorem play_nil (m : Machine E ι ε σ) (c : TaskGroup E σ α) : c.play m [] = c := rfl

@[simp] theorem play_cons (m : Machine E ι ε σ) (c : TaskGroup E σ α) (t : Turn ι ε)
    (turns : List (Turn ι ε)) : c.play m (t :: turns) = (c.turn m t).play m turns := rfl

theorem play_append (m : Machine E ι ε σ) (c : TaskGroup E σ α) (first later : List (Turn ι ε)) :
    c.play m (first ++ later) = (c.play m first).play m later :=
  List.foldl_append

end TaskGroup

end ToolRelay
