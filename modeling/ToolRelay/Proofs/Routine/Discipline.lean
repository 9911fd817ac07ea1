import Mathlib.Logic.Function.Basic
import ToolRelay.Routine.Interleaving

/-!
# Disciplines of interleaved routines

A discipline follows a routine from outside: it keeps a mode, says which steps are allowed in a
mode, and which mode a step leads to. What many routines do to the state they share is then a matter
of single steps: an invariant that ties the modes of all routines to the state holds after any list
of turns once every allowed step keeps it, whatever the routines look like inside.

## Main definitions

* `Discipline`: which steps are allowed in which mode.
* `Routine.Keeps`: a routine that only does what a discipline allows.
* `TaskGroup.Abides`: every member of a task group keeps a discipline.

## Main results

* `Routine.keeps_bind`: a discipline is kept in turn by one program and another.
* `Routine.Keeps.run`: invariants of single steps hold after a run.
* `TaskGroup.Abides.act`: what one turn of a member is, and that the discipline is still kept after
  it.
-/

namespace ToolRelay

/-- Which steps are allowed in a mode, and which mode a step leads to, given the state in which it
is done and what it gives. -/
structure Discipline.{u} (E : Type → Type u) (σ μ : Type) where
  /-- A step is allowed in a mode. -/
  allows : {β : Type} → μ → E β → Prop
  /-- The mode after a step. -/
  after : {β : Type} → μ → E β → σ → β → μ

universe u

variable {E : Type → Type u} {ι ε σ α β μ : Type}

namespace Routine

/-- From a mode on, a routine only does what a discipline allows, whatever its steps give, and what
it comes to satisfies `Q` together with the mode it ends in. -/
def Keeps (D : Discipline E σ μ) : Routine E α → (α → μ → Prop) → μ → Prop
  | .done a, Q, mode => Q a mode
  | .step e next, Q, mode => D.allows mode e ∧ ∀ s b, (next b).Keeps D Q (D.after mode e s b)

variable {D : Discipline E σ μ}

@[simp] theorem keeps_done {a : α} {Q : α → μ → Prop} {mode : μ} :
    (done a : Routine E α).Keeps D Q mode ↔ Q a mode := Iff.rfl

@[simp] theorem keeps_pure {a : α} {Q : α → μ → Prop} {mode : μ} :
    (pure a : Routine E α).Keeps D Q mode ↔ Q a mode := Iff.rfl

@[simp] theorem keeps_step {e : E β} {next : β → Routine E α} {Q : α → μ → Prop} {mode : μ} :
    (step e next).Keeps D Q mode ↔
      D.allows mode e ∧ ∀ s b, (next b).Keeps D Q (D.after mode e s b) := Iff.rfl

@[simp] theorem keeps_perform {e : E β} {Q : β → μ → Prop} {mode : μ} :
    (perform e).Keeps D Q mode ↔ D.allows mode e ∧ ∀ s b, Q b (D.after mode e s b) := Iff.rfl

/-- One program and then another keep a discipline when the second keeps it in every mode in which
the first may end. -/
@[simp] theorem keeps_bind {p : Routine E α} {f : α → Routine E β} {Q : β → μ → Prop} {mode : μ} :
    (p >>= f).Keeps D Q mode ↔ p.Keeps D (fun a => (f a).Keeps D Q) mode := by
  induction p generalizing mode with
  | done a => exact Iff.rfl
  | step e next ih =>
    rw [bind_step, keeps_step, keeps_step]
    simp only [ih]

/-- What a routine comes to may be weakened. -/
theorem Keeps.mono {p : Routine E α} {Q R : α → μ → Prop} {mode : μ} (h : p.Keeps D Q mode)
    (hQ : ∀ a mode, Q a mode → R a mode) : p.Keeps D R mode := by
  induction p generalizing mode with
  | done a => exact hQ a mode h
  | step e next ih => exact ⟨h.1, fun s b => ih b (h.2 s b)⟩

/-- Run on its own, a routine that keeps a discipline keeps every invariant that ties mode and state
and that every allowed step keeps. -/
theorem Keeps.run {p : Routine E α} {Q : α → μ → Prop} {mode : μ} (h : p.Keeps D Q mode)
    {τ : Type} (handle : {β : Type} → E β → τ → β × τ) (I : μ → τ → Prop)
    (step : ∀ {β : Type} (e : E β) mode s, D.allows mode e → I mode s →
      ∃ view, I (D.after mode e view (handle e s).1) (handle e s).2)
    {s : τ} (hI : I mode s) : ∃ mode', Q (p.run handle s).1 mode' ∧ I mode' (p.run handle s).2 := by
  induction p generalizing mode s with
  | done a => exact ⟨mode, h, hI⟩
  | step e next ih =>
    -- the discipline may be told of any view of the state, also of one that is fitting
    obtain ⟨view, hI'⟩ := step e mode s h.1 hI
    exact ih _ (h.2 view _) hI'

-- From here on a routine is taken apart by the lemmas above, and never evaluated.
attribute [irreducible] Keeps

end Routine

namespace TaskGroup

/-- Every member of a task group keeps a discipline, from a mode of its own on. -/
def Abides (D : Discipline E σ μ) (Q : α → μ → Prop) (modes : Nat → μ) (c : TaskGroup E σ α) :
    Prop :=
  ∀ (place : Nat) (p : Routine E α), c.members[place]? = some p → p.Keeps D Q (modes place)

variable {D : Discipline E σ μ} {Q : α → μ → Prop} {modes : Nat → μ} {c : TaskGroup E σ α}

/-- A turn of a member changes nothing, or it is one step that is ready and allowed; after it every
member still keeps the discipline, the one that acted from its new mode on. -/
theorem Abides.act (h : c.Abides D Q modes) (m : Machine E ι ε σ) (place : Nat) (input : ι) :
    c.act m place input = c ∨
      ∃ (β : Type) (e : E β) (next : β → Routine E α),
        c.members[place]? = some (.step e next) ∧ m.ready e c.state = true ∧
        D.allows (modes place) e ∧
        c.act m place input =
          ⟨c.members.set place (next (m.perform e input c.state).1),
            (m.perform e input c.state).2⟩ ∧
        (c.act m place input).Abides D Q
          (Function.update modes place
            (D.after (modes place) e c.state (m.perform e input c.state).1)) := by
  rcases hp : c.members[place]? with _ | ⟨a⟩ | ⟨e, next⟩
  · exact Or.inl (act_of_absent hp input)
  · exact Or.inl (act_of_done hp input)
  · by_cases hr : m.ready e c.state = true
    · have hact := act_of_ready hp hr input
      obtain ⟨hallowed, hrest⟩ := Routine.keeps_step.1 (h place _ hp)
      refine Or.inr ⟨_, e, next, rfl, hr, hallowed, hact, ?_⟩
      rw [hact]
      intro other q hq
      by_cases ho : other = place
      · -- the one that acted goes on from where its step led
        subst ho
        rw [member_set hp] at hq
        obtain rfl := Option.some.inj hq
        rw [Function.update_self]
        exact hrest _ _
      · -- all others are where they were
        rw [List.getElem?_set_ne (Ne.symm ho)] at hq
        rw [Function.update_of_ne ho]
        exact h other q hq
    · exact Or.inl (act_of_not_ready hp (Bool.eq_false_iff.2 hr) input)

/-- What the surroundings do concerns no member. -/
theorem Abides.drift (h : c.Abides D Q modes) (s : σ) :
    ({ c with state := s } : TaskGroup E σ α).Abides D Q modes := h

end TaskGroup

end ToolRelay
