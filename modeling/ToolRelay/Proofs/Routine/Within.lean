import Mathlib.Tactic.SplitIfs
import ToolRelay.Routine.Interleaving

/-!
# Routines that end within some steps

What a routine comes to, and how soon, depends on what its steps give. Terms say which steps a
routine may do and what it may rely on when it does them; on these terms a routine ends within a
number of steps and comes to something that is wanted. Interleaved with others it does so too, as
long as the shared state honours the terms whenever one of its steps is ready; and it gets on with
each of its turns once the steps that it may do are ready.

## Main definitions

* `Terms`: what a routine may do, and what it may rely on.
* `Routine.Within`: the routine ends within a number of steps.

## Main results

* `Routine.Within.bind`: one program after another.
* `Routine.Within.act`: one turn of the routine among others.
-/

namespace ToolRelay

/-- What a routine may do, and what it may rely on. -/
structure Terms.{u} (E : Type → Type u) where
  /-- A step may be done. -/
  allows : {β : Type} → E β → Prop
  /-- A step may give a value. -/
  gives : {β : Type} → E β → β → Prop

universe u

variable {E : Type → Type u} {ι ε σ α β : Type} {T : Terms E}

namespace Routine

/-- On some terms, a routine ends within `n` steps, and what it comes to satisfies `Q`. -/
def Within (T : Terms E) (Q : α → Prop) : Nat → Routine E α → Prop
  | _, .done a => Q a
  | 0, .step _ _ => False
  | n + 1, .step e next => T.allows e ∧ ∀ b, T.gives e b → (next b).Within T Q n

variable {Q R : α → Prop} {n k : Nat}

theorem within_done {a : α} : (done a : Routine E α).Within T Q n ↔ Q a := by
  cases n <;> exact Iff.rfl

@[simp] theorem within_pure {a : α} : (pure a : Routine E α).Within T Q n ↔ Q a := within_done

/-- Without steps left a routine is at its end. -/
theorem Within.zero {p : Routine E α} (h : p.Within T Q 0) : ∃ a, p = .done a ∧ Q a := by
  cases p with
  | done a => exact ⟨a, rfl, h⟩
  | step e next => exact h.elim

/-- A routine may be given more steps, and less may be wanted. -/
theorem Within.mono {p : Routine E α} (h : p.Within T Q n) (hn : n ≤ k)
    (hQ : ∀ a, Q a → R a) : p.Within T R k := by
  induction p generalizing n k with
  | done a => exact within_done.2 (hQ a (within_done.1 h))
  | step e next ih =>
    -- a routine that does a step has one to do
    rcases n with _ | n
    · exact h.elim
    · obtain ⟨k, rfl⟩ : ∃ i, k = i + 1 := ⟨k - 1, by omega⟩
      obtain ⟨hallows, hnext⟩ := h
      exact ⟨hallows, fun b hb => ih b (hnext b hb) (by omega)⟩

/-- Doing one step, and then something that depends on what it gave. -/
theorem within_perform_bind {e : E β} {f : β → Routine E α} :
    (perform e >>= f).Within T Q (n + 1) ↔
      T.allows e ∧ ∀ b, T.gives e b → (f b).Within T Q n := Iff.rfl

/-- One program after another ends within the steps of both. -/
theorem Within.bind {p : Routine E α} {f : α → Routine E β} {R : β → Prop}
    (h : p.Within T Q n) (hf : ∀ a, Q a → (f a).Within T R k) :
    (p >>= f).Within T R (n + k) := by
  induction p generalizing n with
  | done a => exact (hf a (within_done.1 h)).mono (Nat.le_add_left k n) fun _ hr => hr
  | step e next ih =>
    rcases n with _ | n
    · exact h.elim
    · obtain ⟨hallows, hnext⟩ := h
      rw [Nat.add_right_comm, bind_step]
      exact ⟨hallows, fun b hb => ih b (hnext b hb)⟩

variable {m : Machine E ι ε σ} {c : TaskGroup E σ α} {place : Nat} {p : Routine E α}

/-- After its turn a routine still ends within as many steps as before, and within one less when the
steps that it may do are ready. -/
theorem Within.act (h : p.Within T Q n) (hm : c.members[place]? = some p) (input : ι)
    (honoured : ∀ {β : Type} (e : E β), T.allows e → m.ready e c.state = true →
      T.gives e (m.perform e input c.state).1) :
    ∃ p', (c.act m place input).members[place]? = some p' ∧ p'.Within T Q n ∧
      ((∀ {β : Type} (e : E β), T.allows e → m.ready e c.state = true) →
        p'.Within T Q (n - 1)) := by
  cases p with
  | done a =>
    refine ⟨.done a, ?_, h, fun _ => within_done.2 (within_done.1 h)⟩
    rwa [TaskGroup.act_of_done hm]
  | step e next =>
    rcases n with _ | n
    · exact h.elim
    · obtain ⟨hallows, hnext⟩ := h
      -- a turn does one step, or none when the step is not ready
      by_cases hr : m.ready e c.state = true
      · rw [TaskGroup.act_of_ready hm hr]
        have hrest := hnext _ (honoured e hallows hr)
        exact ⟨_, TaskGroup.member_set hm, hrest.mono (Nat.le_succ n) fun _ hq => hq,
          fun _ => hrest⟩
      · -- a step that is not ready leaves everything as it is
        rw [TaskGroup.act_of_not_ready hm (Bool.eq_false_iff.2 hr)]
        exact ⟨_, hm, ⟨hallows, hnext⟩, fun hready => absurd (hready e hallows) hr⟩

-- From here on a routine is taken apart by the lemmas above, and never evaluated.
attribute [irreducible] Within

end Routine

/-- The turn of one routine leaves the others where they are. -/
theorem TaskGroup.members_act_of_ne {m : Machine E ι ε σ} {c : TaskGroup E σ α} {place other : Nat}
    (ho : other ≠ place) (input : ι) :
    (c.act m other input).members[place]? = c.members[place]? := by
  rw [act]
  split
  · split_ifs
    · exact List.getElem?_set_ne ho
    · rfl
  · rfl

end ToolRelay
