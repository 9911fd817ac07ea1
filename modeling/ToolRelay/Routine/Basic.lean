/-!
# Routines

A routine is a program that does one atomic step at a time and goes on with what the step gave. A
routine can be run to its end on its own, and it can be interleaved with others, because what it
does between two steps touches nothing that is shared.

## Main definitions

* `Routine`: programs over a kind of steps.
* `Routine.run`: running a routine on its own.
* `Routine.relabel`: the same program over another kind of steps.
-/

namespace ToolRelay

/-- A program over steps of kind `E`; a step of type `E β` gives a value of type `β`. -/
inductive Routine.{u} (E : Type → Type u) (α : Type) : Type (max 1 u) where
  /-- The program is at its end. -/
  | done (a : α)
  /-- Do a step, then go on. -/
  | step {β : Type} (e : E β) (next : β → Routine E α)

namespace Routine

universe u v

variable {E : Type → Type u} {F : Type → Type v} {α β : Type}

/-- Do one program, then another that depends on what the first gave. -/
def bind : Routine E α → (α → Routine E β) → Routine E β
  | .done a, f => f a
  | .step e next, f => .step e fun b => (next b).bind f

instance : Monad (Routine E) where
  pure := .done
  bind := bind

/-- Do one step. -/
def perform (e : E β) : Routine E β := .step e .done

/-- Run a routine on its own, given what each step does to a state. -/
def run {σ : Type} (handle : {β : Type} → E β → σ → β × σ) : Routine E α → σ → α × σ
  | .done a, s => (a, s)
  | .step e next, s =>
    let (b, s) := handle e s
    (next b).run handle s

/-- The same program over another kind of steps. -/
def relabel (f : {β : Type} → E β → F β) : Routine E α → Routine F α
  | .done a => .done a
  | .step e next => .step (f e) fun b => (next b).relabel f

@[simp] theorem pure_eq (a : α) : (pure a : Routine E α) = .done a := rfl

@[simp] theorem bind_done (a : α) (f : α → Routine E β) : (Routine.done a >>= f) = f a := rfl

@[simp] theorem bind_step {γ : Type} (e : E γ) (next : γ → Routine E α) (f : α → Routine E β) :
    (Routine.step e next >>= f) = .step e fun b => next b >>= f := rfl

instance : LawfulMonad (Routine E) := LawfulMonad.mk' (Routine E)
  (by
    intro α p
    induction p with
    | done a => rfl
    | step e next ih => exact congrArg (step e) (funext ih))
  (by intros; rfl)
  (by
    intro α β γ p f g
    induction p with
    | done a => rfl
    | step e next ih => exact congrArg (step e) (funext ih))

@[simp] theorem run_done {σ : Type} (handle : {β : Type} → E β → σ → β × σ) (a : α) (s : σ) :
    (done a : Routine E α).run handle s = (a, s) := rfl

@[simp] theorem run_step {σ : Type} (handle : {β : Type} → E β → σ → β × σ) (e : E β)
    (next : β → Routine E α) (s : σ) :
    (step e next).run handle s = (next (handle e s).1).run handle (handle e s).2 := rfl

@[simp] theorem run_perform {σ : Type} (handle : {β : Type} → E β → σ → β × σ) (e : E β) (s : σ) :
    (perform e).run handle s = handle e s := rfl

/-- Running one program and then another is running both in turn. -/
theorem run_bind {σ : Type} (handle : {β : Type} → E β → σ → β × σ) (p : Routine E α)
    (f : α → Routine E β) (s : σ) :
    (p >>= f).run handle s = (f (p.run handle s).1).run handle (p.run handle s).2 := by
  induction p generalizing s with
  | done a => rfl
  | step e next ih =>
    rw [bind_step]
    simp only [run]
    exact ih _ _

end Routine

end ToolRelay
