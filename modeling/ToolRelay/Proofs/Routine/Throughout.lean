import Mathlib.Data.List.Induction
import ToolRelay.Routine.Interleaving

/-!
# What holds throughout a run

A property of single turns holds throughout a run when it holds of every turn and of what the turn
finds. It is how a run is restricted: an invariant that only some turns keep holds after every run
that consists of such turns.

## Main definitions

* `TaskGroup.Throughout`: every turn of a run has a property.

## Main results

* `TaskGroup.throughout_append`: a run in two parts.
* `TaskGroup.Throughout.play`: an invariant of turns with a property holds after the run.
-/

namespace ToolRelay.TaskGroup

universe u

variable {E : Type → Type u} {ι ε σ α : Type} {m : Machine E ι ε σ} {c : TaskGroup E σ α}
  {P R : TaskGroup E σ α → Turn ι ε → Prop} {first later turns : List (Turn ι ε)} {t : Turn ι ε}

@[simp] theorem play_snoc (m : Machine E ι ε σ) (c : TaskGroup E σ α) (turns : List (Turn ι ε))
    (t : Turn ι ε) : c.play m (turns ++ [t]) = (c.play m turns).turn m t :=
  c.play_append m turns [t]

/-- Every turn of a run, with what it finds, has a property. -/
def Throughout (m : Machine E ι ε σ) (P : TaskGroup E σ α → Turn ι ε → Prop) (c : TaskGroup E σ α)
    (turns : List (Turn ι ε)) : Prop :=
  ∀ seen t, seen ++ [t] <+: turns → P (c.play m seen) t

@[simp] theorem throughout_nil : c.Throughout m P [] := by
  intro seen t h
  simp at h

/-- The last turn of a run comes after the others. -/
theorem throughout_snoc :
    c.Throughout m P (turns ++ [t]) ↔ c.Throughout m P turns ∧ P (c.play m turns) t := by
  constructor
  · intro h
    exact ⟨fun seen s hs => h seen s (hs.trans (List.prefix_append _ _)), h turns t List.prefix_rfl⟩
  · rintro ⟨h, ht⟩ seen s hs
    rcases List.prefix_concat_iff.1 hs with heq | hs
    · obtain ⟨rfl, hst⟩ := List.append_inj' heq rfl
      obtain rfl := List.singleton_inj.1 hst
      exact ht
    · exact h seen s hs

/-- The second part of a run finds what the first part led to. -/
theorem throughout_append :
    c.Throughout m P (first ++ later) ↔
      c.Throughout m P first ∧ (c.play m first).Throughout m P later := by
  induction later using List.reverseRecOn with
  | nil => simp
  | append_singleton later t ih =>
    rw [← List.append_assoc, throughout_snoc, throughout_snoc, ih, play_append, and_assoc]

@[simp] theorem throughout_singleton : c.Throughout m P [t] ↔ P c t := by
  have h : c.Throughout m P ([] ++ [t]) ↔ c.Throughout m P [] ∧ P (c.play m []) t :=
    throughout_snoc
  simpa using h

/-- The first turn of a run comes before the others. -/
theorem throughout_cons :
    c.Throughout m P (t :: turns) ↔ P c t ∧ (c.turn m t).Throughout m P turns := by
  rw [← List.singleton_append, throughout_append, throughout_singleton]
  exact Iff.rfl

/-- What a run is like can be told turn by turn. -/
instance decidableThroughout [∀ c t, Decidable (P c t)] :
    (c : TaskGroup E σ α) → (turns : List (Turn ι ε)) → Decidable (c.Throughout m P turns)
  | _, [] => isTrue throughout_nil
  | c, t :: turns =>
    have := decidableThroughout (c.turn m t) turns
    decidable_of_iff _ throughout_cons.symm

/-- What holds throughout a run holds throughout its first part. -/
theorem Throughout.take (h : c.Throughout m P turns) (hf : first <+: turns) :
    c.Throughout m P first :=
  fun seen t hs => h seen t (hs.trans hf)

/-- A property may be weakened. -/
theorem Throughout.mono (h : c.Throughout m P turns) (hPR : ∀ c t, P c t → R c t) :
    c.Throughout m R turns :=
  fun seen t hs => hPR _ _ (h seen t hs)

/-- An invariant that every turn with a property keeps holds after a run of such turns. -/
theorem Throughout.play (h : c.Throughout m P turns) (I : TaskGroup E σ α → Prop) (hI : I c)
    (turn : ∀ c t, P c t → I c → I (c.turn m t)) : I (c.play m turns) := by
  induction turns using List.reverseRecOn with
  | nil => exact hI
  | append_singleton turns t ih =>
    obtain ⟨h, ht⟩ := throughout_snoc.1 h
    rw [play_snoc]
    exact turn _ _ ht (ih h)

end ToolRelay.TaskGroup
