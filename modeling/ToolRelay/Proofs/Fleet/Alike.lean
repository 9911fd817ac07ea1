import Mathlib.Tactic.SplitIfs
import ToolRelay.Fleet.Calls

/-!
# What is written down changes nothing

Fleets that differ only in what was written down are alike: every routine gives the same on both,
and leaves them alike. So routines that are done at the same time, whose journals are kept apart and
mixed afterwards, give what they give one after the other.

## Main definitions

* `Fleet.Alike`: fleets are the same but for their journals.

## Main results

* `Fleet.Alike.run`: a routine gives the same on fleets that are alike.
* `Fleet.run_overheard`: keeping what a routine would write changes nothing else.
* `Fleet.run_atOnce`: routines done at the same time are done one after the other.
-/

namespace ToolRelay.Fleet

variable {τ : Type} {f g : Fleet τ}

/-- Fleets are the same but for their journals. -/
def Alike (f g : Fleet τ) : Prop := ∃ j, g = { f with journal := j }

theorem Alike.refl (f : Fleet τ) : f.Alike f := ⟨f.journal, rfl⟩

theorem Alike.symm (h : f.Alike g) : g.Alike f := by
  obtain ⟨j, rfl⟩ := h
  exact ⟨f.journal, rfl⟩

theorem Alike.trans {k : Fleet τ} (h : f.Alike g) (h' : g.Alike k) : f.Alike k := by
  obtain ⟨j, rfl⟩ := h
  obtain ⟨j', rfl⟩ := h'
  exact ⟨j', rfl⟩

section Run

variable [Inhabited τ] (T : Transport τ) (link : Entry → Except Failure τ) {α β : Type}

/-- A step gives the same on fleets that are alike, and leaves them alike. -/
theorem Alike.act (h : f.Alike g) (e : FleetStep β) :
    (Fleet.act T link e g).1 = (Fleet.act T link e f).1 ∧
      (Fleet.act T link e f).2.Alike (Fleet.act T link e g).2 := by
  obtain ⟨j, rfl⟩ := h
  cases e with
  | build e =>
    simp only [Fleet.act]
    cases link e <;> exact ⟨rfl, j, rfl⟩
  | client handle e => exact ⟨rfl, _, rfl⟩
  | insertNew c =>
    have hlive : findLive? T { f with journal := j } c.name = findLive? T f c.name := rfl
    simp only [Fleet.act, hlive]
    split_ifs <;> exact ⟨rfl, j, rfl⟩
  | find name => exact ⟨rfl, j, rfl⟩
  | list => exact ⟨rfl, j, rfl⟩
  | prune => exact ⟨rfl, j, rfl⟩
  | insert c => exact ⟨rfl, j, rfl⟩
  | remove name => exact ⟨rfl, j, rfl⟩
  | drain => exact ⟨rfl, j, rfl⟩
  | journal i => exact ⟨rfl, j.add i, rfl⟩

@[simp] theorem run_pure (a : α) (f : Fleet τ) : Fleet.run T link (pure a) f = (a, f) := rfl

theorem run_step (e : FleetStep β) (next : β → Calls α) (f : Fleet τ) :
    Fleet.run T link (.step e next) f =
      Fleet.run T link (next (Fleet.act T link e f).1) (Fleet.act T link e f).2 := rfl

theorem run_bind (p : Calls α) (q : α → Calls β) (f : Fleet τ) :
    Fleet.run T link (p >>= q) f =
      Fleet.run T link (q (Fleet.run T link p f).1) (Fleet.run T link p f).2 :=
  Routine.run_bind _ p q f

theorem run_perform_bind (e : FleetStep α) (q : α → Calls β) (f : Fleet τ) :
    Fleet.run T link (Routine.perform e >>= q) f =
      Fleet.run T link (q (Fleet.act T link e f).1) (Fleet.act T link e f).2 := rfl

/-- A routine gives the same on fleets that are alike, and leaves them alike. -/
theorem Alike.run (h : f.Alike g) (p : Calls α) :
    (Fleet.run T link p g).1 = (Fleet.run T link p f).1 ∧
      (Fleet.run T link p f).2.Alike (Fleet.run T link p g).2 := by
  induction p generalizing f g with
  | done a => exact ⟨rfl, h⟩
  | step e next ih =>
    -- the step gives the same on both, so the same routine follows
    obtain ⟨hgives, hleaves⟩ := h.act T link e
    rw [run_step, run_step, hgives]
    exact ih _ hleaves

/-! ## At the same time -/

/-- Putting a client where it is changes nothing. -/
theorem set_clientAt (f : Fleet τ) (handle : Nat) :
    f.clients.set handle (f.clientAt handle) = f.clients := by
  by_cases hlt : handle < f.clients.length
  · have hat : f.clientAt handle = f.clients[handle] := by
      rw [clientAt, List.getD_eq_getElem?_getD, List.getElem?_eq_getElem hlt]
      rfl
    rw [hat, List.set_getElem_self]
  · exact List.set_eq_of_length_le (Nat.le_of_not_lt hlt)

/-- What a client writes down and how it waits changes nothing but the journal. -/
theorem alike_onClient {handle : Nat} {e : ClientStep β}
    (he : ∀ c : Client τ, (c.act T e).2 = c) : f.Alike (f.onClient T handle e).2 := by
  refine ⟨(f.onClient T handle e).2.journal, ?_⟩
  simp only [onClient, he, set_clientAt]

/-- Skipping a step that changes nothing but the journal changes nothing else. -/
theorem run_skip {γ : Type} {q : Calls γ} {p : Calls α} (read : γ → α)
    (h : ∀ f, read (Fleet.run T link q f).1 = (Fleet.run T link p f).1 ∧
      (Fleet.run T link p f).2.Alike (Fleet.run T link q f).2) (hfg : f.Alike g) :
    read (Fleet.run T link q f).1 = (Fleet.run T link p g).1 ∧
      (Fleet.run T link p g).2.Alike (Fleet.run T link q f).2 := by
  obtain ⟨hgives, hleaves⟩ := h f
  obtain ⟨hsame, halike⟩ := hfg.run T link p
  exact ⟨hgives.trans hsame.symm, halike.symm.trans hleaves⟩

/-- Keeping what a routine would write changes nothing else. -/
theorem run_overheard (turn : Nat) (p : Calls α) (f : Fleet τ) :
    (Fleet.run T link (overheard turn p) f).1.1 = (Fleet.run T link p f).1 ∧
      (Fleet.run T link p f).2.Alike (Fleet.run T link (overheard turn p) f).2 := by
  -- steps that only write or wait are left out, all others are done
  fun_induction overheard turn p generalizing f with
  | case1 turn a => exact ⟨rfl, .refl f⟩
  | case2 turn i next ih =>
    have hjournal : f.Alike (Fleet.act T link (.journal i) f).2 := ⟨f.journal.add i, rfl⟩
    have hrest := run_skip T link Prod.fst ih hjournal
    rw [run_bind]
    exact hrest
  | case3 turn handle i next ih =>
    have hjournal : f.Alike (Fleet.act T link (.client handle (.journal i)) f).2 :=
      alike_onClient T fun _ => rfl
    have hrest := run_skip T link Prod.fst ih hjournal
    rw [run_bind]
    exact hrest
  | case4 turn handle turns next ih =>
    have hwait : f.Alike (Fleet.act T link (.client handle (.wait turns)) f).2 :=
      alike_onClient T fun _ => rfl
    have hrest := run_skip T link Prod.fst ih hwait
    exact hrest
  | case5 turn β e next _ _ _ ih => exact ih _ _

/-- Routines that are done in order, each on what the one before has left. -/
theorem run_inTurn_cons (p : Calls α) (rest : List (Calls α)) (f : Fleet τ) :
    Fleet.run T link (inTurn (p :: rest)) f =
      let r := Fleet.run T link (overheard 0 p) f
      (r.1 :: (Fleet.run T link (inTurn rest) r.2).1, (Fleet.run T link (inTurn rest) r.2).2) := by
  rw [inTurn, run_bind, run_bind]
  rfl

/-- Writing items down changes nothing but the journal. -/
theorem alike_journal (items : List JournalItem) (f : Fleet τ) :
    f.Alike (Fleet.run T link (items.forM fun i => Routine.perform (.journal i)) f).2 := by
  induction items generalizing f with
  | nil => exact .refl f
  | cons i rest ih => exact Alike.trans ⟨f.journal.add i, rfl⟩ (ih _)

/-- Routines that are done at the same time give what they give in order, but for the journal. -/
theorem run_atOnce (ps : List (Calls α)) (f : Fleet τ) :
    (Fleet.run T link (atOnce ps) f).1 = (Fleet.run T link (inTurn ps) f).1.map (·.1) ∧
      (Fleet.run T link (inTurn ps) f).2.Alike (Fleet.run T link (atOnce ps) f).2 := by
  rw [atOnce, run_bind, run_bind]
  exact ⟨rfl, alike_journal T link _ _⟩

end Run

end ToolRelay.Fleet
