import Mathlib.Data.List.Induction
import Mathlib.Tactic.SplitIfs
import ToolRelay.Telemetry.Setup

/-!
# What setting up telemetry leaves behind

Telemetry is set up in three stages: the configuration and its filter are checked, the export is
prepared, and what receives the traces is installed. The first stage and the last may fail. A
failure of the first leaves a process as it was. The last one fails after the second has put an
exporter in place, and nothing takes it out again: so a process that has set up telemetry once goes
on to take the exporters of later attempts, though all of these fail.

## Main definitions

* `Telemetry.Config.check`: the first stage.
* `Telemetry.Config.exporter?`: what the second stage puts in place.
* `Telemetry.LeftByFailure`: what a failure leaves behind.
* `Telemetry.Globals.afterAll`: what a process holds after some attempts.
* `Telemetry.Globals.exportersOf`: the exporters that these attempts build.

## Main results

* `Telemetry.setUp_cases`: everything that setting up may come to.
* `Telemetry.left_by_failed_setup`: what a failure leaves behind, and when this is nothing.
* `Telemetry.Globals.afterAll_eq`: what a process holds after any attempts.
-/

namespace ToolRelay.Telemetry

/-! ## The stages -/

namespace Config

/-- Check a configuration, and then its filter. -/
def check (c : Config) : Except Fault Unit :=
  match c.validate with
  | .error why => .error why
  | .ok () => checkLevel c

/-- The exporter that is put in place for a configuration, if it asks for one that can be built. -/
def exporter? (canExport : String → Bool) (c : Config) : Option Exporter :=
  (c.otlpEndpoint.filter canExport).map (.of c)

/-- What is wrong with a configuration is never that telemetry has been set up already. -/
theorem isOfConfig_of_validate {c : Config} {why : Fault} (h : c.validate = .error why) :
    why.isOfConfig = true := by
  rw [validate] at h
  -- a name that is blank, an address that is none, or no output at all
  split at h
  · exact Except.error.inj h ▸ rfl
  · split at h
    all_goals
      split at h
      · cases h
      · exact Except.error.inj h ▸ rfl

/-- Nor is it what is wrong with its filter. -/
theorem isOfConfig_of_checkLevel {c : Config} {why : Fault} (h : checkLevel c = .error why) :
    why.isOfConfig = true := by
  rw [checkLevel] at h
  split at h
  · cases h
  · split at h
    · cases h
    · exact Except.error.inj h ▸ rfl

theorem isOfConfig_of_check {c : Config} {why : Fault} (h : c.check = .error why) :
    why.isOfConfig = true := by
  rw [check] at h
  split at h
  · next fault hv => exact Except.error.inj h ▸ isOfConfig_of_validate hv
  · exact isOfConfig_of_checkLevel h

end Config

/-- Preparing the export puts the exporter in place, if there is one. The exporter that is flushed
at the end stays the one that came first. -/
theorem Globals.prepare_eq (canExport : String → Bool) (c : Config) (g : Globals) :
    g.prepare canExport c =
      { g with
        exporter := (c.exporter? canExport).or g.exporter
        kept := g.kept.or (c.exporter? canExport) } := by
  rw [prepare, Config.exporter?]
  cases c.otlpEndpoint with
  | none => simp
  | some endpoint =>
    dsimp only
    rw [Option.filter_some]
    cases canExport endpoint with
    | false =>
      -- an exporter that cannot be built is done without
      simp
    | true =>
      rw [if_pos rfl, if_pos rfl, use]
      cases g.kept <;> rfl

/-- Everything that setting up may come to. The configuration is not as it should be, and nothing is
done. Or the export is prepared, and then what receives the traces is installed, unless something is
installed already. -/
theorem setUp_cases (canExport : String → Bool) (c : Config) (g : Globals) :
    (∃ why, c.check = .error why ∧ setUp canExport c g = (.error why, g)) ∨
      (c.check = .ok () ∧ g.installed = true ∧
        setUp canExport c g = (.error .alreadyInstalled, g.prepare canExport c)) ∨
      (c.check = .ok () ∧ g.installed = false ∧
        setUp canExport c g = (.ok (), { g.prepare canExport c with installed := true })) := by
  have hinstalled : (g.prepare canExport c).installed = g.installed := by
    rw [Globals.prepare_eq]
  rw [setUp, Config.check]
  -- the configuration is checked first, then its filter, and only then is anything done
  cases c.validate with
  | error why => exact Or.inl ⟨why, rfl, rfl⟩
  | ok _ =>
    dsimp only
    cases checkLevel c with
    | error why => exact Or.inl ⟨why, rfl, rfl⟩
    | ok _ =>
      dsimp only
      rw [hinstalled]
      cases hg : g.installed with
      | true => exact Or.inr (Or.inl ⟨rfl, rfl, rfl⟩)
      | false => exact Or.inr (Or.inr ⟨rfl, rfl, rfl⟩)

/-! ## Failures -/

/-- What a failure to set up telemetry leaves behind of what a process held. -/
structure LeftByFailure (canExport : String → Bool) (c : Config) (why : Fault) (g g' : Globals) :
    Prop where
  /-- What receives the traces does so, and nothing else does. -/
  installed : g'.installed = g.installed
  /-- A configuration that is not as it should be changes nothing. -/
  ofConfig : why.isOfConfig = true → g' = g
  /-- Where something was installed already, an exporter that could be built is in place
  nevertheless. -/
  ofInstalled : why = .alreadyInstalled → g.installed = true ∧
    ∀ e, c.exporter? canExport = some e → g'.exporter = some e ∧ g'.kept = g.kept.or (some e)
  /-- Without such an exporter nothing changes. -/
  ofNone : c.exporter? canExport = none → g' = g

/-- What a failure leaves behind, and when this is nothing. Whatever a process holds, let setting up
telemetry fail, for a configuration or for an environment. If what is wrong is the configuration or
its filter, the process holds what it held. If it is that something receives the traces already,
this stays so; but an exporter that the configuration asks for, and that could be built, has taken
the place of the one in use, and is kept to be flushed at the end unless there was one to be kept
before. Without such an exporter the process holds what it held. -/
theorem left_by_failed_setup (canExport : String → Bool) (g : Globals) (why : Fault) :
    (∀ c, (setUp canExport c g).1 = .error why →
      LeftByFailure canExport c why g (setUp canExport c g).2) ∧
    ∀ env, (setUpFrom canExport env g).1 = .error why →
      LeftByFailure canExport (.ofEnvironment env) why g (setUpFrom canExport env g).2 := by
  have hsetUp : ∀ c, (setUp canExport c g).1 = .error why →
      LeftByFailure canExport c why g (setUp canExport c g).2 := by
    intro c h
    rcases setUp_cases canExport c g with ⟨fault, hcheck, heq⟩ | ⟨-, hup, heq⟩ | ⟨-, -, heq⟩
    · -- a fault of the configuration is found before anything is done
      rw [heq] at h ⊢
      obtain rfl : fault = why := Except.error.inj h
      have hfault := Config.isOfConfig_of_check hcheck
      refine ⟨rfl, fun _ => rfl, fun halready => ?_, fun _ => rfl⟩
      rw [halready] at hfault
      cases hfault
    · -- here the export has been prepared
      rw [heq] at h ⊢
      obtain rfl : Fault.alreadyInstalled = why := Except.error.inj h
      rw [Globals.prepare_eq]
      refine ⟨rfl, fun hconfig => ?_, fun _ => ⟨hup, fun e he => ?_⟩, fun hnone => ?_⟩
      · cases hconfig
      · rw [he]
        exact ⟨rfl, rfl⟩
      · rw [hnone]
        simp
    · rw [heq] at h
      cases h
  exact ⟨hsetUp, fun env => hsetUp (.ofEnvironment env)⟩

/-- A configuration that asks for an exporter. -/
def exportingConfig : Config := { serviceName := "s", otlpEndpoint := some "http://127.0.0.1:4317" }

/-- A service without a name leaves nothing behind, whatever it asks for. Nor does an environment
without a collector, though something receives the traces already. -/
theorem nothing_left_without_exporter :
    let g : Globals := { installed := true }
    let unnamed := setUp (fun _ => true) { exportingConfig with serviceName := " " } g
    let plain := setUpFrom (fun _ => true) (fun _ => none) g
    unnamed.1 = .error .blankName ∧ unnamed.2 = g ∧
      plain.1 = .error .alreadyInstalled ∧ plain.2 = g := by
  intro g unnamed plain
  have hunnamed : unnamed.1 = .error .blankName := by decide +kernel
  have hplain : plain.1 = .error .alreadyInstalled := by decide +kernel
  refine ⟨hunnamed, ?_, hplain, ?_⟩
  · exact ((left_by_failed_setup (fun _ => true) g .blankName).1 _ hunnamed).ofConfig rfl
  · exact ((left_by_failed_setup (fun _ => true) g .alreadyInstalled).2 _ hplain).ofNone rfl

/-- Setting up telemetry where something receives the traces already fails, and leaves an exporter
behind: it is in use, and is kept to be flushed at the end. -/
theorem exporter_left_by_failed_setup :
    let g : Globals := { installed := true }
    let r := setUp (fun _ => true) exportingConfig g
    let e := Exporter.of exportingConfig "http://127.0.0.1:4317"
    r.1 = .error .alreadyInstalled ∧ g.exporter = none ∧ g.kept = none ∧
      r.2.exporter = some e ∧ r.2.kept = some e := by
  decide +kernel

/-! ## Any attempts -/

namespace Globals

/-- What a process holds after it has tried to set up telemetry for some configurations. -/
def afterAll (canExport : String → Bool) (g : Globals) (cs : List Config) : Globals :=
  cs.foldl (fun g c => (setUp canExport c g).2) g

/-- The exporters that are built for configurations that are as they should be. -/
def exportersOf (canExport : String → Bool) (cs : List Config) : List Exporter :=
  (cs.filter (·.check.toBool)).filterMap (·.exporter? canExport)

theorem exportersOf_concat (canExport : String → Bool) (cs : List Config) (c : Config) :
    exportersOf canExport (cs ++ [c]) = exportersOf canExport cs ++
      if c.check.toBool then (c.exporter? canExport).toList else [] := by
  rw [exportersOf, List.filter_append, List.filterMap_append, exportersOf]
  cases hcheck : c.check.toBool with
  | false => simp [hcheck]
  | true => cases hbuilt : c.exporter? canExport <;> simp [hcheck, hbuilt]

/-- What one attempt does, whether it succeeds or not: once a configuration is as it should be, its
exporter is put in place, and something receives the traces. -/
theorem setUp_snd (canExport : String → Bool) (c : Config) (g : Globals) :
    (setUp canExport c g).2 =
      if c.check.toBool then
        { installed := true
          exporter := (c.exporter? canExport).or g.exporter
          kept := g.kept.or (c.exporter? canExport) }
      else g := by
  rcases setUp_cases canExport c g with ⟨why, hcheck, heq⟩ | ⟨hcheck, hup, heq⟩ | ⟨hcheck, -, heq⟩
  · rw [heq, hcheck]
    rfl
  · rw [heq, hcheck, prepare_eq, hup]
    rfl
  · rw [heq, hcheck, prepare_eq]
    rfl

/-- What a process holds after any attempts to set up telemetry. Whether they succeeded or not, the
exporter in use is the last one that was built for a configuration that is as it should be, and the
one that is flushed at the end is the first. -/
theorem afterAll_eq (canExport : String → Bool) (g : Globals) (cs : List Config) :
    g.afterAll canExport cs =
      { installed := g.installed || cs.any (·.check.toBool)
        exporter := (exportersOf canExport cs).getLast?.or g.exporter
        kept := g.kept.or (exportersOf canExport cs).head? } := by
  induction cs using List.reverseRecOn with
  | nil => simp [afterAll, exportersOf]
  | append_singleton cs c ih =>
    have hlast : g.afterAll canExport (cs ++ [c]) =
        (setUp canExport c (g.afterAll canExport cs)).2 := List.foldl_append
    rw [hlast, setUp_snd, ih, exportersOf_concat]
    -- only a configuration that is as it should be has its exporter built
    cases hcheck : c.check.toBool with
    | false => simp [hcheck]
    | true => cases c.exporter? canExport <;> simp [hcheck]

end Globals

end ToolRelay.Telemetry
