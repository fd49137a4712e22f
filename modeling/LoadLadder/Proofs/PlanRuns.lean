import LoadLadder.Manifest.Report
import LoadLadder.Proofs.PlanWorlds

/-!
# Runs of load plans

Driving the units of a plan one after the other finishes its world, and the outcome
for each unit can be read off the unit afterwards.  So can the report on the run.
-/

namespace LoadLadder

open Relation

namespace LoadPlan

variable {world next : World} {target : Level} {planned : PlannedUnit}
  {entry : PlannedUnit × UnitKey} {entries : List (PlannedUnit × UnitKey)}
  {key : UnitKey} {outcome : Except Fault Unit} {sinks : Sinks} {plan : LoadPlan}

/-- The outcome of driving a unit says how far the unit has come. -/
inductive Concludes (world : World) (target : Level) :
    PlannedUnit × UnitKey → Except Fault Unit → Prop
  | refused {planned : PlannedUnit} {key : UnitKey} {fault : Fault}
      (refusal : planned.refusal = some fault) :
      Concludes world target (planned, key) (.error fault)
  | reached {planned : PlannedUnit} {key : UnitKey}
      (made : planned.refusal = none)
      (reached : target ≤ (world.unit key).level) :
      Concludes world target (planned, key) (.ok ())
  | failed {planned : PlannedUnit} {key : UnitKey} {cause : Cause}
      (made : planned.refusal = none)
      (stored : (world.unit key).failure.cause = some cause) :
      Concludes world target (planned, key) (.error (.load cause))

theorem Concludes.later (concludes : Concludes world target entry outcome)
    (proceeds : world.Proceeds next) : Concludes next target entry outcome := by
  cases concludes with
  | refused refusal => exact .refused refusal
  | reached made reached => exact .reached made (proceeds.reached reached)
  | failed made stored =>
      exact .failed made ((proceeds.grows _).failure _ stored)

/-- Code may run in a unit that is as far as the target of its drive. -/
theorem conclude_of_reached (reached : target ≤ (world.unit key).level) :
    conclude world key target (.ok ()) = .ok () := by
  rw [conclude]
  split
  · rename_i terminal
    have top : target = .active := by simpa [Level.isTerminal] using terminal
    subst top
    have active : Level.active ≤ (world.unit key).level := reached
    have runs : (world.unit key).checkActivated = true := by
      simp [LoadUnit.checkActivated, LoadUnit.checkNoError, LoadUnit.isActive,
        active]
    simp [World.requireActivated, runs]
  · rfl

theorem concludes_of_answers {reply : Reply} (made : planned.refusal = none)
    (answers : world.Answers key target reply) :
    Concludes world target (planned, key)
      (conclude world key target (reply.map fun _ => ())) := by
  rcases answers with ⟨⟨flag, rfl⟩, reached⟩ | ⟨cause, rfl, stored⟩
  · have ended := conclude_of_reached reached
    exact ended.symm ▸ .reached made reached
  · exact .failed made stored

/-- Units that can be driven, or were refused. -/
def Drivable (world : World) (entries : List (PlannedUnit × UnitKey)) : Prop :=
  ∀ entry ∈ entries, entry.1.refusal = none →
    entry.2 < world.unitCount ∧ (world.unit entry.2).presence = .held

theorem Drivable.later (drivable : Drivable world entries)
    (proceeds : world.Proceeds next) : Drivable next entries := by
  intro entry member made
  rw [proceeds.count, (proceeds.fixed _).presence]
  exact drivable entry member made

theorem Drivable.head (drivable : Drivable world (entry :: entries)) :
    Drivable world [entry] := fun _ member =>
  drivable _ (List.mem_cons.mpr (Or.inl (List.mem_singleton.mp member)))

theorem Drivable.tail (drivable : Drivable world (entry :: entries)) :
    Drivable world entries := fun _ member =>
  drivable _ (List.mem_cons_of_mem _ member)

theorem loads_drive (rested : world.Rested sinks)
    (drivable : Drivable world [entry]) :
    world.Loads target (drive target world entry).1 ∧
      Concludes (drive target world entry).1 target entry
        (drive target world entry).2 := by
  obtain ⟨planned, key⟩ := entry
  unfold drive
  split
  · rename_i fault refusal
    exact ⟨ReflTransGen.refl, .refused refusal⟩
  · rename_i made
    obtain ⟨known, held⟩ := drivable _ (List.mem_singleton_self _) made
    obtain ⟨load, reply, ended, answers⟩ :=
      @Machine.load_ensure key target sinks world rested known held
    refine ⟨ReflTransGen.single load, ?_⟩
    simp only [LoadPlan.domain, ended]
    exact concludes_of_answers made answers

/-- One unit after the other is loaded, and each outcome still tells how far its
unit is when all have been driven. -/
theorem loads_driveAll (rested : world.Rested sinks)
    (drivable : Drivable world entries) :
    world.Loads target (driveAll target world entries).1 ∧
      List.Forall₂ (Concludes (driveAll target world entries).1 target) entries
        (driveAll target world entries).2 := by
  induction entries generalizing world with
  | nil => exact ⟨ReflTransGen.refl, .nil⟩
  | cons entry entries ih =>
      rw [driveAll]
      obtain ⟨loads, concludes⟩ :=
        @loads_drive world target entry sinks rested drivable.head
      have rest := drivable.tail.later loads.proceeds
      obtain ⟨further, concluded⟩ := ih (loads.rested rested) rest
      exact ⟨ReflTransGen.trans loads further,
        .cons (concludes.later further.proceeds) concluded⟩

/-- What the outcome for a unit is once all units have been driven. -/
def verdict (world : World) (entry : PlannedUnit × UnitKey) :
    Except Fault Unit :=
  match entry.1.refusal, (world.unit entry.2).failure.cause with
  | some fault, _ => .error fault
  | none, some cause => .error (.load cause)
  | none, none => .ok ()

theorem Concludes.eq_verdict (concludes : Concludes world target entry outcome)
    (finished : world.Finished sinks target) :
    outcome = verdict world entry := by
  cases concludes with
  | refused refusal => simp [verdict, refusal]
  | reached made reached =>
      simp [verdict, made, finished.healthy_of_reached reached]
  | failed made stored => simp [verdict, made, stored]

theorem exists_outcome {outcomes : List (Except Fault Unit)}
    (concluded : List.Forall₂ (Concludes world target) entries outcomes)
    (member : entry ∈ entries) :
    ∃ outcome, Concludes world target entry outcome := by
  induction concluded with
  | nil => exact absurd member List.not_mem_nil
  | cons concludes _ ih =>
      rcases List.mem_cons.mp member with rfl | later
      · exact ⟨_, concludes⟩
      · exact ih later

theorem outcomes_eq_verdicts {outcomes : List (Except Fault Unit)}
    (concluded : List.Forall₂ (Concludes world target) entries outcomes)
    (finished : world.Finished sinks target) :
    outcomes = entries.map (verdict world) := by
  induction concluded with
  | nil => rfl
  | cons concludes _ ih =>
      rw [List.map_cons, ih, concludes.eq_verdict finished]

/-- Several sequential runs of one plan. -/
def runAll (plan : LoadPlan) (targets : List Level) : LoadPlan :=
  targets.foldl (fun plan target => (plan.run target false).1) plan

/-- Nobody is loading the plan, and its units can be driven. -/
structure Idle (plan : LoadPlan) (sinks : Sinks) : Prop where
  rested : plan.world.Rested sinks
  drivable : Drivable plan.world plan.units.zipIdx

theorem Idle.run (idle : plan.Idle sinks) (target : Level) :
    plan.world.Loads target (plan.run target false).1.world ∧
      (plan.run target false).1.Idle sinks := by
  obtain ⟨loads, -⟩ := @loads_driveAll _ target _ _ idle.rested idle.drivable
  exact ⟨loads, loads.rested idle.rested, idle.drivable.later loads.proceeds⟩

/-- What every load keeps, the runs of a plan keep. -/
theorem Idle.runAll_induction (holds : World → Prop)
    (step : ∀ (world next : World) (target : Level), world.Rested sinks →
      world.Loads target next → holds world → holds next)
    (idle : plan.Idle sinks) (start : holds plan.world) (targets : List Level) :
    holds (plan.runAll targets).world ∧ (plan.runAll targets).Idle sinks := by
  induction targets generalizing plan with
  | nil => exact ⟨start, idle⟩
  | cons target targets ih =>
      obtain ⟨loads, rest⟩ := idle.run target
      exact ih rest (step _ _ target idle.rested loads start)

end LoadPlan

namespace Manifest

variable {manifest : Manifest} {target : Level} {world : World}
  {outcomes : List (Except Fault Unit)} {spec : UnitSpec} {key : UnitKey}

/-- All units of a manifest have been driven to a target, with these outcomes. -/
structure Ends (manifest : Manifest) (target : Level) (world : World)
    (outcomes : List (Except Fault Unit)) : Prop where
  finished : world.Finished manifest.consumers target
  proceeds : manifest.build.world.Proceeds world
  outcomes : outcomes =
    manifest.build.units.zipIdx.map (LoadPlan.verdict world)

theorem mem_entries {entry : PlannedUnit × UnitKey} :
    entry ∈ manifest.build.units.zipIdx ↔ ∃ spec,
      manifest.units[entry.2]? = some spec ∧ entry.1 = spec.planned := by
  obtain ⟨planned, key⟩ := entry
  rw [List.mk_mem_zipIdx_iff_getElem?, units_build, List.getElem?_map,
    Option.map_eq_some_iff]
  exact exists_congr fun spec => and_congr_right fun _ => eq_comm

theorem drivable_build (manifest : Manifest) :
    LoadPlan.Drivable manifest.build.world manifest.build.units.zipIdx := by
  intro entry member made
  obtain ⟨spec, found, planned⟩ := mem_entries.mp member
  have holds : manifest.Holds entry.2 := by
    refine ⟨spec, found, ?_⟩
    rw [planned, UnitSpec.refusal_planned] at made
    simpa using made
  exact ⟨holds.known, holds_iff.mp holds⟩

theorem idle_build (sound : manifest.Sound) :
    manifest.build.Idle manifest.consumers :=
  ⟨rested_build sound, manifest.drivable_build⟩

/-- When every outcome tells how far its unit has come, the run is over. -/
theorem ends_of_concludes (rested : world.Rested manifest.consumers)
    (capped : world.Capped target)
    (proceeds : manifest.build.world.Proceeds world)
    (concluded : List.Forall₂ (LoadPlan.Concludes world target)
      manifest.build.units.zipIdx outcomes) :
    manifest.Ends target world outcomes := by
  have finished : world.Finished manifest.consumers target := by
    refine ⟨rested, capped, fun key known held => ?_⟩
    rw [(proceeds.fixed key).presence] at held
    obtain ⟨spec, entry, valid⟩ := holds_iff.mpr held
    have member : (spec.planned, key) ∈ manifest.build.units.zipIdx :=
      mem_entries.mpr ⟨spec, entry, rfl⟩
    obtain ⟨outcome, concludes⟩ := LoadPlan.exists_outcome concluded member
    cases concludes with
    | refused refusal =>
        rw [UnitSpec.refusal_planned, valid] at refusal
        contradiction
    | reached made reached => exact Or.inl reached
    | failed made stored => exact Or.inr (World.isError_iff.mpr ⟨_, stored⟩)
  exact ⟨finished, proceeds,
    LoadPlan.outcomes_eq_verdicts concluded finished⟩

theorem Ends.known (ends : manifest.Ends target world outcomes)
    (holds : manifest.Holds key) : key < world.unitCount :=
  ends.proceeds.count.symm ▸ holds.known

theorem Ends.known_of_entry (ends : manifest.Ends target world outcomes)
    (entry : manifest.units[key]? = some spec) : key < world.unitCount := by
  rw [ends.proceeds.count, unitCount_build]
  exact (List.getElem?_eq_some_iff.mp entry).1

theorem Ends.held (ends : manifest.Ends target world outcomes)
    (holds : manifest.Holds key) : (world.unit key).presence = .held :=
  (ends.proceeds.fixed key).presence.trans (holds_iff.mp holds)

theorem ends_run (sound : manifest.Sound) (target : Level) :
    manifest.Ends target (manifest.build.run target false).1.world
      (manifest.build.run target false).2 := by
  obtain ⟨loads, concluded⟩ :=
    @LoadPlan.loads_driveAll _ target _ _ (rested_build sound)
      manifest.drivable_build
  exact ends_of_concludes (loads.rested (rested_build sound))
    (loads.capped (rested_build sound) (manifest.capped_build target))
    loads.proceeds concluded

/-- The report on a run that is over can be read off the units. -/
theorem Ends.report (ends : manifest.Ends target world outcomes)
    (parallel : Bool) :
    ({ manifest.build with world } : LoadPlan).report target parallel outcomes = {
      domain := World.domainId LoadPlan.domain
      target
      parallel
      registered := (world.domain LoadPlan.domain).registry.length
      units := manifest.build.units.zipIdx.map fun entry =>
        LoadPlan.unitReport world entry.1 entry.2 (LoadPlan.verdict world entry)
      events := world.events.length } := by
  have pairs (entries : List (PlannedUnit × UnitKey)) :
      entries.zip (entries.map (LoadPlan.verdict world)) =
        entries.map fun entry => (entry, LoadPlan.verdict world entry) := by
    simpa using @List.zip_map' _ _ _ id (LoadPlan.verdict world) entries
  rw [LoadPlan.report, ends.outcomes, pairs, List.map_map]
  rfl

end Manifest

end LoadLadder
