import LoadLadder.Proofs.PlanRuns
import LoadLadder.Proofs.ThreadViews

/-!
# Settings that only advise

The settings of the loader, the consumers that may be absent and the debuggable
attributes of the images are consulted all through a run, but none of them decides
anything.  A run of a manifest is followed with them left out, step by step, and
arrives at the same outcomes.
-/

namespace LoadLadder

/-- The entry without its debuggable attribute. -/
def UnitSpec.unadvised (spec : UnitSpec) : UnitSpec :=
  { spec with debuggable := none }

/-- The manifest with no settings of its own, without the consumers that may be absent,
and without debuggable attributes. -/
def Manifest.unadvised (manifest : Manifest) : Manifest where
  loader := default
  units := manifest.units.map UnitSpec.unadvised

/-- The plan in a world that is looked at without advice. -/
def LoadPlan.unadvised (plan : LoadPlan) : LoadPlan :=
  { plan with world := plan.world.without .advice }

namespace Manifest

theorem domain_unadvised (manifest : Manifest) :
    manifest.unadvised.domain = manifest.domain.without .advice :=
  rfl

theorem planUnit_unadvised (plan : LoadPlan) (spec : UnitSpec) :
    planUnit plan.unadvised spec.unadvised = (planUnit plan spec).unadvised := by
  have image : spec.unadvised.image = spec.image.without .advice := rfl
  have container : spec.unadvised.container = spec.container := rfl
  simp only [planUnit, LoadPlan.unadvised, image, container, World.createUnit_without]
  rfl

theorem addDependencies_unadvised (units : List PlannedUnit) (world : World)
    (entry : UnitSpec × UnitKey) :
    addDependencies units (world.without .advice) (entry.1.unadvised, entry.2) =
      (addDependencies units world entry).without .advice := by
  refine List.foldl_hom (World.without · .advice) fun world dependency => ?_
  split
  · rw [World.addDependency_without]
  · rfl

theorem build_unadvised (manifest : Manifest) :
    manifest.unadvised.build = manifest.build.unadvised := by
  let empty : LoadPlan := { world := ({} : World).addDomain manifest.domain, units := [] }
  have start : LoadPlan.mk (({} : World).addDomain manifest.unadvised.domain) [] =
      empty.unadvised := by
    rw [domain_unadvised]
    exact congrArg (LoadPlan.mk · []) (World.addDomain_without {} manifest.domain).symm
  have planned : manifest.unadvised.units.foldl planUnit empty.unadvised =
      (manifest.units.foldl planUnit empty).unadvised := by
    rw [unadvised, List.foldl_map]
    exact List.foldl_hom LoadPlan.unadvised fun plan spec => planUnit_unadvised plan spec
  have linked (units : List PlannedUnit) (world : World) :
      manifest.unadvised.units.zipIdx.foldl (addDependencies units)
          (world.without .advice) =
        (manifest.units.zipIdx.foldl (addDependencies units) world).without .advice := by
    rw [unadvised, List.zipIdx_map, List.foldl_map]
    exact List.foldl_hom (World.without · .advice) fun world entry =>
      addDependencies_unadvised units world entry
  simp only [build, start, planned]
  exact congrArg (LoadPlan.mk · _) (linked _ _)

end Manifest

namespace World

/-- Every unit of a plan has been made. -/
theorem Planned.made {world : World} {sinks : Sinks} {key : UnitKey}
    (planned : world.Planned sinks) (known : key < world.unitCount) :
    (world.unit key).without .advice ≠ default := by
  intro unmade
  have number : ((world.unit key).without .advice).id.number = key + 1 := by
    rw [LoadUnit.id_without, planned.numbered key known]
  rw [unmade] at number
  exact Nat.succ_ne_zero key number.symm

theorem budget_without (world : World) (aspect : Aspect) :
    (world.without aspect).budget = world.budget := by
  simp [budget, without, Store.map, List.foldl_map]

end World

namespace Machine

variable {machine : Machine} {sinks : Sinks} {goal : Level}
  {aims : ThreadId → Option UnitKey}

/-- The machine, looked at without advice. -/
def unadvised (machine : Machine) : Machine :=
  ⟨machine.world.without .advice, machine.thread.without .advice⟩

theorem step?_unadvised (orderly : machine.crew.Orderly sinks goal aims) :
    machine.unadvised.step? = machine.step?.map unadvised := by
  have spares : machine.world.Spares machine.thread .advice := by
    intro key level rest expanding
    have supports : machine.world.Supports machine.thread := orderly.supports mainThread
    rw [World.Supports, expanding] at supports
    exact World.Planned.made orderly.planned supports.1
  rw [step?, unadvised, World.step_without machine.world mainThread spares, step?,
    Option.map_map, Option.map_map]
  rfl

theorem advance_unadvised (orderly : machine.crew.Orderly sinks goal aims)
    (bound : Nat) :
    machine.unadvised.advance bound = (machine.advance bound).unadvised := by
  induction bound generalizing machine with
  | zero => rfl
  | succ bound ih =>
      rw [advance, step?_unadvised orderly, advance]
      cases step : machine.step? with
      | none => rfl
      | some next =>
          have later := Crew.orderly_act orderly mainThread
          rw [act_crew_of_step step] at later
          exact ih later

theorem run_unadvised {aim : Option UnitKey} (rested : machine.world.Rested sinks)
    (sets : machine.world.SetsOut goal machine.thread aim) :
    machine.unadvised.run = machine.run.unadvised := by
  obtain ⟨aims, starts, -⟩ := starts_of_setsOut sets
  have budget : machine.unadvised.world.budget = machine.world.budget :=
    World.budget_without machine.world .advice
  rw [run, run, budget]
  exact advance_unadvised (Crew.orderly_of_starts rested starts) _

variable {world : World} {key : UnitKey}

/-- Driving a unit ends the same way without advice. -/
theorem ensure_unadvised (rested : world.Rested sinks) (known : key < world.unitCount)
    (held : (world.unit key).presence = .held) :
    ensure (world.without .advice) 0 key goal =
      ((ensure world 0 key goal).1.without .advice, (ensure world 0 key goal).2) := by
  have sets : world.SetsOut goal ⟨.ensure world 0 key goal, []⟩ (some key) :=
    .sent known held rfl
  have runs : run ⟨world.without .advice,
        ⟨.ensure (world.without .advice) 0 key goal, []⟩⟩ =
      (run ⟨world, ⟨.ensure world 0 key goal, []⟩⟩).unadvised := by
    rw [Task.ensure_without]
    exact @run_unadvised ⟨world, ⟨.ensure world 0 key goal, []⟩⟩ sinks goal _ rested sets
  rw [ensure, ensure, runs]
  exact Prod.ext rfl (Thread.outcome_without _)

end Machine

namespace LoadPlan

variable {world : World} {target : Level} {entry : PlannedUnit × UnitKey}
  {entries : List (PlannedUnit × UnitKey)} {sinks : Sinks} {plan : LoadPlan}

/-- Whether code may run decides nothing: it may when the unit is as far as it should
be. -/
theorem conclude_of_answers {key : UnitKey} {reply : Reply}
    (answers : world.Answers key target reply) :
    conclude world key target (reply.map fun _ => ()) = reply.map fun _ => () := by
  rcases answers with ⟨⟨flag, rfl⟩, reached⟩ | ⟨cause, rfl, -⟩
  · exact conclude_of_reached reached
  · rfl

theorem answers_unadvised {key : UnitKey} {reply : Reply}
    (answers : world.Answers key target reply) :
    (world.without .advice).Answers key target reply := by
  simpa [World.Answers] using answers

theorem drive_unadvised (rested : world.Rested sinks)
    (drivable : Drivable world [entry]) :
    drive target (world.without .advice) entry =
      ((drive target world entry).1.without .advice, (drive target world entry).2) := by
  obtain ⟨planned, key⟩ := entry
  unfold drive
  split
  · rfl
  · rename_i made
    obtain ⟨known, held⟩ := drivable _ (List.mem_singleton_self _) made
    obtain ⟨-, reply, ended, answers⟩ :=
      @Machine.load_ensure key target sinks world rested known held
    simp only [LoadPlan.domain, Machine.ensure_unadvised rested known held, ended,
      conclude_of_answers answers, conclude_of_answers (answers_unadvised answers)]

theorem driveAll_unadvised (rested : world.Rested sinks)
    (drivable : Drivable world entries) :
    driveAll target (world.without .advice) entries =
      ((driveAll target world entries).1.without .advice,
        (driveAll target world entries).2) := by
  induction entries generalizing world with
  | nil => rfl
  | cons entry entries ih =>
      obtain ⟨loads, -⟩ := @loads_drive world target entry sinks rested drivable.head
      have rest := ih (loads.rested rested) (drivable.tail.later loads.proceeds)
      simp only [driveAll, drive_unadvised rested drivable.head, rest]

theorem run_unadvised (idle : plan.Idle sinks) (target : Level) :
    plan.unadvised.run target false =
      ((plan.run target false).1.unadvised, (plan.run target false).2) := by
  have driven := @driveAll_unadvised plan.world target _ sinks idle.rested idle.drivable
  simp only [run, unadvised, driven, Bool.false_eq_true, if_false]

/-- However often a plan is run, every run ends the same way without advice. -/
theorem runAll_unadvised (idle : plan.Idle sinks) (targets : List Level) :
    plan.unadvised.runAll targets = (plan.runAll targets).unadvised := by
  induction targets generalizing plan with
  | nil => rfl
  | cons target targets ih =>
      obtain ⟨-, later⟩ := idle.run target
      rw [runAll, List.foldl_cons, run_unadvised idle]
      exact ih later

end LoadPlan

/-- The worlds differ in what only advises, or in what the consumers that may be absent
have learned. -/
structure World.SameProgress (left right : World) : Prop where
  level : ∀ key, (left.unit key).level = (right.unit key).level
  cause : ∀ key, (left.unit key).failure.cause = (right.unit key).failure.cause
  activated : ∀ key, (left.unit key).checkActivated = (right.unit key).checkActivated
  told : ∀ key kind, kind ≠ .debuggerModule →
    (left.unit key).latches.isSet kind = (right.unit key).latches.isSet kind
  events : (left.events.filter fun event => !event.concerns .advice) =
    right.events.filter fun event => !event.concerns .advice

/-- The reports give the unit the same status, for the same reason. -/
structure UnitReport.SameStatus (left right : UnitReport) : Prop where
  name : left.name = right.name
  status : left.status = right.status
  fault : left.fault = right.fault

theorem World.sameProgress_of_unadvised {left right : World}
    (same : left.without .advice = right.without .advice) : left.SameProgress right := by
  have units (key : UnitKey) :
      (left.unit key).without .advice = (right.unit key).without .advice := by
    rw [← unit_without, same, unit_without]
  refine ⟨fun key => ?_, fun key => ?_, fun key => ?_, fun key kind apart => ?_,
    congrArg World.events same⟩
  · simpa using congrArg LoadUnit.level (units key)
  · simpa using congrArg (fun unit => unit.failure.cause) (units key)
  · simpa using congrArg LoadUnit.checkActivated (units key)
  · have told := congrArg (fun unit => unit.latches.isSet kind) (units key)
    simp only [LoadUnit.isSet_without _ apart] at told
    exact told

namespace LoadPlan

variable {plan : LoadPlan} {sinks : Sinks}

/-- Plans that only differ in advice give reports that only differ in it. -/
theorem report_sameStatus {left right : LoadPlan} (same : left.unadvised = right.unadvised)
    (target : Level) (outcomes : List (Except Fault Unit)) :
    List.Forall₂ UnitReport.SameStatus (left.report target false outcomes).units
      (right.report target false outcomes).units := by
  have units : left.unadvised.units = right.unadvised.units :=
    congrArg LoadPlan.units same
  change left.units = right.units at units
  simp only [report, units, List.forall₂_map_left_iff, List.forall₂_map_right_iff]
  exact List.forall₂_same.mpr fun _ _ => ⟨rfl, rfl, rfl⟩

theorem Idle.runAll (idle : plan.Idle sinks) (targets : List Level) :
    (plan.runAll targets).Idle sinks :=
  (idle.runAll_induction (fun _ => True) (fun _ _ _ _ _ _ => trivial) trivial targets).2

/-- Plans that only differ in advice are loaded alike. -/
theorem load_sameProgress {left right : LoadPlan} {heard unheard : Sinks}
    (idle : left.Idle heard) (idleToo : right.Idle unheard)
    (same : left.unadvised = right.unadvised) (target : Level) :
    (left.load target false).1.world.SameProgress (right.load target false).1.world ∧
      List.Forall₂ UnitReport.SameStatus (left.load target false).2.units
        (right.load target false).2.units := by
  have runs : ((left.run target false).1.unadvised, (left.run target false).2) =
      ((right.run target false).1.unadvised, (right.run target false).2) := by
    rw [← run_unadvised idle, same, run_unadvised idleToo]
  obtain ⟨plans, outcomes⟩ := Prod.mk.inj runs
  refine ⟨World.sameProgress_of_unadvised (congrArg LoadPlan.world plans), ?_⟩
  simp only [load, outcomes]
  exact report_sameStatus plans target _

end LoadPlan

namespace Manifest

/-- Manifests that only differ in advice are loaded alike, run after run. -/
theorem load_sameProgress {left right : Manifest} (accepted : left.validate = .ok ())
    (acceptedToo : right.validate = .ok ()) (same : left.unadvised = right.unadvised)
    (targets : List Level) (target : Level) :
    let former := (left.build.runAll targets).load target false
    let latter := (right.build.runAll targets).load target false
    former.1.world.SameProgress latter.1.world ∧
      List.Forall₂ UnitReport.SameStatus former.2.units latter.2.units := by
  have idle := idle_build (sound_of_validate accepted)
  have idleToo := idle_build (sound_of_validate acceptedToo)
  have plans : left.build.unadvised = right.build.unadvised := by
    rw [← build_unadvised, same, build_unadvised]
  have runs : (left.build.runAll targets).unadvised =
      (right.build.runAll targets).unadvised := by
    rw [← LoadPlan.runAll_unadvised idle, plans, LoadPlan.runAll_unadvised idleToo]
  exact LoadPlan.load_sameProgress (idle.runAll targets) (idleToo.runAll targets) runs target

end Manifest

end LoadLadder
