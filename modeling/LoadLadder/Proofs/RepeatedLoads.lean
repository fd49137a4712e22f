import LoadLadder.Proofs.Fates
import LoadLadder.Proofs.LoadAgreement
import LoadLadder.Proofs.WorkTallies

/-!
# Loading a plan again

A plan that has been loaded can be loaded again, to the same or to another level.  A
load that asks for no more than an earlier one leaves everything as it is.  One that
asks for more ends as if it had been the first: which units fail below the top is
decided by the units themselves, and an activation sees of a unit only its fate,
which no load below the top changes.  So the highest level that was ever asked for
decides how far every unit has come, what it has had done and what has been recorded
about it.
-/

namespace LoadLadder

open Relation

namespace World

variable {world next : World} {me : ThreadId} {thread after : Thread}
  {key : UnitKey} {goal target : Level} {sinks : Sinks} {config : LoaderConfig}

/-- All units belong to domains of some settings, and what they have had done was
done once. -/
def Balanced (world : World) (config : LoaderConfig) : Prop :=
  ∀ key < world.unitCount, (world.homeOf key).config = config ∧
    (world.unit key).Tallies config (world.unit key).hasDone

/-- A thread that loads knows what the units have had done, be they in the middle of a
sub-step. -/
structure Balances (world : World) (config : LoaderConfig) (thread : Thread) :
    Prop where
  steered : thread.Steered
  truthful : thread.task ≠ .answer (.ok false)
  authentic : world.Authentic thread
  settings : ∀ key < world.unitCount, (world.homeOf key).config = config
  tallied : ∀ key < world.unitCount, world.Tallied thread key

theorem Balanced.balances (balanced : world.Balanced config) :
    world.Balances config ⟨.ensure world 0 key goal, []⟩ where
  steered := ⟨fun unit level rest same =>
    absurd same (ensure_ne_subStep 0 key unit goal level rest), trivial⟩
  truthful := ensure_ne_false 0 key goal
  authentic := by simp [Authentic, Thread.initializers]
  settings := fun other known => (balanced other known).1
  tallied := fun other known => by
    have idle : Thread.stints other ⟨.ensure world 0 key goal, []⟩ = [] :=
      stints_ensure 0 key goal (by simp)
    rw [Tallied, hasDone_of_idle idle, (balanced other known).1]
    exact (balanced other known).2

theorem Balances.balanced {reply : Reply}
    (balances : world.Balances config ⟨.answer reply, []⟩) :
    world.Balanced config := by
  intro key known
  have tallied := balances.tallied key known
  rw [Tallied, hasDone_of_idle rfl, balances.settings key known] at tallied
  exact ⟨balances.settings key known, tallied⟩

theorem balances_stepped {root : UnitKey}
    (stepped : world.Stepped mainThread thread next after)
    (excursion : world.Excursion sinks root goal thread)
    (balances : world.Balances config thread) : next.Balances config after := by
  have count := (proceeds_stepped stepped).count
  refine ⟨steered_stepped stepped balances.steered, task_stepped_ne_false stepped,
    authentic_stepped stepped excursion.supports balances.authentic,
    fun key known => ?_, fun key known => ?_⟩
  · rw [settings_stepped stepped]
    exact balances.settings key (count ▸ known)
  · exact tallied_stepped stepped excursion.supports balances.steered
      (fun nothing => absurd nothing balances.truthful) balances.authentic
      (excursion.once key) (excursion.steady key)
      (balances.tallied key (count ▸ known))

end World

theorem Machine.balanced_ensure {world : World} {key : UnitKey} {goal : Level}
    {sinks : Sinks} {config : LoaderConfig} (rested : world.Rested sinks)
    (known : key < world.unitCount) (held : (world.unit key).presence = .held)
    (balanced : world.Balanced config) :
    (ensure world 0 key goal).1.Balanced config := by
  obtain ⟨reply, balances⟩ := ensure_induction (World.Balances · config)
    (fun excursion stepped before =>
      World.balances_stepped stepped excursion before)
    rested known held balanced.balances
  exact balances.balanced

namespace World

variable {world next : World} {me : ThreadId} {thread after : Thread}
  {key : UnitKey} {goal target : Level} {sinks : Sinks}

/-- A thread that has nothing to do for a unit but to answer how far it is. -/
inductive Idles (world : World) (key : UnitKey) (target : Level) : Thread → Prop
  | looks {phase : Phase} (looking : phase = .checkLevel ∨ phase = .leave ∨
      phase = .settle ∨ phase = .require) :
      Idles world key target ⟨.drive key target phase, []⟩
  | stops (failed : (world.unit key).isError = true) :
      Idles world key target ⟨.drive key target .checkCause, []⟩
  | answers {reply : Reply} : Idles world key target ⟨.answer reply, []⟩

theorem idles_ensure (world : World) (key : UnitKey) (target : Level) :
    world.Idles key target ⟨.ensure world 0 key target, []⟩ := by
  unfold Task.ensure
  split
  · exact .answers
  · split
    · exact .looks (Or.inl rfl)
    · exact .answers

/-- Such a thread changes nothing, for the unit cannot go on and has told whom it had
to tell. -/
theorem idles_stepped (stepped : world.Stepped me thread next after)
    (done : target ≤ (world.unit key).level ∨ (world.unit key).isError = true)
    (announced : (world.unit key).level = .active →
      (world.unit key).latches.isSet .hostLoadEvent = true)
    (idles : world.Idles key target thread) :
    next = world ∧ world.Idles key target after := by
  cases idles with
  | looks looking =>
      rcases looking with rfl | rfl | rfl | rfl
      · cases stepped with
        | below short =>
            exact ⟨rfl, .stops (done.resolve_left (Nat.not_le_of_lt short))⟩
        | arrived => exact ⟨rfl, .looks (by simp)⟩
        | entered asks | refused asks => simp at asks
      · cases stepped with
        | announces active untold =>
            have told := announced (LoadUnit.eq_active_of_isActive active)
            rw [untold] at told
            contradiction
        | announcedBefore active told =>
            exact ⟨claim_of_isSet told, .looks (by simp)⟩
        | leaves => exact ⟨rfl, .looks (by simp)⟩
        | entered asks | refused asks => simp at asks
      · cases stepped with
        | settled => exact ⟨rfl, .looks (by simp)⟩
        | blames => exact ⟨rfl, .answers⟩
        | entered asks | refused asks => simp at asks
      · cases stepped with
        | required => exact ⟨rfl, .answers⟩
        | entered asks | refused asks => simp at asks
  | stops failed =>
      cases stepped with
      | barred => exact ⟨rfl, .looks (by simp)⟩
      | admitted healthy =>
          rw [failed] at healthy
          contradiction
      | entered asks | refused asks => simp at asks
  | answers => cases stepped

end World

/-- A machine that is to load a unit no further than it has come, or than it can
come, leaves the world as it is. -/
theorem Machine.ensure_of_done {world : World} {key : UnitKey} {target : Level}
    {sinks : Sinks} (rested : world.Rested sinks) (known : key < world.unitCount)
    (held : (world.unit key).presence = .held)
    (done : target ≤ (world.unit key).level ∨ (world.unit key).isError = true) :
    (ensure world 0 key target).1 = world := by
  let idles (later : World) (thread : Thread) : Prop :=
    later = world ∧ world.Idles key target thread
  obtain ⟨reply, same, -⟩ := ensure_induction idles
    (fun excursion stepped before => by
      obtain ⟨rfl, idle⟩ := before
      exact World.idles_stepped stepped done
        (rested.announced_iff known).mpr idle)
    rested known held
    ⟨rfl, World.idles_ensure world key target⟩
  exact same

namespace LoadPlan

variable {base first second world : World} {goal target : Level}
  {entry : PlannedUnit × UnitKey} {entries : List (PlannedUnit × UnitKey)}
  {sinks : Sinks} {config : LoaderConfig}

/-- Nothing is done for a unit that was refused, and any other is loaded. -/
theorem drive_cases (target : Level) (entry : PlannedUnit × UnitKey) :
    (∀ world, (drive target world entry).1 = world) ∨
      entry.1.refusal = none ∧ ∀ world,
        (drive target world entry).1 =
          (Machine.ensure world 0 entry.2 target).1 := by
  unfold drive
  cases entry.1.refusal with
  | none => exact Or.inr ⟨rfl, fun _ => rfl⟩
  | some fault => exact Or.inl fun _ => rfl

/-- What loading a unit that the client holds keeps, driving a plan keeps. -/
theorem driveAll_induction (holds : World → Prop)
    (step : ∀ {world : World} {key : UnitKey}, world.Rested sinks →
      key < world.unitCount → (world.unit key).presence = .held → holds world →
        holds (Machine.ensure world 0 key target).1)
    (rested : first.Rested sinks) (drivable : Drivable first entries)
    (start : holds first) : holds (driveAll target first entries).1 := by
  induction entries generalizing first with
  | nil => exact start
  | cons entry entries ih =>
      obtain ⟨loads, -⟩ :=
        @loads_drive first target entry sinks rested drivable.head
      rw [driveAll]
      refine ih (loads.rested rested) (drivable.tail.later loads.proceeds) ?_
      rcases drive_cases target entry with skips | ⟨made, drives⟩
      · rw [skips]
        exact start
      · obtain ⟨known, held⟩ := drivable entry List.mem_cons_self made
        rw [drives]
        exact step rested known held start

/-- Driving a plan to the top from the same fates leaves the same fates. -/
theorem fate_driveAll (toFirst : base.Proceeds first)
    (toSecond : base.Proceeds second) (one : first.Rested sinks)
    (two : second.Rested sinks) (drivable : Drivable base entries)
    (fates : first.fate = second.fate) :
    (driveAll .active first entries).1.fate =
      (driveAll .active second entries).1.fate := by
  induction entries generalizing first second with
  | nil => exact fates
  | cons entry entries ih =>
      obtain ⟨loads, -⟩ := @loads_drive first .active entry sinks one
        (drivable.head.later toFirst)
      obtain ⟨further, -⟩ := @loads_drive second .active entry sinks two
        (drivable.head.later toSecond)
      rw [driveAll, driveAll]
      refine ih (toFirst.trans loads.proceeds) (toSecond.trans further.proceeds)
        (loads.rested one) (further.rested two) drivable.tail ?_
      rcases drive_cases .active entry with skips | ⟨made, drives⟩
      · rw [skips, skips]
        exact fates
      · obtain ⟨known, held⟩ := drivable entry List.mem_cons_self made
        rw [drives, drives]
        exact Machine.fate_ensure toFirst toSecond one two known held fates

/-- A plan that has been loaded as far as that, or further, is left as it is. -/
theorem driveAll_of_finished (finished : first.Finished sinks goal)
    (reached : target ≤ goal) (drivable : Drivable first entries) :
    (driveAll target first entries).1 = first := by
  refine driveAll_induction (· = first) ?_ finished.rested drivable rfl
  rintro world key rested known held rfl
  exact Machine.ensure_of_done rested known held
    ((finished.complete key known held).imp_left (Nat.le_trans reached))

theorem balanced_driveAll (rested : first.Rested sinks)
    (drivable : Drivable first entries) (balanced : first.Balanced config) :
    (driveAll target first entries).1.Balanced config :=
  driveAll_induction (World.Balanced · config) Machine.balanced_ensure rested
    drivable balanced

end LoadPlan

/-- The cause of a failure, if it came to that. -/
def Fate.cause? : Fate → Option Cause
  | .failed cause => some cause
  | _ => none

theorem LoadUnit.work_eq_of_tally {first second : LoadUnit}
    (same : ∀ chore, first.tally chore = second.tally chore) :
    first.work = second.work := by
  have eager : first.work.eagerFixups = second.work.eagerFixups :=
    same .eagerFixups
  have vtable : first.work.vtableFixups = second.work.vtableFixups :=
    same .vtableFixups
  have plans : first.work.exceptionPlans = second.work.exceptionPlans :=
    same .exceptionPlan
  have expansions : first.work.expansions = second.work.expansions :=
    same .expansion
  have registrations : first.work.registrations = second.work.registrations :=
    same .registration
  generalize first.work = left at *
  generalize second.work = right at *
  cases left
  cases right
  simp_all

namespace World

variable {base first second world : World} {key : UnitKey} {goal : Level}
  {sinks : Sinks} {config : LoaderConfig}

/-- A unit in one world is like the unit in another: it has come as far, it has failed
of the same cause, the same listeners have been told, the same work has been done,
it is registered or not, and the same has been recorded about it. -/
structure SameUnitState (first second : World) (key : UnitKey) : Prop where
  level : (first.unit key).level = (second.unit key).level
  failure : (first.unit key).failure = (second.unit key).failure
  latches : ∀ kind, (first.unit key).latches.isSet kind =
    (second.unit key).latches.isSet kind
  work : (first.unit key).work = (second.unit key).work
  completedRuns : (first.unit key).completedRuns = (second.unit key).completedRuns
  registered : first.isRegistered key = second.isRegistered key
  events : first.eventsOf key = second.eventsOf key

theorem Rested.isRegistered_iff (rested : world.Rested sinks)
    (known : key < world.unitCount) :
    world.isRegistered key = true ↔ .begun ≤ (world.unit key).level := by
  have units : (world.homeOf key).units =
      (world.domain 0).registry.map Prod.snd := by
    rw [rested.planned.watched.homeOf known, Domain.units]
  rw [isRegistered, units, List.contains_iff_mem, List.mem_map]
  constructor
  · rintro ⟨entry, member, rfl⟩
    obtain ⟨other, -, rfl, begun⟩ := rested.mem_registry.mp member
    exact begun
  · intro begun
    exact ⟨(⟨key + 1⟩, key),
      rested.mem_registry.mpr ⟨key, known, rfl, begun⟩, rfl⟩

/-- Units that have come equally far have had the same done. -/
theorem tally_congr (one : first.Balanced config) (two : second.Balanced config)
    (known : key < first.unitCount) (there : key < second.unitCount)
    (agrees : (first.unit key).Agrees (second.unit key)) (chore : Chore) :
    (first.unit key).tally chore = (second.unit key).tally chore := by
  have owes : (first.unit key).owes config chore =
      (second.unit key).owes config chore := by
    cases chore <;> simp only [LoadUnit.owes, agrees.container]
  have done : (first.unit key).hasDone chore = (second.unit key).hasDone chore := by
    rw [LoadUnit.hasDone, LoadUnit.hasDone, agrees.level, agrees.failure]
  rw [(one key known).2 chore, (two key there).2 chore, owes, done]

/-- Finished loads of one plan that agree on the cause of a unit agree on the unit. -/
theorem Finished.sameUnitState (rooted : base.Rooted) (toFirst : base.Proceeds first)
    (toSecond : base.Proceeds second) (one : first.Finished sinks goal)
    (two : second.Finished sinks goal) (balanced : first.Balanced config)
    (balancedToo : second.Balanced config) (known : key < base.unitCount)
    (causes : (base.unit key).presence = .held →
      (first.unit key).failure.cause = (second.unit key).failure.cause) :
    first.SameUnitState second key := by
  have here := toFirst.count.symm ▸ known
  have there := toSecond.count.symm ▸ known
  have agrees := Finished.agrees rooted toFirst toSecond one two known causes
  have tallies := tally_congr balanced balancedToo here there agrees
  exact {
    level := agrees.level
    failure := agrees.failure
    latches := one.rested.isSet_congr two.rested here there agrees.toSameUpToNumber
    work := LoadUnit.work_eq_of_tally tallies
    completedRuns := tallies .initializer
    registered := by
      rw [Bool.eq_iff_iff, one.rested.isRegistered_iff here,
        two.rested.isRegistered_iff there, agrees.level]
    events := one.rested.eventsOf_congr two.rested here there
      agrees.toSameUpToNumber }

/-- When all units have been activated, the causes are what became of the units. -/
theorem Finished.cause_eq_fate (finished : world.Finished sinks .active)
    (known : key < world.unitCount) (held : (world.unit key).presence = .held) :
    (world.unit key).failure.cause = (world.fate key).cause? := by
  have grounded := finished.rested.grounded key
  cases failure : (world.unit key).failure.cause with
  | some cause =>
      rw [fate_of_cause grounded failure]
      rfl
  | none =>
      have active := finished.level_of_healthy known held failure
      rw [fate_of_active grounded active]
      rfl

/-- As long as nothing has been activated, only those units have a fate that are made
to fail. -/
theorem fate_of_low (rested : world.Rested sinks) (capped : world.Capped goal)
    (low : goal ≠ .active) (sound : world.blueprint.failAt key = none) :
    world.fate key = .pending := by
  have below {level : Level} (reached : level ≤ goal) : level ≠ .active := by
    rintro rfl
    exact low (Level.eq_active_of_le reached)
  refine fate_of_healthy sound (below (capped key).level) ?_
  by_contra failed
  obtain ⟨cause, stored⟩ := Option.ne_none_iff_exists'.mp failed
  obtain ⟨level, fault, accounts, captured, -⟩ :=
    (rested.grounded key).accounted cause stored
  have reached := (capped key).cause cause stored
  cases accounts with
  | injected fails =>
      rw [sound] at fails
      contradiction
  | inherited => exact below reached (captured ▸ rfl)

/-- What has been loaded below the top has no part in the fates. -/
theorem fate_congr (toFirst : base.Proceeds first) (toSecond : base.Proceeds second)
    (one : first.Rested sinks) (two : second.Rested sinks)
    (capped : first.Capped goal) (cappedToo : second.Capped goal)
    (low : goal ≠ .active) : first.fate = second.fate := by
  funext key
  cases fails : base.blueprint.failAt key with
  | none =>
      rw [fate_of_low one capped low (by rw [toFirst.blueprint, fails]),
        fate_of_low two cappedToo low (by rw [toSecond.blueprint, fails])]
  | some level =>
      rw [fate, fate, toFirst.foretold, toSecond.foretold, foretold_of_fails fails]

/-- Below the top, the units alone decide how they fail. -/
theorem Finished.cause_congr (toFirst : base.Proceeds first)
    (toSecond : base.Proceeds second) (one : first.Finished sinks goal)
    (two : second.Finished sinks goal) (low : goal ≠ .active)
    (known : key < base.unitCount) (held : (base.unit key).presence = .held) :
    (first.unit key).failure.cause = (second.unit key).failure.cause := by
  rw [one.cause_eq_foretold (toFirst.count.symm ▸ known)
      ((toFirst.fixed key).presence.trans held) fun top => absurd top low,
    two.cause_eq_foretold (toSecond.count.symm ▸ known)
      ((toSecond.fixed key).presence.trans held) fun top => absurd top low,
    toFirst.foretold, toSecond.foretold]
  simp only [foretold, low, if_false]

end World

namespace Manifest

variable {manifest : Manifest} {goal target : Level} {plan : LoadPlan}
  {key : UnitKey}

/-- The units of a plan have been loaded to a level, in whatever steps. -/
structure Loaded (manifest : Manifest) (goal : Level) (plan : LoadPlan) :
    Prop where
  units : plan.units = manifest.build.units
  proceeds : manifest.build.world.Proceeds plan.world
  finished : plan.world.Finished manifest.consumers goal
  balanced : plan.world.Balanced manifest.loader

theorem balanced_build (sound : manifest.Sound) :
    manifest.build.world.Balanced manifest.loader := by
  intro key known
  obtain ⟨spec, entry, made⟩ := entry_of_known known
  constructor
  · rw [(watched_build sound).homeOf known, domain_build]
    rfl
  · rw [made]
    exact LoadUnit.tallies_fresh rfl rfl rfl rfl

/-- Nothing has to be done to load units to the lowest level. -/
theorem loaded_build (sound : manifest.Sound) :
    manifest.Loaded .created manifest.build where
  units := rfl
  proceeds := .refl _
  finished := ⟨rested_build sound, manifest.capped_build .created,
    fun _ _ _ => Or.inl (Nat.zero_le _)⟩
  balanced := balanced_build sound

theorem Loaded.drivable (loaded : manifest.Loaded goal plan) :
    LoadPlan.Drivable plan.world manifest.build.units.zipIdx :=
  manifest.drivable_build.later loaded.proceeds

theorem Loaded.world_run (loaded : manifest.Loaded goal plan) (target : Level) :
    (plan.run target false).1.world =
      (LoadPlan.driveAll target plan.world manifest.build.units.zipIdx).1 := by
  rw [← loaded.units]
  rfl

/-- A run to a level that has been reached, as far as it can be, does nothing. -/
theorem Loaded.run_of_le (loaded : manifest.Loaded goal plan) (reached : target ≤ goal) :
    (plan.run target false).1 = plan := by
  have same := loaded.world_run target
  rw [LoadPlan.driveAll_of_finished loaded.finished reached loaded.drivable] at same
  exact congrArg ({ plan with world := · }) same

/-- A run to a higher level loads all units to that level. -/
theorem Loaded.run (loaded : manifest.Loaded goal plan) (above : goal ≤ target) :
    manifest.Loaded target (plan.run target false).1 := by
  have rested := loaded.finished.rested
  have capped : plan.world.Capped target := fun key =>
    (loaded.finished.capped key).mono above
  obtain ⟨loads, concluded⟩ :=
    @LoadPlan.loads_driveAll _ target _ _ rested loaded.drivable
  have ends := ends_of_concludes (loads.rested rested) (loads.capped rested capped)
    (loaded.proceeds.trans loads.proceeds) concluded
  have balanced := @LoadPlan.balanced_driveAll _ target _ _ _ rested
    loaded.drivable loaded.balanced
  rw [← loaded.world_run target] at ends balanced
  exact ⟨loaded.units, ends.proceeds, ends.finished, balanced⟩

theorem loaded_run (sound : manifest.Sound) (target : Level) :
    manifest.Loaded target (manifest.build.run target false).1 :=
  (loaded_build sound).run (Nat.zero_le _)

/-- The causes after a run do not depend on what was run before to lower levels. -/
theorem Loaded.cause_run (sound : manifest.Sound) (loaded : manifest.Loaded goal plan)
    (above : goal < target) (holds : manifest.Holds key) :
    ((plan.run target false).1.world.unit key).failure.cause =
      ((manifest.build.run target false).1.world.unit key).failure.cause := by
  have start := loaded_build sound
  have one := loaded.run (Nat.le_of_lt above)
  have two := loaded_run sound target
  have known := holds.known
  have held := holds_iff.mp holds
  by_cases top : target = .active
  · subst top
    have low : goal ≠ .active := fun same => Nat.lt_irrefl _ (same ▸ above)
    have before := World.fate_congr loaded.proceeds start.proceeds
      loaded.finished.rested start.finished.rested loaded.finished.capped
      (manifest.capped_build goal) low
    have after := LoadPlan.fate_driveAll loaded.proceeds start.proceeds
      loaded.finished.rested start.finished.rested manifest.drivable_build before
    rw [← loaded.world_run, ← start.world_run] at after
    rw [one.finished.cause_eq_fate (one.proceeds.count.symm ▸ known)
        ((one.proceeds.fixed key).presence.trans held),
      two.finished.cause_eq_fate (two.proceeds.count.symm ▸ known)
        ((two.proceeds.fixed key).presence.trans held), after]
  · exact World.Finished.cause_congr one.proceeds two.proceeds one.finished
      two.finished top known held

/-- A plan is as if it had been run just once. -/
structure Settled (manifest : Manifest) (goal : Level) (plan : LoadPlan) : Prop
    extends manifest.Loaded goal plan where
  causes : ∀ key, manifest.Holds key →
    (plan.world.unit key).failure.cause =
      ((manifest.build.run goal false).1.world.unit key).failure.cause

theorem settled_build (sound : manifest.Sound) :
    manifest.Settled .created manifest.build where
  toLoaded := loaded_build sound
  causes := fun key _ => by
    rw [(loaded_build sound).run_of_le (Nat.le_refl _)]

theorem Settled.run (sound : manifest.Sound) (settled : manifest.Settled goal plan)
    (above : goal < target) :
    manifest.Settled target (plan.run target false).1 where
  toLoaded := settled.toLoaded.run (Nat.le_of_lt above)
  causes := fun _ holds => settled.cause_run sound above holds

theorem Settled.sameUnitState (sound : manifest.Sound)
    (settled : manifest.Settled goal plan)
    (known : key < manifest.build.world.unitCount) :
    plan.world.SameUnitState (manifest.build.run goal false).1.world key := by
  have once := loaded_run sound goal
  exact settled.finished.sameUnitState (planned_build sound).rooted settled.proceeds
    once.proceeds once.finished settled.balanced once.balanced known fun held =>
      settled.causes key (holds_iff.mpr held)

/-- After any runs the plan is as if it had been run just once, to the highest of the
targets. -/
theorem settled_runAll (sound : manifest.Sound) (targets : List Level) :
    ∃ goal ∈ Level.created :: targets,
      manifest.Settled goal (manifest.build.runAll targets) ∧
        ∀ target ∈ targets, target ≤ goal := by
  induction targets using List.reverseRecOn with
  | nil =>
      exact ⟨.created, List.mem_cons_self, settled_build sound, by simp⟩
  | append_singleton targets target ih =>
      obtain ⟨goal, member, settled, highest⟩ := ih
      have runs : manifest.build.runAll (targets ++ [target]) =
          ((manifest.build.runAll targets).run target false).1 := by
        simp [LoadPlan.runAll, List.foldl_append]
      rw [runs]
      by_cases reached : target ≤ goal
      · rw [settled.run_of_le reached]
        refine ⟨goal, List.mem_append_left [target] member, settled,
          fun other asked => ?_⟩
        rcases List.mem_append.mp asked with before | last
        · exact highest other before
        · exact List.mem_singleton.mp last ▸ reached
      · have above : goal < target := Nat.lt_of_not_le reached
        refine ⟨target, by simp, settled.run sound above, fun other asked => ?_⟩
        rcases List.mem_append.mp asked with before | last
        · exact Nat.le_trans (highest other before) (Nat.le_of_lt above)
        · exact Nat.le_of_eq (congrArg _ (List.mem_singleton.mp last))

/-- However often a plan is run, only the highest target matters: in the end every
unit is as after a single run to that level.  A run whose target is not above an
earlier one changes nothing and records nothing. -/
theorem sameUnitState_of_highest (valid : manifest.validate = .ok ())
    {targets : List Level} {highest : Level} (asked : highest ∈ targets)
    (bound : ∀ target ∈ targets, target ≤ highest) :
    (∀ key < manifest.build.world.unitCount,
      (manifest.build.runAll targets).world.SameUnitState
        (manifest.build.run highest false).1.world key) ∧
    ∀ earlier target later, targets = earlier ++ target :: later →
      (∃ before ∈ earlier, target ≤ before) →
        ((manifest.build.runAll earlier).run target false).1 =
          manifest.build.runAll earlier := by
  have sound := sound_of_validate valid
  constructor
  · intro key known
    obtain ⟨goal, member, settled, most⟩ := settled_runAll sound targets
    have least : goal ≤ highest := by
      rcases List.mem_cons.mp member with rfl | among
      · exact Nat.zero_le _
      · exact bound goal among
    have same : goal = highest :=
      Level.rank_injective (Nat.le_antisymm least (most highest asked))
    exact same ▸ settled.sameUnitState sound known
  · rintro earlier target later - ⟨before, ran, reached⟩
    obtain ⟨goal, -, settled, most⟩ := settled_runAll sound earlier
    exact settled.run_of_le (Nat.le_trans reached (most before ran))

/-- Two units that depend on each other, and on one that is made to fail. -/
def knot : Manifest where
  units := [
    { name := "App", dependsOn := ["Lib"] },
    { name := "Lib", dependsOn := ["App", "Base"] },
    { name := "Base", failAt := some .eagerFixups }]

/-- Both fail in the third of four runs, as they do in a single one; the second and
the fourth run do nothing. -/
theorem knot_sameUnitState :
    knot.validate = .ok () ∧
    (∀ key < 2, ((knot.build.run .active false).1.world.unit key).isError = true ∧
      (knot.build.runAll [.begun, .created, .active, .loaded]).world.SameUnitState
        (knot.build.run .active false).1.world key) ∧
    ((knot.build.runAll [.begun]).run .created false).1 =
      knot.build.runAll [.begun] ∧
    ((knot.build.runAll [.begun, .created, .active]).run .loaded false).1 =
      knot.build.runAll [.begun, .created, .active] := by
  have valid : knot.validate = .ok () := by decide +kernel
  obtain ⟨same, unchanged⟩ := @sameUnitState_of_highest knot valid
    [.begun, .created, .active, .loaded] .active (by decide) (by decide)
  have known : ∀ key < 2, key < knot.build.world.unitCount := by decide +kernel
  have failed : ∀ key < 2,
      ((knot.build.run .active false).1.world.unit key).isError = true := by
    decide +kernel
  exact ⟨valid,
    fun key two => ⟨failed key two, same key (known key two)⟩,
    unchanged [.begun] .created [.active, .loaded] rfl
      ⟨.begun, by decide, by decide⟩,
    unchanged [.begun, .created, .active] .loaded [] rfl
      ⟨.active, by decide, by decide⟩⟩

end Manifest

end LoadLadder
