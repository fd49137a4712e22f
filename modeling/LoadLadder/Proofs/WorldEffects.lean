import LoadLadder.Climb.Action
import LoadLadder.Operation

/-!
# What operations leave alone

Most of what happens in a world leaves the units' climbs as they are: no level
is raised, no cause is kept and no latch is claimed.  This file separates those
operations from the few that do one of the three, and says of the latter exactly
what they change.
-/

namespace LoadLadder

/-- The same unit, which neither climbed nor failed meanwhile.  It may have told
more listeners, and collaborators may remember other things about it. -/
structure LoadUnit.Still (before after : LoadUnit) : Prop where
  id : after.id = before.id
  home : after.home = before.home
  image : after.image = before.image
  container : after.container = before.container
  level : after.level = before.level
  failure : after.failure = before.failure
  dependencies : after.dependencies = before.dependencies
  told : ∀ kind, before.latches.isSet kind = true →
    after.latches.isSet kind = true
  debugging : after.debugging = before.debugging ∨
    ∃ config, DebuggingConfig.ofBlob before.image.debuggable = .ok config ∧
      after.debugging = some config

/-- A unit that has told no further listener either. -/
structure LoadUnit.Alike (before after : LoadUnit) : Prop extends
    before.Still after where
  latches : after.latches = before.latches

/-- The same domain, but for its registry, the number of its next unit, and
whether the client holds it. -/
structure Domain.Alike (before after : Domain) : Prop where
  config : after.config = before.config
  sinks : after.sinks = before.sinks
  hook : after.hook = before.hook
  listeners : after.listeners = before.listeners
  entries : after.entries = before.entries

namespace Domain.Alike

variable {first second third : Domain}

theorem refl (domain : Domain) : domain.Alike domain :=
  ⟨rfl, rfl, rfl, rfl, rfl⟩

theorem trans (before : first.Alike second) (after : second.Alike third) :
    first.Alike third where
  config := after.config.trans before.config
  sinks := after.sinks.trans before.sinks
  hook := after.hook.trans before.hook
  listeners := after.listeners.trans before.listeners
  entries := after.entries.trans before.entries

end Domain.Alike

theorem Domain.alike_register (domain : Domain) (id : UnitId)
    (unit : UnitKey) : domain.Alike (domain.register id unit) := by
  unfold register
  split
  · exact .refl domain
  · exact ⟨rfl, rfl, rfl, rfl, rfl⟩

namespace LoadUnit.Still

variable {first second third : LoadUnit}

theorem refl (unit : LoadUnit) : unit.Still unit :=
  ⟨rfl, rfl, rfl, rfl, rfl, rfl, rfl, fun _ told => told, Or.inl rfl⟩

theorem trans (before : first.Still second) (after : second.Still third) :
    first.Still third where
  id := after.id.trans before.id
  home := after.home.trans before.home
  image := after.image.trans before.image
  container := after.container.trans before.container
  level := after.level.trans before.level
  failure := after.failure.trans before.failure
  dependencies := after.dependencies.trans before.dependencies
  told := fun kind told => after.told kind (before.told kind told)
  debugging := by
    rcases after.debugging with kept | ⟨config, decoded, cached⟩
    · rw [kept]
      exact before.debugging
    · rw [before.image] at decoded
      exact Or.inr ⟨config, decoded, cached⟩

end LoadUnit.Still

namespace LoadUnit.Alike

variable {first second third : LoadUnit}

theorem refl (unit : LoadUnit) : unit.Alike unit :=
  ⟨.refl unit, rfl⟩

theorem trans (before : first.Alike second) (after : second.Alike third) :
    first.Alike third :=
  ⟨before.toStill.trans after.toStill, after.latches.trans before.latches⟩

end LoadUnit.Alike

/-- The pieces of a sub-step that claim latches of the unit. -/
def Action.claims : Action → Bool
  | .announceProfiler | .announceTracing | .announceDebugger => true
  | _ => false

/-- The pieces of a sub-step at which it may stop: checks, work that may fail, and
the initializer. -/
def Action.mayStop : Action → Bool
  | .requireMapped | .applyEagerFixups | .patchVtables | .requireLoaded
  | .resolvePlan | .runInitializer => true
  | _ => false

theorem LoadUnit.alike_bindHost (unit : LoadUnit) :
    unit.Alike unit.bindHost := by
  unfold bindHost
  split
  · exact ⟨⟨rfl, rfl, rfl, rfl, rfl, rfl, rfl, fun _ told => told, Or.inl rfl⟩, rfl⟩
  · exact .refl unit

theorem LoadUnit.alike_unbindHost (unit : LoadUnit) :
    unit.Alike unit.unbindHost := by
  unfold unbindHost
  split
  · exact ⟨⟨rfl, rfl, rfl, rfl, rfl, rfl, rfl, fun _ told => told, Or.inl rfl⟩, rfl⟩
  · exact .refl unit

theorem LoadUnit.alike_debuggingConfig (unit : LoadUnit) :
    unit.Alike unit.debuggingConfig.1 := by
  unfold debuggingConfig
  split
  · exact .refl unit
  · split
    · rename_i config decoded
      exact ⟨⟨rfl, rfl, rfl, rfl, rfl, rfl, rfl, fun _ told => told,
        Or.inr ⟨config, decoded, rfl⟩⟩, rfl⟩
    · exact .refl unit

/-- A unit is left alone, or it is destroyed. -/
inductive LoadUnit.Survives (before : LoadUnit) : LoadUnit → Prop
  | spared : Survives before before
  | destroyed :
      Survives before { before.unbindHost with presence := .destroyed }

namespace World

/-- The same units, none of which climbed or failed meanwhile. -/
structure Still (world next : World) : Prop where
  count : next.unitCount = world.unitCount
  unit : ∀ key, (world.unit key).Still (next.unit key)
  domain : ∀ home, (world.domain home).Alike (next.domain home)

/-- The same units, none of which has told a further listener either. -/
structure Alike (world next : World) : Prop where
  count : next.unitCount = world.unitCount
  unit : ∀ key, (world.unit key).Alike (next.unit key)
  domain : ∀ home, (world.domain home).Alike (next.domain home)

namespace Still

variable {first second third : World}

theorem refl (world : World) : world.Still world :=
  ⟨rfl, fun key => .refl (world.unit key),
    fun home => .refl (world.domain home)⟩

theorem trans (before : first.Still second) (after : second.Still third) :
    first.Still third :=
  ⟨after.count.trans before.count,
    fun key => (before.unit key).trans (after.unit key),
    fun home => (before.domain home).trans (after.domain home)⟩

end Still

namespace Alike

variable {first second third : World}

theorem refl (world : World) : world.Alike world :=
  ⟨rfl, fun key => .refl (world.unit key),
    fun home => .refl (world.domain home)⟩

theorem trans (before : first.Alike second) (after : second.Alike third) :
    first.Alike third :=
  ⟨after.count.trans before.count,
    fun key => (before.unit key).trans (after.unit key),
    fun home => (before.domain home).trans (after.domain home)⟩

theorem still (alike : first.Alike second) : first.Still second :=
  ⟨alike.count, fun key => (alike.unit key).toStill, alike.domain⟩

theorem of_units {world next : World} (units : next.units = world.units)
    (count : next.unitCount = world.unitCount)
    (domain : ∀ home, (world.domain home).Alike (next.domain home)) :
    world.Alike next := by
  refine ⟨count, fun key => ?_, domain⟩
  rw [World.unit, World.unit, units]
  exact .refl _

end Alike

variable (world : World) (key other : UnitKey)

theorem alike_modifyUnit {change : LoadUnit → LoadUnit}
    (alike : (world.unit key).Alike (change (world.unit key))) :
    world.Alike (world.modifyUnit key change) := by
  refine ⟨rfl, fun other => ?_, fun home => .refl (world.domain home)⟩
  rw [unit_modifyUnit]
  split
  · rename_i same
    rw [← same]
    exact alike
  · exact .refl _

theorem alike_modifyDomain (home : DomainKey) {change : Domain → Domain}
    (alike : (world.domain home).Alike (change (world.domain home))) :
    world.Alike (world.modifyDomain home change) := by
  refine .of_units rfl rfl fun other => ?_
  rw [domain_modifyDomain]
  split
  · rename_i same
    rw [← same]
    exact alike
  · exact .refl _

theorem alike_emit (event : Event) : world.Alike (world.emit event) :=
  .of_units rfl rfl fun home => .refl (world.domain home)

theorem alike_countWork (change : Work → Work) :
    world.Alike (world.countWork key change) :=
  alike_modifyUnit world key
    ⟨⟨rfl, rfl, rfl, rfl, rfl, rfl, rfl, fun _ told => told, Or.inl rfl⟩, rfl⟩

theorem alike_liftGate (lifted : Bool) :
    world.Alike (world.modifyUnit key fun unit =>
      { unit with gateLifted := lifted }) :=
  alike_modifyUnit world key
    ⟨⟨rfl, rfl, rfl, rfl, rfl, rfl, rfl, fun _ told => told, Or.inl rfl⟩, rfl⟩

theorem alike_countRun :
    world.Alike (world.modifyUnit key fun unit =>
      { unit with completedRuns := unit.completedRuns + 1 }) :=
  alike_modifyUnit world key
    ⟨⟨rfl, rfl, rfl, rfl, rfl, rfl, rfl, fun _ told => told, Or.inl rfl⟩, rfl⟩

@[simp]
theorem unit_tellTracing (code : ResultCode) :
    (world.tellTracing key code).unit other = world.unit other := by
  unfold tellTracing
  cases (world.sinksOf key).tracing <;> rfl

@[simp]
theorem unit_tellProfiler (code : ResultCode) :
    (world.tellProfiler key code).unit other = world.unit other := by
  unfold tellProfiler
  split <;> rfl

theorem alike_tellTracing (code : ResultCode) :
    world.Alike (world.tellTracing key code) := by
  unfold tellTracing
  cases (world.sinksOf key).tracing with
  | recorder => exact alike_emit world _
  | log => exact .of_units rfl rfl fun home => .refl (world.domain home)

theorem alike_tellProfiler (code : ResultCode) :
    world.Alike (world.tellProfiler key code) := by
  unfold tellProfiler
  split
  · exact alike_emit world _
  · exact .refl world

@[simp]
theorem domain_tellTracing (home : DomainKey) (code : ResultCode) :
    (world.tellTracing key code).domain home = world.domain home := by
  unfold tellTracing
  cases (world.sinksOf key).tracing <;> rfl

@[simp]
theorem domain_tellProfiler (home : DomainKey) (code : ResultCode) :
    (world.tellProfiler key code).domain home = world.domain home := by
  unfold tellProfiler
  split <;> rfl

@[simp]
theorem unitCount_tellTracing (code : ResultCode) :
    (world.tellTracing key code).unitCount = world.unitCount := by
  unfold tellTracing
  cases (world.sinksOf key).tracing <;> rfl

@[simp]
theorem unitCount_tellProfiler (code : ResultCode) :
    (world.tellProfiler key code).unitCount = world.unitCount := by
  unfold tellProfiler
  split <;> rfl

theorem unit_claim (kind : ListenerKind) :
    (world.claim key kind).1.unit other =
      if key = other then
        { world.unit key with
          latches := (world.unit key).latches.claim kind }
      else world.unit other := by
  simp [claim]

@[simp]
theorem domain_claim (kind : ListenerKind) (home : DomainKey) :
    (world.claim key kind).1.domain home = world.domain home :=
  rfl

@[simp]
theorem unitCount_claim (kind : ListenerKind) :
    (world.claim key kind).1.unitCount = world.unitCount :=
  rfl

theorem unit_once {action : World → World} (kind : ListenerKind)
    (quiet : ∀ world : World, (action world).unit other = world.unit other) :
    (world.once key kind action).unit other =
      (world.claim key kind).1.unit other := by
  simp only [once]
  split <;> simp [quiet]

theorem domain_once {action : World → World} (kind : ListenerKind)
    (home : DomainKey)
    (quiet : ∀ world : World, (action world).domain home = world.domain home) :
    (world.once key kind action).domain home = world.domain home := by
  simp only [once]
  split <;> simp [quiet]

theorem unitCount_once {action : World → World} (kind : ListenerKind)
    (quiet : ∀ world : World, (action world).unitCount = world.unitCount) :
    (world.once key kind action).unitCount = world.unitCount := by
  simp only [once]
  split <;> simp [quiet]

theorem still_claim (kind : ListenerKind) :
    world.Still (world.claim key kind).1 := by
  refine ⟨rfl, fun other => ?_, fun home => .refl (world.domain home)⟩
  rw [unit_claim]
  split
  · rename_i same
    subst same
    refine ⟨rfl, rfl, rfl, rfl, rfl, rfl, rfl, ?_, Or.inl rfl⟩
    intro kind told
    simp [told]
  · exact .refl _

theorem still_once {action : World → World} (kind : ListenerKind)
    (still : ∀ world : World, world.Still (action world)) :
    world.Still (world.once key kind action) := by
  simp only [once]
  split
  · exact (still_claim world key kind).trans (still _)
  · exact still_claim world key kind

/-- Keeping a cause claims the profiler's latch as well; a unit that has failed
before is left alone. -/
theorem unit_setError (cause : Cause) :
    (world.setError key cause).1.unit other =
      if key = other ∧ (world.unit key).isError = false then
        { world.unit key with
          failure := ⟨some cause⟩
          latches := (world.unit key).latches.claim .profiler }
      else world.unit other := by
  unfold setError CauseCell.record LoadUnit.isError CauseCell.isSet
  cases (world.unit key).failure.cause with
  | some stored => simp
  | none =>
      simp only [unit_once, unit_tellProfiler, implies_true, unit_claim,
        unit_tellTracing, unit_modifyUnit]
      by_cases same : key = other <;> simp [same]

@[simp]
theorem domain_setError (cause : Cause) (home : DomainKey) :
    (world.setError key cause).1.domain home = world.domain home := by
  unfold setError CauseCell.record
  cases (world.unit key).failure.cause with
  | some stored => rfl
  | none => simp [domain_once]

@[simp]
theorem unitCount_setError (cause : Cause) :
    (world.setError key cause).1.unitCount = world.unitCount := by
  unfold setError CauseCell.record
  cases (world.unit key).failure.cause with
  | some stored => rfl
  | none =>
      simp only [unitCount_once, unitCount_tellProfiler, implies_true,
        unitCount_tellTracing]
      rfl

theorem recordFailure_fst (level : Level) (fault : Fault) :
    (world.recordFailure key level fault).1 =
      (world.setError key
        (.capture fault (world.unit key).name level)).1 := by
  unfold recordFailure
  rcases world.setError key (.capture fault (world.unit key).name level) with
    ⟨next, stored | violation⟩ <;> rfl

theorem alike_containerDebuggerLoad (flags : AttachFlags) :
    world.Alike (world.containerDebuggerLoad key flags).1 := by
  unfold containerDebuggerLoad
  split
  · exact .refl world
  · split
    · exact .refl world
    · exact alike_emit world _

theorem alike_containerDebuggerUnload :
    world.Alike (world.containerDebuggerUnload key) := by
  unfold containerDebuggerUnload
  split
  · exact alike_emit world _
  · exact .refl world

theorem alike_debuggingConfig :
    world.Alike (world.debuggingConfig key).1 :=
  alike_modifyUnit world key (world.unit key).alike_debuggingConfig

theorem alike_sendUnitLoad : world.Alike (world.sendUnitLoad key) :=
  (alike_debuggingConfig world key).trans (alike_emit _ _)

theorem alike_notifyDebuggerUnload :
    world.Alike (world.notifyDebuggerUnload key) := by
  unfold notifyDebuggerUnload
  split
  · exact (alike_containerDebuggerUnload world key).trans (alike_emit _ _)
  · exact .refl world

theorem still_notifyDebuggerLoad (flags : AttachFlags) (attaching : Bool) :
    world.Still (world.notifyDebuggerLoad key flags attaching).1 := by
  simp only [notifyDebuggerLoad]
  split
  · exact .refl world
  split
  · exact .refl world
  split
  · exact .refl world
  have sent : world.Still
      (if flags.contains .assemblyLoad then world.sendUnitLoad key
        else world) := by
    split
    · exact (alike_sendUnitLoad world key).still
    · exact .refl world
  generalize (if flags.contains .assemblyLoad then world.sendUnitLoad key
    else world) = informed at sent ⊢
  have claimed := sent.trans (still_claim informed key .debuggerModule)
  split
  · exact claimed.trans (alike_containerDebuggerLoad _ key _).still
  · exact claimed

theorem still_announceDebugger :
    world.Still (world.announceDebugger key).1 := by
  unfold announceDebugger
  split
  have claimed := still_claim world key .debugger
  rename_i flagged fresh flags
  rw [flags] at claimed
  split
  · have told := still_notifyDebuggerLoad flagged key .assemblyLoad false
    split <;> rename_i result <;> rw [result] at told
    · exact claimed.trans told
    · exact claimed.trans told
  · exact claimed

theorem alike_registerUnit : world.Alike (world.registerUnit key) :=
  alike_modifyDomain world _ (Domain.alike_register _ _ _)

theorem alike_unloadUnit (through : DomainKey) :
    world.Alike (world.unloadUnit through key).1 := by
  simp only [unloadUnit]
  split
  · exact .refl world
  · split
    · exact .refl world
    · exact ((alike_modifyDomain world _ ⟨rfl, rfl, rfl, rfl, rfl⟩).trans
        (alike_notifyDebuggerUnload _ _)).trans
        (alike_modifyUnit _ _ (LoadUnit.alike_unbindHost _))

theorem alike_closeDomains (pinned : List UnitKey) :
    world.Alike (world.closeDomains pinned) := by
  unfold closeDomains
  induction List.range world.domainCount generalizing world with
  | nil => exact .refl world
  | cons home homes ih =>
      rw [List.foldl_cons]
      refine .trans ?_ (ih _)
      split
      · exact .refl world
      · exact alike_modifyDomain world _ ⟨rfl, rfl, rfl, rfl, rfl⟩

theorem alike_destroyUnits (pinned : List UnitKey) :
    world.Alike (world.destroyUnits pinned) := by
  unfold destroyUnits
  induction List.range world.unitCount generalizing world with
  | nil => exact .refl world
  | cons key keys ih =>
      rw [List.foldl_cons]
      refine .trans ?_ (ih _)
      split
      · refine alike_modifyUnit world key
          ((world.unit key).alike_unbindHost.trans ?_)
        exact ⟨⟨rfl, rfl, rfl, rfl, rfl, rfl, rfl, fun _ told => told, Or.inl rfl⟩, rfl⟩
      · exact .refl world

theorem alike_collect (pinned : List UnitKey) :
    world.Alike (world.collect pinned) :=
  (alike_closeDomains world pinned).trans (alike_destroyUnits _ pinned)

theorem unit_closeDomains (pinned : List UnitKey) :
    (world.closeDomains pinned).unit other = world.unit other := by
  unfold closeDomains
  induction List.range world.domainCount generalizing world with
  | nil => rfl
  | cons home homes ih =>
      rw [List.foldl_cons, ih]
      split <;> rfl

theorem survives_collect (pinned : List UnitKey) :
    (world.unit other).Survives ((world.collect pinned).unit other) := by
  rw [← unit_closeDomains world other pinned]
  unfold collect destroyUnits
  generalize world.closeDomains pinned = world
  obtain ⟨unit, same, kept⟩ : ∃ unit, world.unit other = unit ∧
      unit.Survives (world.unit other) := ⟨_, rfl, .spared⟩
  rw [same]
  clear same
  induction List.range world.unitCount generalizing world with
  | nil => exact kept
  | cons key keys ih =>
      rw [List.foldl_cons]
      apply ih
      split
      · rename_i freed
        simp only [Bool.and_eq_true, beq_iff_eq] at freed
        rw [unit_modifyUnit]
        split
        · rename_i same
          subst same
          -- a destroyed unit is not released, so it is destroyed once
          generalize world.unit key = current at freed kept ⊢
          cases kept with
          | spared => exact .destroyed
          | destroyed => simp at freed
        · exact kept
      · exact kept

theorem alike_doWork (level : Level) (count : Work → Work) :
    world.Alike (world.doWork key level count).1 :=
  alike_countWork world key count

/-- The pieces of a sub-step that neither claim latches nor publish the unit. -/
theorem alike_perform {action : Action} (quiet : action ≠ .publish)
    (unclaimed : action.claims = false) :
    world.Alike (world.perform key action).1 := by
  cases action with
  | register => exact alike_registerUnit world key
  | bindHost => exact alike_modifyUnit world key (world.unit key).alike_bindHost
  | applyEagerFixups =>
      simp only [perform]
      split
      · exact alike_doWork world key _ _
      · exact .refl world
  | patchVtables | resolvePlan => exact alike_doWork world key _ _
  | publish => exact absurd rfl quiet
  | showInspection =>
      simp only [perform]
      split
      · exact alike_emit world _
      · exact .refl world
  | expandTypes | registerCode =>
      simp only [perform]
      split
      · exact alike_countWork world key _
      · exact .refl world
  | announceProfiler | announceTracing | announceDebugger =>
      simp [Action.claims] at unclaimed
  | requireMapped | requireLoaded | runInitializer | reportTransition =>
      exact .refl world

/-- No piece of a sub-step but the early publication moves a unit. -/
theorem still_perform {action : Action} (quiet : action ≠ .publish) :
    world.Still (world.perform key action).1 := by
  cases action with
  | announceProfiler =>
      change world.Still
        (world.once key .profiler fun next => next.tellProfiler key .ok)
      exact still_once world key .profiler
        fun next => (alike_tellProfiler next key .ok).still
  | announceTracing =>
      change world.Still
        (world.once key .tracing fun next => next.tellTracing key .ok)
      exact still_once world key .tracing
        fun next => (alike_tellTracing next key .ok).still
  | announceDebugger => exact still_announceDebugger world key
  | _ => exact (alike_perform world key quiet rfl).still

theorem unit_containerDebuggerLoad (flags : AttachFlags) :
    (world.containerDebuggerLoad key flags).1.unit other =
      world.unit other := by
  unfold containerDebuggerLoad
  split
  · rfl
  · split <;> rfl

/-- The debugger hears of a unit for the first time.  Nothing goes wrong, and
whether the module is still to be told depends on the debugger's being there. -/
theorem announceDebugger_of_untold
    (untold : (world.unit key).latches.isSet .debugger = false) :
    world.announceDebugger key =
      if (world.sinksOf key).isDebuggerAttached then
        (let informed := (world.claim key .debugger).1.sendUnitLoad key
          let claimed := (informed.claim key .debuggerModule).1
          if (informed.unit key).latches.isSet .debuggerModule then claimed
          else (claimed.containerDebuggerLoad key
            (AttachFlags.assemblyLoad.union .moduleLoad)).1, none)
      else ((world.claim key .debugger).1, none) := by
  have flagged : ((world.claim key .debugger).1.unit
      key).latches.isSet .debugger = true := by
    simp [unit_claim]
  have sinks : (world.claim key .debugger).1.sinksOf key =
      world.sinksOf key := by
    simp [sinksOf, homeOf, unit_claim]
  have fresh : (world.claim key .debugger).2 = true := by
    simp [claim, untold]
  have covered : AttachFlags.assemblyLoad.contains .assemblyLoad = true := by
    decide
  simp only [announceDebugger, fresh, if_true, notifyDebuggerLoad, flagged,
    sinks, covered]
  cases (world.sinksOf key).isDebuggerAttached with
  | false => simp
  | true =>
      generalize (world.claim key .debugger).1.sendUnitLoad key = informed
      cases told : (informed.unit key).latches.isSet .debuggerModule <;>
        simp [claim, told]

theorem announceDebugger_of_told
    (told : (world.unit key).latches.isSet .debugger = true) :
    world.announceDebugger key = ((world.claim key .debugger).1, none) := by
  simp [announceDebugger, claim, told]

theorem unit_announceDebugger_of_ne (apart : key ≠ other) :
    (world.announceDebugger key).1.unit other = world.unit other := by
  cases told : (world.unit key).latches.isSet .debugger with
  | true => rw [announceDebugger_of_told world key told, unit_claim, if_neg apart]
  | false =>
      rw [announceDebugger_of_untold world key told]
      split
      · simp only
        split <;>
          simp [unit_containerDebuggerLoad, unit_claim, sendUnitLoad,
            debuggingConfig, apart]
      · rw [unit_claim, if_neg apart]

theorem isSet_announceDebugger (kind : ListenerKind) :
    ((world.announceDebugger key).1.unit key).latches.isSet kind =
      ((world.unit key).latches.isSet kind || decide (kind = .debugger) ||
        (decide (kind = .debuggerModule) &&
          !(world.unit key).latches.isSet .debugger &&
          (world.sinksOf key).isDebuggerAttached)) := by
  cases told : (world.unit key).latches.isSet .debugger with
  | true =>
      rw [announceDebugger_of_told world key told, unit_claim, if_pos rfl]
      simp [eq_comm]
  | false =>
      rw [announceDebugger_of_untold world key told]
      have informed : (((world.claim key .debugger).1.sendUnitLoad key).unit
          key).latches = (world.unit key).latches.claim .debugger := by
        rw [((alike_sendUnitLoad _ key).unit key).latches, unit_claim,
          if_pos rfl]
      cases (world.sinksOf key).isDebuggerAttached with
      | false =>
          simp [unit_claim, eq_comm]
      | true =>
          simp only [if_true]
          split <;>
            simp [unit_containerDebuggerLoad, unit_claim, informed, eq_comm]

/-- Only work that may stop a sub-step fails. -/
theorem mayStop_of_fault {action : Action} {next : World} {fault : Fault}
    (done : world.perform key action = (next, some fault)) :
    action.mayStop = true := by
  cases action with
  | requireMapped | applyEagerFixups | patchVtables | requireLoaded
  | resolvePlan | runInitializer => rfl
  | announceDebugger =>
      simp only [perform] at done
      cases told : (world.unit key).latches.isSet .debugger with
      | true => simp [announceDebugger_of_told world key told] at done
      | false =>
          rw [announceDebugger_of_untold world key told] at done
          split at done <;> simp at done
  | _ => simp [perform] at done

theorem alike_of_mayStop {action : Action} (stops : action.mayStop = true) :
    world.Alike (world.perform key action).1 := by
  refine alike_perform world key ?_ ?_
  · rintro rfl
    contradiction
  · cases action <;> first | rfl | contradiction

/-- A piece of a sub-step neither keeps a cause nor makes another unit of this
one. -/
theorem kept_perform (action : Action) :
    ((world.perform key action).1.unit key).image = (world.unit key).image ∧
      ((world.perform key action).1.unit key).failure =
        (world.unit key).failure := by
  by_cases publishes : action = .publish
  · subst publishes
    simp [perform, LoadUnit.raiseLevel]
  · have still := (still_perform world key publishes).unit key
    exact ⟨still.image, still.failure⟩

theorem unit_perform_of_ne {action : Action} (apart : key ≠ other) :
    (world.perform key action).1.unit other = world.unit other := by
  cases action with
  | announceProfiler =>
      change (world.once key .profiler
        fun next => next.tellProfiler key .ok).unit other = _
      rw [unit_once _ _ _ .profiler fun _ => unit_tellProfiler _ _ _ _,
        unit_claim, if_neg apart]
  | announceTracing =>
      change (world.once key .tracing
        fun next => next.tellTracing key .ok).unit other = _
      rw [unit_once _ _ _ .tracing fun _ => unit_tellTracing _ _ _ _,
        unit_claim, if_neg apart]
  | announceDebugger => exact unit_announceDebugger_of_ne world key other apart
  | applyEagerFixups | expandTypes | registerCode | showInspection =>
      simp only [perform]
      split <;> simp [applyEagerFixups, expandTypes, registerCode, doWork,
        countWork, apart]
  | _ =>
      simp [perform, registerUnit, patchVtables, resolvePlan, doWork, countWork,
        apart]

theorem domain_containerDebuggerLoad (flags : AttachFlags) (home : DomainKey) :
    (world.containerDebuggerLoad key flags).1.domain home =
      world.domain home := by
  unfold containerDebuggerLoad
  split
  · rfl
  · split <;> rfl

theorem domain_announceDebugger (home : DomainKey) :
    (world.announceDebugger key).1.domain home = world.domain home := by
  cases told : (world.unit key).latches.isSet .debugger with
  | true => rw [announceDebugger_of_told world key told, domain_claim]
  | false =>
      rw [announceDebugger_of_untold world key told]
      split
      · simp only
        split
        · rfl
        · exact domain_containerDebuggerLoad _ _ _ home
      · rfl

theorem domain_perform {action : Action} (unregistered : action ≠ .register)
    (home : DomainKey) :
    (world.perform key action).1.domain home = world.domain home := by
  cases action with
  | register => exact absurd rfl unregistered
  | announceProfiler =>
      change (world.once key .profiler
        fun next => next.tellProfiler key .ok).domain home = _
      exact domain_once _ _ _ _ fun _ => domain_tellProfiler _ _ _ _
  | announceTracing =>
      change (world.once key .tracing
        fun next => next.tellTracing key .ok).domain home = _
      exact domain_once _ _ _ _ fun _ => domain_tellTracing _ _ _ _
  | announceDebugger => exact domain_announceDebugger world key home
  | applyEagerFixups | expandTypes | registerCode | showInspection =>
      simp only [perform]
      split <;> rfl
  | _ => rfl

theorem unit_createUnit (home : DomainKey) (image : Image)
    (container : Container) :
    (world.createUnit home image container).1.unit key =
      if world.unitCount = key then
        { id := ⟨(world.domain home).nextUnit⟩, home, image, container,
          presence := if image.valid then .held else .refused }
      else world.unit key := by
  simp only [createUnit, Image.validate]
  cases image.valid <;> simp [World.unit, modifyDomain]

theorem domain_createUnit (home made : DomainKey) (image : Image)
    (container : Container) :
    (world.createUnit made image container).1.domain home =
      if made = home then
        { world.domain made with
          nextUnit := (world.domain made).nextUnit + 1 }
      else world.domain home := by
  rw [← domain_modifyDomain world made home
    fun domain => { domain with nextUnit := domain.nextUnit + 1 }]
  simp only [createUnit]
  cases image.validate <;> rfl

@[simp]
theorem unitCount_createUnit (home : DomainKey) (image : Image)
    (container : Container) :
    (world.createUnit home image container).1.unitCount =
      world.unitCount + 1 := by
  simp only [createUnit]
  cases image.validate <;> rfl

theorem alike_callContainer (call : ContainerCall) :
    world.Alike (world.callContainer key call).1 := by
  cases call with
  | tracing code => exact alike_tellTracing world key code
  | profiler code => exact alike_tellProfiler world key code
  | debuggerLoad flags => exact alike_containerDebuggerLoad world key flags
  | debuggerUnload => exact alike_containerDebuggerUnload world key
  | eagerFixups =>
      exact alike_doWork world key .eagerFixups fun work =>
        { work with eagerFixups := work.eagerFixups + 1 }
  | vtableFixups =>
      exact alike_doWork world key .vtableFixups fun work =>
        { work with vtableFixups := work.vtableFixups + 1 }
  | exceptionPlan =>
      exact alike_doWork world key .active fun work =>
        { work with exceptionPlans := work.exceptionPlans + 1 }
  | expand =>
      exact alike_countWork world key fun work =>
        { work with expansions := work.expansions + 1 }
  | register =>
      exact alike_countWork world key fun work =>
        { work with registrations := work.registrations + 1 }
  | hasPrecompiledFixups | hasInitializer => exact .refl world

end World

/-- An operation that makes no unit, keeps no cause, and leaves dependencies and
listeners as they are. -/
def Operation.isQuiet : Operation → Bool
  | create .. => false
  | addDependency .. => false
  | setError .. => false
  | subscribe .. => false
  | _ => true

namespace World

theorem complete_create (world : World) (me : ThreadId) (home : DomainKey)
    (image : Image) (container : Container) :
    ((Operation.create home image container).complete world me).1 =
      (world.createUnit home image container).1 := by
  simp only [Operation.complete]
  split <;> rename_i result <;> rw [result]

theorem complete_setError (world : World) (key : UnitKey) (me : ThreadId)
    (cause : Cause) :
    ((Operation.setError key cause).complete world me).1 =
      (world.setError key cause).1 := by
  simp only [Operation.complete]
  split <;> rename_i result <;> rw [result]

theorem complete_debugging (world : World) (key : UnitKey) (me : ThreadId) :
    ((Operation.debugging key).complete world me).1 =
      (world.debuggingConfig key).1 := by
  simp only [Operation.complete]
  split <;> rename_i result <;> rw [result]

theorem still_complete (world : World) (me : ThreadId) {operation : Operation}
    (quiet : operation.isQuiet = true) :
    world.Still (operation.complete world me).1 := by
  cases operation with
  | create | addDependency | setError | subscribe => simp [Operation.isQuiet] at quiet
  | unload through unit => exact (alike_unloadUnit world unit through).still
  | debugging unit =>
      rw [complete_debugging]
      exact (alike_debuggingConfig world unit).still
  | debuggerLoad unit flags attaching =>
      exact still_notifyDebuggerLoad world unit flags attaching
  | debuggerUnload unit => exact (alike_notifyDebuggerUnload world unit).still
  | latch unit kind => exact still_claim world unit kind
  | container unit call => exact (alike_callContainer world unit call).still
  | dropUnit unit =>
      simp only [Operation.complete, dropUnit]
      split
      · exact (alike_modifyUnit world unit
          ⟨⟨rfl, rfl, rfl, rfl, rfl, rfl, rfl, fun _ told => told,
            Or.inl rfl⟩, rfl⟩).still
      · exact .refl world
  | dropDomain home =>
      simp only [Operation.complete, dropDomain]
      split
      · exact (alike_modifyDomain world home ⟨rfl, rfl, rfl, rfl, rfl⟩).still
      · exact .refl world
  | _ => exact .refl world

end World

end LoadLadder
