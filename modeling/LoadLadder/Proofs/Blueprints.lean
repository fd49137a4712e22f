import LoadLadder.Proofs.UnitStandings
import Mathlib.Logic.Relation

/-!
# What loading does not change

While threads load units, the units stay what they were made as: their images and
containers, what they depend on, and whether the client holds them.  How units
depend on each other and which of them are made to fail is the blueprint of a
world.  It decides how loads end, so this file also says when a unit is ready for
its own activation, and what may be the reason of its failure.
-/

namespace LoadLadder

open Relation

/-- A unit that is still what it was made as. -/
structure LoadUnit.Fixed (before after : LoadUnit) : Prop where
  id : after.id = before.id
  image : after.image = before.image
  container : after.container = before.container
  presence : after.presence = before.presence
  dependencies : after.dependencies = before.dependencies

namespace LoadUnit.Fixed

variable {first second third : LoadUnit}

theorem refl (unit : LoadUnit) : unit.Fixed unit :=
  ⟨rfl, rfl, rfl, rfl, rfl⟩

theorem trans (before : first.Fixed second) (after : second.Fixed third) :
    first.Fixed third where
  id := after.id.trans before.id
  image := after.image.trans before.image
  container := after.container.trans before.container
  presence := after.presence.trans before.presence
  dependencies := after.dependencies.trans before.dependencies

end LoadUnit.Fixed

/-- A unit that has not been touched by an initializer either. -/
structure LoadUnit.Kept (before after : LoadUnit) : Prop extends
    before.Fixed after where
  gateLifted : after.gateLifted = before.gateLifted

namespace LoadUnit.Kept

variable {first second third : LoadUnit}

theorem refl (unit : LoadUnit) : unit.Kept unit :=
  ⟨.refl unit, rfl⟩

theorem trans (before : first.Kept second) (after : second.Kept third) :
    first.Kept third :=
  ⟨before.toFixed.trans after.toFixed,
    after.gateLifted.trans before.gateLifted⟩

end LoadUnit.Kept

theorem LoadUnit.keeps_bindHost (unit : LoadUnit) :
    unit.Kept unit.bindHost := by
  unfold bindHost
  split
  · exact ⟨⟨rfl, rfl, rfl, rfl, rfl⟩, rfl⟩
  · exact .refl unit

theorem LoadUnit.keeps_debuggingConfig (unit : LoadUnit) :
    unit.Kept unit.debuggingConfig.1 := by
  unfold debuggingConfig
  split
  · exact .refl unit
  · split
    · exact ⟨⟨rfl, rfl, rfl, rfl, rfl⟩, rfl⟩
    · exact .refl unit

/-- The place at which a level's work may be made to fail. -/
def Level.work? : Level → Option Action
  | .eagerFixups => some .applyEagerFixups
  | .vtableFixups => some .patchVtables
  | .active => some .resolvePlan
  | _ => none

theorem Level.exists_work_of_failurePoint {level : Level}
    (failing : level ∈ Level.failurePoints) :
    ∃ action ∈ level.actions, level.work? = some action := by
  cases level <;> simp [Level.failurePoints, Level.work?, Level.actions]
    at failing ⊢

namespace World

variable (world : World) (key other : UnitKey)

theorem keeps_modifyUnit {change : LoadUnit → LoadUnit}
    (kept : (world.unit key).Kept (change (world.unit key))) :
    (world.unit other).Kept ((world.modifyUnit key change).unit other) := by
  rw [unit_modifyUnit]
  split
  · rename_i same
    rw [← same]
    exact kept
  · exact .refl _

theorem keeps_claim (kind : ListenerKind) :
    (world.unit other).Kept ((world.claim key kind).1.unit other) :=
  keeps_modifyUnit world key other ⟨⟨rfl, rfl, rfl, rfl, rfl⟩, rfl⟩

theorem keeps_setError (cause : Cause) :
    (world.unit other).Kept ((world.setError key cause).1.unit other) := by
  rw [unit_setError]
  split
  · rename_i fresh
    rw [← fresh.1]
    exact ⟨⟨rfl, rfl, rfl, rfl, rfl⟩, rfl⟩
  · exact .refl _

theorem keeps_sendUnitLoad :
    (world.unit other).Kept ((world.sendUnitLoad key).unit other) :=
  keeps_modifyUnit world key other (LoadUnit.keeps_debuggingConfig _)

/-- Telling the debugger of a unit claims latches and may decode the attribute of the
unit, and changes nothing else about it. -/
theorem unit_announceDebugger : ∃ latches debugging,
    (world.announceDebugger key).1.unit other =
      { world.unit other with latches, debugging } := by
  by_cases same : key = other
  · subst same
    cases told : (world.unit key).latches.isSet .debugger with
    | true =>
        rw [announceDebugger_of_told world key told, unit_claim, if_pos rfl]
        exact ⟨_, _, rfl⟩
    | false =>
        have sent : ∃ debugging,
            (((world.claim key .debugger).1.sendUnitLoad key).unit key) =
              { (world.claim key .debugger).1.unit key with debugging } := by
          simp only [sendUnitLoad, unit_emit, World.debuggingConfig,
            unit_modifyUnit, if_pos, LoadUnit.debuggingConfig]
          split
          · exact ⟨_, rfl⟩
          · split <;> exact ⟨_, rfl⟩
        obtain ⟨debugging, sent⟩ := sent
        rw [announceDebugger_of_untold world key told]
        split
        · simp only
          split
          · rw [unit_claim, if_pos rfl, sent, unit_claim, if_pos rfl]
            exact ⟨_, _, rfl⟩
          · rw [unit_containerDebuggerLoad, unit_claim, if_pos rfl, sent,
              unit_claim, if_pos rfl]
            exact ⟨_, _, rfl⟩
        · rw [unit_claim, if_pos rfl]
          exact ⟨_, _, rfl⟩
  · rw [unit_announceDebugger_of_ne world key other same]
    exact ⟨_, _, rfl⟩

theorem keeps_announceDebugger :
    (world.unit other).Kept ((world.announceDebugger key).1.unit other) := by
  obtain ⟨latches, debugging, same⟩ := unit_announceDebugger world key other
  rw [same]
  exact ⟨⟨rfl, rfl, rfl, rfl, rfl⟩, rfl⟩

theorem keeps_perform (action : Action) :
    (world.unit other).Kept ((world.perform key action).1.unit other) := by
  cases action with
  | register => exact .refl _
  | bindHost =>
      exact keeps_modifyUnit world key other (LoadUnit.keeps_bindHost _)
  | announceProfiler =>
      change (world.unit other).Kept ((world.once key .profiler
        fun next => next.tellProfiler key .ok).unit other)
      rw [unit_once _ _ _ .profiler fun _ => unit_tellProfiler _ _ _ _]
      exact keeps_claim world key other _
  | announceTracing =>
      change (world.unit other).Kept ((world.once key .tracing
        fun next => next.tellTracing key .ok).unit other)
      rw [unit_once _ _ _ .tracing fun _ => unit_tellTracing _ _ _ _]
      exact keeps_claim world key other _
  | announceDebugger => exact keeps_announceDebugger world key other
  | applyEagerFixups | expandTypes | registerCode | showInspection =>
      simp only [perform]
      split
      · first
        | exact .refl _
        | exact keeps_modifyUnit world key other
            ⟨⟨rfl, rfl, rfl, rfl, rfl⟩, rfl⟩
      · exact .refl _
  | patchVtables | resolvePlan | publish =>
      exact keeps_modifyUnit world key other ⟨⟨rfl, rfl, rfl, rfl, rfl⟩, rfl⟩
  | requireMapped | requireLoaded | runInitializer | reportTransition =>
      exact .refl _

/-- An initializer opens the gate of its unit and closes it again. -/
theorem fixed_liftGate (gateLifted : Bool) :
    (world.unit other).Fixed ((world.modifyUnit key fun unit =>
      { unit with gateLifted }).unit other) := by
  rw [unit_modifyUnit]
  split
  · rename_i same
    rw [← same]
    exact ⟨rfl, rfl, rfl, rfl, rfl⟩
  · exact .refl _

/-- What a step of a thread leaves as it was in every unit. -/
theorem keeps_stepped {world next : World} {me : ThreadId}
    {thread after : Thread} (stepped : world.Stepped me thread next after)
    (other : UnitKey) :
    (world.unit other).Kept (next.unit other) ∨
      ∃ key gateLifted, next = world.modifyUnit key (fun unit =>
          { unit with gateLifted }) ∧
        ((∃ level rest stack,
            thread = ⟨.subStep key level (.runInitializer :: rest), stack⟩) ∨
          ∃ reply level rest saved stack,
            thread = ⟨.answer reply,
              .onInitializer key level rest saved :: stack⟩) := by
  cases stepped with
  | raised | allActivated =>
      exact Or.inl (keeps_modifyUnit world _ other
        ⟨⟨rfl, rfl, rfl, rfl, rfl⟩, rfl⟩)
  | initializes => exact Or.inr ⟨_, _, rfl, Or.inl ⟨_, _, _, rfl⟩⟩
  | initialized | uninitialized =>
      exact Or.inr ⟨_, _, rfl, Or.inr ⟨_, _, _, _, _, rfl⟩⟩
  | failed =>
      rw [recordFailure_fst]
      exact Or.inl (keeps_setError world _ other _)
  | announces | announcedBefore => exact Or.inl (keeps_claim world _ other _)
  | @performed key level action rest next stack ordinary done =>
      have kept := keeps_perform world key other action
      rw [done] at kept
      exact Or.inl kept
  | @faulted key level action rest next fault stack done =>
      have kept := keeps_perform world key other action
      rw [done] at kept
      exact Or.inl kept
  | reported =>
      split <;> exact Or.inl (.refl _)
  | _ => exact Or.inl (.refl _)

variable {world} {next : World} {me : ThreadId} {thread after : Thread}

theorem fixed_stepped (stepped : world.Stepped me thread next after)
    (other : UnitKey) : (world.unit other).Fixed (next.unit other) := by
  rcases keeps_stepped stepped other with kept | ⟨key, gateLifted, rfl, -⟩
  · exact kept.toFixed
  · exact fixed_liftGate world key other gateLifted

end World

/-- How units depend on each other, and which of them are made to fail. -/
structure Blueprint where
  dependencies : UnitKey → List UnitKey
  failAt : UnitKey → Option Level

namespace Blueprint

def Needs (plan : Blueprint) (key dependency : UnitKey) : Prop :=
  dependency ∈ plan.dependencies key

/-- A unit is reached from another one, or is the same, along dependencies. -/
def Leads (plan : Blueprint) : UnitKey → UnitKey → Prop :=
  ReflTransGen plan.Needs

/-- A dependency that is not made to fail leads back to the unit. -/
def Closes (plan : Blueprint) (key dependency : UnitKey) : Prop :=
  plan.failAt dependency = none ∧ plan.Leads dependency key

/-- Something that the unit leads to is made to fail. -/
def Doomed (plan : Blueprint) (key : UnitKey) : Prop :=
  ∃ other, plan.Leads key other ∧ plan.failAt other ≠ none

theorem Doomed.of_needs {plan : Blueprint} {key dependency : UnitKey}
    (needs : plan.Needs key dependency) (doomed : plan.Doomed dependency) :
    plan.Doomed key := by
  obtain ⟨other, leads, fails⟩ := doomed
  exact ⟨other, leads.head needs, fails⟩

end Blueprint

namespace World

def blueprint (world : World) : Blueprint where
  dependencies := fun key => (world.unit key).dependencies
  failAt := fun key => (world.unit key).container.failAt

/-- A dependency is as far as its unit needs it: it is active, or it leads back to
the unit and cannot become active first. -/
def Serves (world : World) (key dependency : UnitKey) : Prop :=
  (world.unit dependency).level = .active ∨
    world.blueprint.Closes key dependency

/-- Nothing keeps a unit from its own activation any more. -/
structure Attended (world : World) (key : UnitKey) : Prop where
  sound : world.blueprint.failAt key = none
  served : ∀ dependency, world.blueprint.Needs key dependency →
    world.Serves key dependency

/-- A fault of the unit's own work on a level. -/
inductive OwnFault (world : World) (key : UnitKey) : Level → Fault → Prop
  /-- The unit is made to fail at this level. -/
  | injected {level : Level}
      (fails : (world.unit key).container.failAt = some level) :
      OwnFault world key level
        (.step level ("injected failure in " ++ (world.unit key).container.name))
  /-- The image of the unit is not mapped. -/
  | unmapped (unmapped : (world.unit key).image.mapped = false) :
      OwnFault world key .beforeTypeLoad
        (.contract (.imageNotMapped (world.unit key).name))

/-- What a fault of the sub-step of a unit to a level goes back to. -/
inductive Accounts (world : World) (key : UnitKey) : Level → Fault → Prop
  /-- The unit is made to fail at this level. -/
  | injected {level : Level} (fails : world.blueprint.failAt key = some level) :
      Accounts world key level
        (.step level ("injected failure in " ++ (world.unit key).container.name))
  /-- A dependency has failed, and those before it were as far as they should. -/
  | inherited {met rest : List UnitKey} {dependency : UnitKey} {cause : Cause}
      (sound : world.blueprint.failAt key = none)
      (split : world.blueprint.dependencies key = met ++ dependency :: rest)
      (served : ∀ other ∈ met, world.Serves key other)
      (stored : (world.unit dependency).failure.cause = some cause) :
      Accounts world key .active (.load cause)

/-- A unit is where the blueprint lets it be. -/
structure Grounded (world : World) (key : UnitKey) : Prop where
  /-- An active unit was ready for its activation. -/
  attended : (world.unit key).level = .active → world.Attended key
  /-- A unit stands right below the level at which it failed, for a reason. -/
  accounted : ∀ cause, (world.unit key).failure.cause = some cause →
    ∃ level fault, world.Accounts key level fault ∧
      cause = .capture fault (world.unit key).name level ∧
      (world.unit key).level.next = some level
  doomed : ∀ cause, (world.unit key).failure.cause = some cause →
    cause.code = .fail ∧ world.blueprint.Doomed key
  short : ∀ level, world.blueprint.failAt key = some level →
    (world.unit key).level < level
  /-- What the client does not hold is left alone. -/
  unheld : (world.unit key).presence ≠ .held →
    (world.unit key).level = .created ∧ (world.unit key).failure.cause = none

theorem Grounded.healthy_of_active {world : World} {key : UnitKey}
    (grounded : world.Grounded key) (active : (world.unit key).level = .active) :
    (world.unit key).failure.cause = none := by
  by_contra failed
  obtain ⟨cause, stored⟩ := Option.ne_none_iff_exists'.mp failed
  obtain ⟨level, fault, -, -, step⟩ := grounded.accounted cause stored
  exact Level.ne_active_of_next step active

/-- The units of a domain with one recorder, as a plan for loading makes them: they
are numbered, mapped, and depend on held units only. -/
structure Planned (world : World) (sinks : Sinks) : Prop where
  watched : world.Watched sinks
  recorded : sinks.tracing = .recorder
  numbered : ∀ key < world.unitCount, (world.unit key).id = ⟨key + 1⟩
  mapped : ∀ key < world.unitCount, (world.unit key).image.mapped = true
  held : ∀ key dependency, world.blueprint.Needs key dependency →
    dependency < world.unitCount ∧
      (world.unit dependency).presence = .held
  failing : ∀ key level, world.blueprint.failAt key = some level →
    level ∈ Level.failurePoints
  initialized : ∀ key dependency, world.blueprint.Needs key dependency →
    (world.unit key).container.initializer = .dependencies

theorem Planned.rooted {world : World} {sinks : Sinks}
    (planned : world.Planned sinks) : world.Rooted :=
  fun key dependency needs => (planned.held key dependency needs).1

/-- The same plan at a later time. -/
structure Proceeds (world next : World) : Prop where
  count : next.unitCount = world.unitCount
  fixed : ∀ key, (world.unit key).Fixed (next.unit key)
  grows : ∀ key, (world.unit key).Grows (next.unit key)

variable {world next : World} {me : ThreadId} {thread after : Thread}
  {key dependency : UnitKey} {level : Level} {fault : Fault} {sinks : Sinks}

theorem proceeds_stepped (stepped : world.Stepped me thread next after) :
    world.Proceeds next :=
  ⟨unitCount_stepped stepped, fixed_stepped stepped,
    unit_grows_stepped stepped⟩

namespace Proceeds

theorem blueprint (proceeds : world.Proceeds next) :
    next.blueprint = world.blueprint := by
  have dependencies : ∀ key, (next.unit key).dependencies =
      (world.unit key).dependencies := fun key =>
    (proceeds.fixed key).dependencies
  have containers : ∀ key, (next.unit key).container =
      (world.unit key).container := fun key => (proceeds.fixed key).container
  simp only [World.blueprint, dependencies, containers]

theorem active (proceeds : world.Proceeds next)
    (active : (world.unit key).level = .active) :
    (next.unit key).level = .active := by
  have high := (proceeds.grows key).level
  rw [active] at high
  exact LoadUnit.eq_active_of_isActive (decide_eq_true high)

theorem serves (proceeds : world.Proceeds next)
    (serves : world.Serves key dependency) : next.Serves key dependency := by
  rcases serves with active | closes
  · exact Or.inl (proceeds.active active)
  · exact Or.inr (proceeds.blueprint ▸ closes)

theorem attended (proceeds : world.Proceeds next)
    (attended : world.Attended key) : next.Attended key := by
  obtain ⟨sound, served⟩ := attended
  rw [← proceeds.blueprint] at sound served
  exact ⟨sound, fun dependency needs =>
    proceeds.serves (served dependency needs)⟩

theorem accounts (proceeds : world.Proceeds next)
    (accounts : world.Accounts key level fault) :
    next.Accounts key level fault := by
  cases accounts with
  | injected fails =>
      rw [← proceeds.blueprint] at fails
      rw [← (proceeds.fixed key).container]
      exact .injected fails
  | inherited sound split served stored =>
      rw [← proceeds.blueprint] at sound split
      exact .inherited sound split
        (fun other member => proceeds.serves (served other member))
        ((proceeds.grows _).failure _ stored)

end Proceeds

theorem Planned.proceeds (planned : world.Planned sinks)
    (proceeds : world.Proceeds next) (watched : next.Watched sinks) :
    next.Planned sinks := by
  have fixed := proceeds.fixed
  refine ⟨watched, planned.recorded, ?_, ?_, ?_, ?_, ?_⟩
  · intro key known
    rw [(fixed key).id]
    exact planned.numbered key (proceeds.count ▸ known)
  · intro key known
    rw [(fixed key).image]
    exact planned.mapped key (proceeds.count ▸ known)
  · intro key dependency needs
    rw [proceeds.blueprint] at needs
    rw [proceeds.count, (fixed dependency).presence]
    exact planned.held key dependency needs
  · rw [proceeds.blueprint]
    exact planned.failing
  · intro key dependency needs
    rw [proceeds.blueprint] at needs
    rw [(fixed key).container]
    exact planned.initialized key dependency needs

theorem planned_stepped (planned : world.Planned sinks)
    (stepped : world.Stepped me thread next after) : next.Planned sinks :=
  planned.proceeds (proceeds_stepped stepped)
    (planned.watched.of_grows (grows_stepped stepped)
      (unitCount_stepped stepped) (samePlugs_stepped stepped 0))

/-- The code of a fault that a unit fails with, and what it leads to. -/
theorem doomed_of_accounts (grounded : ∀ key, world.Grounded key)
    (accounts : world.Accounts key level fault) :
    fault.resultCode = .fail ∧ world.blueprint.Doomed key := by
  cases accounts with
  | injected fails =>
      exact ⟨rfl, key, ReflTransGen.refl, by simp [fails]⟩
  | @inherited met rest dependency cause sound split served stored =>
      obtain ⟨code, doomed⟩ := (grounded dependency).doomed cause stored
      have needs : world.blueprint.Needs key dependency := by
        rw [Blueprint.Needs, split]
        simp
      exact ⟨code, doomed.of_needs needs⟩

end World

end LoadLadder
