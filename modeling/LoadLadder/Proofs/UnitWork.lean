import LoadLadder.Proofs.CauseReplays
import LoadLadder.Proofs.DelegatedLoads
import LoadLadder.Proofs.Descents

/-!
# The work that units have had done

Containers count their work, and dependency initializers count the times that they
ran to their end.  This file says what is counted, how far a thread is with a
sub-step of a unit, and what an action adds to the counts.
-/

namespace LoadLadder

/-- A piece of work that is counted when it is done. -/
inductive Chore
  | eagerFixups
  | vtableFixups
  | exceptionPlan
  | initializer
  | expansion
  | registration
  deriving DecidableEq

namespace Chore

def action : Chore → Action
  | eagerFixups => .applyEagerFixups
  | vtableFixups => .patchVtables
  | exceptionPlan => .resolvePlan
  | initializer => .runInitializer
  | expansion => .expandTypes
  | registration => .registerCode

/-- The level whose sub-step does the work. -/
def level : Chore → Level
  | eagerFixups => .eagerFixups
  | vtableFixups => .vtableFixups
  | exceptionPlan | initializer | expansion | registration => .active

theorem action_mem_actions (chore : Chore) (level : Level) :
    chore.action ∈ level.actions ↔ chore.level = level := by
  cases chore <;> cases level <;> decide

theorem le_loaded_iff (chore : Chore) :
    chore.level ≤ .loaded ↔ chore.level < .loaded := by
  cases chore <;> decide

end Chore

namespace LoadUnit

/-- How often a piece of work has been done. -/
def tally (unit : LoadUnit) : Chore → Nat
  | .eagerFixups => unit.work.eagerFixups
  | .vtableFixups => unit.work.vtableFixups
  | .exceptionPlan => unit.work.exceptionPlans
  | .initializer => unit.completedRuns
  | .expansion => unit.work.expansions
  | .registration => unit.work.registrations

/-- The sub-steps of the unit include a piece of work. -/
def owes (unit : LoadUnit) (config : LoaderConfig) : Chore → Bool
  | .eagerFixups | .registration => unit.container.hasPrecompiledFixups
  | .vtableFixups | .exceptionPlan => true
  | .initializer => unit.container.initializer == .dependencies
  | .expansion => config.expandModulesOnLoad

/-- Between two sub-steps: the unit has got past a piece of work, or has failed
there. -/
def hasDone (unit : LoadUnit) (chore : Chore) : Bool :=
  decide (chore.level ≤ unit.level) ||
    unit.failure.cause.any fun cause =>
      decide (cause.level.work? = some chore.action)

/-- What has been done was done once, as far as the unit has it done at all. -/
def Tallies (unit : LoadUnit) (config : LoaderConfig) (done : Chore → Bool) :
    Prop :=
  ∀ chore, unit.tally chore = (unit.owes config chore && done chore).toNat

/-- The unit was left alone by all work. -/
structure Unworked (before after : LoadUnit) : Prop where
  container : after.container = before.container
  work : after.work = before.work
  completedRuns : after.completedRuns = before.completedRuns

/-- The unit was left alone by all work, and has neither climbed nor failed. -/
structure Rests (before after : LoadUnit) : Prop extends
    before.Unworked after where
  level : after.level = before.level
  failure : after.failure = before.failure

namespace Unworked

variable {before after : LoadUnit}

theorem tally (unworked : before.Unworked after) (chore : Chore) :
    after.tally chore = before.tally chore := by
  cases chore <;>
    simp [LoadUnit.tally, unworked.work, unworked.completedRuns]

theorem owes (unworked : before.Unworked after) (config : LoaderConfig)
    (chore : Chore) : after.owes config chore = before.owes config chore := by
  cases chore <;> simp [LoadUnit.owes, unworked.container]

end Unworked

namespace Rests

variable {before after : LoadUnit}

theorem refl (unit : LoadUnit) : unit.Rests unit :=
  ⟨⟨rfl, rfl, rfl⟩, rfl, rfl⟩

theorem trans {first second third : LoadUnit} (before : first.Rests second)
    (after : second.Rests third) : first.Rests third where
  container := after.container.trans before.container
  work := after.work.trans before.work
  completedRuns := after.completedRuns.trans before.completedRuns
  level := after.level.trans before.level
  failure := after.failure.trans before.failure

theorem hasDone (rests : before.Rests after) (chore : Chore) :
    after.hasDone chore = before.hasDone chore := by
  rw [LoadUnit.hasDone, LoadUnit.hasDone, rests.level, rests.failure]

end Rests

theorem rests_unbindHost (unit : LoadUnit) : unit.Rests unit.unbindHost := by
  unfold unbindHost
  split <;> exact ⟨⟨rfl, rfl, rfl⟩, rfl, rfl⟩

theorem rests_debuggingConfig (unit : LoadUnit) :
    unit.Rests unit.debuggingConfig.1 := by
  unfold debuggingConfig
  split
  · exact .refl _
  · split
    · exact ⟨⟨rfl, rfl, rfl⟩, rfl, rfl⟩
    · exact .refl _

variable {unit next : LoadUnit} {config : LoaderConfig} {done later : Chore → Bool}

theorem Tallies.congr (tallies : unit.Tallies config done)
    (unworked : unit.Unworked next)
    (same : ∀ chore, unit.owes config chore = true → later chore = done chore) :
    next.Tallies config later := by
  intro chore
  rw [unworked.tally, unworked.owes, tallies chore]
  cases owed : unit.owes config chore with
  | false => rfl
  | true => rw [same chore owed]

/-- An action is carried out whose work had not been done before. -/
theorem Tallies.advance (tallies : unit.Tallies config done) {action : Action}
    (container : next.container = unit.container)
    (counted : ∀ chore, next.tally chore = unit.tally chore +
      (unit.owes config chore && decide (chore.action = action)).toNat)
    (fresh : ∀ chore, chore.action = action → done chore = false)
    (same : ∀ chore,
      later chore = (done chore || decide (chore.action = action))) :
    next.Tallies config later := by
  intro chore
  have owes : next.owes config chore = unit.owes config chore := by
    cases chore <;> simp [LoadUnit.owes, container]
  rw [counted, tallies chore, owes, same]
  by_cases here : chore.action = action
  · cases unit.owes config chore <;> simp [fresh chore here, here]
  · simp [here]

end LoadUnit

/-- How far a sub-step of a unit is. -/
inductive Stint
  /-- These actions are left of the sub-step to a level. -/
  | working (level : Level) (rest : List Action)
  /-- The sub-step to a level has failed, and the cause is not yet stored. -/
  | broken (level : Level)

namespace Stint

def hasDone : Stint → Chore → Bool
  | working level rest, chore =>
      decide (chore.level < level ∨ chore.level = level ∧ chore.action ∉ rest)
  | broken level, chore =>
      decide (chore.level < level ∨ level.work? = some chore.action)

/-- How far a sub-step is whose initializer or driver is about to hear a reply. -/
def heard (reply : Reply) (level : Level) (rest : List Action) : Stint :=
  match reply with
  | .ok _ => working level rest
  | .error _ => broken level

variable {level : Level} {action : Action} {rest : List Action}

theorem nodup_actions (level : Level) : level.actions.Nodup := by
  cases level <;> decide

theorem fresh_head (remains : action :: rest <:+ level.actions) {chore : Chore}
    (here : chore.action = action) :
    (working level (action :: rest)).hasDone chore = false := by
  have same : chore.level = level := by
    rw [← chore.action_mem_actions, here]
    exact remains.subset List.mem_cons_self
  simp [hasDone, same, here, Level.lt_def]

/-- Carrying out an action does the work of the action. -/
theorem hasDone_tail (remains : action :: rest <:+ level.actions)
    (chore : Chore) :
    (working level rest).hasDone chore =
      ((working level (action :: rest)).hasDone chore ||
        decide (chore.action = action)) := by
  by_cases here : chore.action = action
  · have distinct : (action :: rest).Nodup := (nodup_actions level).sublist remains.sublist
    have same : chore.level = level := by
      rw [← chore.action_mem_actions, here]
      exact remains.subset List.mem_cons_self
    simp [hasDone, same, here, (List.nodup_cons.mp distinct).1]
  · simp [hasDone, here]

/-- An action that stops a sub-step has done its work. -/
theorem hasDone_broken (remains : action :: rest <:+ level.actions)
    (stops : action.mayStop = true) (unchecked : action ≠ .requireLoaded)
    (uninitialized : action ≠ .runInitializer) (chore : Chore) :
    (broken level).hasDone chore =
      ((working level (action :: rest)).hasDone chore ||
        decide (chore.action = action)) := by
  have member := remains.subset List.mem_cons_self
  cases action <;> first | contradiction | skip
  all_goals
    cases level <;> simp [Level.actions] at member
    simp [Level.actions, List.suffix_cons_iff] at remains
    subst remains
    cases chore <;> decide

/-- A sub-step that stops at the initializer has not run the initializer. -/
theorem hasDone_uninitialized
    (remains : .runInitializer :: rest <:+ level.actions) (chore : Chore) :
    (broken level).hasDone chore =
      (working level (.runInitializer :: rest)).hasDone chore := by
  cases active_of_runInitializer remains
  rw [World.afterInitializer_of_suffix remains]
  cases chore <;> decide

end Stint

/-- The sub-step of a unit that a task carries out or knows to be over. -/
def Task.stint (key : UnitKey) : Task → List Stint
  | .subStep unit level rest => if unit = key then [.working level rest] else []
  | .drive unit _ (.raise level) => if unit = key then [.working level []] else []
  | .drive unit _ (.fail level _) => if unit = key then [.broken level] else []
  | _ => []

/-- The sub-step of a unit that waits for a callback. -/
def Waiting.stint (key : UnitKey) : Waiting → List Stint
  | .onInitializer unit level rest _ =>
      if unit = key then [.working level (.runInitializer :: rest)] else []
  | .onHook unit level rest => if unit = key then [.working level rest] else []
  | _ => []

/-- The sub-step of a unit in which something waits that is just being answered. -/
def Waiting.stintOn (key : UnitKey) (reply : Reply) : Waiting → List Stint
  | .onSubStep unit _ level =>
      if unit = key then [.heard reply level []] else []
  | .onInitializer unit level rest _ =>
      if unit = key then [.heard reply level rest] else []
  | waiting => waiting.stint key

/-- The sub-steps of a unit that are under way in a thread, innermost first. -/
def Thread.stints (key : UnitKey) : Thread → List Stint
  | ⟨.answer reply, waiting :: stack⟩ =>
      waiting.stintOn key reply ++ stack.flatMap (Waiting.stint key)
  | ⟨task, stack⟩ => task.stint key ++ stack.flatMap (Waiting.stint key)

/-- What a unit has had done, as far as a thread knows that may be in the middle of
a sub-step of it. -/
def Thread.hasDone (thread : Thread) (key : UnitKey) (unit : LoadUnit) :
    Chore → Bool :=
  match thread.stints key with
  | [] => unit.hasDone
  | stint :: _ => stint.hasDone

theorem stints_answer (key : UnitKey) (reply : Reply) (waiting : Waiting)
    (stack : List Waiting) :
    Thread.stints key ⟨.answer reply, waiting :: stack⟩ =
      waiting.stintOn key reply ++ stack.flatMap (Waiting.stint key) :=
  rfl

namespace World

variable {world next : World} {me : ThreadId} {thread after : Thread}
  {key : UnitKey} {level : Level} {stack : List Waiting} {seat : Seat}

/-- A sub-step that a driver asked for lies on top of its driver. -/
theorem exists_driver (seated : world.Seated (.subStep key level) stack)
    (driven : isDriven stack = true) : ∃ target below,
      stack = .onSubStep key target level :: below ∧ world.Seated .drive below := by
  cases seated with
  | driven known below => exact ⟨_, _, rfl, below⟩
  | initializing known runs => rcases runs with same | same <;> cases same
  | subStepOutside | subStepCalled => simp [isDriven] at driven

/-- A sub-step that waits does so on top of its driver. -/
theorem holds_of_stint (seated : world.Seated seat stack) (steered : Steered stack)
    (under : stack.flatMap (Waiting.stint key) ≠ []) :
    key ∈ stack.flatMap Waiting.holds := by
  induction seated with
  | subStepOutside | driveOutside => simp at under
  | subStepCalled below ih | driveCalled below ih => exact ih steered under
  | driven known below ih => exact List.mem_append_right _ (ih steered under)
  | depending known dependencies below ih | listening known below ih =>
      exact ih steered under
  | @initializing unit level rest gateLifted seat stack known runs remains insisted
      below ih
  | @hooked unit level rest stack known remains insisted below ih =>
      obtain ⟨driven, steered⟩ := steered
      by_cases here : unit = key
      · obtain ⟨target, lower, rfl, -⟩ := exists_driver below driven
        simp [Waiting.holds, here]
      · refine ih steered ?_
        simpa [Waiting.stint, here] using under

/-- No sub-step of a unit waits below the driver that holds its entry. -/
theorem stints_below {task : Task} (seated : world.Seated seat stack)
    (steered : Steered stack)
    (once : (Thread.holds ⟨task, stack⟩).count key ≤ 1)
    (holds : key ∈ task.holds) : stack.flatMap (Waiting.stint key) = [] := by
  by_contra under
  exact not_mem_of_held_once once holds (holds_of_stint seated steered under)

/-- A thread that has a sub-step of a unit under way holds the unit's entry. -/
theorem holds_of_stints (supports : world.Supports thread)
    (steered : thread.Steered) (under : thread.stints key ≠ []) :
    key ∈ thread.holds := by
  obtain ⟨task, stack⟩ := thread
  obtain ⟨seat, seated⟩ := supports.seated
  have waits (below : stack.flatMap (Waiting.stint key) ≠ []) :
      key ∈ Task.holds task ++ stack.flatMap Waiting.holds :=
    List.mem_append_right _ (holds_of_stint seated steered.stack below)
  cases task with
  | answer reply =>
      cases stack with
      | nil => simp [Thread.stints, Task.stint] at under
      | cons waiting stack =>
          by_cases below : (waiting :: stack).flatMap (Waiting.stint key) = []
          · rw [stints_answer] at under
            cases waiting with
            | onSubStep unit target level =>
                by_cases here : unit = key
                · simp [Thread.holds, Waiting.holds, here]
                · rw [Waiting.stintOn, if_neg here] at under
                  exact absurd below under
            | onInitializer unit level rest gateLifted =>
                by_cases here : unit = key
                · simp [Waiting.stint, here] at below
                · rw [List.flatMap_cons, Waiting.stint, if_neg here] at below
                  rw [Waiting.stintOn, if_neg here] at under
                  exact absurd below under
            | _ => exact absurd below under
          · exact waits below
  | subStep unit level rest =>
      by_cases here : unit = key
      · obtain ⟨-, -, -, seated⟩ := supports
        obtain ⟨target, below, rfl, -⟩ :=
          exists_driver seated (steered.task _ _ _ rfl)
        simp [Thread.holds, Waiting.holds, here]
      · exact waits (by simpa [Thread.stints, Task.stint, here] using under)
  | drive unit target phase =>
      by_cases here : unit = key
      · cases phase with
        | raise | fail => simp [Thread.holds, Task.holds, here]
        | _ => exact waits under
      · refine waits ?_
        cases phase <;> simpa [Thread.stints, Task.stint, here] using under
  | _ => exact waits under

end World

/-- The unit whose initializer a callback is, and the initializer. -/
def Callback.initializers : Callback → List (UnitKey × Initializer)
  | .initializer key => [(key, .client)]
  | _ => []

def Task.initializers : Task → List (UnitKey × Initializer)
  | .activateDependencies key _ => [(key, .dependencies)]
  | .callback called => called.initializers
  | _ => []

def Waiting.initializers : Waiting → List (UnitKey × Initializer)
  | .onDependency key _ => [(key, .dependencies)]
  | .onOperation called => called.initializers
  | _ => []

/-- The initializers that run in a thread, innermost first. -/
def Thread.initializers (thread : Thread) : List (UnitKey × Initializer) :=
  thread.task.initializers ++ thread.stack.flatMap Waiting.initializers

namespace World

variable {world next : World} {repertoire : Repertoire} {me : ThreadId}
  {thread after : Thread} {deeds : List Deed} {key : UnitKey} {level : Level}
  {stack : List Waiting} {seat : Seat}

/-- The initializers that run are those of the units. -/
def Authentic (world : World) (thread : Thread) : Prop :=
  ∀ entry ∈ thread.initializers,
    entry.1 < world.unitCount ∧
      (world.unit entry.1).container.initializer = entry.2

@[simp]
theorem initializers_ensure (through : DomainKey) (key : UnitKey)
    (target : Level) : (Task.ensure world through key target).initializers = [] := by
  unfold Task.ensure
  split
  · rfl
  · split <;> rfl

theorem initializers_stepped (stepped : world.Stepped me thread next after)
    {entry : UnitKey × Initializer} (member : entry ∈ after.initializers) :
    entry ∈ thread.initializers ∨
      entry ∈ thread.task.unit?.toList.map fun key =>
        (key, (world.unit key).container.initializer) := by
  cases stepped with
  | initializes runs =>
      rcases runs with ⟨has, rfl⟩ | ⟨has, rfl⟩ <;>
      · rcases List.mem_cons.mp member with rfl | waits
        · exact Or.inr (by simp [Task.unit?, has])
        · exact Or.inl waits
  | reported goes =>
      rcases goes with ⟨-, rfl⟩ | ⟨-, rfl⟩ <;> exact Or.inl member
  | activates =>
      rw [Thread.initializers, initializers_ensure] at member
      exact Or.inl member
  | allActivated | unactivated => exact Or.inl (List.mem_cons_of_mem _ member)
  | _ => exact Or.inl member

theorem initializers_act (act : world.Act repertoire me thread deeds next after)
    {entry : UnitKey × Initializer} (member : entry ∈ after.initializers) :
    entry ∈ thread.initializers ∨
      entry ∈ thread.task.unit?.toList.map fun key =>
        (key, (world.unit key).container.initializer) := by
  cases act with
  | step step => exact initializers_stepped (stepped_of_step step) member
  | operate => exact Or.inl member
  | @call operation task turn asked granted loads =>
      have none : task.initializers = [] := by
        obtain ⟨key, begins⟩ := begins_of_loads loads
        cases begins <;> rfl
      rcases turn_cases turn with
        ⟨callback, stack, rfl⟩ | ⟨reply, rfl⟩ | ⟨reply, callback, stack, rfl⟩ <;>
      · rw [Thread.call, Thread.initializers, none] at member
        exact Or.inl member
  | resume answered =>
      subst answered
      exact Or.inl member
  | finish result called =>
      subst called
      exact Or.inl (List.mem_append_right _ member)

theorem Authentic.grows (authentic : world.Authentic thread)
    (grows : world.Grows next) : next.Authentic thread := by
  intro entry member
  obtain ⟨known, initializer⟩ := authentic entry member
  refine ⟨Nat.lt_of_lt_of_le known grows.count, ?_⟩
  rw [(grows.unit _ known).container]
  exact initializer

/-- An initializer that begins is that of the unit that the thread works on. -/
theorem Authentic.of_begins (authentic : world.Authentic thread)
    (supports : world.Supports thread)
    (begins : ∀ entry ∈ after.initializers, entry ∈ thread.initializers ∨
      entry ∈ thread.task.unit?.toList.map fun key =>
        (key, (world.unit key).container.initializer)) :
    world.Authentic after := by
  intro entry member
  rcases begins entry member with runs | starts
  · exact authentic entry runs
  · obtain ⟨key, works, rfl⟩ := List.mem_map.mp starts
    exact ⟨supports.known key (Option.mem_toList.mp works), rfl⟩

theorem authentic_stepped (stepped : world.Stepped me thread next after)
    (supports : world.Supports thread) (authentic : world.Authentic thread) :
    next.Authentic after :=
  (authentic.of_begins supports fun _ member =>
    initializers_stepped stepped member).grows (grows_stepped stepped)

theorem authentic_act (act : world.Act repertoire me thread deeds next after)
    (supports : world.Supports thread) (authentic : world.Authentic thread) :
    next.Authentic after :=
  (authentic.of_begins supports fun _ member =>
    initializers_act act member).grows (grows_act act)

theorem rests_modifyUnit (world : World) (key other : UnitKey)
    {change : LoadUnit → LoadUnit}
    (rests : (world.unit key).Rests (change (world.unit key))) :
    (world.unit other).Rests ((world.modifyUnit key change).unit other) := by
  rw [unit_modifyUnit]
  split
  · rename_i same
    rw [← same]
    exact rests
  · exact .refl _

theorem rests_liftGate (world : World) (key other : UnitKey)
    (gateLifted : Bool) :
    (world.unit other).Rests ((world.modifyUnit key fun unit =>
      { unit with gateLifted }).unit other) :=
  rests_modifyUnit world key other ⟨⟨rfl, rfl, rfl⟩, rfl, rfl⟩

theorem rests_claim (world : World) (key other : UnitKey)
    (kind : ListenerKind) :
    (world.unit other).Rests ((world.claim key kind).1.unit other) :=
  rests_modifyUnit world key other ⟨⟨rfl, rfl, rfl⟩, rfl, rfl⟩

/-- An action that does no counted work and does not publish the unit. -/
theorem rests_perform (world : World) (key other : UnitKey) {action : Action}
    (plain : ∀ chore : Chore, chore.action ≠ action)
    (quiet : action ≠ .publish) :
    (world.unit other).Rests ((world.perform key action).1.unit other) := by
  cases action with
  | register | requireMapped | requireLoaded | reportTransition => exact .refl _
  | publish => exact absurd rfl quiet
  | applyEagerFixups => exact absurd rfl (plain .eagerFixups)
  | patchVtables => exact absurd rfl (plain .vtableFixups)
  | resolvePlan => exact absurd rfl (plain .exceptionPlan)
  | runInitializer => exact absurd rfl (plain .initializer)
  | expandTypes => exact absurd rfl (plain .expansion)
  | registerCode => exact absurd rfl (plain .registration)
  | bindHost =>
      refine rests_modifyUnit world key other ?_
      unfold LoadUnit.bindHost
      split <;> exact ⟨⟨rfl, rfl, rfl⟩, rfl, rfl⟩
  | announceProfiler =>
      change (world.unit other).Rests ((world.once key .profiler
        fun next => next.tellProfiler key .ok).unit other)
      rw [unit_once _ _ _ .profiler fun _ => unit_tellProfiler _ _ _ _]
      exact rests_claim world key other _
  | announceTracing =>
      change (world.unit other).Rests ((world.once key .tracing
        fun next => next.tellTracing key .ok).unit other)
      rw [unit_once _ _ _ .tracing fun _ => unit_tellTracing _ _ _ _]
      exact rests_claim world key other _
  | announceDebugger =>
      obtain ⟨latches, debugging, same⟩ := unit_announceDebugger world key other
      change (world.unit other).Rests ((world.announceDebugger key).1.unit other)
      rw [same]
      exact ⟨⟨rfl, rfl, rfl⟩, rfl, rfl⟩
  | showInspection =>
      simp only [perform]
      split <;> exact .refl _

/-- An action counts its own work, if the unit has it done at all. -/
theorem tally_perform (world : World) (key : UnitKey) {action : Action}
    (absent : action = .runInitializer →
      (world.unit key).container.initializer = .absent) (chore : Chore) :
    ((world.perform key action).1.unit key).tally chore =
      (world.unit key).tally chore +
        ((world.unit key).owes (world.homeOf key).config chore &&
          decide (chore.action = action)).toNat := by
  by_cases plain : (∀ chore : Chore, chore.action ≠ action) ∧ action ≠ .publish
  · rw [(rests_perform world key key plain.1 plain.2).toUnworked.tally]
    simp [plain.1 chore]
  · cases action with
    | publish => cases chore <;>
        simp [perform, LoadUnit.tally, LoadUnit.raiseLevel, Chore.action]
    | runInitializer =>
        cases chore <;> simp [perform, LoadUnit.owes, Chore.action, absent rfl]
    | applyEagerFixups | registerCode =>
        simp only [perform]
        split <;> rename_i owed <;> cases chore <;>
          simp [LoadUnit.tally, LoadUnit.owes, Chore.action, World.applyEagerFixups,
            World.registerCode, doWork, countWork, owed]
    | expandTypes =>
        simp only [perform]
        split <;> rename_i owed <;> cases chore <;>
          simp [LoadUnit.tally, LoadUnit.owes, Chore.action, World.expandTypes,
            countWork, owed]
    | patchVtables | resolvePlan =>
        cases chore <;>
          simp [perform, LoadUnit.tally, LoadUnit.owes, Chore.action,
            World.patchVtables, World.resolvePlan, doWork, countWork]
    | _ => exact absurd ⟨fun chore => by cases chore <;> simp [Chore.action],
        by simp⟩ plain

theorem rests_debuggingConfig (world : World) (key other : UnitKey) :
    (world.unit other).Rests ((world.debuggingConfig key).1.unit other) :=
  rests_modifyUnit world key other (LoadUnit.rests_debuggingConfig _)

theorem rests_notifyDebuggerLoad (world : World) (key other : UnitKey)
    (flags : AttachFlags) (attaching : Bool) :
    (world.unit other).Rests
      ((world.notifyDebuggerLoad key flags attaching).1.unit other) := by
  simp only [notifyDebuggerLoad]
  split
  · exact .refl _
  split
  · exact .refl _
  split
  · exact .refl _
  have sent : (world.unit other).Rests
      ((if flags.contains .assemblyLoad then world.sendUnitLoad key
        else world).unit other) := by
    split
    · exact rests_debuggingConfig world key other
    · exact .refl _
  generalize (if flags.contains .assemblyLoad then world.sendUnitLoad key
    else world) = informed at sent ⊢
  have claimed := sent.trans (rests_claim informed key other .debuggerModule)
  split
  · rw [unit_containerDebuggerLoad]
    exact claimed
  · exact claimed

theorem rests_unloadUnit (world : World) (through : DomainKey)
    (key other : UnitKey) :
    (world.unit other).Rests ((world.unloadUnit through key).1.unit other) := by
  simp only [unloadUnit]
  split
  · exact .refl _
  · split
    · exact .refl _
    · refine .trans ?_ (rests_modifyUnit _ _ other (LoadUnit.rests_unbindHost _))
      rw [unit_notifyDebuggerUnload]
      exact .refl _

/-- Nothing that a delegating client has done at once does work for a unit. -/
theorem rests_complete {operation : Operation}
    (asked : Repertoire.delegating world operation) (me : ThreadId)
    (known : key < world.unitCount) :
    (world.unit key).Rests ((operation.complete world me).1.unit key) := by
  cases operation with
  | create home image container =>
      rw [complete_create, unit_createUnit, if_neg (Nat.ne_of_gt known)]
      exact .refl _
  | addDependency unit dependency =>
      simp only [Operation.complete, addDependency]
      split
      · exact rests_modifyUnit world unit key ⟨⟨rfl, rfl, rfl⟩, rfl, rfl⟩
      · exact .refl _
  | unload through unit => exact rests_unloadUnit world through unit key
  | debugging unit =>
      rw [complete_debugging]
      exact rests_debuggingConfig world unit key
  | debuggerLoad unit flags attaching =>
      exact rests_notifyDebuggerLoad world unit key flags attaching
  | debuggerUnload unit =>
      simp only [Operation.complete, unit_notifyDebuggerUnload]
      exact .refl _
  | latch unit kind => exact rests_claim world unit key kind
  | dropUnit unit =>
      simp only [Operation.complete, dropUnit]
      split
      · exact rests_modifyUnit world unit key ⟨⟨rfl, rfl, rfl⟩, rfl, rfl⟩
      · exact .refl _
  | dropDomain home =>
      simp only [Operation.complete, dropDomain]
      split <;> exact .refl _
  | setError | container | incremental => exact asked.elim
  | _ => exact .refl _

theorem rests_collect (world : World) (pinned : List UnitKey) (key : UnitKey) :
    (world.unit key).Rests ((world.collect pinned).unit key) := by
  have survives := survives_collect world key pinned
  generalize (world.collect pinned).unit key = later at survives ⊢
  cases survives with
  | spared => exact .refl _
  | destroyed => exact (LoadUnit.rests_unbindHost _).trans ⟨⟨rfl, rfl, rfl⟩, rfl, rfl⟩

end World

end LoadLadder
