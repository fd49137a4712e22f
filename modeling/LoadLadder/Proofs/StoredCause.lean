import LoadLadder.Proofs.ThreadFrames

/-!
# What a stored cause stops

A stored cause keeps every further sub-step of its unit from starting.  It does
not stop the sub-steps that are in flight: a driver looks for a cause before a
sub-step and not after it, so the level of a sub-step whose initializer or hook
stores the cause of its own unit is reported and raised all the same.  This file
shows that in one thread nothing else escapes a stored cause.  A second thread can
store the cause between the claim of a latch and the notice that goes with it, which
are one act here.
-/

namespace LoadLadder

/-- The level that a task is about to give a unit, if any. -/
def Task.inFlight (key : UnitKey) : Task → List Level
  | .subStep unit level _ => if unit = key then [level] else []
  | .drive unit _ (.raise level) => if unit = key then [level] else []
  | _ => []

/-- The level that a waiting sub-step or driver is about to give a unit, if
any. -/
def Waiting.inFlight (key : UnitKey) : Waiting → List Level
  | .onSubStep unit _ level => if unit = key then [level] else []
  | .onInitializer unit level _ _ => if unit = key then [level] else []
  | .onHook unit level _ => if unit = key then [level] else []
  | _ => []

/-- The levels of the sub-steps of a unit that a thread is in, innermost
first. -/
def Thread.inFlight (key : UnitKey) (thread : Thread) : List Level :=
  thread.task.inFlight key ++ thread.stack.flatMap (Waiting.inFlight key)

/-- What a task tells the listeners of a unit that became active, if that is what
it does. -/
def Task.announcing (key : UnitKey) : Task → List Snapshot
  | .announce unit _ snapshot _ => if unit = key then [snapshot] else []
  | _ => []

/-- What a waiting announcement of a unit tells the listeners. -/
def Waiting.announcing (key : UnitKey) : Waiting → List Snapshot
  | .onListener unit _ snapshot _ => if unit = key then [snapshot] else []
  | _ => []

/-- The announcements of a unit that a thread is in, innermost first. -/
def Thread.announcing (key : UnitKey) (thread : Thread) : List Snapshot :=
  thread.task.announcing key ++ thread.stack.flatMap (Waiting.announcing key)

namespace World

variable {world next : World} {repertoire : Repertoire} {me : ThreadId}
  {thread after : Thread} {deeds : List Deed} {key : UnitKey}

/-- No load begins with a sub-step of a failed unit. -/
theorem inFlight_of_begins (failed : (world.unit key).isError = true)
    {unit : UnitKey} {task : Task} (begins : task.Begins world unit) :
    task.inFlight key = [] := by
  cases begins with
  | answers | drives => rfl
  | runs level healthy =>
      have apart : unit ≠ key := by
        rintro rfl
        rw [failed] at healthy
        contradiction
      simp [Task.inFlight, apart]

/-- No step takes up another sub-step of a failed unit. -/
theorem inFlight_stepped (stepped : world.Stepped me thread next after)
    (failed : (world.unit key).isError = true) :
    after.inFlight key <:+ thread.inFlight key := by
  cases stepped with
  | @climbs other target level stack short healthy above =>
      have apart : other ≠ key := by
        rintro rfl
        rw [failed] at healthy
        contradiction
      simp [Thread.inFlight, Task.inFlight, Waiting.inFlight, apart]
  | refused asks kept goes =>
      rcases asks with rfl | rfl <;> rcases goes with rfl | rfl <;>
        exact List.suffix_rfl
  | initializes runs =>
      rcases runs with ⟨-, rfl⟩ | ⟨-, rfl⟩ <;> exact List.suffix_rfl
  | reported goes =>
      rcases goes with ⟨-, rfl⟩ | ⟨-, rfl⟩ <;> exact List.suffix_rfl
  | @activates other dependency rest stack =>
      have before : Task.inFlight key
          (.activateDependencies other (dependency :: rest)) = [] := rfl
      have begun : (Task.ensure world (world.unit other).home dependency
          .active).inFlight key = [] :=
        inFlight_of_begins failed (begins_ensure _ _ _ _)
      simp [Thread.inFlight, Waiting.inFlight, before, begun]
  | _ => simp [Thread.inFlight, Task.inFlight, Waiting.inFlight]

theorem inFlight_call (task : Task) (free : task.inFlight key = [])
    (turn : world.step me thread = none) :
    (thread.call task).inFlight key = thread.inFlight key := by
  rcases turn_cases turn with
    ⟨callback, stack, rfl⟩ | ⟨reply, rfl⟩ | ⟨reply, callback, stack, rfl⟩ <;>
  · simp only [Thread.call, Thread.inFlight, free]
    rfl

theorem inFlight_act (act : world.Act repertoire me thread deeds next after)
    (failed : (world.unit key).isError = true) :
    after.inFlight key <:+ thread.inFlight key := by
  cases act with
  | step step => exact inFlight_stepped (stepped_of_step step) failed
  | operate => exact List.suffix_rfl
  | @call operation task turn asked granted loads =>
      obtain ⟨unit, begins⟩ := begins_of_loads loads
      rw [inFlight_call task (inFlight_of_begins failed begins) turn]
  | resume answered =>
      subst answered
      exact List.suffix_rfl
  | finish result called =>
      subst called
      exact List.suffix_rfl

theorem mem_inFlight_of_raises {level : Level}
    (supports : world.Supports thread) (raises : Raises thread key level) :
    level ∈ thread.inFlight key := by
  cases raises with
  | drive raises =>
      subst raises
      simp [Thread.inFlight, Task.inFlight]
  | @publish level rest stack publishes =>
      subst publishes
      cases loaded_of_publish supports.2.1
      simp [Thread.inFlight, Task.inFlight]

/-- A failed unit gets no level but those in flight. -/
theorem level_act_of_failed
    (act : world.Act repertoire me thread deeds next after)
    (known : key < world.unitCount) (supports : world.Supports thread) :
    (next.unit key).level = (world.unit key).level ∨
      (next.unit key).level ∈ thread.inFlight key := by
  rcases level_act act known with same | ⟨level, raises, raised⟩
  · exact Or.inl same
  · rcases Level.max_eq_left_or_right (world.unit key).level level with
      kept | lifted
    · exact Or.inl (raised.trans kept)
    · rw [raised, lifted]
      exact Or.inr (mem_inFlight_of_raises supports raises)

/-- What may still be said about a failed unit. -/
def Escapes (thread : Thread) (key : UnitKey) : Notice → Prop
  | .transition level => level ∈ thread.inFlight key
  | .moduleLoaded => .loaded ∈ thread.inFlight key
  | .tracing code => code = .ok ∧ .deliverEvents ∈ thread.inFlight key
  | .profiler _ => False
  | .unitLoaded _ snapshot => snapshot ∈ thread.announcing key
  | _ => True

theorem escapes_of_loadNotices {flags : AttachFlags} {other : UnitKey}
    {notice : Notice} (said : notice ∈ world.loadNotices other flags) :
    Escapes thread key notice := by
  simp only [loadNotices] at said
  split at said
  · rcases List.mem_append.mp said with unitLoad | moduleLoad
    · split at unitLoad
      · rw [List.mem_singleton.mp unitLoad]
        trivial
      · simp at unitLoad
    · split at moduleLoad
      · simp at moduleLoad
      · rw [List.mem_singleton.mp moduleLoad]
        trivial
  · simp at said

theorem escapes_of_unloadNotices {other : UnitKey} {notice : Notice}
    (said : notice ∈ world.unloadNotices other) :
    Escapes thread key notice := by
  simp only [unloadNotices] at said
  split at said
  · simp only [List.mem_cons, List.not_mem_nil, or_false] at said
    rcases said with rfl | rfl <;> trivial
  · simp at said

theorem escapes_of_actionNotices {level : Level} {action : Action}
    {rest : List Action} {stack : List Waiting} {notice : Notice}
    (profiled : (world.unit key).latches.isSet .profiler = true)
    (supports : world.Supports ⟨.subStep key level (action :: rest), stack⟩)
    (said : notice ∈ world.actionNotices key level action) :
    Escapes ⟨.subStep key level (action :: rest), stack⟩ key notice := by
  have flying : level ∈ Thread.inFlight key
      ⟨.subStep key level (action :: rest), stack⟩ := by
    simp [Thread.inFlight, Task.inFlight]
  have member : action ∈ level.actions :=
    supports.2.1.subset List.mem_cons_self
  cases action with
  | announceProfiler => simp [actionNotices, profiled] at said
  | announceTracing =>
      simp only [actionNotices] at said
      split at said
      · simp at said
      · rw [List.mem_singleton.mp said]
        have delivers : level = .deliverEvents := by
          cases level <;> simp [Level.actions] at member ⊢
        rw [delivers] at flying
        exact ⟨rfl, by rw [delivers]; exact flying⟩
  | announceDebugger =>
      simp only [actionNotices] at said
      split at said
      · simp at said
      · exact escapes_of_loadNotices said
  | showInspection =>
      rw [List.mem_singleton.mp said]
      have loads : level = .loaded := by
        cases level <;> simp [Level.actions] at member ⊢
      rw [loads] at flying
      rw [loads]
      exact flying
  | reportTransition =>
      rw [List.mem_singleton.mp said]
      exact flying
  | _ => simp [actionNotices] at said

theorem told_of_failed (act : world.Act repertoire me thread deeds next after)
    (failed : (world.unit key).isError = true)
    (profiled : (world.unit key).latches.isSet .profiler = true)
    (supports : world.Supports thread) {notice : Notice}
    (told : .told key notice ∈ deeds) : Escapes thread key notice := by
  cases act with
  | call | resume | finish => simp at told
  | step step =>
      obtain ⟨task, stack⟩ := thread
      simp only [World.deeds] at told
      split at told
      · rename_i other _ level fault
        obtain ⟨_, said, same⟩ := List.mem_map.mp told
        cases same
        simp [causeNotices_of_failed failed] at said
      · simp at told
      · obtain ⟨rfl, said⟩ := told_mem_actionDeeds world key told
        exact escapes_of_actionNotices profiled supports said
      · rename_i other _ snapshot listener rest
        simp only [List.mem_singleton, Deed.told.injEq] at told
        obtain ⟨rfl, rfl⟩ := told
        simp [Escapes, Thread.announcing, Task.announcing]
      · simp at told
  | operate operation turn asked granted instant =>
      cases operation with
      | setError unit cause =>
          obtain ⟨_, said, same⟩ := List.mem_map.mp told
          cases same
          simp [causeNotices_of_failed failed] at said
      | debuggerLoad unit flags attaching =>
          simp only [Operation.deeds] at told
          split at told
          · simp at told
          · obtain ⟨_, said, same⟩ := List.mem_map.mp told
            cases same
            exact escapes_of_loadNotices said
      | debuggerUnload unit =>
          obtain ⟨_, said, same⟩ := List.mem_map.mp told
          cases same
          exact escapes_of_unloadNotices said
      | unload through unit =>
          simp only [Operation.deeds] at told
          split at told
          · simp at told
          · split at told
            · simp at told
            · obtain ⟨_, said, same⟩ := List.mem_map.mp told
              cases same
              exact escapes_of_unloadNotices said
      | container unit call => simp [Operation.deeds] at told
      | _ => simp [Operation.deeds] at told

theorem announcing_of_begins {unit : UnitKey} {task : Task}
    (begins : task.Begins world unit) : task.announcing key = [] := by
  cases begins <;> rfl

@[simp]
theorem announcing_ensure (through : DomainKey) (other : UnitKey)
    (target : Level) :
    (Task.ensure world through other target).announcing key = [] :=
  announcing_of_begins (begins_ensure world through other target)

/-- A unit is announced only once it is active, and only if its latch was
free. -/
theorem announcing_stepped (stepped : world.Stepped me thread next after) :
    after.announcing key <:+ thread.announcing key ∨
      (world.unit key).level = .active ∧
        (world.unit key).latches.isSet .hostLoadEvent = false := by
  cases stepped with
  | @announces other target stack active untold =>
      by_cases same : other = key
      · subst same
        exact Or.inr ⟨LoadUnit.eq_active_of_isActive active, untold⟩
      · refine Or.inl ?_
        simp [Thread.announcing, Task.announcing, same]
  | refused asks kept goes =>
      rcases asks with rfl | rfl <;> rcases goes with rfl | rfl <;>
        exact Or.inl List.suffix_rfl
  | initializes runs =>
      rcases runs with ⟨-, rfl⟩ | ⟨-, rfl⟩ <;> exact Or.inl List.suffix_rfl
  | reported goes =>
      rcases goes with ⟨-, rfl⟩ | ⟨-, rfl⟩ <;> exact Or.inl List.suffix_rfl
  | @activates other dependency rest stack =>
      have before : Task.announcing key
          (.activateDependencies other (dependency :: rest)) = [] := rfl
      refine Or.inl ?_
      simp [Thread.announcing, Waiting.announcing, before]
  | _ =>
      refine Or.inl ?_
      simp [Thread.announcing, Task.announcing, Waiting.announcing]

theorem announcing_act
    (act : world.Act repertoire me thread deeds next after) :
    after.announcing key <:+ thread.announcing key ∨
      (world.unit key).level = .active ∧
        (world.unit key).latches.isSet .hostLoadEvent = false := by
  cases act with
  | step step => exact announcing_stepped (stepped_of_step step)
  | operate => exact Or.inl List.suffix_rfl
  | @call operation task turn asked granted loads =>
      obtain ⟨unit, begins⟩ := begins_of_loads loads
      have free : task.announcing key = [] := announcing_of_begins begins
      refine Or.inl ?_
      rcases turn_cases turn with
        ⟨callback, stack, rfl⟩ | ⟨reply, rfl⟩ |
        ⟨reply, callback, stack, rfl⟩ <;>
      · simp only [Thread.call, Thread.announcing, free]
        exact List.suffix_rfl
  | resume answered =>
      subst answered
      exact Or.inl List.suffix_rfl
  | finish result called =>
      subst called
      exact Or.inl List.suffix_rfl

end World

/-- A failed unit has told the profiler. -/
def LoadUnit.Profiled (unit : LoadUnit) : Prop :=
  unit.isError = true → unit.latches.isSet .profiler = true

theorem LoadUnit.invariant_profiled : LoadUnit.Invariant LoadUnit.Profiled where
  fresh := by
    intro id home image container presence failed
    simp [isError, CauseCell.isSet] at failed
  still := by
    intro before after still profiled failed
    rw [isError, still.failure] at failed
    exact still.told _ (profiled failed)
  raised := fun level profiled => profiled
  failed := by
    intro unit cause healthy profiled failed
    simp
  extended := fun dependencies profiled => profiled

namespace Crew

/-- A sub-step of a unit to a level is in flight in some thread. -/
def InFlight (crew : Crew) (key : UnitKey) (level : Level) : Prop :=
  ∃ me, level ∈ (crew.thread me).inFlight key

/-- A unit is active and has not been announced yet, or is about to become
active, or is being announced. -/
def MayAnnounce (crew : Crew) (key : UnitKey) : Prop :=
  (∃ me, (crew.thread me).announcing key ≠ []) ∨
  crew.InFlight key .active ∨
  ((crew.world.unit key).level = .active ∧
    (crew.world.unit key).latches.isSet .hostLoadEvent = false)

/-- What may still be said about a unit that has failed. -/
def MaySay (crew : Crew) (key : UnitKey) : Notice → Prop
  | .transition level => crew.InFlight key level
  | .moduleLoaded => crew.InFlight key .loaded
  | .tracing code => code = .ok ∧ crew.InFlight key .deliverEvents
  | .profiler _ => False
  | .unitLoaded _ _ => crew.MayAnnounce key
  | _ => True

/-- What has become of a unit that had failed in a crew, after deeds that led to
a later crew. -/
structure Stopped (crew : Crew) (key : UnitKey) (cause : Cause)
    (deeds : List Deed) (later : Crew) : Prop where
  /-- The cause is the same. -/
  kept : (later.world.unit key).failure.cause = some cause
  /-- No sub-step of the unit has started. -/
  flying : ∀ me,
    (later.thread me).inFlight key <:+ (crew.thread me).inFlight key
  /-- The level is the same, or that of a sub-step that was in flight. -/
  level : (later.world.unit key).level = (crew.world.unit key).level ∨
    crew.InFlight key (later.world.unit key).level
  /-- No announcement of the unit has started, unless it was due. -/
  announced : crew.MayAnnounce key ∨
    ∀ me, (later.thread me).announcing key = []
  /-- Only what was in flight has been said. -/
  said : ∀ notice, .told key notice ∈ deeds → crew.MaySay key notice

variable {repertoire : Repertoire} {first crew next later : Crew}
  {before deeds after : List Deed} {key : UnitKey} {cause : Cause}

theorem stopped_start (stored : (crew.world.unit key).failure.cause =
    some cause) : crew.Stopped key cause [] crew where
  kept := stored
  flying := fun me => List.suffix_rfl
  level := Or.inl rfl
  announced := by
    by_cases quiet : ∀ me, (crew.thread me).announcing key = []
    · exact Or.inr quiet
    · obtain ⟨me, announces⟩ := not_forall.mp quiet
      exact Or.inl (Or.inl ⟨me, announces⟩)
  said := by simp

theorem maySay_of_escapes (stopped : crew.Stopped key cause deeds later)
    {me : ThreadId} {notice : Notice}
    (escapes : World.Escapes (later.thread me) key notice) :
    crew.MaySay key notice := by
  cases notice with
  | transition level => exact ⟨me, (stopped.flying me).subset escapes⟩
  | moduleLoaded => exact ⟨me, (stopped.flying me).subset escapes⟩
  | tracing code =>
      exact ⟨escapes.1, me, (stopped.flying me).subset escapes.2⟩
  | profiler code => exact escapes
  | unitLoaded listener snapshot =>
      rcases stopped.announced with due | quiet
      · exact due
      · have said : snapshot ∈ (later.thread me).announcing key := escapes
        rw [quiet me] at said
        simp at said
  | _ => trivial

theorem stopped_move (stopped : crew.Stopped key cause deeds later)
    (known : key < crew.world.unitCount)
    (grows : crew.world.Grows later.world) (framed : later.Framed)
    (profiled : later.world.AllUnits LoadUnit.Profiled)
    (move : Move repertoire later after next) :
    crew.Stopped key cause (deeds ++ after) next := by
  have knownLater := Nat.lt_of_lt_of_le known grows.count
  have kept := ((grows_move move).unit key knownLater).failure cause
    stopped.kept
  have failed : (later.world.unit key).isError = true := by
    simp [LoadUnit.isError, CauseCell.isSet, stopped.kept]
  cases move with
  | collect =>
      have alike := World.alike_collect later.world later.pinned
      refine ⟨kept, stopped.flying, ?_, stopped.announced,
        by simpa using stopped.said⟩
      change ((later.world.collect later.pinned).unit key).level = _ ∨
        crew.InFlight key ((later.world.collect later.pinned).unit key).level
      rw [(alike.unit key).level]
      exact stopped.level
  | @act me world thread deeds member act =>
      have supports := framed.supports me
      refine ⟨kept, ?_, ?_, ?_, ?_⟩
      · intro you
        rw [thread_acted member]
        split
        · rename_i same
          subst same
          exact (World.inFlight_act act failed).trans (stopped.flying me)
        · exact stopped.flying you
      · rcases World.level_act_of_failed act knownLater supports with
          same | flying
        · change (world.unit key).level = _ ∨
            crew.InFlight key (world.unit key).level
          rw [same]
          exact stopped.level
        · exact Or.inr ⟨me, (stopped.flying me).subset flying⟩
      · rcases stopped.announced with due | quiet
        · exact Or.inl due
        rcases World.announcing_act act with shorter | ⟨active, untold⟩
        · refine Or.inr fun you => ?_
          rw [thread_acted member]
          split
          · rw [quiet me] at shorter
            exact List.suffix_nil.mp shorter
          · exact quiet you
        · refine Or.inl ?_
          rcases stopped.level with same | flying
          · refine Or.inr (Or.inr ⟨same ▸ active, ?_⟩)
            have told := (grows.unit key known).told .hostLoadEvent
            rw [untold] at told
            simpa using told
          · rw [active] at flying
            exact Or.inr (Or.inl flying)
      · intro notice told
        rcases List.mem_append.mp told with old | new
        · exact stopped.said notice old
        · exact maySay_of_escapes stopped (World.told_of_failed act failed
            (profiled key knownLater failed) supports new)

/-- From the moment a cause is stored its unit is stopped, except for what was in
flight at that moment, whatever the callbacks of the thread ask for. -/
theorem stopped_of_stored_cause {setups : List Setup}
    (reached : Run .full (idle setups 1) before crew)
    (known : key < crew.world.unitCount)
    (stored : (crew.world.unit key).failure.cause = some cause)
    (continued : Run .full crew deeds later) :
    crew.Stopped key cause deeds later := by
  induction continued with
  | start => exact stopped_start stored
  | snoc run move ih =>
      exact stopped_move ih known (grows_run run)
        (framed_run (framed_run framed_idle reached) run)
        (allUnits_run LoadUnit.invariant_profiled (reached.trans run)) move

/-- If nothing of the unit is in flight and no announcement is due, it is
frozen. -/
theorem frozen_of_nothing_in_flight
    (stopped : crew.Stopped key cause deeds later)
    (landed : ∀ level, ¬ crew.InFlight key level)
    (announced : ¬ crew.MayAnnounce key) :
    (later.world.unit key).level = (crew.world.unit key).level ∧
    (∀ level, .told key (.transition level) ∉ deeds) ∧
    (∀ listener snapshot,
      .told key (.unitLoaded listener snapshot) ∉ deeds) ∧
    (∀ code, .told key (.tracing code) ∉ deeds) ∧
    (∀ code, .told key (.profiler code) ∉ deeds) := by
  refine ⟨stopped.level.resolve_right (landed _), ?_, ?_, ?_, ?_⟩
  · exact fun level told => landed level (stopped.said _ told)
  · exact fun listener snapshot told => announced (stopped.said _ told)
  · exact fun code told => landed _ (stopped.said _ told).2
  · exact fun code told => stopped.said _ told

/-- A sub-step that a driver runs is not stopped by a cause: its end is reported
and its level is raised, whether or not the unit has failed meanwhile. -/
theorem driven_sub_step_goes_on {me : ThreadId} {target level : Level}
    {stack : List Waiting} (member : me < crew.threads.length)
    (ending : crew.thread me =
      ⟨.subStep key level [.reportTransition],
        .onSubStep key target level :: stack⟩)
    (calls : (crew.world.homeOf key).hook.client = false) :
    ∃ later, Run .full crew
      [.told key (.transition level), .completed key level] later ∧
      (later.world.unit key).level =
        max (crew.world.unit key).level level := by
  let told := if (crew.world.homeOf key).hook.records then
    crew.world.emit (.transition (crew.world.unit key).name level)
    else crew.world
  let driver : Waiting := .onSubStep key target level
  let reported := { crew with world := told }.setThread me
    ⟨.subStep key level [], driver :: stack⟩
  let answered := { reported with world := told }.setThread me
    ⟨.answer (.ok true), driver :: stack⟩
  let raising := { answered with world := told }.setThread me
    ⟨.drive key target (.raise level), stack⟩
  have reports : crew.world.step me ⟨.subStep key level [.reportTransition],
      driver :: stack⟩ =
      some (told, ⟨.subStep key level [], driver :: stack⟩) := by
    simp [World.step, World.stepSubStep, calls, told]
  have still : told.unit key = crew.world.unit key := by
    simp only [told]
    split <;> rfl
  have memberReported : me < reported.threads.length := by
    simpa [reported, setThread] using member
  have memberAnswered : me < answered.threads.length := by
    simpa [answered, setThread] using memberReported
  have memberRaising : me < raising.threads.length := by
    simpa [raising, setThread] using memberAnswered
  have first : Run .full crew [.told key (.transition level)] reported :=
    run_step member ending reports
  have second : Run .full reported [.completed key level] answered :=
    run_step memberReported
      ((thread_acted member told _ me).trans (if_pos rfl)) rfl
  have third : Run .full answered [] raising :=
    run_step memberAnswered
      ((thread_acted memberReported told _ me).trans (if_pos rfl)) rfl
  have fourth : Run .full raising []
      ({ raising with
        world := told.modifyUnit key fun unit => unit.raiseLevel level
      }.setThread me ⟨.drive key target (.release .again), stack⟩) :=
    run_step memberRaising
      ((thread_acted memberAnswered told _ me).trans (if_pos rfl)) rfl
  refine ⟨_, ((first.trans second).trans third).trans fourth, ?_⟩
  change ((told.modifyUnit key fun unit => unit.raiseLevel level).unit
    key).level = _
  rw [World.level_raiseLevel, if_pos rfl, still]

/-- The initializer has stored the cause of its own unit. -/
def blamed : Crew :=
  initializing.ask 0 (.setError 0 ⟨.fail, "broken", "App", .active⟩)

/-- The initializer has ended without a fault. -/
def blamedInVain : Crew :=
  blamed.endCallback 0 (.ok ())

/-- The load has ended as well. -/
def activeInVain : Crew :=
  blamedInVain.follow (List.replicate 14 0)

/-- What was done after the initializer had stored the cause. -/
def deedsInVain : List Deed :=
  blamedInVain.followDeeds (List.replicate 14 0)

theorem blamed_reached :
    Run .full (idle [.observed] 1)
      (deedsBefore ++ initializing.askDeeds
        (.setError 0 ⟨.fail, "broken", "App", .active⟩)) blamed :=
  initializing_reached.trans (run_ask (by decide +kernel) trivial)

theorem activeInVain_reached :
    Run .full blamed deedsInVain activeInVain := by
  have ended : Run .full blamed [] blamedInVain :=
    run_endCallback (by decide +kernel) (.ok ())
  have ran : Run .full blamedInVain deedsInVain activeInVain :=
    run_follow (by decide +kernel)
  have run := ended.trans ran
  rw [List.nil_append] at run
  exact run

/-- The driver raises the level after the cause was stored, reports it, and
announces the failed unit as active. -/
theorem stored_cause_does_not_freeze :
    (∃ before, Run .full (idle [.observed] 1) before blamed) ∧
    (blamed.world.unit 0).isError = true ∧
    (blamed.world.unit 0).level = .loaded ∧
    Run .full blamed deedsInVain activeInVain ∧
    (activeInVain.world.unit 0).level = .active ∧
    .told 0 (.transition .active) ∈ deedsInVain ∧
    .told 0 (.unitLoaded .recorder (activeInVain.world.unit 0).snapshot) ∈
      deedsInVain :=
  ⟨⟨_, blamed_reached⟩, by decide +kernel, by decide +kernel, activeInVain_reached,
    by decide +kernel, by decide +kernel, by decide +kernel⟩

/-- Nothing but the activation that was in flight escaped the cause. -/
theorem stopped_blamed :
    blamed.Stopped 0 ⟨.fail, "broken", "App", .active⟩ deedsInVain
      activeInVain :=
  stopped_of_stored_cause blamed_reached (by decide +kernel)
    (by decide +kernel) activeInVain_reached

end Crew

end LoadLadder
