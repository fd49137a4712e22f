import LoadLadder.Proofs.ThreadSteps
import LoadLadder.Proofs.WorldEffects

/-!
# What happens to a unit

A recording knows units by name, holds only what the plugged-in consumers heard,
and says nothing about sub-steps that tell nobody.  This file names what a step
or an operation does to a unit, whoever listens, and shows that the recording
grows by exactly the part of it that a recorder hears.
-/

namespace LoadLadder

/-- Something that is said about a unit. -/
inductive Notice
  /-- Tracing hears that the load finished. -/
  | tracing (code : ResultCode)
  /-- The profiler hears that the load finished. -/
  | profiler (code : ResultCode)
  /-- The debugger hears of the unit. -/
  | unitLoad (config : DebuggingConfig)
  /-- The debugger hears of the module. -/
  | moduleLoad
  /-- The debugger hears that the module goes away. -/
  | moduleUnload
  /-- The debugger hears that the unit goes away. -/
  | unitUnload
  /-- Inspection tooling hears that the module is loaded. -/
  | moduleLoaded
  /-- The scheduling hook hears that a sub-step is over. -/
  | transition (level : Level)
  /-- A listener receives the unit as active. -/
  | unitLoaded (listener : Listener) (snapshot : Snapshot)
  deriving DecidableEq, Repr

/-- Something that happens to a unit. -/
inductive Deed
  /-- The loader says something about the unit. -/
  | told (unit : UnitKey) (notice : Notice)
  /-- The client has the unit's container say something. -/
  | relayed (unit : UnitKey) (notice : Notice)
  /-- The sub-step of a level succeeds. -/
  | completed (unit : UnitKey) (level : Level)
  /-- A sub-step that no driver runs raises the unit's level. -/
  | bypassed (unit : UnitKey)
  deriving DecidableEq, Repr

/-- What the loader says in a list of deeds about one unit, in order. -/
def toldAbout (key : UnitKey) (deeds : List Deed) : List Notice :=
  deeds.filterMap fun deed => match deed with
    | .told unit notice => if unit = key then some notice else none
    | _ => none

/-- The configuration that the debugger is sent with a unit. -/
def LoadUnit.sentConfig (unit : LoadUnit) : DebuggingConfig :=
  match unit.debuggingConfig.2 with
  | .ok config => config
  | .error _ => {}

namespace World

/-- What a recorder that is plugged in where the domain has it writes down. -/
def record (world : World) (key : UnitKey) : Notice → List Event
  | .tracing code =>
      match (world.sinksOf key).tracing with
      | .recorder =>
          [.tracingLoadFinished (world.unit key).container.name code]
      | .log => []
  | .profiler code =>
      if (world.sinksOf key).profiler then
        [.profilerLoadFinished (world.unit key).container.name code]
      else []
  | .unitLoad config => [.debuggerUnitLoad (world.unit key).name config]
  | .moduleLoad => [.debuggerModuleLoad (world.unit key).name]
  | .moduleUnload => [.debuggerModuleUnload (world.unit key).name]
  | .unitUnload => [.debuggerUnitUnload (world.unit key).name]
  | .moduleLoaded =>
      if (world.sinksOf key).inspection then
        [.moduleLoaded (world.unit key).name]
      else []
  | .transition level =>
      if (world.homeOf key).hook.records then
        [.transition (world.unit key).name level]
      else []
  | .unitLoaded .recorder snapshot => [.unitLoaded snapshot.name]
  | .unitLoaded (.client _) _ => []

/-- What the recorder writes down of a deed. -/
def recordDeed (world : World) : Deed → List Event
  | .told key notice => world.record key notice
  | .relayed key notice => world.record key notice
  | .completed _ _ => []
  | .bypassed _ => []

/-- A cause is told when it is kept. -/
def causeNotices (world : World) (key : UnitKey) (cause : Cause) :
    List Notice :=
  if (world.unit key).isError then []
  else .tracing cause.code ::
    if (world.unit key).latches.isSet .profiler then []
    else [.profiler cause.code]

/-- A debugger that listens is told about the unit if the flags ask for it, and
about the module once. -/
def loadNotices (world : World) (key : UnitKey) (flags : AttachFlags) :
    List Notice :=
  let unit := world.unit key
  if (world.sinksOf key).isDebuggerAttached then
    (if flags.contains .assemblyLoad then
      [.unitLoad unit.sentConfig] else []) ++
    (if unit.latches.isSet .debuggerModule then [] else [.moduleLoad])
  else []

/-- A debugger that listens is told that a unit goes away. -/
def unloadNotices (world : World) (key : UnitKey) : List Notice :=
  if (world.sinksOf key).isDebuggerAttached then [.moduleUnload, .unitUnload]
  else []

/-- What an action of a sub-step says. -/
def actionNotices (world : World) (key : UnitKey) (level : Level) :
    Action → List Notice
  | .announceProfiler =>
      if (world.unit key).latches.isSet .profiler then [] else [.profiler .ok]
  | .announceTracing =>
      if (world.unit key).latches.isSet .tracing then [] else [.tracing .ok]
  | .announceDebugger =>
      if (world.unit key).latches.isSet .debugger then []
      else world.loadNotices key .assemblyLoad
  | .showInspection => [.moduleLoaded]
  | .reportTransition => [.transition level]
  | _ => []

/-- The sub-step on top of the stack is run by a driver. -/
def isDriven : List Waiting → Bool
  | .onSubStep _ _ _ :: _ => true
  | _ => false

/-- What an action of a sub-step does. -/
def actionDeeds (world : World) (key : UnitKey) (level : Level)
    (stack : List Waiting) : Action → List Deed
  | .publish =>
      if (world.unit key).level < .loaded ∧ isDriven stack = false then
        [.bypassed key]
      else []
  | action => (world.actionNotices key level action).map (.told key)

/-- What the next step of a thread does. -/
def deeds (world : World) (thread : Thread) : List Deed :=
  match thread.task with
  | .drive key _ (.fail level fault) =>
      (world.causeNotices key
        (.capture fault (world.unit key).name level)).map (.told key)
  | .subStep key level [] => [.completed key level]
  | .subStep key level (action :: _) =>
      world.actionDeeds key level thread.stack action
  | .announce key _ snapshot (listener :: _) =>
      [.told key (.unitLoaded listener snapshot)]
  | _ => []

end World

/-- What a direct call of a container says. -/
def ContainerCall.notices (attached : Bool) : ContainerCall → List Notice
  | .tracing code => [.tracing code]
  | .profiler code => [.profiler code]
  | .debuggerLoad flags =>
      if flags.contains .moduleLoad && attached then [.moduleLoad] else []
  | .debuggerUnload => if attached then [.moduleUnload] else []
  | _ => []

/-- What an operation that completes at once does. -/
def Operation.deeds (world : World) : Operation → List Deed
  | setError unit cause => (world.causeNotices unit cause).map (.told unit)
  | debuggerLoad unit flags attaching =>
      if attaching || !(world.unit unit).latches.isSet .debugger then []
      else (world.loadNotices unit flags).map (.told unit)
  | debuggerUnload unit => (world.unloadNotices unit).map (.told unit)
  | unload through unit =>
      if (world.unit unit).home ≠ through then []
      else
        match (world.domain through).registered? (world.unit unit).id with
        | none => []
        | some removed => (world.unloadNotices removed).map (.told removed)
  | container unit call =>
      (call.notices (world.sinksOf unit).isDebuggerAttached).map
        (.relayed unit)
  | _ => []

namespace World

variable (world : World) (key : UnitKey)

/-- A unit that has failed before stays silent. -/
theorem causeNotices_of_failed {world : World} {key : UnitKey}
    (failed : (world.unit key).isError = true) (cause : Cause) :
    world.causeNotices key cause = [] := by
  simp [causeNotices, failed]

/-- What a recorder writes down depends on names and plugs only. -/
theorem record_congr {world next : World} {key : UnitKey}
    (sinks : next.sinksOf key = world.sinksOf key)
    (hook : (next.homeOf key).hook = (world.homeOf key).hook)
    (image : (next.unit key).image = (world.unit key).image)
    (container : (next.unit key).container = (world.unit key).container) :
    next.record key = world.record key := by
  funext notice
  rcases notice with _ | _ | _ | _ | _ | _ | _ | _ | ⟨listener, snapshot⟩
  case unitLoaded => cases listener <;> rfl
  all_goals simp only [record, LoadUnit.name, sinks, hook, image, container]

theorem record_of_still {world next : World} (still : world.Still next)
    (key : UnitKey) : next.record key = world.record key := by
  have unit := still.unit key
  have home := still.domain (world.unit key).home
  refine record_congr ?_ ?_ unit.image unit.container
  · rw [sinksOf, homeOf, unit.home, home.sinks]
    rfl
  · rw [homeOf, unit.home, home.hook]
    rfl

theorem events_tellTracing (code : ResultCode) :
    (world.tellTracing key code).events =
      world.events ++ world.record key (.tracing code) := by
  unfold tellTracing record
  cases (world.sinksOf key).tracing <;> simp

theorem events_tellProfiler (code : ResultCode) :
    (world.tellProfiler key code).events =
      world.events ++ world.record key (.profiler code) := by
  unfold tellProfiler record
  split <;> simp

theorem events_once (kind : ListenerKind) (action : World → World) :
    (world.once key kind action).events =
      if (world.unit key).latches.isSet kind then world.events
      else (action (world.claim key kind).1).events := by
  cases told : (world.unit key).latches.isSet kind <;>
    simp [once, claim, told]

theorem events_setError (cause : Cause) :
    (world.setError key cause).1.events =
      world.events ++
        (world.causeNotices key cause).flatMap (world.record key) := by
  unfold setError CauseCell.record causeNotices LoadUnit.isError CauseCell.isSet
  cases (world.unit key).failure.cause with
  | some stored => simp
  | none =>
      let failed := world.modifyUnit key fun unit =>
        { unit with failure := ⟨some cause⟩ }
      let traced := failed.tellTracing key cause.code
      have failedRecord : failed.record key = world.record key := by
        refine record_congr ?_ ?_ ?_ ?_ <;> simp [failed, sinksOf, homeOf]
      have tracedRecord : traced.record key = world.record key :=
        (record_of_still
          (alike_tellTracing failed key cause.code).still key).trans
          failedRecord
      have latches : (traced.unit key).latches = (world.unit key).latches := by
        simp [traced, failed]
      have tracedEvents : traced.events =
          world.events ++ world.record key (.tracing cause.code) := by
        rw [events_tellTracing, failedRecord]
        rfl
      change (traced.once key .profiler fun next =>
        next.tellProfiler key cause.code).events = _
      rw [events_once, events_tellProfiler, latches,
        record_of_still (still_claim traced key .profiler), tracedRecord]
      cases (world.unit key).latches.isSet .profiler with
      | true => simp [tracedEvents]
      | false =>
          have claimedEvents : (traced.claim key .profiler).1.events =
              traced.events := rfl
          simp [claimedEvents, tracedEvents]

theorem events_containerDebuggerLoad (flags : AttachFlags) :
    (world.containerDebuggerLoad key flags).1.events =
      world.events ++
        ((ContainerCall.debuggerLoad flags).notices
          (world.sinksOf key).isDebuggerAttached).flatMap
          (world.record key) := by
  unfold containerDebuggerLoad ContainerCall.notices Sinks.isDebuggerAttached
  cases covers : flags.contains .moduleLoad with
  | false => simp [covers]
  | true =>
      cases (world.sinksOf key).debugger <;> simp [covers, record]

theorem events_containerDebuggerUnload :
    (world.containerDebuggerUnload key).events =
      world.events ++
        (ContainerCall.debuggerUnload.notices
          (world.sinksOf key).isDebuggerAttached).flatMap
          (world.record key) := by
  unfold containerDebuggerUnload ContainerCall.notices
  split <;> simp_all [record]

theorem events_notifyDebuggerUnload :
    (world.notifyDebuggerUnload key).events =
      world.events ++
        (world.unloadNotices key).flatMap (world.record key) := by
  unfold notifyDebuggerUnload unloadNotices
  cases attached : (world.sinksOf key).isDebuggerAttached with
  | false => simp
  | true =>
      simp [containerDebuggerUnload, attached, record]

theorem contains_union_moduleLoad (flags : AttachFlags) :
    (flags.union .moduleLoad).contains .moduleLoad = true := by
  have absorbed (left right : UInt32) : (left ||| right) &&& right = right := by
    apply UInt32.eq_of_toBitVec_eq
    ext index bound
    simp only [UInt32.toBitVec_and, UInt32.toBitVec_or, BitVec.getElem_and,
      BitVec.getElem_or]
    cases left.toBitVec[index] <;> cases right.toBitVec[index] <;> rfl
  simp only [AttachFlags.contains, AttachFlags.union, absorbed, beq_self_eq_true]

theorem events_sendUnitLoad :
    (world.sendUnitLoad key).events =
      world.events ++
        world.record key (.unitLoad (world.unit key).sentConfig) := by
  have image := (world.unit key).alike_debuggingConfig.image
  cases decoded : (world.unit key).debuggingConfig.2 <;>
    simp only [sendUnitLoad, debuggingConfig, record, LoadUnit.sentConfig,
      LoadUnit.name, events_emit, events_modifyUnit, unit_modifyUnit, if_true,
      image, decoded]

/-- A world in which the debugger has just been told about a unit, if the flags
ask for it. -/
theorem events_informed {world informed : World} {key : UnitKey}
    (flags : AttachFlags)
    (unitLoad : informed = if flags.contains .assemblyLoad then
      world.sendUnitLoad key else world) :
    world.Alike informed ∧
      informed.events = world.events ++
        (if flags.contains .assemblyLoad then
          [.unitLoad (world.unit key).sentConfig] else []).flatMap
          (world.record key) := by
  subst unitLoad
  split
  · exact ⟨alike_sendUnitLoad world key, by
      simp [events_sendUnitLoad]⟩
  · exact ⟨.refl world, by simp⟩

theorem events_notifyDebuggerLoad (flags : AttachFlags) (attaching : Bool) :
    (world.notifyDebuggerLoad key flags attaching).1.events =
      world.events ++
        (if attaching || !(world.unit key).latches.isSet .debugger then []
          else world.loadNotices key flags).flatMap (world.record key) := by
  simp only [notifyDebuggerLoad, loadNotices]
  cases attaching with
  | true => simp
  | false =>
  cases (world.unit key).latches.isSet .debugger with
  | false => simp
  | true =>
  cases attached : (world.sinksOf key).isDebuggerAttached with
  | false => simp
  | true =>
  simp only [Bool.not_true, Bool.or_self, Bool.false_eq_true, if_false, if_true]
  generalize sent : (if flags.contains .assemblyLoad then
    world.sendUnitLoad key else world) = informed
  obtain ⟨alike, told⟩ := events_informed flags sent.symm
  have latches := (alike.unit key).latches
  have still := alike.still.trans (still_claim informed key .debuggerModule)
  have claimedEvents : (informed.claim key .debuggerModule).1.events =
      informed.events := rfl
  cases once : (world.unit key).latches.isSet .debuggerModule with
  | true =>
      have stale : (informed.claim key .debuggerModule).2 = false := by
        simp [claim, latches, once]
      simp [stale, claimedEvents, told]
  | false =>
      have fresh : (informed.claim key .debuggerModule).2 = true := by
        simp [claim, latches, once]
      have attachedStill : ((informed.claim key .debuggerModule).1.sinksOf
          key).isDebuggerAttached = true := by
        rw [sinksOf, homeOf, (still.unit key).home, (still.domain _).sinks]
        exact attached
      simp [fresh, events_containerDebuggerLoad, claimedEvents, told,
        record_of_still still, attachedStill, ContainerCall.notices,
        contains_union_moduleLoad]

theorem sentConfig_congr {first second : LoadUnit}
    (debugging : second.debugging = first.debugging)
    (image : second.image = first.image) :
    second.sentConfig = first.sentConfig := by
  simp only [LoadUnit.sentConfig, LoadUnit.debuggingConfig, debugging, image]
  cases first.debugging with
  | some config => rfl
  | none => cases DebuggingConfig.ofBlob first.image.debuggable <;> rfl

/-- Flagging a unit for the debugger does not change what the debugger is told
of it. -/
theorem loadNotices_claim (flags : AttachFlags) :
    (world.claim key .debugger).1.loadNotices key flags =
      world.loadNotices key flags := by
  have home : (world.claim key .debugger).1.sinksOf key =
      world.sinksOf key := by
    simp [sinksOf, homeOf, unit_claim]
  have config : ((world.claim key .debugger).1.unit key).sentConfig =
      (world.unit key).sentConfig :=
    sentConfig_congr (by simp [unit_claim]) (by simp [unit_claim])
  simp only [loadNotices, home, config, isSet_claim]
  simp

theorem events_announceDebugger :
    (world.announceDebugger key).1.events =
      world.events ++
        (world.actionNotices key .deliverEvents .announceDebugger).flatMap
          (world.record key) := by
  have told := events_notifyDebuggerLoad (world.claim key .debugger).1 key
    .assemblyLoad false
  have flagged : (((world.claim key .debugger).1).unit key).latches.isSet
      .debugger = true := by
    simp [isSet_claim]
  rw [loadNotices_claim, flagged,
    record_of_still (still_claim world key .debugger)] at told
  have claimedEvents : (world.claim key .debugger).1.events =
      world.events := rfl
  cases once : (world.unit key).latches.isSet .debugger with
  | true =>
      have stale : (world.claim key .debugger).2 = false := by
        simp [claim, once]
      simp [announceDebugger, actionNotices, stale, once, claimedEvents]
  | false =>
      have fresh : (world.claim key .debugger).2 = true := by
        simp [claim, once]
      have result : (world.announceDebugger key).1 =
          ((world.claim key .debugger).1.notifyDebuggerLoad key
            .assemblyLoad false).1 := by
        simp only [announceDebugger, fresh, if_true]
        split <;> rename_i answer <;> rw [answer]
      rw [result, told, claimedEvents]
      simp [actionNotices, once]

theorem events_perform (level : Level) {action : Action}
    (ordinary : action ≠ .reportTransition) :
    (world.perform key action).1.events =
      world.events ++
        (world.actionNotices key level action).flatMap (world.record key) := by
  cases action with
  | announceProfiler =>
      change (world.once key .profiler
        fun next => next.tellProfiler key .ok).events = _
      rw [events_once, events_tellProfiler,
        record_of_still (still_claim world key .profiler)]
      unfold actionNotices
      split <;> simp
      rfl
  | announceTracing =>
      change (world.once key .tracing
        fun next => next.tellTracing key .ok).events = _
      rw [events_once, events_tellTracing,
        record_of_still (still_claim world key .tracing)]
      unfold actionNotices
      split <;> simp
      rfl
  | announceDebugger => exact events_announceDebugger world key
  | showInspection =>
      unfold perform actionNotices
      cases attached : (world.sinksOf key).inspection <;>
        simp [attached, record]
  | reportTransition => exact absurd rfl ordinary
  | applyEagerFixups =>
      simp only [perform, actionNotices]
      split <;> simp [applyEagerFixups, doWork, countWork]
  | expandTypes =>
      simp only [perform, actionNotices]
      split <;> simp [expandTypes, countWork]
  | registerCode =>
      simp only [perform, actionNotices]
      split <;> simp [registerCode, countWork]
  | _ =>
      simp [perform, actionNotices, registerUnit, patchVtables, resolvePlan,
        doWork, countWork]

theorem recordDeed_told (notices : List Notice) :
    (notices.map (Deed.told key)).flatMap world.recordDeed =
      notices.flatMap (world.record key) := by
  rw [List.flatMap_map]
  rfl

theorem recordDeed_relayed (notices : List Notice) :
    (notices.map (Deed.relayed key)).flatMap world.recordDeed =
      notices.flatMap (world.record key) := by
  rw [List.flatMap_map]
  rfl

theorem recordDeed_action (level : Level) (stack : List Waiting)
    (action : Action) :
    (world.actionDeeds key level stack action).flatMap world.recordDeed =
      (world.actionNotices key level action).flatMap (world.record key) := by
  cases action with
  | publish =>
      simp only [actionDeeds, actionNotices]
      split <;> rfl
  | _ => exact recordDeed_told world key _

theorem told_mem_actionDeeds {other : UnitKey} {level : Level}
    {stack : List Waiting} {action : Action} {notice : Notice}
    (told : .told key notice ∈ world.actionDeeds other level stack action) :
    other = key ∧ notice ∈ world.actionNotices key level action := by
  cases action with
  | publish =>
      simp only [actionDeeds] at told
      split at told <;> simp at told
  | _ =>
      obtain ⟨_, said, same⟩ := List.mem_map.mp told
      cases same
      exact ⟨rfl, said⟩

/-- The recording grows by what the step does. -/
theorem events_stepped {world next : World} {me : ThreadId}
    {thread after : Thread} (stepped : world.Stepped me thread next after) :
    next.events =
      world.events ++ (world.deeds thread).flatMap world.recordDeed := by
  cases stepped with
  | failed =>
      rw [recordFailure_fst, events_setError]
      exact congrArg _ (recordDeed_told world _ _).symm
  | @performed key level action rest next stack ordinary done =>
      have told := events_perform world key level ordinary
      rw [done] at told
      exact told.trans
        (congrArg _ (recordDeed_action world key level stack action).symm)
  | @faulted key level action rest next fault stack done =>
      have ordinary : action ≠ .reportTransition := by
        rintro rfl
        simp [perform] at done
      have told := events_perform world key level ordinary
      rw [done] at told
      exact told.trans
        (congrArg _ (recordDeed_action world key level stack action).symm)
  | @reported key level rest after stack goes =>
      refine Eq.trans ?_ (congrArg _ (recordDeed_action world key level stack
        .reportTransition).symm)
      simp only [actionNotices, List.flatMap_cons, List.flatMap_nil, record]
      split <;> simp
  | entered asks =>
      rcases asks with rfl | rfl <;> simp [deeds, modifyEntries]
  | refused asks =>
      rcases asks with rfl | rfl <;> simp [deeds, modifyEntries]
  | initializes => simp [deeds, actionDeeds, actionNotices]
  | tellsRecorder => simp [deeds, recordDeed, record]
  | _ => simp [deeds, recordDeed, record, releaseEntry, modifyEntries, claim]

theorem events_createUnit (home : DomainKey) (image : Image)
    (container : Container) :
    (world.createUnit home image container).1.events = world.events := by
  simp only [createUnit]
  cases image.validate <;> rfl

theorem events_unloadUnit (through : DomainKey) :
    (world.unloadUnit through key).1.events =
      world.events ++
        ((Operation.unload through key).deeds world).flatMap
          world.recordDeed := by
  simp only [unloadUnit, Operation.deeds]
  split
  · simp
  · cases (world.domain through).registered? (world.unit key).id with
    | none => simp
    | some removed =>
        have still : world.Still (world.modifyDomain through fun domain =>
            domain.unregister (world.unit key).id) :=
          (alike_modifyDomain world through ⟨rfl, rfl, rfl, rfl, rfl⟩).still
        have sinks : (world.modifyDomain through fun domain =>
            domain.unregister (world.unit key).id).unloadNotices removed =
            world.unloadNotices removed := by
          rw [unloadNotices, sinksOf, homeOf, (still.unit removed).home,
            (still.domain _).sinks]
          rfl
        simp [events_notifyDebuggerUnload, recordDeed_told,
          record_of_still still, sinks]

theorem events_callContainer (call : ContainerCall) :
    (world.callContainer key call).1.events =
      world.events ++
        ((Operation.container key call).deeds world).flatMap
          world.recordDeed := by
  simp only [Operation.deeds, recordDeed_relayed]
  cases call with
  | tracing code =>
      simp [callContainer, events_tellTracing, ContainerCall.notices]
  | profiler code =>
      simp [callContainer, events_tellProfiler, ContainerCall.notices]
  | debuggerLoad flags => exact events_containerDebuggerLoad world key flags
  | debuggerUnload => exact events_containerDebuggerUnload world key
  | _ =>
      simp [callContainer, ContainerCall.notices, applyEagerFixups,
        patchVtables, resolvePlan, expandTypes, registerCode, doWork,
        countWork]

/-- Nobody hears that something is freed. -/
theorem events_collect (pinned : List UnitKey) :
    (world.collect pinned).events = world.events := by
  have closed : (world.closeDomains pinned).events = world.events := by
    unfold closeDomains
    induction List.range world.domainCount generalizing world with
    | nil => rfl
    | cons home homes ih =>
        rw [List.foldl_cons, ih]
        split <;> rfl
  rw [← closed, collect, destroyUnits]
  generalize world.closeDomains pinned = closed
  induction List.range closed.unitCount generalizing closed with
  | nil => rfl
  | cons key keys ih =>
      rw [List.foldl_cons, ih]
      split <;> rfl

theorem events_complete (me : ThreadId) (operation : Operation) :
    (operation.complete world me).1.events =
      world.events ++ (operation.deeds world).flatMap world.recordDeed := by
  cases operation with
  | create home image container =>
      rw [complete_create, events_createUnit]
      exact (List.append_nil _).symm
  | addDependency unit dependency =>
      simp only [Operation.complete, Operation.deeds, addDependency]
      split <;> simp
  | unload through unit => exact events_unloadUnit world unit through
  | setError unit cause =>
      rw [complete_setError, events_setError, ← recordDeed_told]
      rfl
  | debugging unit =>
      rw [complete_debugging]
      exact (List.append_nil _).symm
  | debuggerLoad unit flags attaching =>
      have told := events_notifyDebuggerLoad world unit flags attaching
      rw [← recordDeed_told] at told
      simp only [Operation.complete, Operation.deeds]
      rw [told]
      split <;> rfl
  | debuggerUnload unit =>
      have told := events_notifyDebuggerUnload world unit
      rw [← recordDeed_told] at told
      exact told
  | container unit call => exact events_callContainer world unit call
  | dropUnit unit =>
      simp only [Operation.complete, Operation.deeds, dropUnit]
      split <;> simp
  | dropDomain home =>
      simp only [Operation.complete, Operation.deeds, dropDomain]
      split <;> simp
  | _ => simp [Operation.complete, Operation.deeds, claim]

end World

end LoadLadder
