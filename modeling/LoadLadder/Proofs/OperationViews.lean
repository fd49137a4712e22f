import LoadLadder.Proofs.CrewAccounts
import LoadLadder.Proofs.ThreadViews

/-!
# Requests in a world without hooks

The hooks of a world have no part in what a client requests: it is granted the same
operations, they do the same and they answer the same, but for the transitions that a
count of the recorded events includes.
-/

namespace LoadLadder

/-- The counts without the transitions. -/
def EventCounts.unhooked (counts : EventCounts) : EventCounts :=
  { counts with transitions := [] }

/-- The answer without the transitions it counts. -/
def Answer.unhooked : Answer → Answer
  | .counts recorded => .counts recorded.unhooked
  | answer => answer

theorem EventCounts.of_unhooked (wanted : String) (events : List Event) :
    (EventCounts.of wanted (events.filter fun event => !event.concerns .hooks)).unhooked =
      (EventCounts.of wanted events).unhooked := by
  have about : eventsAbout wanted (events.filter fun event => !event.concerns .hooks) =
      (eventsAbout wanted events).filter fun event => !event.concerns .hooks := by
    simp only [eventsAbout, List.filter_filter, Bool.and_comm]
  have counted (marked : Event → Bool)
      (apart : ∀ event, marked event = true → event.concerns .hooks = false) :
      ((eventsAbout wanted events).filter fun event => !event.concerns .hooks).countP
        marked = (eventsAbout wanted events).countP marked := by
    rw [List.countP_filter]
    refine List.countP_congr fun event _ => ?_
    cases held : marked event <;> simp_all
  have found (event : Event) (apart : event.concerns .hooks = false) :
      ((eventsAbout wanted events).filter fun event => !event.concerns .hooks).count
        event = (eventsAbout wanted events).count event :=
    List.count_filter (by rw [apart, Bool.not_false])
  have codes : ((eventsAbout wanted events).filter fun event =>
        !event.concerns .hooks).filterMap Event.tracingCode? =
      (eventsAbout wanted events).filterMap Event.tracingCode? := by
    rw [List.filterMap_filter]
    refine List.filterMap_congr fun event _ => ?_
    cases event <;> rfl
  have tracing := counted (fun event => event.tracingCode?.isSome) fun event marked => by
    cases event <;> first | rfl | contradiction
  have profiler := counted Event.isProfiler fun event marked => by
    cases event <;> first | rfl | contradiction
  have unitLoads := counted Event.isDebuggerUnitLoad fun event marked => by
    cases event <;> first | rfl | contradiction
  simp only [unhooked, of, about, codes, tracing, profiler, unitLoads,
    found (.debuggerModuleLoad wanted) rfl, found (.debuggerModuleUnload wanted) rfl,
    found (.debuggerUnitUnload wanted) rfl, found (.moduleLoaded wanted) rfl,
    found (.unitLoaded wanted) rfl]

namespace World

variable (world : World) (me : ThreadId) (key : UnitKey) (through : DomainKey)

theorem domain_unhooked : (world.without .hooks).domain through =
    { world.domain through with hook := {} } := by
  rw [domain_without]
  rfl

theorem unit_unhooked : (world.without .hooks).unit key = world.unit key := by
  rw [unit_without, LoadUnit.without_hooks]

theorem homeOf_unhooked : (world.without .hooks).homeOf key =
    { world.homeOf key with hook := {} } := by
  rw [homeOf_without]
  rfl

theorem modifyUnit_unhooked (change : LoadUnit → LoadUnit) :
    (world.without .hooks).modifyUnit key change =
      (world.modifyUnit key change).without .hooks :=
  (modifyUnit_without world key rfl).symm

theorem modifyDomain_unhooked (change : Domain → Domain)
    (apart : ∀ domain : Domain, (change domain).without .hooks =
      change (domain.without .hooks)) :
    (world.without .hooks).modifyDomain through change =
      (world.modifyDomain through change).without .hooks :=
  (modifyDomain_without world through (apart _)).symm

theorem containerDebuggerUnload_unhooked :
    (world.without .hooks).containerDebuggerUnload key =
      (world.containerDebuggerUnload key).without .hooks := by
  simp only [containerDebuggerUnload, sinksOf_unhooked, unit_unhooked]
  split
  · exact (emit_seen world rfl).symm
  · rfl

theorem notifyDebuggerUnload_unhooked :
    (world.without .hooks).notifyDebuggerUnload key =
      (world.notifyDebuggerUnload key).without .hooks := by
  simp only [notifyDebuggerUnload, sinksOf_unhooked, unit_unhooked,
    containerDebuggerUnload_unhooked]
  split
  · exact (emit_seen _ rfl).symm
  · rfl

theorem unloadUnit_unhooked :
    (world.without .hooks).unloadUnit through key =
      ((world.unloadUnit through key).1.without .hooks,
        (world.unloadUnit through key).2) := by
  simp only [unloadUnit, unit_unhooked, domain_unhooked, Domain.registered?]
  split
  · rfl
  · cases (world.domain through).registry.lookup (world.unit key).id with
    | none => rfl
    | some removed =>
        simp only [modifyDomain_unhooked world through
            (fun domain => domain.unregister (world.unit key).id) fun _ => rfl,
          notifyDebuggerUnload_unhooked, modifyUnit_unhooked]

theorem findUnit_unhooked (name : String) :
    (world.without .hooks).findUnit through name = world.findUnit through name := by
  simp only [findUnit, domain_unhooked, unit_unhooked, Domain.units]

theorem checkLoadLevel_unhooked (required : Level) (tolerant : Bool) :
    (world.without .hooks).checkLoadLevel me through key required tolerant =
      world.checkLoadLevel me through key required tolerant := by
  simp only [checkLoadLevel, checkLoading, unit_unhooked, homeOf_unhooked]

theorem callContainer_unhooked (call : ContainerCall) :
    (world.without .hooks).callContainer key call =
      ((world.callContainer key call).1.without .hooks,
        (world.callContainer key call).2) := by
  have worked (level : Level) (count : Work → Work) :
      (world.without .hooks).doWork key level count =
        ((world.doWork key level count).1.without .hooks,
          (world.doWork key level count).2) := by
    simp only [doWork, countWork, unit_unhooked, modifyUnit_unhooked]
  cases call with
  | tracing code => simp only [callContainer, tellTracing_without]
  | profiler code => simp only [callContainer, tellProfiler_without]
  | debuggerLoad flags => simp only [callContainer, containerDebuggerLoad_unhooked]
  | debuggerUnload => simp only [callContainer, containerDebuggerUnload_unhooked]
  | eagerFixups => simp only [callContainer, applyEagerFixups, worked]
  | vtableFixups => simp only [callContainer, patchVtables, worked]
  | exceptionPlan => simp only [callContainer, resolvePlan, worked]
  | expand => simp only [callContainer, expandTypes, countWork, modifyUnit_unhooked]
  | register => simp only [callContainer, registerCode, countWork, modifyUnit_unhooked]
  | hasPrecompiledFixups | hasInitializer => simp only [callContainer, unit_unhooked]

theorem setError_unhooked (cause : Cause) :
    (world.without .hooks).setError key cause =
      ((world.setError key cause).1.without .hooks, (world.setError key cause).2) :=
  setError_without world key cause

theorem createUnit_unhooked (image : Image) (container : Container) :
    (world.without .hooks).createUnit through image container =
      ((world.createUnit through image container).1.without .hooks,
        (world.createUnit through image container).2) :=
  createUnit_without world through image container

theorem holdsDomain_unhooked :
    (world.without .hooks).holdsDomain through = world.holdsDomain through := by
  simp only [holdsDomain, domain_unhooked]
  rfl

/-- An operation that completes at once does the same, and answers the same but for
the transitions it counts. -/
theorem complete_unhooked (operation : Operation) :
    (operation.complete (world.without .hooks) me).1 =
        (operation.complete world me).1.without .hooks ∧
      (operation.complete (world.without .hooks) me).2.unhooked =
        (operation.complete world me).2.unhooked := by
  cases operation with
  | create home image container =>
      simp only [Operation.complete, createUnit_unhooked]
      rcases world.createUnit home image container with ⟨next, fault | id⟩ <;>
        exact ⟨rfl, rfl⟩
  | addDependency unit dependency =>
      simp only [Operation.complete, addDependency_without, and_self]
  | requireActivated through unit =>
      simp only [Operation.complete, requireActivated, unit_unhooked, domain_unhooked,
        and_self]
  | checkLevel through unit level tolerant =>
      simp only [Operation.complete, checkLoadLevel_unhooked, and_self]
  | unload through unit =>
      simp only [Operation.complete, unloadUnit_unhooked, and_self]
  | setError unit cause =>
      simp only [Operation.complete, setError_unhooked]
      rcases world.setError unit cause with ⟨next, fault | stored⟩ <;> exact ⟨rfl, rfl⟩
  | debugging unit =>
      simp only [Operation.complete, debuggingConfig_unhooked]
      rcases world.debuggingConfig unit with ⟨next, fault | config⟩ <;> exact ⟨rfl, rfl⟩
  | debuggerLoad unit flags attaching =>
      simp only [Operation.complete, notifyDebuggerLoad_unhooked, and_self]
  | debuggerUnload unit =>
      simp only [Operation.complete, notifyDebuggerUnload_unhooked, and_self]
  | latch unit kind => simp only [Operation.complete, claim_unhooked, and_self]
  | container unit call =>
      simp only [Operation.complete, callContainer_unhooked, and_self]
  | units through | count through | domain through =>
      simp only [Operation.complete, domain_unhooked, unit_unhooked, Domain.units,
        and_self]
  | find through wanted =>
      simp only [Operation.complete, findUnit_unhooked, unit_unhooked, and_self]
  | subscribe through listener =>
      refine ⟨modifyDomain_unhooked world through _ fun _ => rfl, rfl⟩
  | counts wanted => exact ⟨rfl, congrArg Answer.counts (EventCounts.of_unhooked _ _)⟩
  | dropUnit unit =>
      simp only [Operation.complete, dropUnit, holdsUnit_without, modifyUnit_unhooked]
      split <;> exact ⟨rfl, rfl⟩
  | dropDomain through =>
      simp only [Operation.complete, dropDomain, holdsDomain_unhooked]
      split
      · exact ⟨modifyDomain_unhooked world through _ fun _ => rfl, rfl⟩
      · exact ⟨rfl, rfl⟩
  | _ =>
      simp only [Operation.complete, unit_unhooked, unitState, unitHandles,
        unitCount_without, and_self]

theorem refusal?_unhooked (operation : Operation) :
    operation.refusal? (world.without .hooks) = operation.refusal? world := by
  simp only [Operation.refusal?, holdsDomain_unhooked, holdsUnit_without]

theorem task?_unhooked (operation : Operation) :
    operation.task? (world.without .hooks) = operation.task? world := by
  cases operation with
  | ensure through unit target =>
      simp only [Operation.task?, Task.ensure_without, Task.without_hooks]
  | incremental through unit level =>
      simp only [Operation.task?, Task.incremental, checkDomain, unit_unhooked]
  | _ => rfl

theorem closeDomains_unhooked (pinned : List UnitKey) :
    (world.without .hooks).closeDomains pinned =
      (world.closeDomains pinned).without .hooks := by
  refine List.foldl_hom (World.without · .hooks) fun world through => ?_
  have lives : (world.without .hooks).domainLives pinned through =
      world.domainLives pinned through := by
    simp only [domainLives, domain_unhooked, unit_unhooked]
  rw [lives]
  cases world.domainLives pinned through with
  | true => rfl
  | false =>
      exact modifyDomain_unhooked world through
        (fun domain => { domain with registry := [] }) fun _ => rfl

theorem destroyUnits_unhooked (pinned : List UnitKey) :
    (world.without .hooks).destroyUnits pinned =
      (world.destroyUnits pinned).without .hooks := by
  refine List.foldl_hom (World.without · .hooks) fun world key => ?_
  simp only [unit_unhooked, isReferenced_without, modifyUnit_unhooked,
    apply_ite (World.without · .hooks)]

theorem collect_unhooked (pinned : List UnitKey) :
    (world.without .hooks).collect pinned = (world.collect pinned).without .hooks := by
  rw [collect, closeDomains_unhooked, destroyUnits_unhooked, collect]

/-- Whose turn it is can be told from the thread alone. -/
theorem isNone_step (world other : World) (me : ThreadId) (thread : Thread) :
    (world.step me thread).isNone = (other.step me thread).isNone := by
  obtain ⟨task, stack⟩ := thread
  cases task with
  | answer reply =>
      match stack with
      | [] => rfl
      | waiting :: stack => cases waiting <;> rfl
  | _ => rfl

/-- A request is granted whatever the hooks are, and does the same. -/
theorem play_unhooked (thread : Thread) (request : Request) :
    (world.without .hooks).play me thread (some request) =
      (world.play me thread (some request)).map
        (Prod.map (World.without · .hooks) id) := by
  cases request with
  | asks operation =>
      have completed := (complete_unhooked world me operation).1
      simp only [play, isNone_step (world.without .hooks) world, refusal?_unhooked,
        task?_unhooked, completed]
      split
      · cases operation.task? world <;> rfl
      · rfl
  | resumes =>
      simp only [play]
      split <;> rfl
  | ends result =>
      simp only [play]
      split <;> rfl

end World

end LoadLadder
