import LoadLadder.Proofs.ActivationGate
import LoadLadder.Proofs.CrewAccounts
import LoadLadder.Proofs.CrewRecords
import LoadLadder.Proofs.UnitNumbers

/-!
# What ties units to registries and hosts

The sub-step that begins a climb puts the unit into the registry and then binds it to
the host's view of its image.  Unloading undoes both.  Besides these, only making a
unit, giving up the reference to it and freeing it concern who can still find the
unit, and this file says so act by act.
-/

namespace LoadLadder

/-- What ties a unit to the host and to the client. -/
structure Ties where
  hostBound : Bool
  binding : Option UnitId
  presence : Presence

def LoadUnit.ties (unit : LoadUnit) : Ties where
  hostBound := unit.hostBound
  binding := unit.binding
  presence := unit.presence

/-- The unit that a thread has put into the registry and is about to bind. -/
def Thread.enrolling (thread : Thread) : Option UnitKey :=
  match thread.task with
  | .subStep key _ (.bindHost :: _) => some key
  | _ => none

/-- Something that decides whether a unit is registered. -/
inductive Passage
  /-- The sub-step that begins the climb ran. -/
  | begun
  /-- The unit was unloaded. -/
  | unloaded
  deriving DecidableEq, Repr

namespace World

/-- The passages of units, as threads act. -/
def passages : Noting (UnitKey × Passage) := fun world _ thread request =>
  match request with
  | none => thread.enrolling.toList.map (·, .begun)
  | some (.asks (.unload through key)) =>
      if (world.unloadUnit through key).2 then [(key, .unloaded)] else []
  | some _ => []

variable {world next : World} {me : ThreadId} {thread after : Thread}
  {request : Option Request} {key other : UnitKey}

/-- All registries and all ties stay as they are; the client may have let go of a
domain. -/
structure Undisturbed (world next : World) : Prop where
  count : next.unitCount = world.unitCount
  ties : ∀ key, (next.unit key).ties = (world.unit key).ties
  registry : ∀ home, (next.domain home).registry = (world.domain home).registry
  held : ∀ home, (next.domain home).held = true → (world.domain home).held = true

theorem Undisturbed.refl (world : World) : world.Undisturbed world :=
  ⟨rfl, fun _ => rfl, fun _ => rfl, fun _ held => held⟩

theorem Undisturbed.of_domains (count : next.unitCount = world.unitCount)
    (ties : ∀ key, (next.unit key).ties = (world.unit key).ties)
    (domain : ∀ home, next.domain home = world.domain home) :
    world.Undisturbed next :=
  ⟨count, ties, fun home => by rw [domain], fun home held => by rwa [← domain]⟩

theorem ties_modifyUnit {change : LoadUnit → LoadUnit}
    (same : (change (world.unit key)).ties = (world.unit key).ties)
    (other : UnitKey) :
    ((world.modifyUnit key change).unit other).ties = (world.unit other).ties := by
  rw [unit_modifyUnit]
  split
  · rename_i here
    rw [← here]
    exact same
  · rfl

theorem undisturbed_modifyUnit {change : LoadUnit → LoadUnit}
    (same : (change (world.unit key)).ties = (world.unit key).ties) :
    world.Undisturbed (world.modifyUnit key change) :=
  .of_domains rfl (ties_modifyUnit same) fun _ => rfl

theorem undisturbed_modifyDomain {home : DomainKey} {change : Domain → Domain}
    (registry : (change (world.domain home)).registry = (world.domain home).registry)
    (held : (change (world.domain home)).held = true →
      (world.domain home).held = true) :
    world.Undisturbed (world.modifyDomain home change) := by
  refine ⟨rfl, fun _ => rfl, fun other => ?_, fun other => ?_⟩
  · rw [domain_modifyDomain]
    split
    · rename_i here
      rw [← here]
      exact registry
    · rfl
  · rw [domain_modifyDomain]
    split
    · rename_i here
      rw [← here]
      exact held
    · exact id

theorem undisturbed_setError (world : World) (key : UnitKey) (cause : Cause) :
    world.Undisturbed (world.setError key cause).1 := by
  refine .of_domains (unitCount_setError world key cause) (fun other => ?_)
    (domain_setError world key cause)
  rw [unit_setError]
  split
  · rename_i fresh
    rw [← fresh.1]
    rfl
  · rfl

theorem ties_debuggingConfig (unit : LoadUnit) :
    unit.debuggingConfig.1.ties = unit.ties := by
  unfold LoadUnit.debuggingConfig
  split
  · rfl
  · split <;> rfl

theorem ties_perform (world : World) (key other : UnitKey) {action : Action}
    (unbound : action ≠ .bindHost) :
    ((world.perform key action).1.unit other).ties = (world.unit other).ties := by
  cases action with
  | bindHost => exact absurd rfl unbound
  | announceProfiler =>
      change (((world.once key .profiler
        fun next => next.tellProfiler key .ok)).unit other).ties = _
      rw [unit_once _ _ _ .profiler fun _ => unit_tellProfiler _ _ _ _]
      exact ties_modifyUnit rfl other
  | announceTracing =>
      change (((world.once key .tracing
        fun next => next.tellTracing key .ok)).unit other).ties = _
      rw [unit_once _ _ _ .tracing fun _ => unit_tellTracing _ _ _ _]
      exact ties_modifyUnit rfl other
  | announceDebugger =>
      obtain ⟨latches, debugging, same⟩ := unit_announceDebugger world key other
      change ((world.announceDebugger key).1.unit other).ties = _
      rw [same]
      rfl
  | applyEagerFixups | expandTypes | registerCode | showInspection =>
      simp only [perform]
      split
      · first
        | exact ties_modifyUnit rfl other
        | rfl
      · rfl
  | patchVtables | resolvePlan | publish => exact ties_modifyUnit rfl other
  | register | requireMapped | requireLoaded | runInitializer | reportTransition =>
      rfl

theorem undisturbed_perform (world : World) (key : UnitKey) {action : Action}
    (unbound : action ≠ .bindHost) (unregistered : action ≠ .register) :
    world.Undisturbed (world.perform key action).1 := by
  refine .of_domains ?_ (fun other => ties_perform world key other unbound)
    (domain_perform world key unregistered)
  by_cases publishes : action = .publish
  · subst publishes
    rfl
  · exact (still_perform world key publishes).count

theorem undisturbed_notifyDebuggerLoad (world : World) (key : UnitKey)
    (flags : AttachFlags) (attaching : Bool) :
    world.Undisturbed (world.notifyDebuggerLoad key flags attaching).1 := by
  refine .of_domains (still_notifyDebuggerLoad world key flags attaching).count
    (fun other => ?_) (domain_notifyDebuggerLoad world key flags attaching)
  by_cases same : key = other
  · subst same
    simp only [notifyDebuggerLoad]
    split
    · rfl
    split
    · rfl
    split
    · rfl
    have sent : (((if flags.contains .assemblyLoad then world.sendUnitLoad key
        else world)).unit key).ties = (world.unit key).ties := by
      split
      · exact ties_modifyUnit (ties_debuggingConfig _) key
      · rfl
    generalize (if flags.contains .assemblyLoad then world.sendUnitLoad key
      else world) = informed at sent ⊢
    have claimed : ((informed.claim key .debuggerModule).1.unit key).ties =
        (informed.unit key).ties := ties_modifyUnit rfl key
    split
    · rw [unit_containerDebuggerLoad, claimed, sent]
    · rw [claimed, sent]
  · rw [unit_notifyDebuggerLoad_of_ne world same]

theorem undisturbed_callContainer (world : World) (key : UnitKey)
    (call : ContainerCall) :
    world.Undisturbed (world.callContainer key call).1 := by
  refine .of_domains (alike_callContainer world key call).count (fun other => ?_)
    (domain_callContainer world key call)
  cases call with
  | tracing code => exact congrArg _ (unit_tellTracing world key other code)
  | profiler code => exact congrArg _ (unit_tellProfiler world key other code)
  | debuggerLoad flags =>
      exact congrArg _ (unit_containerDebuggerLoad world key other flags)
  | debuggerUnload =>
      simp only [callContainer, containerDebuggerUnload]
      split <;> rfl
  | hasPrecompiledFixups | hasInitializer => rfl
  | _ => exact ties_modifyUnit rfl other

/-- What an act does to registries and ties. -/
inductive Files (world next : World) (thread after : Thread)
    (request : Option Request) : List (UnitKey × Passage) → Prop
  | rests (undisturbed : world.Undisturbed next) (before : thread.enrolling = none)
      (later : after.enrolling = none) : Files world next thread after request []
  /-- A unit is put into the registry. -/
  | registers {key : UnitKey} (known : key < world.unitCount)
      (pinned : key ∈ thread.pinned) (done : next = world.registerUnit key)
      (before : thread.enrolling = none) (later : after.enrolling = some key) :
      Files world next thread after request []
  /-- The unit is bound. -/
  | binds {key : UnitKey} (known : key < world.unitCount)
      (done : next = world.modifyUnit key LoadUnit.bindHost)
      (before : thread.enrolling = some key) (later : after.enrolling = none) :
      Files world next thread after request [(key, .begun)]
  | unloads {through : DomainKey} {key : UnitKey} (known : key < world.unitCount)
      (asked : request = some (.asks (.unload through key)))
      (done : next = (world.unloadUnit through key).1)
      (before : thread.enrolling = none) (later : after.enrolling = none) :
      Files world next thread after request
        (if (world.unloadUnit through key).2 then [(key, .unloaded)] else [])
  | makes {home : DomainKey} {image : Image} {container : Container}
      (done : next = (world.createUnit home image container).1)
      (before : thread.enrolling = none) (waits : after = thread) :
      Files world next thread after request []
  /-- The client lets go of a unit. -/
  | releases {key : UnitKey} (held : (world.unit key).presence = .held)
      (done : next = world.modifyUnit key fun unit =>
        { unit with presence := .released })
      (before : thread.enrolling = none) (later : after.enrolling = none) :
      Files world next thread after request []

/-- Only the registration stands before the binding. -/
theorem register_of_bindHost {level : Level} {action : Action} {rest : List Action}
    (remains : action :: .bindHost :: rest <:+ level.actions) :
    action = .register := by
  cases level <;> simp [Level.actions, List.suffix_cons_iff] at remains ⊢
  exact remains.1

theorem enrolling_subStep {level : Level} {action : Action} {rest : List Action}
    {stack : List Waiting} (remains : action :: rest <:+ level.actions)
    (other : action ≠ .register) :
    Thread.enrolling ⟨.subStep key level rest, stack⟩ = none := by
  unfold Thread.enrolling
  split
  · rename_i same
    cases same
    exact absurd (register_of_bindHost remains) other
  · rfl

theorem enrolling_of_action {level : Level} {action : Action} {rest : List Action}
    {stack : List Waiting} (binds : action ≠ .bindHost) :
    Thread.enrolling ⟨.subStep key level (action :: rest), stack⟩ = none := by
  cases action with
  | bindHost => contradiction
  | _ => rfl

theorem enrolling_actions {level : Level} {stack : List Waiting} :
    Thread.enrolling ⟨.subStep key level level.actions, stack⟩ = none := by
  cases level <;> rfl

theorem enrolling_registered {level : Level} {rest : List Action}
    {stack : List Waiting} (remains : .register :: rest <:+ level.actions) :
    Thread.enrolling ⟨.subStep key level rest, stack⟩ = some key := by
  cases level <;> simp [Level.actions, List.suffix_cons_iff] at remains
  subst remains
  rfl

theorem enrolling_begins {task : Task} {stack : List Waiting}
    (begins : Task.Begins world key task) :
    Thread.enrolling ⟨task, stack⟩ = none := by
  cases begins with
  | answers | drives => rfl
  | runs level => exact enrolling_actions

theorem enrolling_of_turn (turn : world.step me thread = none) :
    thread.enrolling = none := by
  rcases turn_cases turn with
    ⟨callback, stack, rfl⟩ | ⟨reply, rfl⟩ | ⟨reply, callback, stack, rfl⟩ <;> rfl

theorem files_stepped (stepped : world.Stepped me thread next after)
    (supports : world.Supports thread) :
    world.Files next thread after none (world.passages me thread none) := by
  have still : world.Undisturbed world := .refl world
  cases stepped with
  | entered | refused | releasedAgain | releasedStop | releasedRaise =>
      exact .rests (undisturbed_modifyDomain rfl id) rfl rfl
  | climbs => exact .rests still rfl enrolling_actions
  | raised | announces | announcedBefore | allActivated =>
      exact .rests (undisturbed_modifyUnit rfl) rfl rfl
  | failed =>
      rw [recordFailure_fst]
      exact .rests (undisturbed_setError world _ _) rfl rfl
  | @performed key level action rest next stack ordinary done =>
      obtain ⟨known, remains, -, -⟩ := supports
      by_cases registers : action = .register
      · subst registers
        cases done
        exact .registers known (by simp [Thread.pinned, Task.unit?]) rfl rfl
          (enrolling_registered remains)
      by_cases binds : action = .bindHost
      · subst binds
        cases done
        exact .binds known rfl rfl (enrolling_subStep remains registers)
      have before := @enrolling_of_action key level action rest stack binds
      have quiet := undisturbed_perform world key binds registers
      rw [done] at quiet
      rw [passages, before]
      exact .rests quiet before (enrolling_subStep remains registers)
  | @faulted key level action rest next fault stack done =>
      have binds : action ≠ .bindHost := by
        rintro rfl
        simp [perform] at done
      have registers : action ≠ .register := by
        rintro rfl
        simp [perform] at done
      have before := @enrolling_of_action key level action rest stack binds
      have quiet := undisturbed_perform world key binds registers
      rw [done] at quiet
      rw [passages, before]
      exact .rests quiet before rfl
  | initializes runs =>
      refine .rests (undisturbed_modifyUnit rfl) rfl ?_
      rcases runs with ⟨-, rfl⟩ | ⟨-, rfl⟩ <;> rfl
  | reported goes =>
      obtain ⟨-, remains, -, -⟩ := supports
      refine .rests ?_ rfl ?_
      · split
        · exact .of_domains rfl (fun _ => rfl) fun _ => rfl
        · exact still
      · rcases goes with ⟨-, rfl⟩ | ⟨-, rfl⟩
        · exact enrolling_subStep remains (by simp)
        · rfl
  | activates => exact .rests still rfl (enrolling_begins (begins_ensure _ _ _ _))
  | tellsRecorder => exact .rests (.of_domains rfl (fun _ => rfl) fun _ => rfl) rfl rfl
  | initialized =>
      obtain ⟨seat, seated⟩ := supports
      cases seated with
      | initializing known runs remains =>
          exact .rests (undisturbed_modifyUnit rfl) rfl
            (enrolling_subStep remains (by simp))
  | uninitialized => exact .rests (undisturbed_modifyUnit rfl) rfl rfl
  | hooked =>
      obtain ⟨seat, seated⟩ := supports
      cases seated with
      | hooked known remains =>
          exact .rests still rfl (enrolling_subStep remains (by simp))
  | _ => exact .rests still rfl rfl

theorem files_complete (operation : Operation) (turn : world.step me thread = none)
    (granted : operation.refusal? world = none)
    (instant : operation.task? world = none) :
    world.Files (operation.complete world me).1 thread thread
      (some (.asks operation)) (world.passages me thread (some (.asks operation))) := by
  have idle := enrolling_of_turn turn
  have rests (undisturbed : world.Undisturbed (operation.complete world me).1) :
      world.Files (operation.complete world me).1 thread thread
        (some (.asks operation)) [] :=
    .rests undisturbed idle idle
  cases operation with
  | create home image container =>
      exact .makes (complete_create world me home image container) idle rfl
  | unload through key =>
      exact .unloads (known_of_granted granted rfl) rfl rfl idle idle
  | dropUnit key =>
      simp only [Operation.complete, dropUnit]
      split
      · rename_i held
        simp only [holdsUnit, Bool.and_eq_true, beq_iff_eq] at held
        exact .releases held.2 rfl idle idle
      · exact .rests (.refl world) idle idle
  | addDependency key dependency =>
      refine rests ?_
      simp only [Operation.complete, addDependency]
      split
      · exact undisturbed_modifyUnit rfl
      · exact .refl world
  | setError key cause =>
      refine rests ?_
      rw [complete_setError]
      exact undisturbed_setError world key cause
  | debugging key =>
      refine rests ?_
      rw [complete_debugging]
      exact undisturbed_modifyUnit (ties_debuggingConfig _)
  | debuggerLoad key flags attaching =>
      exact rests (undisturbed_notifyDebuggerLoad world key flags attaching)
  | debuggerUnload key =>
      refine rests (.of_domains (alike_notifyDebuggerUnload world key).count
        (fun other => ?_) (domain_notifyDebuggerUnload world key))
      exact congrArg _ (unit_notifyDebuggerUnload world key)
  | latch key kind => exact rests (undisturbed_modifyUnit rfl)
  | container key call => exact rests (undisturbed_callContainer world key call)
  | subscribe home listener => exact rests (undisturbed_modifyDomain rfl id)
  | dropDomain home =>
      refine rests ?_
      simp only [Operation.complete, dropDomain]
      split
      · exact undisturbed_modifyDomain rfl (by simp)
      · exact .refl world
  | _ => exact rests (.refl world)

theorem files_play (plays : world.play me thread request = some (next, after))
    (supports : world.Supports thread) :
    world.Files next thread after request (world.passages me thread request) := by
  cases request with
  | none => exact files_stepped (stepped_of_step plays) supports
  | some requested =>
      cases granted_of_play plays with
      | operate operation turn granted instant =>
          exact files_complete operation turn granted instant
      | call operation turn granted loads =>
          obtain ⟨key, begins⟩ := begins_of_loads loads
          have passages : world.passages me thread (some (.asks operation)) = [] := by
            cases operation <;> first | rfl | simp [Operation.task?] at loads
          rw [passages]
          refine .rests (.refl world) (enrolling_of_turn turn) ?_
          unfold Thread.call
          split <;> exact enrolling_begins begins
      | resume answered =>
          subst answered
          exact .rests (.refl world) rfl rfl
      | finish result called =>
          subst called
          exact .rests (.refl world) rfl rfl

/-- An operation that loads a unit holds no other. -/
theorem eq_of_begins {task : Task} (begins : Task.Begins world other task)
    (pinned : task.unit? = some key) : key = other := by
  cases begins with
  | answers => contradiction
  | drives | runs => exact (Option.some.inj pinned).symm

/-- Besides the client only an initializer makes a thread take hold of a unit, if it is
alive, and it goes through the domain of the unit that it initializes. -/
theorem turns_of_pinned_stepped (stepped : world.Stepped me thread next after)
    (pinned : key ∈ after.pinned) :
    key ∈ thread.pinned ∨ ∃ unit rest stack,
      thread = ⟨.activateDependencies unit (key :: rest), stack⟩ ∧
      (world.unit key).isAlive = true ∧
      (Task.ensure world (world.unit unit).home key .active).unit? = some key := by
  cases stepped with
  | @activates unit dependency rest stack alive =>
      rcases List.mem_append.mp pinned with task | waiting
      · have same := eq_of_begins (begins_ensure _ _ _ _) (Option.mem_toList.mp task)
        subst same
        exact Or.inr ⟨unit, rest, stack, rfl, alive, Option.mem_toList.mp task⟩
      · exact Or.inl waiting
  | initializes runs =>
      refine Or.inl ?_
      rcases runs with ⟨-, rfl⟩ | ⟨-, rfl⟩ <;>
        simpa [Thread.pinned, Task.unit?, Waiting.unit?] using pinned
  | reported goes =>
      refine Or.inl ?_
      rcases goes with ⟨-, rfl⟩ | ⟨-, rfl⟩ <;>
        simpa [Thread.pinned, Task.unit?, Waiting.unit?] using pinned
  | releasedRaise | blames | required | completed | faulted | allActivated =>
      exact Or.inl (List.mem_append_right _ pinned)
  | uninitialized | unactivated => exact Or.inl (List.mem_cons_of_mem _ pinned)
  | _ =>
      refine Or.inl ?_
      simpa [Thread.pinned, Task.unit?, Waiting.unit?] using pinned

theorem pinned_call {task : Task} (pinned : key ∈ (thread.call task).pinned) :
    key ∈ thread.pinned ∨ task.unit? = some key := by
  rcases List.mem_append.mp pinned with called | below
  · refine Or.inr ?_
    unfold Thread.call at called
    split at called <;> exact Option.mem_toList.mp called
  · refine Or.inl (List.mem_append_right _ ?_)
    unfold Thread.call at below
    split at below <;> exact below

/-- A thread takes hold of units that are alive. -/
theorem pinned_play (plays : world.play me thread request = some (next, after))
    (pinned : key ∈ after.pinned) :
    key ∈ thread.pinned ∨ (world.unit key).isAlive = true := by
  cases request with
  | none =>
      refine (turns_of_pinned_stepped (stepped_of_step plays) pinned).imp_right ?_
      rintro ⟨unit, rest, stack, -, alive, -⟩
      exact alive
  | some requested =>
      cases granted_of_play plays with
      | operate => exact Or.inl pinned
      | call operation turn granted loads =>
          have held {unit : UnitKey} {task : Task} (about : operation.unit? = some unit)
              (begins : Task.Begins world unit task) (same : task.unit? = some key) :
              (world.unit key).isAlive = true := by
            have holds := holdsUnit_of_granted granted about
            rw [← eq_of_begins begins same] at holds
            simp only [holdsUnit, Bool.and_eq_true] at holds
            simp [LoadUnit.isAlive, holds.2]
          refine (pinned_call pinned).imp_right fun same => ?_
          cases operation with
          | ensure through unit target =>
              cases loads
              exact held rfl (begins_ensure world through unit target) same
          | incremental through unit level =>
              cases loads
              exact held rfl (begins_incremental world through unit level) same
          | _ => simp [Operation.task?] at loads
      | resume answered =>
          subst answered
          exact Or.inl (by simpa [Thread.pinned, Task.unit?, Waiting.unit?] using pinned)
      | finish result called =>
          subst called
          exact Or.inl pinned

end World

end LoadLadder
