import LoadLadder.Proofs.EnsuredLevels

/-!
# Loads from callbacks

A callback that has units loaded may come upon a unit whose sub-step it is called
from, and it may pass on what it hears.  What it hears is never that the load is in
progress, as long as the hooks of sub-steps below `loaded` leave the loader alone:
then every unit that a driver further down holds is loaded, and one level short of
any target.  So no unit is blamed for a load in progress.

A hook of an earlier sub-step that has another unit loaded can do harm.  If the
initializer of the other unit needs the unit that the hook belongs to, it finds this
unit more than one level short, and fails for good.
-/

namespace LoadLadder

/-- A client that blames no unit for a load in progress. -/
def Repertoire.lenient : Repertoire := fun _ operation =>
  match operation with
  | .setError _ cause => cause.code ≠ .loadInProgress
  | _ => True

/-- A client that only has units loaded. -/
def Repertoire.ensuring : Repertoire := fun _ operation =>
  match operation with
  | .ensure .. => True
  | _ => False

/-- All callbacks but the hooks of sub-steps below `loaded`. -/
def Callback.Late : Callback → Prop
  | .hook _ level => .loaded ≤ level
  | _ => True

/-- A fault that is final: it does not say that a load is in progress. -/
def Fault.Final (fault : Fault) : Prop :=
  fault.resultCode ≠ .loadInProgress

/-- What the client hears of, if its load has just failed. -/
def Thread.heard (thread : Thread) : List Fault :=
  match thread.turn with
  | .answered (.error fault) => [fault]
  | _ => []

/-- What callbacks do between two states of their thread. -/
structure Thread.Relays (loads : Callback → Prop) (heard : List Fault)
    (thread after : Thread) : Prop where
  /-- An initializer that fails with a load in progress has heard of it. -/
  passes : ∀ {unit : UnitKey} {stack : List Waiting} {fault : Fault},
    thread = ⟨.callback (.initializer unit), stack⟩ →
      after = ⟨.answer (.error fault), stack⟩ → fault.Final ∨ fault ∈ heard
  /-- Only some callbacks have units loaded. -/
  loads : ∀ {callback : Callback} {stack : List Waiting} {task : Task},
    thread = ⟨.callback callback, stack⟩ →
      after = ⟨task, .onOperation callback :: stack⟩ → loads callback

/-- What happens while some callbacks have units loaded and initializers pass on what
they hear. -/
inductive Crew.Relay (repertoire : Repertoire) (loads : Callback → Prop)
    (first : Crew) : List Fault → Crew → Prop
  | start : Relay repertoire loads first [] first
  | collect {crew : Crew} {heard : List Fault}
      (relay : Relay repertoire loads first heard crew) :
      Relay repertoire loads first heard
        { crew with world := crew.world.collect crew.pinned }
  | act {crew : Crew} {heard : List Fault} {me : ThreadId} {world : World}
      {thread : Thread} {deeds : List Deed}
      (relay : Relay repertoire loads first heard crew)
      (member : me < crew.threads.length)
      (act : World.Act repertoire me crew.world (crew.thread me) deeds world thread)
      (relays : (crew.thread me).Relays loads heard thread) :
      Relay repertoire loads first (heard ++ thread.heard)
        ({ crew with world }.setThread me thread)

theorem Level.relaxed_le_loaded (level : Level) : level.relaxed ≤ .loaded := by
  cases level <;> decide

/-- Keys of units whose entries may be held, below work of a kind, before these units
are loaded. -/
def Seat.Excuses (key : UnitKey) : Seat → Prop
  | .subStep unit _ => key = unit
  | .callback (.hook unit level) => key = unit ∧ level < .loaded
  | _ => False

namespace World

/-- A unit exists and is loaded. -/
def Loaded (world : World) (key : UnitKey) : Prop :=
  key < world.unitCount ∧ .loaded ≤ (world.unit key).level

/-- What waits for a callback of a unit knows that the unit is loaded, but for early
hooks, and those have nothing loaded. -/
def Ready (world : World) : Waiting → Prop
  | .onInitializer key _ _ _ => world.Loaded key
  | .onHook key level _ => .loaded ≤ level → world.Loaded key
  | .onListener key _ _ _ => world.Loaded key
  | .onOperation callback => callback.Late
  | _ => True

/-- A sub-step that may have a late callback called has still to make sure that its
unit is loaded, or the unit is. -/
def Readies (world : World) (key : UnitKey) (level : Level) (rest : List Action) :
    Prop :=
  .loaded ≤ level →
    .publish ∈ rest ∨ .requireLoaded ∈ rest ∨ world.Loaded key

/-- What a task knows of the level of its unit. -/
def Knows (world : World) : Task → Prop
  | .drive key target phase => phase.Promises (world.unit key) target.relaxed
  | .subStep key level rest => world.Readies key level rest
  | .announce key _ _ _ => world.Loaded key
  | _ => True

/-- A thread under which all units are loaded that have to be. -/
structure Fits (world : World) (thread : Thread) : Prop where
  task : world.Knows thread.task
  stack : ∀ waiting ∈ thread.stack, world.Ready waiting

variable {world next : World} {repertoire : Repertoire} {me : ThreadId}
  {thread after : Thread} {deeds : List Deed} {key : UnitKey}

theorem Loaded.grows (loaded : world.Loaded key) (grows : world.Grows next) :
    next.Loaded key :=
  ⟨Nat.lt_of_lt_of_le loaded.1 grows.count,
    Nat.le_trans loaded.2 (grows.unit key loaded.1).level⟩

theorem Loaded.enough (loaded : world.Loaded key) (target : Level) :
    target.relaxed ≤ (world.unit key).level :=
  Nat.le_trans target.relaxed_le_loaded loaded.2

theorem Ready.grows {waiting : Waiting} (ready : world.Ready waiting)
    (grows : world.Grows next) : next.Ready waiting := by
  cases waiting with
  | onInitializer | onListener => exact Loaded.grows ready grows
  | onHook key level => exact fun late => (ready late).grows grows
  | onOperation => exact ready
  | onSubStep | onDependency => trivial

theorem Readies.grows {level : Level} {rest : List Action}
    (readies : world.Readies key level rest) (grows : world.Grows next) :
    next.Readies key level rest := fun late =>
  (readies late).imp_right fun insists => insists.imp_right fun loaded =>
    loaded.grows grows

/-- The units whose entries drivers hold below a call are loaded. -/
theorem loaded_of_seated {seat : Seat} {stack : List Waiting}
    (seated : world.Seated seat stack)
    (ready : ∀ waiting ∈ stack, world.Ready waiting) :
    ∀ key ∈ stack.flatMap Waiting.holds, world.Loaded key ∨ seat.Excuses key := by
  have called {callback : Callback} {key : UnitKey} (late : callback.Late)
      (held : world.Loaded key ∨ (Seat.callback callback).Excuses key) :
      world.Loaded key := by
    refine held.resolve_right fun excused => ?_
    cases callback with
    | hook unit level => exact Nat.not_lt.mpr late excused.2
    | _ => exact excused
  induction seated with
  | subStepOutside | driveOutside => simp
  | subStepCalled below ih | driveCalled below ih =>
      obtain ⟨late, ready⟩ := List.forall_mem_cons.mp ready
      exact fun key holds => Or.inl (called late (ih ready key holds))
  | driven known below ih =>
      intro key holds
      rcases List.mem_cons.mp holds with rfl | holds
      · exact Or.inr rfl
      · exact (ih (List.forall_mem_cons.mp ready).2 key holds).imp_right False.elim
  | initializing known runs remains insisted below ih =>
      obtain ⟨loaded, ready⟩ := List.forall_mem_cons.mp ready
      intro other holds
      rcases ih ready other holds with done | rfl
      · exact Or.inl done
      · exact Or.inl loaded
  | @hooked key level rest stack known remains insisted below ih =>
      obtain ⟨loaded, ready⟩ := List.forall_mem_cons.mp ready
      intro other holds
      rcases ih ready other holds with done | rfl
      · exact Or.inl done
      · by_cases late : .loaded ≤ level
        · exact Or.inl (loaded late)
        · exact Or.inr ⟨rfl, Nat.not_le.mp late⟩
  | depending known dependencies below ih | listening known below ih =>
      exact fun key holds =>
        (ih (List.forall_mem_cons.mp ready).2 key holds).imp_right False.elim

theorem readies_tail {level : Level} {action : Action} {rest : List Action}
    (readies : world.Readies key level (action :: rest))
    (publishes : action ≠ .publish) (insists : action ≠ .requireLoaded) :
    world.Readies key level rest := by
  intro late
  simpa [publishes.symm, insists.symm] using readies late

/-- A sub-step that comes to a callback has made sure of its unit already. -/
theorem notMem_of_calls {level : Level} {action : Action} {rest : List Action}
    (remains : action :: rest <:+ level.actions)
    (calls : action = .runInitializer ∨ action = .reportTransition) :
    .publish ∉ action :: rest ∧ .requireLoaded ∉ action :: rest := by
  have tails : ∀ rest ∈ level.actions.tails,
      rest.head? = some .runInitializer ∨ rest.head? = some .reportTransition →
        .publish ∉ rest ∧ .requireLoaded ∉ rest := by
    cases level <;> decide
  exact tails _ ((List.mem_tails _ _).mpr remains) (by simpa using calls)

theorem loaded_of_calls {level : Level} {action : Action} {rest : List Action}
    (readies : world.Readies key level (action :: rest))
    (remains : action :: rest <:+ level.actions)
    (calls : action = .runInitializer ∨ action = .reportTransition)
    (late : .loaded ≤ level) : world.Loaded key := by
  obtain ⟨unpublished, insisted⟩ := notMem_of_calls remains calls
  exact ((readies late).resolve_left unpublished).resolve_left insisted

theorem readies_performed {level : Level} {action : Action} {rest : List Action}
    (readies : world.Readies key level (action :: rest))
    (known : key < world.unitCount) (grows : world.Grows next)
    (done : world.perform key action = (next, none)) :
    next.Readies key level rest := by
  by_cases publishes : action = .publish
  · subst publishes
    cases done
    refine fun late => Or.inr (Or.inr ⟨known, ?_⟩)
    rw [unit_modifyUnit, if_pos rfl]
    exact Level.le_max_right _ _
  · by_cases insists : action = .requireLoaded
    · subst insists
      simp only [perform] at done
      split at done
      · rename_i loaded
        cases done
        exact fun late => Or.inr (Or.inr ⟨known, of_decide_eq_true loaded⟩)
      · simp at done
    · exact (readies_tail readies publishes insists).grows grows

theorem readies_begun (level : Level) : world.Readies key level level.actions := by
  intro late
  cases level with
  | loaded => exact Or.inl (by decide)
  | active => exact Or.inr (Or.inl (by decide))
  | _ => exact absurd late (by decide)

/-- Where one step takes a driver, all units are loaded that have to be. -/
theorem fits_of_leads {target : Level} {stack : List Waiting}
    (leads : world.Leads key target target.relaxed stack after)
    (known : key < world.unitCount)
    (ready : ∀ waiting ∈ stack, world.Ready waiting) : world.Fits after := by
  cases leads with
  | drives promises => exact ⟨promises, ready⟩
  | climbs => exact ⟨readies_begun _, List.forall_mem_cons.mpr ⟨trivial, ready⟩⟩
  | announces active =>
      exact ⟨⟨known, Nat.le_trans (by decide) active⟩, ready⟩
  | answers => exact ⟨trivial, ready⟩

theorem fits_begins {task : Task} {stack : List Waiting}
    (begins : task.Begins world key)
    (ready : ∀ waiting ∈ stack, world.Ready waiting) :
    world.Fits ⟨task, stack⟩ := by
  cases begins with
  | answers => exact ⟨trivial, ready⟩
  | drives => exact ⟨trivial, ready⟩
  | runs level => exact ⟨readies_begun level, ready⟩

theorem fits_stepped (stepped : world.Stepped 0 thread next after)
    (supports : world.Supports thread) (candid : thread.Candid)
    (holds : ∀ key < world.unitCount, ∀ owner,
      world.ownerAt (world.slot key) = some owner → key ∈ thread.holds)
    (fits : world.Fits thread) : next.Fits after := by
  have grows := grows_stepped stepped
  have ready waiting (member : waiting ∈ thread.stack) : next.Ready waiting :=
    (fits.stack waiting member).grows grows
  have below {waiting stack} (top : thread.stack = waiting :: stack) :
      next.Ready waiting ∧ ∀ waiting ∈ stack, next.Ready waiting := by
    rw [← List.forall_mem_cons, ← top]
    exact ready
  obtain ⟨task, stack⟩ := thread
  have above {top} (knows : next.Ready top) :
      ∀ waiting ∈ top :: stack, next.Ready waiting :=
    List.forall_mem_cons.mpr ⟨knows, ready⟩
  cases task with
  | drive key target phase =>
      obtain ⟨known, seated⟩ := supports
      refine fits_of_leads (leads_stepped stepped target.relaxed_le ?_ fits.task)
        (Nat.lt_of_lt_of_le known grows.count) ready
      intro asks taken
      obtain ⟨owner, owned⟩ := Option.ne_none_iff_exists'.mp taken
      have held := holds key known owner owned
      have held : key ∈ stack.flatMap Waiting.holds := by
        rcases asks with rfl | rfl <;> exact held
      rcases loaded_of_seated seated fits.stack key held with loaded | excused
      · exact loaded.enough target
      · exact excused.elim
  | subStep key level rest =>
      obtain ⟨known, remains, -, -⟩ := supports
      cases stepped with
      | completed | faulted => exact ⟨trivial, ready⟩
      | performed ordinary done =>
          exact ⟨readies_performed fits.task known grows done, ready⟩
      | initializes runs =>
          have active := active_of_runInitializer remains
          subst active
          have loaded := loaded_of_calls fits.task remains (Or.inl rfl) (by decide)
          rcases runs with ⟨-, rfl⟩ | ⟨-, rfl⟩ <;>
            exact ⟨trivial, above (loaded.grows grows)⟩
      | reported goes =>
          rcases goes with ⟨-, rfl⟩ | ⟨-, rfl⟩
          · exact ⟨(readies_tail fits.task (by simp) (by simp)).grows grows, ready⟩
          · exact ⟨trivial, above fun late =>
              (loaded_of_calls fits.task remains (Or.inr rfl) late).grows grows⟩
  | activateDependencies key rest =>
      cases stepped with
      | allActivated | skips => exact ⟨trivial, ready⟩
      | activates =>
          exact fits_begins (begins_ensure _ _ _ _) (above trivial)
  | announce key target snapshot rest =>
      have loaded := Loaded.grows fits.task grows
      cases stepped with
      | allTold => exact ⟨Or.inl (loaded.enough target), ready⟩
      | tellsRecorder => exact ⟨loaded, ready⟩
      | tellsClient => exact ⟨trivial, above loaded⟩
  | callback => cases stepped
  | answer reply =>
      cases stepped with
      | succeeded | broke => exact ⟨trivial, (below rfl).2⟩
      | abandoned => cases candid rfl
      | initialized =>
          exact ⟨fun _ => Or.inr (Or.inr (below rfl).1), (below rfl).2⟩
      | uninitialized | activated | unactivated => exact ⟨trivial, (below rfl).2⟩
      | hooked =>
          exact ⟨fun late => Or.inr (Or.inr ((below rfl).1 late)), (below rfl).2⟩
      | listened => exact ⟨(below rfl).1, (below rfl).2⟩

theorem Fits.grows (fits : world.Fits thread) (supports : world.Supports thread)
    (grows : world.Grows next) : next.Fits thread := by
  refine ⟨?_, fun waiting member => (fits.stack waiting member).grows grows⟩
  have knows := fits.task
  obtain ⟨task, stack⟩ := thread
  cases task with
  | drive key => exact Phase.Promises.grows knows (grows.unit key supports.1)
  | subStep => exact Readies.grows knows grows
  | announce => exact Loaded.grows knows grows
  | _ => trivial

theorem fits_act {heard : List Fault}
    (act : world.Act repertoire 0 thread deeds next after)
    (relays : thread.Relays Callback.Late heard after)
    (supports : world.Supports thread) (candid : thread.Candid)
    (holds : ∀ key < world.unitCount, ∀ owner,
      world.ownerAt (world.slot key) = some owner → key ∈ thread.holds)
    (fits : world.Fits thread) : next.Fits after := by
  have grows := grows_act act
  cases act with
  | step step => exact fits_stepped (stepped_of_step step) supports candid holds fits
  | operate => exact fits.grows supports grows
  | call operation turn asked granted loads =>
      obtain ⟨key, begins⟩ := begins_of_loads loads
      have ready := fits.stack
      rcases turn_cases turn with
        ⟨callback, stack, rfl⟩ | ⟨reply, rfl⟩ | ⟨reply, callback, stack, rfl⟩
      · have late := relays.loads rfl rfl
        exact fits_begins begins (List.forall_mem_cons.mpr ⟨late, ready⟩)
      · exact fits_begins begins ready
      · exact fits_begins begins ready
  | resume answered =>
      subst answered
      exact ⟨trivial, (List.forall_mem_cons.mp fits.stack).2⟩
  | finish result called =>
      subst called
      exact ⟨trivial, fits.stack⟩

/-- No unit is blamed for a load in progress. -/
def Conclusive (world : World) : Prop :=
  ∀ key cause, (world.unit key).failure.cause = some cause →
    cause.code ≠ .loadInProgress

end World

/-- The fault that a thread carries, unless what waits for its answer ignores it. -/
def Thread.faults : Thread → List Fault
  | ⟨.drive _ _ (.fail _ fault), _⟩ => [fault]
  | ⟨.drive _ _ (.release (.raise fault)), _⟩ => [fault]
  | ⟨.answer _, .onHook .. :: _⟩ => []
  | ⟨.answer _, .onListener .. :: _⟩ => []
  | ⟨.answer (.error fault), _⟩ => [fault]
  | _ => []

/-- All faults that a thread carries are final. -/
def Thread.Final (thread : Thread) : Prop :=
  ∀ fault ∈ thread.faults, fault.Final

theorem Thread.final_of_faults {thread : Thread} {fault : Fault}
    (carried : thread.faults ⊆ [fault]) (final : fault.Final) : thread.Final := by
  intro other member
  rw [List.mem_singleton.mp (carried member)]
  exact final

theorem Thread.final_of_none {thread : Thread} (nothing : thread.faults = []) :
    thread.Final := by
  simp [Final, nothing]

theorem Thread.final_answer {fault : Fault} {stack : List Waiting}
    (final : fault.Final) : Thread.Final ⟨.answer (.error fault), stack⟩ := by
  refine final_of_faults ?_ final
  unfold faults
  split <;> simp_all

theorem Thread.final_of_ok {flag : Bool} {stack : List Waiting} :
    Thread.Final ⟨.answer (.ok flag), stack⟩ := by
  apply final_of_none
  unfold faults
  split <;> simp_all

/-- Whatever the client hears of was carried. -/
theorem Thread.heard_subset (thread : Thread) : thread.heard ⊆ thread.faults := by
  obtain ⟨task, stack⟩ := thread
  cases task with
  | answer reply =>
      cases reply with
      | ok =>
          rcases stack with - | ⟨⟨⟩, stack⟩ <;> simp [heard, turn]
      | error fault =>
          rcases stack with - | ⟨⟨⟩, stack⟩ <;> simp [heard, turn, faults]
  | _ => simp [heard, turn]

namespace World

variable {world next : World} {repertoire : Repertoire} {me : ThreadId}
  {thread after : Thread} {deeds : List Deed} {key : UnitKey}

theorem final_of_throwIfError {target : Level} {fault : Fault}
    (conclusive : world.Conclusive)
    (blocks : (world.unit key).throwIfError target = .error fault) :
    fault.Final := by
  obtain ⟨cause, stored, rfl⟩ := load_of_throwIfError blocks
  exact conclusive key cause stored

theorem final_contract (breach : Breach) : (Fault.contract breach).Final := by
  change ResultCode.contractViolation ≠ .loadInProgress
  decide

theorem final_perform {action : Action} {fault : Fault}
    (done : world.perform key action = (next, some fault)) : fault.Final := by
  have worked {level : Level}
      (faulted : (world.unit key).container.workFault? level = some fault) :
      fault.Final := by
    unfold Container.workFault? at faulted
    split at faulted
    · cases faulted
      change ResultCode.fail ≠ .loadInProgress
      decide
    · contradiction
  have stops := mayStop_of_fault world key done
  cases action with
  | requireMapped | requireLoaded =>
      simp only [perform] at done
      split at done
      · simp at done
      · cases done
        exact final_contract _
  | applyEagerFixups =>
      simp only [perform] at done
      split at done
      · exact worked (congrArg Prod.snd done)
      · simp at done
  | patchVtables | resolvePlan => exact worked (congrArg Prod.snd done)
  | runInitializer => simp [perform] at done
  | _ => simp [Action.mayStop] at stops

/-- A request for a level carries no fault at once but that of a stored cause. -/
theorem final_ensure (conclusive : world.Conclusive) (through : DomainKey)
    (target : Level) (stack : List Waiting) :
    Thread.Final ⟨.ensure world through key target, stack⟩ := by
  unfold Task.ensure
  split
  · rename_i fault foreign
    simp only [checkDomain] at foreign
    split at foreign
    · contradiction
    · cases foreign
      exact Thread.final_answer (final_contract _)
  · split
    · exact Thread.final_of_none rfl
    · cases blocks : (world.unit key).throwIfError target with
      | ok => exact Thread.final_of_ok
      | error fault =>
          exact Thread.final_answer (final_of_throwIfError conclusive blocks)

theorem final_incremental (through : DomainKey) (level : Level)
    (stack : List Waiting) :
    Thread.Final ⟨.incremental world through key level, stack⟩ := by
  unfold Task.incremental
  split
  · rename_i fault foreign
    simp only [checkDomain] at foreign
    split at foreign
    · contradiction
    · cases foreign
      exact Thread.final_answer (final_contract _)
  · split
    · exact Thread.final_of_ok
    · split
      · exact Thread.final_answer (final_contract _)
      · exact Thread.final_of_none rfl

/-- A driver that fails stores what it carries, and goes on with what is stored. -/
theorem final_recordFailure {level : Level} {fault : Fault} (final : fault.Final) :
    (world.recordFailure key level fault).2.Final := by
  unfold recordFailure setError CauseCell.record
  cases (world.unit key).failure.cause with
  | none => exact final
  | some cause => exact final_contract _

theorem final_stepped (stepped : world.Stepped me thread next after)
    (fits : world.Fits thread) (conclusive : world.Conclusive)
    (final : thread.Final) : after.Final := by
  cases stepped with
  | refused asks kept goes =>
      rcases goes with rfl | rfl <;> exact Thread.final_of_none rfl
  | failed =>
      exact Thread.final_of_faults (List.Subset.refl _)
        (final_recordFailure (final _ List.mem_cons_self))
  | releasedRaise => exact Thread.final_answer (final _ List.mem_cons_self)
  | blames blocks =>
      exact Thread.final_answer (final_of_throwIfError conclusive blocks)
  | @required key target =>
      have enough : target.relaxed ≤ (world.unit key).level := fits.task
      have met : (world.unit key).requireLevel target.relaxed = .ok () := by
        have short : ¬ (world.unit key).level < target.relaxed :=
          Nat.not_lt.mpr enough
        rw [LoadUnit.requireLevel, if_neg short]
        rfl
      rw [met]
      exact Thread.final_of_ok
  | faulted done => exact Thread.final_answer (final_perform done)
  | initializes runs =>
      rcases runs with ⟨-, rfl⟩ | ⟨-, rfl⟩ <;> exact Thread.final_of_none rfl
  | reported goes =>
      rcases goes with ⟨-, rfl⟩ | ⟨-, rfl⟩ <;> exact Thread.final_of_none rfl
  | activates => exact final_ensure conclusive _ _ _
  | broke => exact final
  | uninitialized | unactivated =>
      exact Thread.final_answer (final _ List.mem_cons_self)
  | completed | allActivated => exact Thread.final_of_ok
  | _ => exact Thread.final_of_none rfl

theorem final_act {heard : List Fault}
    (act : world.Act repertoire me thread deeds next after)
    (relays : thread.Relays Callback.Late heard after)
    (sound : ∀ fault ∈ heard, fault.Final) (supports : world.Supports thread)
    (fits : world.Fits thread) (conclusive : world.Conclusive)
    (final : thread.Final) : after.Final := by
  cases act with
  | step step => exact final_stepped (stepped_of_step step) fits conclusive final
  | operate => exact final
  | @call operation task turn asked granted loads =>
      have begun (stack : List Waiting) : Thread.Final ⟨task, stack⟩ := by
        cases operation with
        | ensure through key target =>
            cases loads
            exact final_ensure conclusive through target stack
        | incremental through key level =>
            cases loads
            exact final_incremental through level stack
        | _ => simp [Operation.task?] at loads
      rcases turn_cases turn with
        ⟨callback, stack, rfl⟩ | ⟨reply, rfl⟩ | ⟨reply, callback, stack, rfl⟩ <;>
        exact begun _
  | resume answered =>
      subst answered
      exact Thread.final_of_none rfl
  | @finish callback stack result called =>
      subst called
      cases result with
      | ok => exact Thread.final_of_ok
      | error fault =>
          cases callback with
          | initializer unit =>
              exact Thread.final_answer
                ((relays.passes rfl rfl).elim id (sound fault))
          -- whoever waits for the others ignores how they end
          | hook =>
              cases supports with
              | initializing known runs => rcases runs with runs | runs <;> cases runs
              | hooked => exact Thread.final_of_none rfl
          | listener =>
              cases supports with
              | initializing known runs => rcases runs with runs | runs <;> cases runs
              | listening => exact Thread.final_of_none rfl

theorem conclusive_act
    (act : world.Act .lenient me thread deeds next after)
    (conclusive : world.Conclusive) (final : thread.Final) : next.Conclusive := by
  intro key cause stored
  rcases cause_act act stored with
    before | ⟨target, level, fault, stack, current, code⟩ | given
  · exact conclusive key cause before
  · rw [code]
    subst current
    exact final fault List.mem_cons_self
  · exact given

end World

namespace Crew

variable {repertoire : Repertoire} {loads : Callback → Prop}
  {setups : List Setup} {first crew : Crew} {heard : List Fault}

theorem Relay.run (relay : Relay repertoire loads first heard crew) :
    ∃ deeds, Run repertoire first deeds crew := by
  induction relay with
  | start => exact ⟨_, .start⟩
  | collect relay ih =>
      obtain ⟨deeds, run⟩ := ih
      exact ⟨_, run.snoc .collect⟩
  | act relay member act relays ih =>
      obtain ⟨deeds, run⟩ := ih
      exact ⟨_, run.snoc (.act member act)⟩

theorem Run.full {deeds : List Deed} (run : Run repertoire first deeds crew) :
    Run .full first deeds crew :=
  run.mono fun _ _ _ => trivial

/-- What holds in every state of a thread that runs alone, if early hooks have
nothing loaded. -/
structure Peaceful (crew : Crew) (heard : List Fault) : Prop where
  fits : crew.world.Fits (crew.thread 0)
  causes : crew.world.Conclusive
  final : (crew.thread 0).Final
  heard : ∀ fault ∈ heard, fault.Final

theorem peaceful_idle : (idle setups 1).Peaceful [] where
  fits := by
    rw [thread_idle]
    exact ⟨trivial, by simp⟩
  causes key cause stored := by
    change ((World.ofSetups setups).unit key).failure.cause = some cause at stored
    rw [World.unit_ofSetups] at stored
    contradiction
  final := by
    rw [thread_idle]
    exact Thread.final_of_none rfl
  heard := by simp

theorem peaceful_relay
    (relay : Relay .lenient Callback.Late (idle setups 1) heard crew) :
    crew.Peaceful heard := by
  induction relay with
  | start => exact peaceful_idle
  | @collect crew heard relay ih =>
      obtain ⟨_, run⟩ := relay.run
      have still := (World.alike_collect crew.world crew.pinned).still
      refine ⟨ih.fits.grows ((lone_run run.full).framed.supports 0) (.of_still still),
        fun key cause stored => ?_, ih.final, ih.heard⟩
      rw [(still.unit key).failure] at stored
      exact ih.causes key cause stored
  | @act crew heard me world thread deeds relay member act relays ih =>
      obtain ⟨_, run⟩ := relay.run
      have lone := lone_run run.full
      have first : me = 0 := Nat.lt_one_iff.mp (lone.single ▸ member)
      subst first
      have supports := lone.framed.supports 0
      have final := World.final_act act relays ih.heard supports ih.fits ih.causes
        ih.final
      have now : (({ crew with world }.setThread 0 thread)).thread 0 = thread := by
        rw [thread_acted member, if_pos rfl]
      refine ⟨?_, World.conclusive_act act ih.causes ih.final, ?_, ?_⟩
      · rw [now]
        exact World.fits_act act relays supports lone.candid
          (fun key known owner owned => (lone.holds_of_owner known owned).2) ih.fits
      · rw [now]
        exact final
      · intro fault member
        rcases List.mem_append.mp member with before | new
        · exact ih.heard fault before
        · exact final fault (thread.heard_subset new)

/-- If hooks of sub-steps below `loaded` leave the loader alone, then no callback
hears that a load is in progress, and no unit is blamed for one. -/
theorem never_in_progress
    (relay : Relay .lenient Callback.Late (idle setups 1) heard crew) :
    crew.world.Conclusive ∧ ∀ fault ∈ heard, fault.Final :=
  ⟨(peaceful_relay relay).causes, (peaceful_relay relay).heard⟩

/-- The thread acts, or the client ends the callback that it is in. -/
def attend (crew : Crew) : Crew :=
  match (crew.thread 0).task with
  | .callback _ => crew.endCallback 0 (.ok ())
  | _ => crew.act 0

theorem Relay.attend (relay : Relay repertoire loads first heard crew)
    (member : 0 < crew.threads.length) :
    ∃ heard, Relay repertoire loads first heard crew.attend := by
  unfold Crew.attend
  split
  · rename_i callback current
    have called : crew.thread 0 = ⟨.callback callback, (crew.thread 0).stack⟩ := by
      rw [← current]
    refine ⟨_, relay.act member (.finish (.ok ()) called)
      ⟨fun _ ended => ?_, fun before ended => ?_⟩⟩
    · simp [Thread.finish, Except.map] at ended
    · rw [before] at ended
      simp [Thread.finish] at ended
  · rename_i busy
    unfold Crew.act
    split
    · exact ⟨_, relay⟩
    · rename_i world thread step
      have never {callback : Callback} {stack : List Waiting}
          (called : crew.thread 0 = ⟨.callback callback, stack⟩) : False :=
        busy callback (by rw [called])
      exact ⟨_, relay.act member (.step step)
        ⟨fun called => (never called).elim, fun called => (never called).elim⟩⟩

theorem length_attend : crew.attend.threads.length = crew.threads.length := by
  unfold attend
  split
  · simp [endCallback, setThread]
  · exact length_act crew 0

theorem Relay.attendFor (relay : Relay repertoire loads first heard crew)
    (member : 0 < crew.threads.length) (turns : Nat) :
    ∃ heard, Relay repertoire loads first heard (Crew.attend^[turns] crew) := by
  induction turns generalizing crew heard with
  | zero => exact ⟨_, relay⟩
  | succ turns ih =>
      obtain ⟨_, attended⟩ := relay.attend member
      exact ih attended (by rw [length_attend]; exact member)

theorem Relay.ask (relay : Relay repertoire loads first heard crew)
    (operation : Operation) (may : crew.mayAsk 0 operation = true)
    (asked : repertoire crew.world operation)
    (called : ∀ callback, (crew.thread 0).task = .callback callback → loads callback) :
    ∃ heard, Relay repertoire loads first heard (crew.ask 0 operation) := by
  simp only [mayAsk, Bool.and_eq_true, decide_eq_true_eq,
    Option.isNone_iff_eq_none] at may
  obtain ⟨⟨member, turn⟩, granted⟩ := may
  cases lasts : operation.task? crew.world with
  | some task =>
      have acted := relay.act member (.call operation turn asked granted lasts)
        ⟨fun current answered => ?_, fun current _ => called _ (by rw [current])⟩
      · simp only [Crew.ask, lasts]
        exact ⟨_, acted⟩
      · rw [current] at answered
        simp [Thread.call] at answered
  | none =>
      have acted := relay.act member (.operate operation turn asked granted lasts)
        ⟨fun current answered => ?_, fun current _ => called _ (by rw [current])⟩
      · have same : crew.threads.set 0 (crew.thread 0) = crew.threads := by
          simp [Crew.thread, member]
        rw [setThread, same] at acted
        simp only [Crew.ask, lasts]
        exact ⟨_, acted⟩
      · rw [current] at answered
        cases answered

/-- Two units whose domain calls the client back after every sub-step.  The
initializer of the second has the first activated. -/
def tied : Crew :=
  (((idle [{ hook := { client := true } }] 1).ask 0
    (.create 0 { name := "App" } { name := "App" })).ask 0
    (.create 0 { name := "Lib" }
      { name := "Lib", initializer := .dependencies })).ask 0
    (.addDependency 1 0)

/-- The first unit is being activated. -/
def tiedAt (turns : Nat) : Crew :=
  Crew.attend^[turns] (tied.ask 0 (.ensure 0 0 .active))

/-- From there on the hook has the second unit activated. -/
def tiedFrom (turns : Nat) : Crew :=
  Crew.attend^[150] ((tiedAt turns).ask 0 (.ensure 0 1 .active))

theorem loads_of_outside (outside : crew.isCalledBack 0 = false)
    (member : 0 < crew.threads.length) (callback : Callback)
    (current : (crew.thread 0).task = .callback callback) : loads callback := by
  simp [isCalledBack, current, member] at outside

/-- No hook of a sub-step below `loaded` is being called. -/
def isLate (crew : Crew) : Bool :=
  match (crew.thread 0).task with
  | .callback (.hook _ level) => decide (.loaded ≤ level)
  | _ => true

theorem late_of_isLate (late : crew.isLate = true) (callback : Callback)
    (current : (crew.thread 0).task = .callback callback) : callback.Late := by
  rw [isLate, current] at late
  cases callback with
  | hook => simpa [Callback.Late] using late
  | _ => trivial

theorem relay_tied :
    ∃ heard, Relay .lenient Callback.Late (idle [{ hook := { client := true } }] 1)
      heard tied := by
  have nothing : Relay .lenient Callback.Late
      (idle [{ hook := { client := true } }] 1) [] _ := .start
  obtain ⟨_, app⟩ := nothing.ask (.create 0 { name := "App" } { name := "App" })
    (by decide +kernel) trivial
    (loads_of_outside (by decide +kernel) (by decide +kernel))
  obtain ⟨_, lib⟩ := app.ask
    (.create 0 { name := "Lib" } { name := "Lib", initializer := .dependencies })
    (by decide +kernel) trivial
    (loads_of_outside (by decide +kernel) (by decide +kernel))
  exact lib.ask (.addDependency 1 0) (by decide +kernel) trivial
    (loads_of_outside (by decide +kernel) (by decide +kernel))

/-- The hook of `loaded` has the second unit activated, whose initializer comes back
to the first. -/
theorem never_in_progress_of_tied :
    ∃ heard, ((tiedFrom 71).world.Conclusive ∧ ∀ fault ∈ heard, fault.Final) ∧
      Relay .lenient Callback.Late (idle [{ hook := { client := true } }] 1) heard
        (tiedFrom 71) ∧
      ((tiedFrom 71).world.unit 0).level = .loaded ∧
      ((tiedFrom 71).world.unit 1).level = .active := by
  obtain ⟨_, made⟩ := relay_tied
  obtain ⟨_, called⟩ := made.ask (.ensure 0 0 .active) (by decide +kernel) trivial
    (loads_of_outside (by decide +kernel) (by decide +kernel))
  obtain ⟨_, reached⟩ := called.attendFor (by decide +kernel) 71
  obtain ⟨_, pressed⟩ := reached.ask (.ensure 0 1 .active) (by decide +kernel)
    trivial (late_of_isLate (by decide +kernel))
  obtain ⟨heard, ended⟩ := pressed.attendFor (by decide +kernel) 150
  exact ⟨heard, never_in_progress ended, ended, by decide +kernel,
    by decide +kernel⟩

/-- If the hook of `begin` does the same, then the second unit is blamed for good. -/
theorem early_hook_blames :
    (∃ deeds, Run .full (idle [{ hook := { client := true } }] 1) deeds tied) ∧
      tied.isDone = true ∧ (tied.world.unit 1).failure.cause = none ∧
      (∃ heard, Relay .ensuring (fun _ => True) tied heard (tiedFrom 7)) ∧
      ((tiedFrom 7).world.unit 0).failure.cause = none ∧
      ((tiedFrom 7).world.unit 1).failure.cause.map Cause.code =
        some .loadInProgress := by
  refine ⟨?_, by decide +kernel, by decide +kernel, ?_, by decide +kernel,
    by decide +kernel⟩
  · obtain ⟨_, made⟩ := relay_tied
    obtain ⟨deeds, run⟩ := made.run
    exact ⟨deeds, run.full⟩
  · have made : Relay .ensuring (fun _ => True) tied [] tied := .start
    obtain ⟨_, called⟩ := made.ask (.ensure 0 0 .active) (by decide +kernel) trivial
      fun _ _ => trivial
    obtain ⟨_, reached⟩ := called.attendFor (by decide +kernel) 7
    obtain ⟨_, pressed⟩ := reached.ask (.ensure 0 1 .active) (by decide +kernel)
      trivial fun _ _ => trivial
    exact pressed.attendFor (by decide +kernel) 150

end Crew

end LoadLadder
