import LoadLadder.Proofs.Blueprints

/-!
# Descents through dependencies

A thread that drives a unit to a level goes down the unit's dependencies, and down
theirs, and is found at any instant somewhere on such a descent.  This file says
what it knows there: which dependencies of the units below it on the stack are as
far as they should be, why the sub-step that it is in can still fail, and what its
answer will mean.  From one instant to the next this knowledge is handed on, and
with it every unit stays where the blueprint lets it be.
-/

namespace LoadLadder

/-- What is left of an activation when the initializer runs. -/
def Level.afterInitializer : List Action :=
  [.expandTypes, .registerCode, .reportTransition]

namespace World

/-- The drive of a unit to a level stands on a descent that began with the drive of
a unit, if any, to a goal.  Every unit that waits is being activated, is not made
to fail, and has come to the dependency that is driven above it. -/
inductive Delves (world : World) (aim : Option UnitKey) (goal : Level) :
    UnitKey → Level → List Waiting → Prop
  | outermost {root : UnitKey} (aimed : aim = some root) :
      Delves world aim goal root goal []
  | within {key dependency : UnitKey} {met rest : List UnitKey}
      {gateLifted : Bool} {stack : List Waiting}
      (below : Delves world aim goal key .active stack)
      (sound : world.blueprint.failAt key = none)
      (split : world.blueprint.dependencies key = met ++ dependency :: rest)
      (served : ∀ other ∈ met, world.Serves key other) :
      Delves world aim goal dependency .active
        (.onDependency key rest ::
          .onInitializer key .active Level.afterInitializer gateLifted ::
          .onSubStep key .active .active :: stack)

/-- The unit that is driven keeps the unit that waits for it from going on, and
cannot go on itself before. -/
def Halted (world : World) (key : UnitKey) (stack : List Waiting) : Prop :=
  ∃ user rest below, stack = .onDependency user rest :: below ∧
    world.blueprint.Closes user key ∧ .loaded ≤ (world.unit key).level

/-- The sub-step fails before it is over if it is made to, and activates only what
is ready for it. -/
structure Ahead (world : World) (key : UnitKey) (level : Level)
    (rest : List Action) : Prop where
  fails : world.blueprint.failAt key = some level →
    ∃ action ∈ rest, level.work? = some action
  attends : level = .active → .runInitializer ∈ rest ∨ world.Attended key

/-- What a driver knows at each point of its loop. -/
def Stands (world : World) (key : UnitKey) (target : Level)
    (stack : List Waiting) : Phase → Prop
  | .raise level => level ≤ target ∧ world.Ahead key level []
  | .fail level fault => level ≤ target ∧ world.Accounts key level fault
  | .release .stop =>
      target ≤ (world.unit key).level ∨ (world.unit key).isError = true
  | .release (.raise fault) =>
      ∃ cause, (world.unit key).failure.cause = some cause ∧
        fault = .load cause
  | .leave | .settle =>
      target ≤ (world.unit key).level ∨ (world.unit key).isError = true ∨
        world.Halted key stack
  | .require => target ≤ (world.unit key).level ∨ world.Halted key stack
  | _ => True

/-- What the answer to the drive of a unit to a level means. -/
def Answers (world : World) (key : UnitKey) (target : Level)
    (reply : Reply) : Prop :=
  ((∃ flag, reply = .ok flag) ∧ target ≤ (world.unit key).level) ∨
    ∃ cause, reply = .error (.load cause) ∧
      (world.unit key).failure.cause = some cause

/-- Where a thread is on its descent. -/
inductive Delving (world : World) (aim : Option UnitKey) (goal : Level) :
    Thread → Prop
  | drives {key : UnitKey} {target : Level} {phase : Phase}
      {stack : List Waiting} (delves : world.Delves aim goal key target stack)
      (stands : world.Stands key target stack phase) :
      Delving world aim goal ⟨.drive key target phase, stack⟩
  | carries {key : UnitKey} {target level : Level} {rest : List Action}
      {stack : List Waiting} (delves : world.Delves aim goal key target stack)
      (low : level ≤ target) (ahead : world.Ahead key level rest) :
      Delving world aim goal
        ⟨.subStep key level rest, .onSubStep key target level :: stack⟩
  | initializes {key : UnitKey} {met rest : List UnitKey} {gateLifted : Bool}
      {stack : List Waiting} (delves : world.Delves aim goal key .active stack)
      (sound : world.blueprint.failAt key = none)
      (split : world.blueprint.dependencies key = met ++ rest)
      (served : ∀ other ∈ met, world.Serves key other) :
      Delving world aim goal
        ⟨.activateDependencies key rest,
          .onInitializer key .active Level.afterInitializer gateLifted ::
            .onSubStep key .active .active :: stack⟩
  | announces {key : UnitKey} {target : Level} {snapshot : Snapshot}
      {rest : List Listener} {stack : List Waiting}
      (delves : world.Delves aim goal key target stack)
      (reached : target ≤ (world.unit key).level) :
      Delving world aim goal ⟨.announce key target snapshot rest, stack⟩
  | answersClient {reply : Reply}
      (answers : ∀ root, aim = some root → world.Answers root goal reply) :
      Delving world aim goal ⟨.answer reply, []⟩
  | answersDriver {key : UnitKey} {target level : Level} {reply : Reply}
      {stack : List Waiting} (delves : world.Delves aim goal key target stack)
      (low : level ≤ target)
      (ends : (reply = .ok true ∧ world.Ahead key level []) ∨
        ∃ fault, reply = .error fault ∧ world.Accounts key level fault) :
      Delving world aim goal
        ⟨.answer reply, .onSubStep key target level :: stack⟩
  | answersInitializer {key : UnitKey} {gateLifted : Bool} {reply : Reply}
      {stack : List Waiting} (delves : world.Delves aim goal key .active stack)
      (ends : ((∃ flag, reply = .ok flag) ∧ world.Attended key) ∨
        ∃ fault, reply = .error fault ∧ world.Accounts key .active fault) :
      Delving world aim goal
        ⟨.answer reply,
          .onInitializer key .active Level.afterInitializer gateLifted ::
            .onSubStep key .active .active :: stack⟩
  | answersDependency {key dependency : UnitKey} {met rest : List UnitKey}
      {gateLifted : Bool} {reply : Reply} {stack : List Waiting}
      (delves : world.Delves aim goal key .active stack)
      (sound : world.blueprint.failAt key = none)
      (split : world.blueprint.dependencies key = met ++ dependency :: rest)
      (served : ∀ other ∈ met, world.Serves key other)
      (ends : ((∃ flag, reply = .ok flag) ∧ world.Serves key dependency) ∨
        ∃ cause, reply = .error (.load cause) ∧
          (world.unit dependency).failure.cause = some cause) :
      Delving world aim goal
        ⟨.answer reply,
          .onDependency key rest ::
            .onInitializer key .active Level.afterInitializer gateLifted ::
            .onSubStep key .active .active :: stack⟩

variable {world next : World} {me : ThreadId} {thread after : Thread}
  {key : UnitKey} {target level : Level} {stack : List Waiting}
  {aim : Option UnitKey} {goal : Level} {sinks : Sinks}

section

variable (proceeds : world.Proceeds next)

include proceeds

theorem Proceeds.isError (failed : (world.unit key).isError = true) :
    (next.unit key).isError = true :=
  (proceeds.grows key).isError failed

theorem Proceeds.reached (reached : target ≤ (world.unit key).level) :
    target ≤ (next.unit key).level :=
  Nat.le_trans reached (proceeds.grows key).level

theorem Delves.later (delves : world.Delves aim goal key target stack) :
    next.Delves aim goal key target stack := by
  induction delves with
  | outermost aimed => exact .outermost aimed
  | within below sound split served ih =>
      rw [← proceeds.blueprint] at sound split
      exact .within ih sound split
        fun other member => proceeds.serves (served other member)

theorem Halted.later (halted : world.Halted key stack) :
    next.Halted key stack := by
  obtain ⟨user, rest, below, same, closes, loaded⟩ := halted
  rw [← proceeds.blueprint] at closes
  exact ⟨user, rest, below, same, closes, proceeds.reached loaded⟩

theorem Ahead.later {rest : List Action}
    (ahead : world.Ahead key level rest) : next.Ahead key level rest := by
  obtain ⟨fails, attends⟩ := ahead
  rw [← proceeds.blueprint] at fails
  exact ⟨fails, fun active => (attends active).imp_right proceeds.attended⟩

theorem Answers.later {reply : Reply}
    (answers : world.Answers key target reply) :
    next.Answers key target reply := by
  rcases answers with ⟨success, reached⟩ | ⟨cause, raised, stored⟩
  · exact Or.inl ⟨success, proceeds.reached reached⟩
  · exact Or.inr ⟨cause, raised, (proceeds.grows key).failure cause stored⟩

theorem stands_later {phase : Phase}
    (stands : world.Stands key target stack phase) :
    next.Stands key target stack phase := by
  cases phase with
  | raise level => exact ⟨stands.1, stands.2.later proceeds⟩
  | fail level fault => exact ⟨stands.1, proceeds.accounts stands.2⟩
  | release exit =>
      cases exit with
      | stop => exact stands.imp proceeds.reached proceeds.isError
      | raise fault =>
          obtain ⟨cause, stored, raised⟩ := stands
          exact ⟨cause, (proceeds.grows key).failure cause stored, raised⟩
      | again => trivial
  | leave | settle =>
      exact stands.imp proceeds.reached
        (Or.imp proceeds.isError (Halted.later proceeds))
  | require => exact stands.imp proceeds.reached (Halted.later proceeds)
  | _ => trivial

theorem Delving.later (delving : world.Delving aim goal thread) :
    next.Delving aim goal thread := by
  have blueprint := proceeds.blueprint
  cases delving with
  | drives delves stands =>
      exact .drives (delves.later proceeds) (stands_later proceeds stands)
  | carries delves low ahead =>
      exact .carries (delves.later proceeds) low (ahead.later proceeds)
  | initializes delves sound split served =>
      rw [← blueprint] at sound split
      exact .initializes (delves.later proceeds) sound split
        fun other member => proceeds.serves (served other member)
  | announces delves reached =>
      exact .announces (delves.later proceeds) (proceeds.reached reached)
  | answersClient answers =>
      exact .answersClient fun root aimed =>
        (answers root aimed).later proceeds
  | answersDriver delves low ends =>
      refine .answersDriver (delves.later proceeds) low ?_
      rcases ends with ⟨success, ahead⟩ | ⟨fault, raised, accounts⟩
      · exact Or.inl ⟨success, ahead.later proceeds⟩
      · exact Or.inr ⟨fault, raised, proceeds.accounts accounts⟩
  | answersInitializer delves ends =>
      refine .answersInitializer (delves.later proceeds) ?_
      rcases ends with ⟨success, attended⟩ | ⟨fault, raised, accounts⟩
      · exact Or.inl ⟨success, proceeds.attended attended⟩
      · exact Or.inr ⟨fault, raised, proceeds.accounts accounts⟩
  | answersDependency delves sound split served ends =>
      rw [← blueprint] at sound split
      refine .answersDependency (delves.later proceeds) sound split
        (fun other member => proceeds.serves (served other member)) ?_
      rcases ends with ⟨success, serves⟩ | ⟨cause, raised, stored⟩
      · exact Or.inl ⟨success, proceeds.serves serves⟩
      · exact Or.inr ⟨cause, raised, (proceeds.grows _).failure cause stored⟩

end

theorem faults_of_work {action : Action}
    (fails : world.blueprint.failAt key = some level)
    (work : level.work? = some action) :
    (world.perform key action).2 ≠ none := by
  have failing : (world.unit key).container.failAt = some level := fails
  cases level <;> cases work <;>
    simp [perform, World.applyEagerFixups, World.patchVtables,
      World.resolvePlan, doWork, Container.hasPrecompiledFixups,
      Container.workFault?, failing]

/-- The work of a level stops where it is made to, or at an image that is not
mapped. -/
theorem own_of_fault {action : Action} {fault : Fault}
    (done : world.perform key action = (next, some fault))
    (member : action ∈ level.actions)
    (loaded : level = .active → .loaded ≤ (world.unit key).level) :
    world.OwnFault key level fault := by
  have worked (top : Level) (same : level = top)
      (faulted : (world.unit key).container.workFault? top = some fault) :
      world.OwnFault key level fault := by
    subst same
    unfold Container.workFault? at faulted
    split at faulted
    · rename_i fails
      cases faulted
      exact .injected fails
    · contradiction
  have stops := mayStop_of_fault world key done
  cases action with
  | requireMapped =>
      have top : level = .beforeTypeLoad := by
        cases level <;> simp [Level.actions] at member ⊢
      subst top
      simp only [perform] at done
      split at done
      · simp at done
      · rename_i unmapped
        cases done
        exact .unmapped (Bool.eq_false_iff.mpr unmapped)
  | applyEagerFixups =>
      have top : level = .eagerFixups := by
        cases level <;> simp [Level.actions] at member ⊢
      simp only [perform] at done
      split at done
      · exact worked .eagerFixups top (congrArg Prod.snd done)
      · simp at done
  | patchVtables =>
      have top : level = .vtableFixups := by
        cases level <;> simp [Level.actions] at member ⊢
      exact worked .vtableFixups top (congrArg Prod.snd done)
  | requireLoaded =>
      have top : level = .active := by
        cases level <;> simp [Level.actions] at member ⊢
      have ready : (world.unit key).isLoaded = true :=
        decide_eq_true (loaded top)
      simp [perform, ready] at done
  | resolvePlan =>
      have top : level = .active := by
        cases level <;> simp [Level.actions] at member ⊢
      exact worked .active top (congrArg Prod.snd done)
  | runInitializer => simp [perform] at done
  | _ => simp [Action.mayStop] at stops

theorem afterInitializer_of_suffix {rest : List Action}
    (remains : .runInitializer :: rest <:+ Level.active.actions) :
    rest = Level.afterInitializer := by
  simpa [Level.actions, List.suffix_cons_iff, Level.afterInitializer] using
    remains

/-- A driver that stops at a cause raises it. -/
theorem load_of_throwIfError {unit : LoadUnit} {fault : Fault}
    (blocks : unit.throwIfError target = .error fault) :
    ∃ cause, unit.failure.cause = some cause ∧ fault = .load cause := by
  unfold LoadUnit.throwIfError CauseCell.raiseIfBlocking at blocks
  split at blocks
  · rename_i cause stored
    split at blocks
    · cases blocks
      exact ⟨cause, stored, rfl⟩
    · contradiction
  · contradiction

theorem clear_of_reached {unit : LoadUnit} (reached : target ≤ unit.level) :
    unit.throwIfError target = .ok () := by
  have high : ¬ unit.level < target := Nat.not_lt.mpr reached
  unfold LoadUnit.throwIfError CauseCell.raiseIfBlocking
  split
  · rw [if_neg high]
  · rfl

/-- A unit whose cause is not raised is healthy or high enough. -/
theorem reached_of_clear {unit : LoadUnit}
    (clear : unit.throwIfError target = .ok ())
    (failed : unit.isError = true) : target ≤ unit.level := by
  rw [LoadUnit.isError, CauseCell.isSet, Option.isSome_iff_exists] at failed
  obtain ⟨cause, stored⟩ := failed
  rw [LoadUnit.throwIfError, CauseCell.raiseIfBlocking, stored] at clear
  simp only at clear
  split at clear
  · contradiction
  · rename_i high
    exact Nat.not_lt.mp high

theorem recordFailure_of_healthy {fault : Fault}
    (healthy : (world.unit key).isError = false) :
    ∃ cause, (world.recordFailure key level fault).2 = .load cause ∧
      ((world.recordFailure key level fault).1.unit key).failure.cause =
        some cause := by
  refine ⟨.capture fault (world.unit key).name level, ?_, ?_⟩
  · have none : (world.unit key).failure.cause = none := by
      simpa [LoadUnit.isError, CauseCell.isSet] using healthy
    simp [recordFailure, setError, CauseCell.record, none]
  · rw [recordFailure_fst, unit_setError, if_pos ⟨rfl, healthy⟩]

theorem not_halted_outside : ¬ world.Halted key [] := by
  rintro ⟨user, rest, below, same, -⟩
  contradiction

theorem Delves.target_of_halted
    (delves : world.Delves aim goal key target stack)
    (halted : world.Halted key stack) : target = .active := by
  obtain ⟨user, rest, below, same, -⟩ := halted
  cases delves with
  | outermost => contradiction
  | within => rfl

/-- The answer of a driver tells whoever waits for it what it wants to know. -/
theorem delving_answer {reply : Reply}
    (delves : world.Delves aim goal key target stack)
    (answers : ((∃ flag, reply = .ok flag) ∧
        (target ≤ (world.unit key).level ∨ world.Halted key stack)) ∨
      ∃ cause, reply = .error (.load cause) ∧
        (world.unit key).failure.cause = some cause) :
    world.Delving aim goal ⟨.answer reply, stack⟩ := by
  cases delves with
  | outermost aimed =>
      refine .answersClient fun root sought => ?_
      rw [aimed, Option.some.injEq] at sought
      subst sought
      rcases answers with ⟨success, reached | halted⟩ | raised
      · exact Or.inl ⟨success, reached⟩
      · exact absurd halted not_halted_outside
      · exact Or.inr raised
  | within below sound split served =>
      refine .answersDependency below sound split served ?_
      rcases answers with ⟨success, reached | halted⟩ | raised
      · have active := LoadUnit.eq_active_of_isActive (decide_eq_true reached)
        exact Or.inl ⟨success, Or.inl active⟩
      · obtain ⟨user, rest, stack, same, closes, -⟩ := halted
        cases same
        exact Or.inl ⟨success, Or.inr closes⟩
      · exact Or.inr raised

theorem target_le_goal (delves : world.Delves aim goal key target stack) :
    target ≤ goal := by
  induction delves with
  | outermost => exact Nat.le_refl _
  | within below sound split served ih => exact ih

/-- A unit whose initializer is about to run is not made to fail. -/
theorem sound_of_initializing {rest : List Action}
    (planned : world.Planned sinks) (grounded : ∀ key, world.Grounded key)
    (steady : world.Steady ⟨.subStep key .active (.runInitializer :: rest),
      .onSubStep key target .active :: stack⟩ key)
    (remains : .runInitializer :: rest <:+ Level.active.actions)
    (ahead : world.Ahead key .active (.runInitializer :: rest)) :
    world.blueprint.failAt key = none := by
  have last := afterInitializer_of_suffix remains
  rcases steady.standing .active
    (by simp [Thread.driving, Waiting.driving]) with step | ⟨same, -⟩
  · by_contra fails
    obtain ⟨level, fails⟩ := Option.ne_none_iff_exists'.mp fails
    have above := (grounded key).short level fails
    have top := Level.rank_of_next step
    have failing := planned.failing key level fails
    have here : level = .active := by
      cases level <;>
        simp_all [Level.failurePoints, Level.lt_def, Level.rank]
    subst here
    obtain ⟨action, member, work⟩ := ahead.fails fails
    rw [last] at member
    cases work
    simp [Level.afterInitializer] at member
  · contradiction

theorem Ahead.tail {action : Action} {rest : List Action}
    (ahead : world.Ahead key level (action :: rest))
    (worked : level.work? = some action →
      world.blueprint.failAt key ≠ some level)
    (initialized : action = .runInitializer → world.Attended key) :
    world.Ahead key level rest where
  fails := by
    intro fails
    obtain ⟨found, member, work⟩ := ahead.fails fails
    rcases List.mem_cons.mp member with same | later
    · exact absurd fails (worked (same ▸ work))
    · exact ⟨found, later, work⟩
  attends := by
    intro active
    rcases ahead.attends active with pending | attended
    · rcases List.mem_cons.mp pending with same | later
      · exact Or.inr (initialized same.symm)
      · exact Or.inl later
    · exact Or.inr attended

theorem ahead_of_climb (planned : world.Planned sinks) :
    world.Ahead key level level.actions where
  fails := fun fails =>
    Level.exists_work_of_failurePoint (planned.failing key level fails)
  attends := by
    rintro rfl
    exact Or.inl (by decide)

/-- A dependency is driven, or it is active already. -/
theorem delving_ensure {dependency : UnitKey} {rest met : List UnitKey}
    {gateLifted : Bool} (planned : world.Planned sinks)
    (known : key < world.unitCount)
    (delves : world.Delves aim goal key .active stack)
    (sound : world.blueprint.failAt key = none)
    (split : world.blueprint.dependencies key = met ++ dependency :: rest)
    (served : ∀ other ∈ met, world.Serves key other) :
    world.Delving aim goal
      ⟨.ensure world (world.unit key).home dependency .active,
        .onDependency key rest ::
          .onInitializer key .active Level.afterInitializer gateLifted ::
          .onSubStep key .active .active :: stack⟩ := by
  have needs : world.blueprint.Needs key dependency := by
    rw [Blueprint.Needs, split]
    simp
  have native : world.checkDomain (world.unit key).home dependency =
      .ok () := by
    have home := planned.watched.home dependency
      (planned.held key dependency needs).1
    exact if_pos (home.trans (planned.watched.home key known).symm)
  simp only [Task.ensure, native]
  split
  · exact .drives (.within delves sound split served) trivial
  · rename_i high
    have reached : Level.active ≤ (world.unit dependency).level := by
      have high : ¬ (world.unit dependency).level < .active := by
        simpa [LoadUnit.isLoading] using high
      exact Nat.not_lt.mp high
    have active := LoadUnit.eq_active_of_isActive (decide_eq_true reached)
    refine .answersDependency delves sound split served
      (Or.inl ⟨⟨true, ?_⟩, Or.inl active⟩)
    rw [clear_of_reached reached]
    rfl

/-- Whoever is refused an entry because it is in its own way has come back to a
unit that waits. -/
def Turns (world : World) (me : ThreadId) (thread : Thread) : Prop :=
  ∀ key target phase stack entries verdict,
    thread = ⟨.drive key target phase, stack⟩ →
    phase.asked (world.homeOf key).entries me (world.unit key).id =
      some (entries, verdict) →
    verdict = .reentrant ∨ verdict = .wouldDeadlock → world.Halted key stack

theorem delving_of_verdict {phase : Phase} {entries : Entries}
    {verdict : Verdict}
    (turns : world.Turns me ⟨.drive key target phase, stack⟩)
    (delves : world.Delves aim goal key target stack)
    (asked : phase.asked (world.homeOf key).entries me (world.unit key).id =
      some (entries, verdict)) :
    world.Delving aim goal ⟨afterRequest key target verdict, stack⟩ := by
  cases verdict with
  | acquired | blocked => exact .drives delves trivial
  | reentrant =>
      have halted := turns _ _ _ _ _ _ rfl asked (Or.inl rfl)
      exact .drives delves (Or.inr (Or.inr halted))
  | wouldDeadlock =>
      have halted := turns _ _ _ _ _ _ rfl asked (Or.inr rfl)
      exact .drives delves (Or.inr (Or.inr halted))

/-- A driver that finds no level to take is through with the unit. -/
theorem through_of_overtaken (past : target ≤ (world.unit key).level ∨
    (world.unit key).isError = true ∨ (world.unit key).level.next = none) :
    target ≤ (world.unit key).level ∨ (world.unit key).isError = true := by
  rcases past with reached | failed | top
  · exact Or.inl reached
  · exact Or.inr failed
  · have active : (world.unit key).level = .active := by
      generalize (world.unit key).level = level at top
      cases level <;> first | rfl | (exact absurd top (by decide))
    rw [active]
    exact Or.inl (Nat.not_lt.mp (not_active_lt target))

/-- The relaxed target is met by a unit that is on its way higher up. -/
theorem requireLevel_of_stands
    (delves : world.Delves aim goal key target stack)
    (stands : world.Stands key target stack .require) :
    (world.unit key).requireLevel target.relaxed = .ok () := by
  have relaxed : ¬ (world.unit key).level < target.relaxed := by
    rcases stands with reached | halted
    · have lower : target.relaxed ≤ target := by
        cases target <;> decide
      exact Nat.not_lt.mpr (Nat.le_trans lower reached)
    · have top := delves.target_of_halted halted
      subst top
      obtain ⟨-, -, -, -, -, loaded⟩ := halted
      exact Nat.not_lt.mpr loaded
  simp [LoadUnit.requireLevel, relaxed]
  rfl

theorem delving_of_drives {phase : Phase}
    (stepped : world.Stepped me ⟨.drive key target phase, stack⟩ next after)
    (planned : world.Planned sinks)
    (steady : world.Steady ⟨.drive key target phase, stack⟩ key)
    (turns : world.Turns me ⟨.drive key target phase, stack⟩)
    (delves : world.Delves aim goal key target stack)
    (stands : world.Stands key target stack phase) :
    next.Delving aim goal after := by
  have proceeds := proceeds_stepped stepped
  cases stepped with
  | below | admitted | releasedAgain | raised | entered =>
      exact .drives (delves.later proceeds) trivial
  | @failed _ _ level fault =>
      have healthy := steady.healthy level
        (by simp [Thread.driving, Task.driving])
      obtain ⟨cause, raised, stored⟩ := recordFailure_of_healthy healthy
      exact .drives (delves.later proceeds) ⟨cause, stored, raised⟩
  | refused asks kept goes asked =>
      obtain ⟨verdict, asked, goes⟩ := asked
      exact goes ▸ (delving_of_verdict turns delves asked).later proceeds
  | arrived high => exact .drives delves (Or.inl (Nat.not_lt.mp high))
  | barred failed => exact .drives delves (Or.inr (Or.inl failed))
  | overtaken past => exact .drives delves (through_of_overtaken past)
  | @climbs _ _ level _ short healthy above =>
      have rank := Level.rank_of_next above
      refine .carries delves ?_ (ahead_of_climb planned)
      simp only [Level.le_def] at short ⊢
      omega
  | releasedStop =>
      have left : world.Delving aim goal ⟨.drive key target .leave, stack⟩ :=
        .drives delves (stands.imp_right Or.inl)
      exact left.later proceeds
  | releasedRaise =>
      obtain ⟨cause, stored, rfl⟩ := stands
      exact (delving_answer delves (Or.inr ⟨cause, rfl, stored⟩)).later proceeds
  | announces active =>
      refine (Delving.announces delves ?_).later proceeds
      rw [LoadUnit.eq_active_of_isActive active]
      exact Nat.not_lt.mp (not_active_lt _)
  | announcedBefore =>
      have told : world.Delving aim goal ⟨.drive key target .settle, stack⟩ :=
        .drives delves stands
      exact told.later proceeds
  | leaves => exact .drives delves stands
  | settled clear =>
      refine .drives delves ?_
      rcases stands with reached | failed | halted
      · exact Or.inl reached
      · exact Or.inl (reached_of_clear clear failed)
      · exact Or.inr halted
  | blames blocks =>
      obtain ⟨cause, stored, rfl⟩ := load_of_throwIfError blocks
      exact delving_answer delves (Or.inr ⟨cause, rfl, stored⟩)
  | required =>
      refine delving_answer delves (Or.inl ⟨⟨true, ?_⟩, stands⟩)
      rw [requireLevel_of_stands delves stands]
      rfl

section

variable {rest : List Action} (planned : world.Planned sinks)
  (grounded : ∀ key, world.Grounded key)
  (supports : world.Supports
    ⟨.subStep key level rest, .onSubStep key target level :: stack⟩)
  (chains : world.Chains
    ⟨.subStep key level rest, .onSubStep key target level :: stack⟩)
  (steady : world.Steady
    ⟨.subStep key level rest, .onSubStep key target level :: stack⟩ key)

include planned supports chains steady

/-- An action that stops a sub-step was made to. -/
theorem fails_of_faulted {action : Action} {later : List Action}
    {fault : Fault} (here : rest = action :: later)
    (done : world.perform key action = (next, some fault)) :
    world.blueprint.failAt key = some level ∧ fault =
      .step level
        ("injected failure in " ++ (world.unit key).container.name) := by
  subst here
  have loaded : level = .active → .loaded ≤ (world.unit key).level := by
    rintro rfl
    rcases steady.standing .active
      (by simp [Thread.driving, Waiting.driving]) with step | ⟨same, -⟩
    · have top := Level.rank_of_next step
      simp only [Level.le_def, Level.rank] at top ⊢
      omega
    · contradiction
  cases own_of_fault done (chains.1.subset List.mem_cons_self) loaded with
  | injected fails => exact ⟨fails, rfl⟩
  | unmapped unmapped =>
      rw [planned.mapped key supports.1] at unmapped
      contradiction

include grounded

theorem delving_of_carries
    (stepped : world.Stepped me
      ⟨.subStep key level rest, .onSubStep key target level :: stack⟩ next after)
    (delves : world.Delves aim goal key target stack) (low : level ≤ target)
    (ahead : world.Ahead key level rest) : world.Delving aim goal after := by
  cases stepped with
  | completed => exact .answersDriver delves low (Or.inl ⟨rfl, ahead⟩)
  | @performed _ _ action later next _ ordinary done absent =>
      refine .carries delves low (ahead.tail ?_ ?_)
      · intro work fails
        have faults := faults_of_work fails work
        rw [done] at faults
        exact faults rfl
      · rintro rfl
        have top := active_of_runInitializer chains.1
        subst top
        refine ⟨sound_of_initializing planned grounded steady chains.1 ahead,
          fun dependency needs => ?_⟩
        have initialized := planned.initialized key dependency needs
        rw [absent rfl] at initialized
        contradiction
  | faulted done =>
      obtain ⟨fails, rfl⟩ :=
        fails_of_faulted planned supports chains steady rfl done
      exact .answersDriver delves low (Or.inr ⟨_, rfl, .injected fails⟩)
  | initializes runs =>
      -- A unit that is made to fail has failed before its initializer would run.
      have top := active_of_runInitializer chains.1
      subst top
      have sound := sound_of_initializing planned grounded steady chains.1 ahead
      rw [afterInitializer_of_suffix chains.1]
      have high : target = .active := by
        cases target <;> first | rfl | exact absurd low (by decide)
      subst high
      rcases runs with ⟨-, rfl⟩ | ⟨client, -⟩
      · exact .initializes delves sound (List.nil_append _).symm (by simp)
      · exact absurd client (planned.watched.initializer key supports.1)
  | reported goes =>
      rcases goes with ⟨-, rfl⟩ | ⟨client, -⟩
      · refine .carries delves low (ahead.tail ?_ (by simp))
        intro work
        cases level <;> cases work
      · rw [planned.watched.homeOf supports.1, planned.watched.hook] at client
        contradiction

end

section

variable {met rest : List UnitKey} {gateLifted : Bool}
  (delves : world.Delves aim goal key .active stack)

include delves

theorem delving_of_initializes
    (stepped : world.Stepped me ⟨.activateDependencies key rest,
      .onInitializer key .active Level.afterInitializer gateLifted ::
        .onSubStep key .active .active :: stack⟩ next after)
    (planned : world.Planned sinks) (known : key < world.unitCount)
    (sound : world.blueprint.failAt key = none)
    (split : world.blueprint.dependencies key = met ++ rest)
    (served : ∀ other ∈ met, world.Serves key other) :
    world.Delving aim goal after := by
  cases stepped with
  | allActivated =>
      refine .answersInitializer delves
        (Or.inl ⟨⟨true, rfl⟩, sound, fun dependency needs => ?_⟩)
      rw [Blueprint.Needs, split, List.append_nil] at needs
      exact served dependency needs
  | activates => exact delving_ensure planned known delves sound split served
  | @skips _ dependency rest _ destroyed =>
      have needs : world.blueprint.Needs key dependency := by
        rw [Blueprint.Needs, split]
        simp
      have held := (planned.held key dependency needs).2
      simp [LoadUnit.isAlive, held] at destroyed

theorem delving_of_answersInitializer {reply : Reply}
    (stepped : world.Stepped me ⟨.answer reply,
      .onInitializer key .active Level.afterInitializer gateLifted ::
        .onSubStep key .active .active :: stack⟩ next after)
    (ends : ((∃ flag, reply = .ok flag) ∧ world.Attended key) ∨
      ∃ fault, reply = .error fault ∧ world.Accounts key .active fault) :
    world.Delving aim goal after := by
  cases stepped with
  | initialized =>
      rcases ends with ⟨-, attended⟩ | ⟨fault, raised, -⟩
      · refine .carries delves (Nat.le_refl _)
          ⟨fun fails => ?_, fun _ => Or.inr attended⟩
        rw [attended.sound] at fails
        contradiction
      · contradiction
  | uninitialized =>
      rcases ends with ⟨⟨flag, success⟩, -⟩ | ⟨fault, raised, accounts⟩
      · contradiction
      · cases raised
        exact .answersDriver delves (Nat.le_refl _)
          (Or.inr ⟨_, rfl, accounts⟩)

theorem delving_of_answersDependency {dependency : UnitKey} {reply : Reply}
    (stepped : world.Stepped me ⟨.answer reply, .onDependency key rest ::
      .onInitializer key .active Level.afterInitializer gateLifted ::
        .onSubStep key .active .active :: stack⟩ next after)
    (sound : world.blueprint.failAt key = none)
    (split : world.blueprint.dependencies key = met ++ dependency :: rest)
    (served : ∀ other ∈ met, world.Serves key other)
    (ends : ((∃ flag, reply = .ok flag) ∧ world.Serves key dependency) ∨
      ∃ cause, reply = .error (.load cause) ∧
        (world.unit dependency).failure.cause = some cause) :
    world.Delving aim goal after := by
  cases stepped with
  | activated =>
      rcases ends with ⟨-, serves⟩ | ⟨cause, raised, -⟩
      · have further : world.blueprint.dependencies key =
            (met ++ [dependency]) ++ rest := by
          simpa using split
        refine .initializes delves sound further fun other member => ?_
        rcases List.mem_append.mp member with before | last
        · exact served other before
        · rwa [List.mem_singleton.mp last]
      · contradiction
  | unactivated =>
      rcases ends with ⟨⟨flag, success⟩, -⟩ | ⟨cause, raised, stored⟩
      · contradiction
      · cases raised
        exact .answersInitializer delves
          (Or.inr ⟨_, rfl, .inherited sound split served stored⟩)

end

theorem delving_of_answersDriver {reply : Reply}
    (stepped : world.Stepped me
      ⟨.answer reply, .onSubStep key target level :: stack⟩ next after)
    (delves : world.Delves aim goal key target stack) (low : level ≤ target)
    (ends : (reply = .ok true ∧ world.Ahead key level []) ∨
      ∃ fault, reply = .error fault ∧ world.Accounts key level fault) :
    world.Delving aim goal after := by
  rcases ends with ⟨rfl, ahead⟩ | ⟨fault, rfl, accounts⟩
  · cases stepped with
    | succeeded => exact .drives delves ⟨low, ahead⟩
  · cases stepped with
    | broke => exact .drives delves ⟨low, accounts⟩

theorem delving_of_announces {snapshot : Snapshot} {rest : List Listener}
    (stepped : world.Stepped me ⟨.announce key target snapshot rest, stack⟩ next
      after)
    (chains : world.Chains ⟨.announce key target snapshot rest, stack⟩)
    (delves : world.Delves aim goal key target stack)
    (reached : target ≤ (world.unit key).level) :
    world.Delving aim goal after := by
  cases stepped with
  | allTold => exact .drives delves (Or.inl reached)
  | tellsRecorder => exact .announces delves reached
  | tellsClient =>
      have member := chains.1.subset List.mem_cons_self
      simp at member

/-- Wherever a thread is on its descent, a step keeps it on its descent. -/
theorem delving_stepped (stepped : world.Stepped me thread next after)
    (planned : world.Planned sinks) (grounded : ∀ key, world.Grounded key)
    (supports : world.Supports thread) (chains : world.Chains thread)
    (steady : ∀ key, world.Steady thread key) (turns : world.Turns me thread)
    (delving : world.Delving aim goal thread) : next.Delving aim goal after := by
  have proceeds := proceeds_stepped stepped
  cases delving with
  | @drives key _ _ _ delves stands =>
      exact delving_of_drives stepped planned (steady key) turns delves stands
  | @carries key _ _ _ _ delves low ahead =>
      exact (delving_of_carries planned grounded supports chains (steady key)
        stepped delves low ahead).later proceeds
  | initializes delves sound split served =>
      exact (delving_of_initializes delves stepped planned supports.1 sound
        split served).later proceeds
  | announces delves reached =>
      exact (delving_of_announces stepped chains delves reached).later proceeds
  | answersClient => cases stepped
  | answersDriver delves low ends =>
      exact (delving_of_answersDriver stepped delves low ends).later proceeds
  | answersInitializer delves ends =>
      exact (delving_of_answersInitializer delves stepped ends).later proceeds
  | answersDependency delves sound split served ends =>
      exact (delving_of_answersDependency delves stepped sound split served
        ends).later proceeds

/-- Whatever is driven is held by the client. -/
theorem Delves.held (delves : world.Delves aim goal key target stack)
    (planned : world.Planned sinks)
    (aimed : ∀ root, aim = some root → (world.unit root).presence = .held) :
    (world.unit key).presence = .held := by
  cases delves with
  | outermost sought => exact aimed key sought
  | @within user _ met rest gateLifted stack below sound split served =>
      refine (planned.held user key ?_).2
      rw [Blueprint.Needs, split]
      simp

theorem Grounded.of_same (grounded : world.Grounded key)
    (proceeds : world.Proceeds next)
    (level : (next.unit key).level = (world.unit key).level)
    (failure : (next.unit key).failure = (world.unit key).failure) :
    next.Grounded key := by
  have fixed := proceeds.fixed key
  refine ⟨?_, ?_, ?_, ?_, ?_⟩
  · rw [level]
    exact fun active => proceeds.attended (grounded.attended active)
  · rw [failure, level]
    intro cause stored
    obtain ⟨failed, fault, accounts, captured, step⟩ :=
      grounded.accounted cause stored
    refine ⟨failed, fault, proceeds.accounts accounts, ?_, step⟩
    rw [captured, LoadUnit.name, LoadUnit.name, fixed.image]
  · rw [failure, proceeds.blueprint]
    exact grounded.doomed
  · rw [level, proceeds.blueprint]
    exact grounded.short
  · rw [level, failure, fixed.presence]
    exact grounded.unheld

/-- A healthy unit that a driver brings to the next level. -/
theorem Grounded.of_raised (grounded : world.Grounded key)
    (proceeds : world.Proceeds next) (held : (world.unit key).presence = .held)
    (healthy : (world.unit key).isError = false)
    (ahead : world.Ahead key level [])
    (raised : (next.unit key).level = level)
    (standing : (world.unit key).level.next = some level ∨
      level = .loaded ∧ (world.unit key).level = .loaded)
    (failure : (next.unit key).failure = (world.unit key).failure) :
    next.Grounded key := by
  have none : (next.unit key).failure.cause = none := by
    rw [failure]
    simpa [LoadUnit.isError, CauseCell.isSet] using healthy
  refine ⟨?_, ?_, ?_, ?_, ?_⟩
  · rw [raised]
    intro active
    exact proceeds.attended ((ahead.attends active).resolve_left (by simp))
  · intro cause stored
    rw [none] at stored
    contradiction
  · intro cause stored
    rw [none] at stored
    contradiction
  · rw [proceeds.blueprint, raised]
    intro failing fails
    have short := grounded.short failing fails
    have apart : level ≠ failing := by
      rintro rfl
      obtain ⟨action, member, -⟩ := ahead.fails fails
      simp at member
    have ranks : level.rank ≠ failing.rank :=
      fun same => apart (Level.rank_injective same)
    simp only [Level.lt_def] at short ⊢
    rcases standing with step | ⟨same, loaded⟩
    · have rank := Level.rank_of_next step
      omega
    · rw [loaded, ← same] at short
      exact short
  · rw [(proceeds.fixed key).presence]
    exact fun unheld => absurd held unheld

/-- A unit whose sub-step fails. -/
theorem Grounded.of_failed (grounded : ∀ key, world.Grounded key)
    (proceeds : world.Proceeds next) (planned : world.Planned sinks)
    (held : (world.unit key).presence = .held) {fault : Fault}
    (accounts : world.Accounts key level fault)
    (standing : (world.unit key).level.next = some level ∨
      level = .loaded ∧ (world.unit key).level = .loaded)
    (raised : (next.unit key).level = (world.unit key).level)
    (stored : (next.unit key).failure.cause =
      some (.capture fault (world.unit key).name level)) :
    next.Grounded key := by
  have name : (next.unit key).name = (world.unit key).name := by
    rw [LoadUnit.name, LoadUnit.name, (proceeds.fixed key).image]
  have step : (world.unit key).level.next = some level := by
    rcases standing with step | ⟨rfl, -⟩
    · exact step
    · cases accounts with
      | injected fails =>
          have failing := planned.failing key _ fails
          simp [Level.failurePoints] at failing
  obtain ⟨code, doomed⟩ := doomed_of_accounts grounded accounts
  refine ⟨?_, ?_, ?_, ?_, ?_⟩
  · rw [raised]
    exact fun active => absurd active (Level.ne_active_of_next step)
  · rw [stored, raised, name]
    intro cause same
    exact ⟨level, fault, proceeds.accounts accounts,
      (Option.some.inj same).symm, step⟩
  · rw [stored, proceeds.blueprint]
    intro cause same
    rw [← Option.some.inj same]
    exact ⟨code, doomed⟩
  · rw [raised, proceeds.blueprint]
    exact (grounded key).short
  · rw [(proceeds.fixed key).presence]
    exact fun unheld => absurd held unheld

theorem grounded_stepped (stepped : world.Stepped me thread next after)
    (planned : world.Planned sinks) (grounded : ∀ key, world.Grounded key)
    (chains : world.Chains thread) (steady : ∀ key, world.Steady thread key)
    (aimed : ∀ root, aim = some root → (world.unit root).presence = .held)
    (delving : world.Delving aim goal thread) (key : UnitKey) :
    next.Grounded key := by
  have proceeds := proceeds_stepped stepped
  have driven {level : Level} (driving : level ∈ thread.driving key) :=
    And.intro ((steady key).healthy level driving)
      ((steady key).standing level driving)
  rcases unit_moves_stepped stepped key with
    still | ⟨target, level, stack, rfl, raised⟩ |
    ⟨level, rest, stack, rfl, raised⟩ |
    ⟨target, level, fault, stack, rfl, moved⟩
  · exact (grounded key).of_same proceeds still.level still.failure
  · obtain ⟨healthy, standing⟩ :=
      @driven level (by simp [Thread.driving, Task.driving])
    cases delving with
    | drives delves stands =>
        refine (grounded key).of_raised proceeds (delves.held planned aimed)
          healthy stands.2 ?_ standing ?_
        · rw [raised]
          exact Level.max_eq_of_standing standing
        · rw [raised]
          rfl
  · have top := loaded_of_publish chains.1
    subst top
    obtain ⟨healthy, standing⟩ :=
      driven (driving_of_midway chains (if_pos rfl))
    cases delving with
    | carries delves low ahead =>
        refine (grounded key).of_raised proceeds (delves.held planned aimed)
          healthy ⟨fun fails => ?_, fun active => ?_⟩ ?_ standing ?_
        · have failing := planned.failing key .loaded fails
          simp [Level.failurePoints] at failing
        · contradiction
        · rw [raised]
          exact Level.max_eq_of_standing standing
        · rw [raised]
          rfl
  · obtain ⟨healthy, standing⟩ :=
      @driven level (by simp [Thread.driving, Task.driving])
    cases delving with
    | drives delves stands =>
        refine .of_failed grounded proceeds planned (delves.held planned aimed)
          stands.2 standing ?_ ?_
        · rw [moved]
          exact level_setError key key _
        · rw [moved, unit_setError, if_pos ⟨rfl, healthy⟩]

end World

end LoadLadder
