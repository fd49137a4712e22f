import LoadLadder.Proofs.EntryOwnership

/-!
# Levels in order

A driver climbs from each level to the next.  It raises the level of a unit when
the sub-step to it has succeeded, and the sub-step of a loaded unit publishes it a
little earlier, while its driver still holds the entry.  So no level is skipped,
unless a loaded sub-step runs that no driver has asked for: it publishes the unit
all the same.
-/

namespace LoadLadder

/-- The level that a task drives a unit to, if any. -/
def Task.driving (key : UnitKey) : Task → List Level
  | .drive unit _ (.raise level) => if unit = key then [level] else []
  | .drive unit _ (.fail level _) => if unit = key then [level] else []
  | _ => []

/-- The level that a waiting driver drives a unit to, if any. -/
def Waiting.driving (key : UnitKey) : Waiting → List Level
  | .onSubStep unit _ level => if unit = key then [level] else []
  | _ => []

/-- The levels that the drivers in a thread drive a unit to, innermost first. -/
def Thread.driving (key : UnitKey) (thread : Thread) : List Level :=
  thread.task.driving key ++ thread.stack.flatMap (Waiting.driving key)

/-- A driver learns, or has learnt, that its sub-step succeeded. -/
inductive Thread.Succeeds (key : UnitKey) (level : Level) : Thread → Prop
  | answered {answer : Bool} {target : Level} {stack : List Waiting} :
      Succeeds key level
        ⟨.answer (.ok answer), .onSubStep key target level :: stack⟩
  | raising {target : Level} {stack : List Waiting} :
      Succeeds key level ⟨.drive key target (.raise level), stack⟩

/-- A driver is about to raise the level of a unit, after a sub-step or, when the
unit is published, inside of it. -/
inductive Thread.RaisesAsDriver (key : UnitKey) : Thread → Prop
  | after {target level : Level} {stack : List Waiting} :
      RaisesAsDriver key ⟨.drive key target (.raise level), stack⟩
  | early {target : Level} {rest : List Action} {stack : List Waiting} :
      RaisesAsDriver key
        ⟨.subStep key .loaded (.publish :: rest),
          .onSubStep key target .loaded :: stack⟩

theorem Waiting.holds_of_driving {key : UnitKey} {waiting : Waiting}
    {level : Level} (driving : level ∈ waiting.driving key) :
    key ∈ waiting.holds := by
  cases waiting with
  | onSubStep unit target next =>
      simp only [Waiting.driving] at driving
      split at driving
      · rename_i same
        simp [Waiting.holds, same]
      · simp at driving
  | _ => simp [Waiting.driving] at driving

theorem Task.holds_of_driving {key : UnitKey} {task : Task} {level : Level}
    (driving : level ∈ task.driving key) : key ∈ task.holds := by
  cases task with
  | drive unit target phase =>
      cases phase with
      | raise | fail =>
          simp only [Task.driving] at driving
          split at driving
          · rename_i same
            simp [Task.holds, same]
          · simp at driving
      | _ => simp [Task.driving] at driving
  | _ => simp [Task.driving] at driving

theorem holds_of_driving_stack {key : UnitKey} {stack : List Waiting}
    {level : Level}
    (driving : level ∈ stack.flatMap (Waiting.driving key)) :
    key ∈ stack.flatMap Waiting.holds := by
  obtain ⟨waiting, member, drives⟩ := List.mem_flatMap.mp driving
  exact List.mem_flatMap.mpr
    ⟨waiting, member, Waiting.holds_of_driving drives⟩

theorem Thread.holds_of_driving {key : UnitKey} {thread : Thread}
    {level : Level} (driving : level ∈ thread.driving key) :
    key ∈ thread.holds := by
  rcases List.mem_append.mp driving with task | stack
  · exact List.mem_append_left _ (Task.holds_of_driving task)
  · exact List.mem_append_right _ (holds_of_driving_stack stack)

theorem Thread.Succeeds.driving {key : UnitKey} {level : Level}
    {thread : Thread} (succeeds : thread.Succeeds key level) :
    level ∈ thread.driving key := by
  cases succeeds with
  | answered => simp [Thread.driving, Task.driving, Waiting.driving]
  | raising => simp [Thread.driving, Task.driving]

/-- A task that is not that of a successful driver can only answer to one. -/
theorem Thread.Succeeds.answered_of_free {key : UnitKey} {level : Level}
    {task : Task} {stack : List Waiting}
    (succeeds : Thread.Succeeds key level ⟨task, stack⟩)
    (free : task.driving key = []) :
    ∃ target below, stack = .onSubStep key target level :: below := by
  cases succeeds with
  | answered => exact ⟨_, _, rfl⟩
  | raising => simp [Task.driving] at free

namespace World

variable {world next : World} {repertoire : Repertoire} {me : ThreadId}
  {thread after : Thread} {deeds : List Deed} {key : UnitKey} {level : Level}

theorem driving_of_begins {unit : UnitKey} {task : Task}
    (begins : task.Begins world unit) : task.driving key = [] := by
  cases begins <;> rfl

@[simp]
theorem driving_ensure (through : DomainKey) (other : UnitKey)
    (target : Level) :
    (Task.ensure world through other target).driving key = [] :=
  driving_of_begins (begins_ensure world through other target)

/-- No load begins with a driver that has something to raise or to keep. -/
theorem driving_of_loads {operation : Operation} {task : Task}
    (loads : operation.task? world = some task) : task.driving key = [] := by
  obtain ⟨unit, begins⟩ := begins_of_loads loads
  exact driving_of_begins begins

theorem driving_call {task : Task} (free : task.driving key = [])
    (turn : world.step me thread = none) :
    (thread.call task).driving key = thread.driving key := by
  rcases turn_cases turn with
    ⟨callback, stack, rfl⟩ | ⟨reply, rfl⟩ | ⟨reply, callback, stack, rfl⟩ <;>
  · simp only [Thread.call, Thread.driving, free]
    rfl

/-- A driver starts to drive a unit to the level after its own. -/
theorem driving_stepped (stepped : world.Stepped me thread next after)
    (driving : level ∈ after.driving key) :
    level ∈ thread.driving key ∨
      (∃ target stack, thread = ⟨.drive key target .recheck, stack⟩) ∧
        (world.unit key).isError = false ∧
        (world.unit key).level.next = some level := by
  cases stepped with
  | @climbs other target above stack short healthy next =>
      simp only [Thread.driving, Task.driving, List.nil_append,
        List.flatMap_cons, List.mem_append] at driving ⊢
      rcases driving with here | below
      · simp only [Waiting.driving] at here
        split at here
        · rename_i same
          subst same
          rw [List.mem_singleton.mp here]
          exact Or.inr ⟨⟨_, _, rfl⟩, healthy, next⟩
        · simp at here
      · exact Or.inl below
  | refused asks kept goes =>
      rcases asks with rfl | rfl <;> rcases goes with rfl | rfl <;>
        exact Or.inl driving
  | entered asks =>
      rcases asks with rfl | rfl <;> exact Or.inl driving
  | initializes runs =>
      rcases runs with ⟨-, rfl⟩ | ⟨-, rfl⟩ <;> exact Or.inl driving
  | reported goes =>
      rcases goes with ⟨-, rfl⟩ | ⟨-, rfl⟩ <;> exact Or.inl driving
  | @activates other dependency rest stack =>
      have before : Task.driving key
          (.activateDependencies other (dependency :: rest)) = [] := rfl
      simpa [Thread.driving, Waiting.driving, before] using driving
  | _ =>
      simp_all [Thread.driving, Task.driving, Waiting.driving]

theorem driving_act (act : world.Act repertoire me thread deeds next after)
    (driving : level ∈ after.driving key) :
    level ∈ thread.driving key ∨
      (∃ target stack, thread = ⟨.drive key target .recheck, stack⟩) ∧
        (world.unit key).isError = false ∧
        (world.unit key).level.next = some level := by
  cases act with
  | step step => exact driving_stepped (stepped_of_step step) driving
  | operate => exact Or.inl driving
  | @call operation task turn asked granted loads =>
      rw [driving_call (driving_of_loads loads) turn] at driving
      exact Or.inl driving
  | resume answered =>
      subst answered
      exact Or.inl driving
  | finish result called =>
      subst called
      exact Or.inl driving

theorem isError_setError (world : World) (key : UnitKey) (cause : Cause) :
    ((world.setError key cause).1.unit key).isError = true := by
  rw [unit_setError]
  cases failed : (world.unit key).isError with
  | true => simp [failed]
  | false => simp [LoadUnit.isError, CauseCell.isSet]

theorem undriven_stepped (stepped : world.Stepped me thread next after)
    (driving : level ∈ thread.driving key) :
    level ∈ after.driving key ∨ thread.Succeeds key level ∨
      (next.unit key).isError = true := by
  cases stepped with
  | @raised other target above stack =>
      rcases List.mem_append.mp driving with here | below
      · simp only [Task.driving] at here
        split at here
        · rename_i same
          subst same
          rw [List.mem_singleton.mp here]
          exact Or.inr (Or.inl .raising)
        · simp at here
      · exact Or.inl below
  | @failed other target above fault stack =>
      rcases List.mem_append.mp driving with here | below
      · simp only [Task.driving] at here
        split at here
        · rename_i same
          subst same
          rw [recordFailure_fst]
          exact Or.inr (Or.inr (isError_setError world other _))
        · simp at here
      · exact Or.inl below
  | @abandoned other target above stack =>
      rcases List.mem_append.mp driving with here | below
      · simp [Task.driving] at here
      · rw [List.flatMap_cons, List.mem_append] at below
        rcases below with here | below
        · simp only [Waiting.driving] at here
          split at here
          · rename_i same
            subst same
            rw [List.mem_singleton.mp here]
            exact Or.inr (Or.inl .answered)
          · simp at here
        · exact Or.inl below
  | refused asks kept goes =>
      rcases asks with rfl | rfl <;> rcases goes with rfl | rfl <;>
        exact Or.inl driving
  | entered asks =>
      rcases asks with rfl | rfl <;> exact Or.inl driving
  | initializes runs =>
      rcases runs with ⟨-, rfl⟩ | ⟨-, rfl⟩ <;> exact Or.inl driving
  | reported goes =>
      rcases goes with ⟨-, rfl⟩ | ⟨-, rfl⟩ <;> exact Or.inl driving
  | activates => exact Or.inl (List.mem_append_right _ driving)
  | _ =>
      refine Or.inl ?_
      simp_all [Thread.driving, Task.driving, Waiting.driving]

/-- A driver that stops driving a unit has learnt that the sub-step succeeded, or
the unit has failed. -/
theorem undriven_act (act : world.Act repertoire me thread deeds next after)
    (driving : level ∈ thread.driving key) :
    level ∈ after.driving key ∨ thread.Succeeds key level ∨
      (next.unit key).isError = true := by
  cases act with
  | step step => exact undriven_stepped (stepped_of_step step) driving
  | operate => exact Or.inl driving
  | @call operation task turn asked granted loads =>
      refine Or.inl ?_
      rcases turn_cases turn with
        ⟨callback, stack, rfl⟩ | ⟨reply, rfl⟩ |
        ⟨reply, callback, stack, rfl⟩ <;>
      · exact List.mem_append_right _ driving
  | resume answered =>
      subst answered
      exact Or.inl driving
  | finish result called =>
      subst called
      exact Or.inl driving

/-- Only a completed sub-step makes its driver believe that it succeeded. -/
theorem completed_of_succeeds_stepped
    (stepped : world.Stepped me thread next after)
    (supports : world.Supports thread)
    (succeeds : after.Succeeds key level) :
    thread.Succeeds key level ∨ .completed key level ∈ world.deeds thread := by
  cases stepped with
  | @completed other done stack =>
      obtain ⟨-, -, -, seated⟩ := supports
      cases succeeds with
      | answered =>
          cases seated
          exact Or.inr (by simp [World.deeds])
  | succeeded =>
      cases succeeds with
      | raising => exact Or.inl .answered
  | allActivated =>
      obtain ⟨-, -, seated⟩ := supports
      cases succeeds with
      | answered => cases seated
  | required =>
      generalize reply : Except.map _ _ = answer at succeeds
      cases succeeds with
      | answered => cases supports.2
  | refused asks kept goes =>
      rcases goes with rfl | rfl <;> cases succeeds
  | initializes runs => rcases runs with ⟨-, rfl⟩ | ⟨-, rfl⟩ <;> cases succeeds
  | reported goes => rcases goes with ⟨-, rfl⟩ | ⟨-, rfl⟩ <;> cases succeeds
  | activates =>
      obtain ⟨target, below, same⟩ :=
        succeeds.answered_of_free (driving_ensure _ _ _)
      cases same
  | _ => cases succeeds

theorem completed_of_succeeds
    (act : world.Act repertoire me thread deeds next after)
    (supports : world.Supports thread)
    (succeeds : after.Succeeds key level) :
    thread.Succeeds key level ∨ .completed key level ∈ deeds := by
  cases act with
  | step step =>
      exact completed_of_succeeds_stepped (stepped_of_step step) supports
        succeeds
  | operate => exact Or.inl succeeds
  | @call operation task turn asked granted loads =>
      have free : task.driving key = [] := driving_of_loads loads
      rcases turn_cases turn with
        ⟨callback, stack, rfl⟩ | ⟨reply, rfl⟩ | ⟨reply, callback, stack, rfl⟩ <;>
      · obtain ⟨target, below, same⟩ := succeeds.answered_of_free free
        cases same
  | resume answered =>
      subst answered
      cases succeeds
  | finish result called =>
      subst called
      rcases result with fault | done
      · cases succeeds
      · cases supports <;> cases succeeds

theorem level_of_new (act : world.Act repertoire me thread deeds next after)
    (unknown : ¬ key < world.unitCount) (known : key < next.unitCount) :
    (next.unit key).level = .created := by
  obtain ⟨home, image, container, made⟩ := unit_of_new act unknown known
  rw [made]

theorem bypassed_of_raised {rest : List Action} {stack : List Waiting}
    (act : world.Act repertoire me
      ⟨.subStep key .loaded (.publish :: rest), stack⟩ deeds next after)
    (undriven : isDriven stack = false)
    (raised : (next.unit key).level = max (world.unit key).level .loaded)
    (rises : (next.unit key).level ≠ (world.unit key).level) :
    .bypassed key ∈ deeds := by
  have short : (world.unit key).level < .loaded := by
    rw [raised] at rises
    cases level : (world.unit key).level <;> rw [level] at rises <;>
      first | decide | exact absurd rfl rises
  cases act with
  | step step => simp [World.deeds, actionDeeds, short, undriven]
  | operate operation turn => simp [World.step] at turn
  | call operation turn => simp [World.step] at turn
  | resume answered => cases answered
  | finish result called => cases called

/-- A level rises because a driver's sub-step has succeeded, or because the unit
is published, with or without a driver. -/
theorem raised_act (act : world.Act repertoire me thread deeds next after)
    (known : key < world.unitCount) (supports : world.Supports thread)
    (rises : (next.unit key).level ≠ (world.unit key).level) :
    (thread.RaisesAsDriver key ∧
      (thread.Succeeds key (next.unit key).level ∨
        (next.unit key).level = .loaded ∧ .loaded ∈ thread.driving key)) ∨
    .bypassed key ∈ deeds := by
  rcases level_act act known with same | ⟨level, raises, raised⟩
  · exact absurd same rises
  have lifted : (next.unit key).level = level := by
    rcases Level.max_eq_left_or_right (world.unit key).level level with
      kept | lifted
    · exact absurd (raised.trans kept) rises
    · exact raised.trans lifted
  rw [lifted]
  cases raises with
  | drive raises =>
      subst raises
      exact Or.inl ⟨.after, Or.inl .raising⟩
  | @publish level rest stack publishes =>
      subst publishes
      obtain ⟨-, remains, -, seated⟩ := supports
      cases loaded_of_publish remains
      cases seated with
      | @driven other target above stack known below =>
          refine Or.inl ⟨.early, Or.inr ⟨rfl, ?_⟩⟩
          simp [Thread.driving, Waiting.driving]
      | initializing known runs => rcases runs with same | same <;> cases same
      | subStepOutside | subStepCalled =>
          exact Or.inr (bypassed_of_raised act rfl raised rises)

theorem publishes_of_bypassed (bypassed : .bypassed key ∈ world.deeds thread) :
    ∃ level rest stack, thread = ⟨.subStep key level (.publish :: rest), stack⟩ ∧
      isDriven stack = false ∧ (world.unit key).level < .loaded := by
  obtain ⟨task, stack⟩ := thread
  simp only [World.deeds] at bypassed
  split at bypassed
  · simp at bypassed
  · simp at bypassed
  · rename_i other level action rest
    cases action with
    | publish =>
        simp only [actionDeeds] at bypassed
        split at bypassed
        · rename_i direct
          cases List.mem_singleton.mp bypassed
          exact ⟨level, rest, stack, rfl, direct.2, direct.1⟩
        · simp at bypassed
    | _ =>
        obtain ⟨_, _, told⟩ := List.mem_map.mp bypassed
        cases told
  · simp at bypassed
  · simp at bypassed

theorem publishes_of_act (act : world.Act repertoire me thread deeds next after)
    (bypassed : .bypassed key ∈ deeds) :
    ∃ level rest stack, thread = ⟨.subStep key level (.publish :: rest), stack⟩ ∧
      isDriven stack = false ∧ (world.unit key).level < .loaded := by
  cases act with
  | call | resume | finish => simp at bypassed
  | operate operation turn asked granted instant =>
      cases operation <;> simp only [Operation.deeds] at bypassed <;> grind
  | step step => exact publishes_of_bypassed bypassed

/-- Conversely, whatever bypasses the drivers raises the unit to loaded at
once. -/
theorem raised_of_bypassed
    (act : world.Act repertoire me thread deeds next after)
    (bypassed : .bypassed key ∈ deeds) :
    ¬ thread.RaisesAsDriver key ∧ (world.unit key).level < .loaded ∧
      (next.unit key).level = .loaded := by
  obtain ⟨level, rest, stack, rfl, undriven, short⟩ := publishes_of_act act bypassed
  refine ⟨?_, short, ?_⟩
  · intro driver
    cases driver
    simp [isDriven] at undriven
  · cases act with
    | operate operation turn | call operation turn => simp [World.step] at turn
    | resume answered => cases answered
    | finish result called => cases called
    | step step =>
        cases step
        rw [level_raiseLevel, if_pos rfl]
        exact if_pos (Nat.le_of_lt short)

end World

namespace Crew

/-- The sub-steps of all levels between the lowest and another have succeeded. -/
def ClimbedTo (key : UnitKey) (top : Level) (deeds : List Deed) : Prop :=
  ∀ level, .created < level → level < top → .completed key level ∈ deeds

theorem ClimbedTo.mono {key : UnitKey} {top : Level} {deeds more : List Deed}
    (climbed : ClimbedTo key top deeds) :
    ClimbedTo key top (deeds ++ more) :=
  fun level low high => List.mem_append_left _ (climbed level low high)

theorem ClimbedTo.next {key : UnitKey} {level above : Level}
    {deeds : List Deed} (climbed : ClimbedTo key level deeds)
    (reached : level = .created ∨ .completed key level ∈ deeds)
    (step : level.next = some above) : ClimbedTo key above deeds := by
  intro other low high
  by_cases short : other < level
  · exact climbed other low short
  · have rank := Level.rank_of_next step
    have same : other = level := by
      refine Level.rank_injective ?_
      rw [Level.lt_def] at high short
      omega
    subst same
    rcases reached with rfl | completed
    · exact absurd low (by decide)
    · exact completed

/-- Levels are climbed in order: by the unit, and by whoever drives it. -/
structure Ordered (crew : Crew) (key : UnitKey) (deeds : List Deed) :
    Prop where
  below : key < crew.world.unitCount →
    ClimbedTo key (crew.world.unit key).level deeds
  reached : key < crew.world.unitCount →
    (crew.world.unit key).level = .created ∨
    .completed key (crew.world.unit key).level ∈ deeds ∨
    (crew.world.unit key).level = .loaded ∧
      ((crew.world.unit key).isError = true ∨
        ∃ me, .loaded ∈ (crew.thread me).driving key)
  driving : ∀ me, ∀ top ∈ (crew.thread me).driving key,
    ClimbedTo key top deeds
  succeeded : ∀ me level, (crew.thread me).Succeeds key level →
    .completed key level ∈ deeds

variable {repertoire : Repertoire} {setups : List Setup} {members : Nat}
  {crew next : Crew} {deeds more : List Deed} {key : UnitKey}
  {me : ThreadId} {world : World} {thread : Thread}

theorem ordered_idle : (idle setups members).Ordered key [] where
  below := by
    intro known
    change key < (World.ofSetups setups).unitCount at known
    rw [(World.ofSetups_units setups).2.1] at known
    contradiction
  reached := by
    intro known
    change key < (World.ofSetups setups).unitCount at known
    rw [(World.ofSetups_units setups).2.1] at known
    contradiction
  driving := by
    intro me top driving
    rw [thread_idle] at driving
    simp [Thread.driving, Task.driving] at driving
  succeeded := by
    intro me level succeeds
    rw [thread_idle] at succeeds
    cases succeeds

/-- While a driver has the entry of a unit in hand between two sub-steps, nobody
drives the unit. -/
theorem undriven_of_recheck (exclusive : crew.Exclusive) {target : Level}
    {stack : List Waiting}
    (rechecks : crew.thread me = ⟨.drive key target .recheck, stack⟩)
    (you : ThreadId) : (crew.thread you).driving key = [] := by
  rw [List.eq_nil_iff_forall_not_mem]
  intro level driving
  have mine : key ∈ (crew.thread me).holds := by
    simp [rechecks, Thread.holds, Task.holds]
  have same := exclusive.same_thread mine (Thread.holds_of_driving driving)
  subst same
  rw [rechecks] at driving
  have below : key ∈ stack.flatMap Waiting.holds :=
    holds_of_driving_stack driving
  have once := exclusive.count_le me key
  rw [rechecks] at once
  have twice : 0 < (stack.flatMap Waiting.holds).count key :=
    List.count_pos_iff.mpr below
  simp [Thread.holds, Task.holds] at once
  omega

/-- A driver with the entry in hand stands on a level that was completed. -/
theorem completed_of_recheck (ordered : crew.Ordered key deeds)
    (exclusive : crew.Exclusive) (known : key < crew.world.unitCount)
    {target : Level} {stack : List Waiting}
    (rechecks : crew.thread me = ⟨.drive key target .recheck, stack⟩)
    (healthy : (crew.world.unit key).isError = false) :
    (crew.world.unit key).level = .created ∨
      .completed key (crew.world.unit key).level ∈ deeds := by
  rcases ordered.reached known with
    lowest | completed | ⟨loaded, failed | ⟨you, driving⟩⟩
  · exact Or.inl lowest
  · exact Or.inr completed
  · rw [failed] at healthy
    contradiction
  · rw [undriven_of_recheck exclusive rechecks you] at driving
    contradiction

section

variable (ordered : crew.Ordered key deeds) (exclusive : crew.Exclusive)
  (framed : crew.Framed) (member : me < crew.threads.length)
  (act : World.Act repertoire me crew.world (crew.thread me) more world thread)
  (driven : .bypassed key ∉ more)

include ordered member act

include exclusive framed in
/-- Whoever drives the unit after the act has climbed up to there. -/
theorem climbed_of_driving {you : ThreadId} {top : Level}
    (drives : top ∈ (({ crew with world }.setThread me thread).thread
      you).driving key) : ClimbedTo key top (deeds ++ more) := by
  rw [thread_acted member] at drives
  split at drives
  · rcases World.driving_act act drives with
      before | ⟨⟨target, stack, rechecks⟩, healthy, step⟩
    · exact (ordered.driving me top before).mono
    · have known : key < crew.world.unitCount := by
        have supports := framed.supports me
        rw [rechecks] at supports
        exact supports.1
      refine ((ordered.below known).next ?_ step).mono
      exact completed_of_recheck ordered exclusive known rechecks healthy
  · exact (ordered.driving you top drives).mono

include framed in
theorem completed_of_succeeds {you : ThreadId} {level : Level}
    (succeeds : (({ crew with world }.setThread me thread).thread
      you).Succeeds key level) : .completed key level ∈ deeds ++ more := by
  rw [thread_acted member] at succeeds
  split at succeeds
  · rcases World.completed_of_succeeds act (framed.supports me) succeeds with
      before | now
    · exact List.mem_append_left _ (ordered.succeeded me level before)
    · exact List.mem_append_right _ now
  · exact List.mem_append_left _ (ordered.succeeded you level succeeds)

/-- Whoever drove the unit before the act still does, or has completed the level,
or the unit has failed. -/
theorem driving_or_completed {you : ThreadId} {top : Level}
    (drives : top ∈ (crew.thread you).driving key) :
    top ∈ (({ crew with world }.setThread me thread).thread
      you).driving key ∨ .completed key top ∈ deeds ++ more ∨
    (world.unit key).isError = true := by
  rw [thread_acted member]
  split
  · rename_i same
    subst same
    rcases World.undriven_act act drives with drives | succeeds | failed
    · exact Or.inl drives
    · exact Or.inr (Or.inl (List.mem_append_left _
        (ordered.succeeded me top succeeds)))
    · exact Or.inr (Or.inr failed)
  · exact Or.inl drives

omit member in
include framed driven in
theorem climbed_of_act (known : key < world.unitCount) :
    ClimbedTo key (world.unit key).level (deeds ++ more) := by
  by_cases before : key < crew.world.unitCount
  · by_cases same : (world.unit key).level = (crew.world.unit key).level
    · rw [same]
      exact (ordered.below before).mono
    · rcases World.raised_act act before (framed.supports me) same with
        ⟨-, succeeds | ⟨loaded, drives⟩⟩ | bypassed
      · exact (ordered.driving me _ succeeds.driving).mono
      · rw [loaded]
        exact (ordered.driving me _ drives).mono
      · exact absurd bypassed driven
  · rw [World.level_of_new act before known]
    intro level low high
    exact absurd (Level.lt_def.mp high) (Nat.not_lt_zero _)

/-- A unit that somebody drove to its level while it was being loaded either
completes that level or fails. -/
theorem reached_of_driving {you : ThreadId}
    (loaded : (world.unit key).level = .loaded)
    (drives : .loaded ∈ (crew.thread you).driving key) :
    (world.unit key).level = .created ∨
    .completed key (world.unit key).level ∈ deeds ++ more ∨
    (world.unit key).level = .loaded ∧ ((world.unit key).isError = true ∨
      ∃ driver, .loaded ∈ (({ crew with world }.setThread me thread).thread
        driver).driving key) := by
  rcases driving_or_completed ordered member act drives with
    drives | completed | failed
  · exact Or.inr (Or.inr ⟨loaded, Or.inr ⟨you, drives⟩⟩)
  · rw [loaded]
    exact Or.inr (Or.inl completed)
  · exact Or.inr (Or.inr ⟨loaded, Or.inl failed⟩)

include framed driven in
theorem reached_of_act (known : key < world.unitCount) :
    (world.unit key).level = .created ∨
    .completed key (world.unit key).level ∈ deeds ++ more ∨
    (world.unit key).level = .loaded ∧ ((world.unit key).isError = true ∨
      ∃ you, .loaded ∈ (({ crew with world }.setThread me thread).thread
        you).driving key) := by
  by_cases before : key < crew.world.unitCount
  · by_cases same : (world.unit key).level = (crew.world.unit key).level
    · rcases ordered.reached before with
        lowest | completed | ⟨loaded, failed | ⟨you, drives⟩⟩
      · exact Or.inl (same.trans lowest)
      · rw [same]
        exact Or.inr (Or.inl (List.mem_append_left _ completed))
      · exact Or.inr (Or.inr ⟨same.trans loaded, Or.inl
          (((World.grows_act act).unit key before).isError failed)⟩)
      · exact reached_of_driving ordered member act (same.trans loaded) drives
    · rcases World.raised_act act before (framed.supports me) same with
        ⟨-, succeeds | ⟨loaded, drives⟩⟩ | bypassed
      · exact Or.inr (Or.inl (List.mem_append_left _
          (ordered.succeeded me _ succeeds)))
      · exact reached_of_driving ordered member act loaded drives
      · exact absurd bypassed driven
  · exact Or.inl (World.level_of_new act before known)

end

/-- Freeing what nothing refers to keeps the levels in order. -/
theorem ordered_collect (ordered : crew.Ordered key deeds) :
    Ordered { crew with world := crew.world.collect crew.pinned } key
      deeds := by
  have still := (World.alike_collect crew.world crew.pinned).still
  have unit := still.unit key
  refine ⟨fun known => ?_, fun known => ?_, ordered.driving,
    ordered.succeeded⟩
  · have below := ordered.below (still.count ▸ known)
    rw [← unit.level] at below
    exact below
  · have reached := ordered.reached (still.count ▸ known)
    rw [LoadUnit.isError, ← unit.level, ← unit.failure] at reached
    exact reached

/-- Every move keeps the levels in order, as long as nothing is bypassed. -/
theorem ordered_move (ordered : crew.Ordered key deeds)
    (exclusive : crew.Exclusive) (framed : crew.Framed)
    (move : Move repertoire crew more next) (driven : .bypassed key ∉ more) :
    next.Ordered key (deeds ++ more) := by
  cases move with
  | collect =>
      rw [List.append_nil]
      exact ordered_collect ordered
  | act member act =>
      exact ⟨climbed_of_act ordered framed act driven,
        reached_of_act ordered framed member act driven,
        fun you top => climbed_of_driving ordered exclusive framed member act,
        fun you level => completed_of_succeeds ordered framed member act⟩

theorem ordered_run (run : Run repertoire (idle setups members) deeds crew)
    (driven : .bypassed key ∉ deeds) : crew.Ordered key deeds := by
  induction run with
  | start => exact ordered_idle
  | snoc run move ih =>
      rw [List.mem_append, not_or] at driven
      exact ordered_move (ih driven.1) (exclusive_run run)
        (framed_run framed_idle run) move driven.2

/-- No level of a unit has been skipped or will be by the next act, unless that
act bypasses the drivers. -/
structure Unskipped (crew : Crew) (key : UnitKey) (deeds : List Deed) :
    Prop where
  /-- All levels between the lowest and the unit's have been completed. -/
  below : ∀ level, .created < level →
    level < (crew.world.unit key).level → .completed key level ∈ deeds
  /-- So have the fixups before the static initializer runs. -/
  fixed : ∀ me level rest stack,
    crew.thread me = ⟨.subStep key level (.runInitializer :: rest), stack⟩ →
    .completed key .eagerFixups ∈ deeds ∧
      .completed key .vtableFixups ∈ deeds
  /-- Nobody but a driver raises the level. -/
  raised : ∀ {me : ThreadId} {more : List Deed} {world : World}
    {thread : Thread},
    World.Act .full me crew.world (crew.thread me) more world thread →
    (world.unit key).level ≠ (crew.world.unit key).level →
    (crew.thread me).RaisesAsDriver key ∨ .bypassed key ∈ more

/-- The initializer runs on a loaded unit. -/
theorem loaded_of_initializing (framed : crew.Framed) {level : Level}
    {rest : List Action} {stack : List Waiting}
    (initializes : crew.thread me =
      ⟨.subStep key level (.runInitializer :: rest), stack⟩) :
    key < crew.world.unitCount ∧
      .loaded ≤ (crew.world.unit key).level := by
  have supports := framed.supports me
  rw [initializes] at supports
  obtain ⟨known, remains, insisted, -⟩ := supports
  cases active_of_runInitializer remains
  refine ⟨known, (insisted rfl).resolve_left ?_⟩
  intro pending
  rcases List.suffix_cons_iff.mp remains with whole | later
  · cases whole
  · have member := later.subset pending
    exact absurd member (by decide)

/-- No level is skipped in a run in which every loaded sub-step that raises the
level has a driver. -/
theorem unskipped_of_driven
    (run : Run .full (idle setups members) deeds crew)
    (known : key < crew.world.unitCount) (driven : .bypassed key ∉ deeds) :
    crew.Unskipped key deeds := by
  have ordered := ordered_run run driven
  have framed := framed_run framed_idle run
  refine ⟨ordered.below known, ?_, ?_⟩
  · intro me level rest stack initializes
    have high := (loaded_of_initializing framed initializes).2
    have climbed (fixups : Level) (low : .created < fixups)
        (short : fixups < .loaded) : .completed key fixups ∈ deeds :=
      ordered.below known fixups low (Nat.lt_of_lt_of_le short high)
    exact ⟨climbed _ (by decide) (by decide),
      climbed _ (by decide) (by decide)⟩
  · intro me more world thread act rises
    exact (World.raised_act act known (framed.supports me) rises).imp_left
      And.left

/-- A direct request for the loaded sub-step has raised the level of a fresh
unit. -/
def bypassing : Crew :=
  (alone.ask 0 (.incremental 0 0 .loaded)).follow (List.replicate 4 0)

/-- What was done up to there. -/
def deedsBypassing : List Deed :=
  (alone.ask 0 (.incremental 0 0 .loaded)).followDeeds (List.replicate 4 0)

/-- The initializer of the unit is about to run. -/
def unfixed : Crew :=
  (bypassing.ask 0 (.ensure 0 0 .active)).follow (List.replicate 7 0)

/-- What was done between. -/
def deedsUnfixed : List Deed :=
  (bypassing.ask 0 (.ensure 0 0 .active)).followDeeds (List.replicate 7 0)

/-- The initializer of a unit runs in a thread. -/
def runsInitializer (crew : Crew) (me : ThreadId) (key : UnitKey) : Bool :=
  match (crew.thread me).task with
  | .callback (.initializer unit) => unit == key
  | _ => false

theorem bypassing_reached :
    Run .full (idle [.observed] 1) deedsBypassing bypassing := by
  have called : Run .full alone _ (alone.ask 0 (.incremental 0 0 .loaded)) :=
    run_ask (by decide +kernel) trivial
  have ran : Run .full (alone.ask 0 (.incremental 0 0 .loaded)) deedsBypassing
      bypassing :=
    run_follow (by decide +kernel)
  exact (alone_reached.trans called).trans ran

theorem unfixed_reached : Run .full bypassing deedsUnfixed unfixed := by
  have called : Run .full bypassing _ (bypassing.ask 0 (.ensure 0 0 .active)) :=
    run_ask (by decide +kernel) trivial
  have ran : Run .full (bypassing.ask 0 (.ensure 0 0 .active)) deedsUnfixed
      unfixed :=
    run_follow (by decide +kernel)
  exact called.trans ran

/-- The direct sub-step raises the level over all levels below, and the
initializer of the unit then runs without fixups. -/
theorem direct_load_skips :
    Run .full (idle [.observed] 1) deedsBypassing bypassing ∧
    (bypassing.world.unit 0).level = .loaded ∧
    (∀ level ∈ Level.all, level < .loaded →
      .completed 0 level ∉ deedsBypassing) ∧
    Run .full bypassing deedsUnfixed unfixed ∧
    unfixed.runsInitializer 0 0 = true ∧
    .completed 0 .eagerFixups ∉ deedsBypassing ++ deedsUnfixed ∧
    .completed 0 .vtableFixups ∉ deedsBypassing ++ deedsUnfixed :=
  ⟨bypassing_reached, by decide +kernel, by decide +kernel, unfixed_reached,
    by decide +kernel, by decide +kernel, by decide +kernel⟩

/-- A driver has skipped nothing when it runs the same initializer. -/
theorem unskipped_initializing :
    (initializing.world.unit 0).level = .loaded ∧
      initializing.Unskipped 0 deedsBefore :=
  ⟨by decide +kernel, unskipped_of_driven initializing_reached
    (by decide +kernel) (by decide +kernel)⟩

end Crew

end LoadLadder
