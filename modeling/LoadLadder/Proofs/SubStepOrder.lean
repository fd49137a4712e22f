import LoadLadder.Proofs.ThreadAnswers
import LoadLadder.Proofs.UnitStandings

/-!
# Sub-steps in order

Any number of threads drive units, in any interleaving.  Between two levels a driver
gives the entry of its unit back, and another thread may take it, so whatever a
driver knew about the unit may be out of date when it has the entry again.  This
file follows the sub-steps that drivers begin and the failures that they store: the
sub-steps of a unit begin in the order of the ladder, none is left out or begun
twice, no two run at a time, and none begins after a driver has stored a failure.

Sub-steps that the client asks for itself run beside the drivers, so a client that
does so is left out.
-/

namespace LoadLadder

/-- A client that leaves every sub-step to a driver. -/
def Repertoire.undirected : Repertoire := fun _ operation =>
  match operation with
  | .incremental .. => False
  | _ => True

/-- What drivers do to a unit. -/
inductive Milestone
  /-- A driver begins the sub-step to a level. -/
  | begins (unit : UnitKey) (level : Level)
  /-- A driver stores the cause of a sub-step that failed. -/
  | fails (unit : UnitKey) (level : Level)
  deriving DecidableEq

def Milestone.unit : Milestone → UnitKey
  | begins unit _ => unit
  | fails unit _ => unit

/-- A sub-step does not begin after the failure of its unit. -/
def Milestone.Allows (earlier later : Milestone) : Prop :=
  ∀ unit failed level, earlier = .fails unit failed → later ≠ .begins unit level

/-- The level to which a sub-step of a unit begins, if one does. -/
def Milestone.begun? (key : UnitKey) : Milestone → Option Level
  | begins unit level => if unit = key then some level else none
  | fails _ _ => none

/-- The levels to which sub-steps of a unit began, in the order in which they did. -/
def begunLevels (key : UnitKey) (past : List Milestone) : List Level :=
  past.filterMap (Milestone.begun? key)

/-- What a thread does as a driver when it acts: it goes on from its check to a
sub-step, or stores a cause where there is none. -/
def World.milestones (world : World) (thread after : Thread) : List Milestone :=
  match thread.task, after.task with
  | .drive key _ .recheck, .subStep _ level _ => [.begins key level]
  | .drive key _ (.fail level _), _ =>
      if (world.unit key).isError then [] else [.fails key level]
  | _, _ => []

/-- The levels of the ladder up to a level, without the lowest, which needs no
sub-step. -/
def Level.ladder (top : Level) : List Level :=
  Level.all.filter fun level => .created < level ∧ level ≤ top

theorem Level.ladder_next {level above : Level}
    (step : level.next = some above) :
    above.ladder = level.ladder ++ [above] := by
  cases level <;> cases step <;> rfl

/-- The levels to which a thread is carrying out sub-steps of a unit for drivers. -/
def Thread.subSteps (key : UnitKey) (thread : Thread) : List Level :=
  thread.stack.flatMap (Waiting.driving key)

/-- Sub-steps that wait for a callback wait on top of their drivers. -/
def Steered : List Waiting → Prop
  | [] => True
  | .onInitializer _ _ _ _ :: below => World.isDriven below = true ∧ Steered below
  | .onHook _ _ _ :: below => World.isDriven below = true ∧ Steered below
  | _ :: below => Steered below

/-- Every sub-step of a thread has a driver. -/
structure Thread.Steered (thread : Thread) : Prop where
  task : ∀ key level rest, thread.task = .subStep key level rest →
    World.isDriven thread.stack = true
  stack : LoadLadder.Steered thread.stack

namespace World

variable {world next : World} {repertoire : Repertoire} {me : ThreadId}
  {thread after : Thread} {deeds : List Deed} {key : UnitKey} {level : Level}

theorem ensure_ne_subStep (through : DomainKey) (key other : UnitKey)
    (target level : Level) (rest : List Action) :
    Task.ensure world through key target ≠ .subStep other level rest := by
  unfold Task.ensure
  split
  · simp
  · split <;> simp

theorem steered_stepped (stepped : world.Stepped me thread next after)
    (steered : thread.Steered) : after.Steered := by
  obtain ⟨task, stack⟩ := steered
  cases stepped with
  | climbs => exact ⟨fun _ _ _ _ => rfl, stack⟩
  | performed => exact ⟨fun _ _ _ _ => task _ _ _ rfl, stack⟩
  | initializes runs =>
      have driven := task _ _ _ rfl
      rcases runs with ⟨-, rfl⟩ | ⟨-, rfl⟩ <;>
        exact ⟨fun _ _ _ same => by simp at same, driven, stack⟩
  | reported goes =>
      have driven := task _ _ _ rfl
      rcases goes with ⟨-, rfl⟩ | ⟨-, rfl⟩
      · exact ⟨fun _ _ _ _ => driven, stack⟩
      · exact ⟨fun _ _ _ same => by simp at same, driven, stack⟩
  | activates =>
      exact ⟨fun _ _ _ same => absurd same (ensure_ne_subStep _ _ _ _ _ _), stack⟩
  | initialized | hooked => exact ⟨fun _ _ _ _ => stack.1, stack.2⟩
  | uninitialized => exact ⟨fun _ _ _ same => by simp at same, stack.2⟩
  | _ => exact ⟨fun _ _ _ same => by simp at same, stack⟩

theorem steered_call {task : Task} (turn : world.step me thread = none)
    (other : ∀ key level rest, task ≠ .subStep key level rest)
    (steered : thread.Steered) : (thread.call task).Steered := by
  have stack := steered.stack
  rcases turn_cases turn with
    ⟨callback, stack, rfl⟩ | ⟨reply, rfl⟩ | ⟨reply, callback, stack, rfl⟩ <;>
  exact ⟨fun key level rest same => absurd same (other key level rest), stack⟩

theorem steered_act (act : world.Act .undirected me thread deeds next after)
    (steered : thread.Steered) : after.Steered := by
  cases act with
  | step step => exact steered_stepped (stepped_of_step step) steered
  | operate => exact steered
  | call operation turn asked granted loads =>
      refine steered_call turn ?_ steered
      cases operation with
      | ensure through key target =>
          cases loads
          exact fun other level rest =>
            ensure_ne_subStep through key other target level rest
      | incremental => exact asked.elim
      | _ => simp [Operation.task?] at loads
  | resume answered =>
      subst answered
      exact ⟨fun _ _ _ same => by simp at same, steered.stack⟩
  | finish result called =>
      subst called
      exact ⟨fun _ _ _ same => by simp [Thread.finish] at same, steered.stack⟩

/-- A sub-step that a thread carries out is the one its driver asked for. -/
theorem driving_of_subStep {rest : List Action} {stack : List Waiting}
    (supports : world.Supports ⟨.subStep key level rest, stack⟩)
    (steered : Thread.Steered ⟨.subStep key level rest, stack⟩) :
    level ∈ Thread.driving key ⟨.subStep key level rest, stack⟩ := by
  obtain ⟨-, -, -, seated⟩ := supports
  have driven := steered.task _ _ _ rfl
  cases seated with
  | driven => simp [Thread.driving, Waiting.driving]
  | initializing known runs => rcases runs with same | same <;> cases same
  | subStepOutside | subStepCalled => simp [isDriven] at driven

/-- A thread raises the level of a unit only as its driver, or inside the sub-step of
its driver. -/
theorem driving_of_raises (supports : world.Supports thread)
    (steered : thread.Steered) (raises : Raises thread key level) :
    level ∈ thread.driving key := by
  cases raises with
  | drive raises =>
      subst raises
      simp [Thread.driving, Task.driving]
  | publish publishes =>
      subst publishes
      cases loaded_of_publish supports.2.1
      exact driving_of_subStep supports steered

/-- What the act of a thread means for the drivers of a unit. -/
inductive Drives (world next : World) (thread after : Thread) (key : UnitKey)
    (passed : List Milestone) : Prop
  /-- The thread checks the unit and begins the next sub-step. -/
  | climbs {target level : Level} {stack : List Waiting}
      (rechecks : thread = ⟨.drive key target .recheck, stack⟩)
      (healthy : (world.unit key).isError = false)
      (above : (world.unit key).level.next = some level)
      (same : next = world)
      (driving : after.driving key =
        level :: stack.flatMap (Waiting.driving key))
      (passed : passed = [.begins key level])
  /-- The thread begins no sub-step of the unit. -/
  | goesOn (driving : ∀ level ∈ after.driving key, level ∈ thread.driving key)
      (unbegun : begunLevels key passed = [])

theorem milestones_of_turn (turn : world.step me thread = none) :
    world.milestones thread after = [] := by
  rcases turn_cases turn with
    ⟨callback, stack, rfl⟩ | ⟨reply, rfl⟩ | ⟨reply, callback, stack, rfl⟩ <;> rfl

theorem drives_stepped (stepped : world.Stepped me thread next after)
    (key : UnitKey) :
    world.Drives next thread after key (world.milestones thread after) := by
  have driving (level : Level) (drives : level ∈ after.driving key) :=
    driving_stepped stepped drives
  cases stepped with
  | @climbs unit target level stack short healthy above =>
      by_cases same : unit = key
      · subst same
        refine .climbs rfl healthy above rfl ?_ rfl
        simp [Thread.driving, Task.driving, Waiting.driving]
      · apply Drives.goesOn
        · simp [Thread.driving, Task.driving, Waiting.driving, same]
        · simp [milestones, begunLevels, Milestone.begun?, same]
  | overtaken => exact .goesOn (fun level drives => drives) rfl
  | entered asks =>
      rcases asks with rfl | rfl <;> exact .goesOn (fun level drives => drives) rfl
  | refused asks kept goes =>
      rcases asks with rfl | rfl <;> rcases goes with rfl | rfl <;>
        exact .goesOn (fun level drives => drives) rfl
  | failed =>
      apply Drives.goesOn
      · exact fun level drives => List.mem_append_right _ drives
      · simp only [milestones, begunLevels]
        split <;> rfl
  | _ =>
      apply Drives.goesOn
      · intro level drives
        rcases driving level drives with before | ⟨⟨_, _, current⟩, _⟩
        · exact before
        · cases current
      · rfl

theorem drives_act (act : world.Act repertoire me thread deeds next after)
    (key : UnitKey) :
    world.Drives next thread after key (world.milestones thread after) := by
  cases act with
  | step step => exact drives_stepped (stepped_of_step step) key
  | operate operation turn =>
      refine .goesOn (fun level drives => drives) ?_
      rw [milestones_of_turn turn]
      rfl
  | call operation turn asked granted loads =>
      apply Drives.goesOn
      · rw [driving_call (driving_of_loads loads) turn]
        exact fun level drives => drives
      · rw [milestones_of_turn turn]
        rfl
  | resume answered =>
      subst answered
      exact .goesOn (fun level drives => drives) rfl
  | finish result called =>
      subst called
      exact .goesOn (fun level drives => drives) rfl

theorem known_of_milestones (supports : world.Supports thread)
    {milestone : Milestone}
    (passed : milestone ∈ world.milestones thread after) :
    milestone.unit < world.unitCount := by
  obtain ⟨task, stack⟩ := thread
  simp only [milestones] at passed
  split at passed
  · rw [List.mem_singleton.mp passed]
    exact supports.1
  · split at passed
    · simp at passed
    · rw [List.mem_singleton.mp passed]
      exact supports.1
  · simp at passed

/-- A driver whose sub-step succeeded stops driving the unit when it raises the
level. -/
theorem level_of_succeeds
    (act : world.Act repertoire me thread deeds next after)
    (candid : thread.Candid) (succeeds : thread.Succeeds key level)
    (gone : level ∉ after.driving key) :
    (next.unit key).level = max (world.unit key).level level := by
  cases succeeds with
  | @answered answer target stack =>
      cases answer with
      | false => cases candid rfl
      | true =>
          cases act with
          | step step =>
              cases step
              simp [Thread.driving, Task.driving] at gone
          | operate operation turn | call operation turn =>
              simp [World.step] at turn
          | resume answered => cases answered
          | finish result called => cases called
  | raising =>
      cases act with
      | step step =>
          cases step
          rw [level_raiseLevel, if_pos rfl]
      | operate operation turn | call operation turn =>
          simp [World.step] at turn
      | resume answered => cases answered
      | finish result called => cases called

/-- A thread passes one milestone at a time. -/
theorem pairwise_milestones :
    (world.milestones thread after).Pairwise Milestone.Allows := by
  unfold milestones
  split
  · exact List.pairwise_singleton _ _
  · split
    · exact .nil
    · exact List.pairwise_singleton _ _
  · exact .nil

/-- A unit at which a driver stores a cause has failed. -/
theorem isError_of_fails (act : world.Act repertoire me thread deeds next after)
    (fails : .fails key level ∈ world.milestones thread after) :
    (next.unit key).isError = true := by
  obtain ⟨task, stack⟩ := thread
  simp only [milestones] at fails
  split at fails
  · simp at fails
  · split at fails
    · simp at fails
    · cases List.mem_singleton.mp fails
      cases act with
      | step step =>
          cases stepped_of_step step with
          | failed =>
              rw [recordFailure_fst]
              exact isError_setError world key _
          | entered asks | refused asks =>
              rcases asks with same | same <;> cases same
      | operate operation turn | call operation turn =>
          simp [World.step] at turn
      | resume answered => cases answered
      | finish result called => cases called
  · simp at fails

/-- A driver begins a sub-step only of a unit that has not failed. -/
theorem healthy_of_begins
    (act : world.Act repertoire me thread deeds next after)
    (begins : .begins key level ∈ world.milestones thread after) :
    (world.unit key).isError = false := by
  cases drives_act act key with
  | climbs rechecks healthy => exact healthy
  | goesOn driving unbegun =>
      have none : level ∉ begunLevels key (world.milestones thread after) := by
        simp [unbegun]
      exact absurd (List.mem_filterMap.mpr ⟨_, begins, if_pos rfl⟩) none

end World

namespace Crew

/-- What happens from one state of a crew to another, and what the drivers did
meanwhile. -/
inductive History (repertoire : Repertoire) (first : Crew) :
    List Milestone → Crew → Prop
  | start : History repertoire first [] first
  | act {crew : Crew} {past : List Milestone} {me : ThreadId} {world : World}
      {thread : Thread} {deeds : List Deed}
      (history : History repertoire first past crew)
      (member : me < crew.threads.length)
      (act : World.Act repertoire me crew.world (crew.thread me) deeds world
        thread) :
      History repertoire first
        (past ++ crew.world.milestones (crew.thread me) thread)
        ({ crew with world }.setThread me thread)
  | collect {crew : Crew} {past : List Milestone}
      (history : History repertoire first past crew) :
      History repertoire first past
        { crew with world := crew.world.collect crew.pinned }

variable {repertoire : Repertoire} {setups : List Setup} {members : Nat}
  {first crew : Crew} {past : List Milestone} {deeds : List Deed}
  {key : UnitKey} {top : Level} {me : ThreadId} {world : World}
  {thread : Thread}

theorem History.run (history : History repertoire first past crew) :
    ∃ deeds, Run repertoire first deeds crew := by
  induction history with
  | start => exact ⟨_, .start⟩
  | act history member act ih =>
      obtain ⟨deeds, run⟩ := ih
      exact ⟨_, run.snoc (.act member act)⟩
  | collect history ih =>
      obtain ⟨deeds, run⟩ := ih
      exact ⟨_, run.snoc .collect⟩

theorem exists_history_of_run (run : Run repertoire first deeds crew) :
    ∃ past, History repertoire first past crew := by
  induction run with
  | start => exact ⟨_, .start⟩
  | snoc run move ih =>
      obtain ⟨past, history⟩ := ih
      cases move with
      | act member act => exact ⟨_, history.act member act⟩
      | collect => exact ⟨_, history.collect⟩

/-- The sub-steps of a unit have begun up to a level, and the unit and its drivers
keep up with them. -/
structure Abreast (crew : Crew) (key : UnitKey) (past : List Milestone)
    (top : Level) : Prop where
  begun : begunLevels key past = top.ladder
  standing : (crew.world.unit key).level = top ∨
    (crew.world.unit key).level.next = some top
  driven : ∀ me, ∀ level ∈ (crew.thread me).driving key,
    level = top ∧ ((crew.world.unit key).level = top → top = .loaded)
  caught : (crew.world.unit key).isError = false →
    (∀ me, (crew.thread me).driving key = []) →
    (crew.world.unit key).level = top

theorem Abreast.max_eq (abreast : crew.Abreast key past top) :
    max (crew.world.unit key).level top = top := by
  rcases abreast.standing with same | next
  · rw [same]
    exact if_pos (Nat.le_refl _)
  · exact Level.max_eq_of_next next

theorem Abreast.of_still (abreast : crew.Abreast key past top)
    (still : (crew.world.unit key).Still (world.unit key)) :
    { crew with world }.Abreast key past top := by
  obtain ⟨begun, standing, driven, caught⟩ := abreast
  rw [← still.level] at standing driven caught
  refine ⟨begun, standing, driven, fun healthy => caught ?_⟩
  rw [LoadUnit.isError, ← still.failure]
  exact healthy

/-- Once a driver has raised the level of a unit or stored its cause, nobody drives
the unit. -/
theorem undriven_of_resolving (exclusive : crew.Exclusive)
    (member : me < crew.threads.length)
    (act : World.Act repertoire me crew.world (crew.thread me) deeds world thread)
    {task : Task} {stack : List Waiting} (current : crew.thread me = ⟨task, stack⟩)
    (resolves : task.driving key ≠ []) (you : ThreadId) :
    (({ crew with world }.setThread me thread).thread you).driving key = [] := by
  have drove : (crew.thread me).driving key ≠ [] := by
    simp [current, Thread.driving, resolves]
  obtain ⟨top, driving⟩ := List.exists_mem_of_ne_nil _ drove
  have mine := Thread.holds_of_driving driving
  rw [thread_acted member]
  split
  · have once := exclusive.count_le me key
    rw [current] at once act
    have below := World.undriven_below once resolves
    cases task with
    | drive unit target phase =>
        cases act with
        | step step =>
            cases phase with
            | raise | fail =>
                cases step
                exact below
            | _ => simp [Task.driving] at resolves
        | operate operation turn | call operation turn =>
            simp [World.step] at turn
        | resume answered => cases answered
        | finish result called => cases called
    | _ => simp [Task.driving] at resolves
  · rename_i other
    rw [List.eq_nil_iff_forall_not_mem]
    exact fun level drives =>
      other (exclusive.same_thread mine (Thread.holds_of_driving drives))

section

variable (abreast : crew.Abreast key past top) (exclusive : crew.Exclusive)
  (framed : crew.Framed) (member : me < crew.threads.length)
  (act : World.Act repertoire me crew.world (crew.thread me) deeds world thread)

include abreast exclusive member

/-- A driver that begins a sub-step is the only one to drive its unit, and begins
the sub-step that is next. -/
theorem abreast_of_climbs {target level : Level} {stack : List Waiting}
    (rechecks : crew.thread me = ⟨.drive key target .recheck, stack⟩)
    (healthy : (crew.world.unit key).isError = false)
    (above : (crew.world.unit key).level.next = some level)
    (driving : thread.driving key =
      level :: stack.flatMap (Waiting.driving key)) :
    ({ crew with world := crew.world }.setThread me thread).Abreast key
      (past ++ [Milestone.begins key level]) level := by
  have undriven := undriven_of_recheck exclusive rechecks
  have here := undriven me
  rw [rechecks] at here
  have alone : thread.driving key = [level] := by
    rw [driving]
    exact congrArg _ here
  have reached := abreast.caught healthy undriven
  have apart : (crew.world.unit key).level ≠ level := by
    intro same
    have rank := Level.rank_of_next above
    rw [same] at rank
    omega
  constructor
  · rw [begunLevels, List.filterMap_append, ← begunLevels, abreast.begun, ← reached,
      Level.ladder_next above]
    simp [Milestone.begun?]
  · exact Or.inr above
  · intro you other drives
    rw [thread_acted member] at drives
    split at drives
    · rw [alone, List.mem_singleton] at drives
      exact ⟨drives, fun same => absurd same apart⟩
    · rw [undriven you] at drives
      contradiction
  · intro _ none
    have mine := none me
    rw [thread_acted member, if_pos rfl, alone] at mine
    contradiction

variable (steered : (crew.thread me).Steered)
  (candid : (crew.thread me).Candid) (known : key < crew.world.unitCount)

include framed act steered known in
omit exclusive member in
/-- A driver that raises the level of a unit raises it to where the sub-steps have
got. -/
theorem level_of_abreast :
    (world.unit key).level = (crew.world.unit key).level ∨
      (world.unit key).level = top ∧ ∃ level,
        World.Raises (crew.thread me) key level := by
  rcases World.level_act act known with same | ⟨level, raises, raised⟩
  · exact Or.inl same
  · have driving := World.driving_of_raises (framed.supports me) steered raises
    obtain ⟨rfl, -⟩ := abreast.driven me level driving
    refine Or.inr ⟨?_, level, raises⟩
    rw [raised]
    exact abreast.max_eq

include framed act steered candid known in
theorem abreast_of_goesOn {more : List Milestone}
    (driving : ∀ level ∈ thread.driving key, level ∈ (crew.thread me).driving key)
    (unbegun : begunLevels key more = []) :
    ({ crew with world }.setThread me thread).Abreast key (past ++ more) top := by
  have before (you : ThreadId) : ∀ level ∈
      (({ crew with world }.setThread me thread).thread you).driving key,
      level ∈ (crew.thread you).driving key := by
    intro level drives
    rw [thread_acted member] at drives
    split at drives
    · rename_i same
      exact same ▸ driving level drives
    · exact drives
  have moved := level_of_abreast abreast framed act steered known
  constructor
  · rw [begunLevels, List.filterMap_append, ← begunLevels, ← begunLevels, unbegun,
      List.append_nil]
    exact abreast.begun
  · rcases moved with same | ⟨reached, -⟩
    · change (world.unit key).level = top ∨ (world.unit key).level.next = some top
      rw [same]
      exact abreast.standing
    · exact Or.inl reached
  · intro you level drives
    obtain ⟨rfl, published⟩ := abreast.driven you level (before you level drives)
    refine ⟨rfl, fun reached => ?_⟩
    change (world.unit key).level = level at reached
    rcases moved with same | ⟨-, raised, raises⟩
    · exact published (same ▸ reached)
    · cases raises with
      | drive raises =>
          rw [undriven_of_resolving exclusive member act raises
            (by simp [Task.driving]) you] at drives
          contradiction
      | publish publishes =>
          have inside := World.driving_of_raises (framed.supports me) steered
            (.publish publishes)
          exact (abreast.driven me _ inside).1.symm
  · intro healthy none
    change (world.unit key).isError = false at healthy
    rcases moved with same | ⟨reached, -⟩
    · have grows := (World.grows_act act).unit key known
      by_cases undriven : ∀ you, (crew.thread you).driving key = []
      · exact same.trans (abreast.caught (grows.healthy healthy) undriven)
      · -- somebody drove the unit, and no longer does
        obtain ⟨you, drove⟩ := not_forall.mp undriven
        obtain ⟨level, drives⟩ := List.exists_mem_of_ne_nil _ drove
        have gone := none you
        rw [thread_acted member] at gone
        split at gone
        · rename_i same
          subst same
          rcases World.undriven_act act drives with drives | succeeds | failed
          · rw [gone] at drives
            contradiction
          · obtain ⟨rfl, -⟩ := abreast.driven me level drives
            have raised := World.level_of_succeeds act candid succeeds (by simp [gone])
            exact raised.trans abreast.max_eq
          · rw [failed] at healthy
            contradiction
        · exact absurd gone drove
    · exact reached

end

/-- Nobody drives a unit that was just made, or has done so before. -/
theorem abreast_of_new (framed : crew.Framed) (member : me < crew.threads.length)
    (act : World.Act repertoire me crew.world (crew.thread me) deeds world thread)
    (old : ∀ milestone ∈ past, milestone.unit < crew.world.unitCount)
    (unknown : ¬ key < crew.world.unitCount) (known : key < world.unitCount) :
    ({ crew with world }.setThread me thread).Abreast key
      (past ++ crew.world.milestones (crew.thread me) thread) .created := by
  have lowest := World.level_of_new act unknown known
  have idle (you : ThreadId) : (crew.thread you).driving key = [] := by
    rw [List.eq_nil_iff_forall_not_mem]
    exact fun level drives => unknown
      (World.known_of_holds (framed.supports you) (Thread.holds_of_driving drives))
  have undriven (you : ThreadId) :
      (({ crew with world }.setThread me thread).thread you).driving key = [] := by
    rw [thread_acted member]
    split
    · rw [List.eq_nil_iff_forall_not_mem]
      intro level drives
      rcases World.driving_act act drives with
        before | ⟨⟨target, stack, rechecks⟩, -⟩
      · rw [idle me] at before
        contradiction
      · have supports := framed.supports me
        rw [rechecks] at supports
        exact unknown supports.1
    · exact idle you
  refine ⟨?_, Or.inl lowest, fun you level drives => ?_, fun _ _ => lowest⟩
  · apply List.filterMap_eq_nil_iff.mpr
    intro milestone passed
    have earlier : milestone.unit < crew.world.unitCount := by
      rcases List.mem_append.mp passed with past | now
      · exact old milestone past
      · exact World.known_of_milestones (framed.supports me) now
    cases milestone with
    | begins unit level =>
        refine if_neg fun same => unknown ?_
        rw [← same]
        exact earlier
    | fails unit level => rfl
  · rw [undriven you] at drives
    contradiction

/-- All units and their drivers keep up with the sub-steps that have begun, and
failures have had their effect. -/
structure Paced (crew : Crew) (past : List Milestone) : Prop where
  known : ∀ milestone ∈ past, milestone.unit < crew.world.unitCount
  abreast : ∀ key < crew.world.unitCount, ∃ top, crew.Abreast key past top
  failed : ∀ key level, .fails key level ∈ past →
    (crew.world.unit key).isError = true
  allows : past.Pairwise Milestone.Allows

theorem paced_idle : (idle setups members).Paced [] where
  known := by simp
  abreast := by
    intro key known
    change key < (World.ofSetups setups).unitCount at known
    rw [(World.ofSetups_units setups).2.1] at known
    contradiction
  failed := by simp
  allows := .nil

theorem paced_collect (paced : crew.Paced past) :
    { crew with world := crew.world.collect crew.pinned }.Paced past := by
  have still := (World.alike_collect crew.world crew.pinned).still
  refine ⟨?_, ?_, ?_, paced.allows⟩
  · intro milestone passed
    exact Nat.lt_of_lt_of_eq (paced.known milestone passed) still.count.symm
  · intro key known
    obtain ⟨top, abreast⟩ := paced.abreast key (Nat.lt_of_lt_of_eq known still.count)
    exact ⟨top, abreast.of_still (still.unit key)⟩
  · intro key level fails
    exact (LoadUnit.Grows.of_still (still.unit key)).isError
      (paced.failed key level fails)

theorem paced_act (paced : crew.Paced past) (exclusive : crew.Exclusive)
    (framed : crew.Framed) (member : me < crew.threads.length)
    (act : World.Act .undirected me crew.world (crew.thread me) deeds world thread)
    (steered : (crew.thread me).Steered) (candid : (crew.thread me).Candid) :
    ({ crew with world }.setThread me thread).Paced
      (past ++ crew.world.milestones (crew.thread me) thread) := by
  have grows := World.grows_act act
  constructor
  · intro milestone passed
    apply Nat.lt_of_lt_of_le _ grows.count
    rcases List.mem_append.mp passed with old | new
    · exact paced.known milestone old
    · exact World.known_of_milestones (framed.supports me) new
  · intro key known
    by_cases before : key < crew.world.unitCount
    · obtain ⟨top, abreast⟩ := paced.abreast key before
      cases World.drives_act act key with
      | climbs rechecks healthy above same driving passed =>
          subst same
          rw [passed]
          exact ⟨_, abreast_of_climbs abreast exclusive member rechecks healthy
            above driving⟩
      | goesOn driving unbegun =>
          exact ⟨top, abreast_of_goesOn abreast exclusive framed member act steered
            candid before driving unbegun⟩
    · exact ⟨.created, abreast_of_new framed member act paced.known before known⟩
  · intro key level fails
    rcases List.mem_append.mp fails with old | new
    · have known := paced.known _ old
      exact (grows.unit key known).isError (paced.failed key level old)
    · exact World.isError_of_fails act new
  · apply List.pairwise_append.mpr
    refine ⟨paced.allows, World.pairwise_milestones, ?_⟩
    rintro earlier old later new unit failed level rfl rfl
    have broken := paced.failed unit failed old
    rw [World.healthy_of_begins act new] at broken
    contradiction

/-- What holds between the threads in every run in which drivers do all sub-steps. -/
theorem steered_of_history
    (history : History .undirected (idle setups members) past crew)
    (me : ThreadId) : (crew.thread me).Steered := by
  induction history with
  | start =>
      rw [thread_idle]
      exact ⟨fun _ _ _ same => by simp at same, trivial⟩
  | collect history ih => exact ih
  | @act crew past you world thread deeds history member act ih =>
      rw [thread_acted member]
      split
      · rename_i same
        subst same
        exact World.steered_act act ih
      · exact ih

theorem paced_of_history
    (history : History .undirected (idle setups members) past crew) :
    crew.Paced past := by
  induction history with
  | start => exact paced_idle
  | collect history ih => exact paced_collect ih
  | @act crew past me world thread deeds history member act ih =>
      obtain ⟨said, run⟩ := history.run
      exact paced_act ih (exclusive_run run) (framed_run framed_idle run) member act
        (steered_of_history history me) (candid_run run me)

/-- The sub-steps that drivers carry out for a unit are exclusive, in order, and
stop when the unit fails. -/
structure Serial (crew : Crew) (key : UnitKey) (past : List Milestone) :
    Prop where
  /-- No two threads carry out sub-steps of the unit at a time. -/
  alone : ∀ me you, (crew.thread me).subSteps key ≠ [] →
    (crew.thread you).subSteps key ≠ [] → me = you
  /-- Nor does one thread carry out two of them. -/
  single : ∀ me, ((crew.thread me).subSteps key).length ≤ 1
  /-- The sub-steps began in the order of the ladder, without gaps and each once, and
  the level of the unit is the last of them or the one below. -/
  ladder : ∃ top : Level, begunLevels key past = top.ladder ∧
    ((crew.world.unit key).level = top ∨
      (crew.world.unit key).level.next = some top)
  /-- No sub-step began after a driver had stored a failure of the unit. -/
  stopped : ∀ before level after, past = before ++ .fails key level :: after →
    begunLevels key after = []

theorem holds_of_subSteps (runs : (crew.thread me).subSteps key ≠ []) :
    key ∈ (crew.thread me).holds := by
  obtain ⟨level, drives⟩ := List.exists_mem_of_ne_nil _ runs
  exact List.mem_append_right _ (holds_of_driving_stack drives)

/-- In every run of any number of threads that leave the sub-steps to drivers, the
sub-steps of a unit are exclusive, in order, and stop when the unit fails. -/
theorem sub_steps_in_order
    (history : History .undirected (idle setups members) past crew)
    (known : key < crew.world.unitCount) : crew.Serial key past := by
  obtain ⟨said, run⟩ := history.run
  have exclusive := exclusive_run run
  have paced := paced_of_history history
  constructor
  · intro me you mine yours
    exact exclusive.same_thread (holds_of_subSteps mine) (holds_of_subSteps yours)
  · intro me
    have once := exclusive.count_le me key
    have short : ((crew.thread me).subSteps key).length ≤ _ :=
      World.length_flatMap_driving_le (crew.thread me).stack
    simp only [Thread.holds, List.count_append] at once
    omega
  · obtain ⟨top, abreast⟩ := paced.abreast key known
    exact ⟨top, abreast.begun, abreast.standing⟩
  · rintro before level after rfl
    have allows := (List.pairwise_append.mp paced.allows).2.1
    apply List.filterMap_eq_nil_iff.mpr
    intro milestone later
    cases milestone with
    | begins unit other =>
        apply if_neg
        rintro rfl
        exact (List.pairwise_cons.mp allows).1 _ later _ _ _ rfl rfl
    | fails unit other => rfl

/-- What the drivers do when threads act in a given order. -/
def passed (crew : Crew) : List ThreadId → List Milestone
  | [] => []
  | me :: schedule =>
      crew.world.milestones (crew.thread me) ((crew.act me).thread me) ++
        passed (crew.act me) schedule

theorem History.follow (history : History repertoire first past crew)
    {schedule : List ThreadId}
    (members : ∀ me ∈ schedule, me < crew.threads.length) :
    History repertoire first (past ++ crew.passed schedule)
      (crew.follow schedule) := by
  induction schedule generalizing crew past with
  | nil => simpa [passed, Crew.follow] using history
  | cons me schedule ih =>
      have member := members me List.mem_cons_self
      have rest : ∀ you ∈ schedule, you < (crew.act me).threads.length := by
        intro you later
        rw [length_act]
        exact members you (List.mem_cons_of_mem me later)
      rw [passed, ← List.append_assoc]
      apply ih _ rest
      cases stepped : crew.world.step me (crew.thread me) with
      | none =>
          simpa [Crew.act, stepped, World.milestones_of_turn stepped] using history
      | some result =>
          obtain ⟨world, thread⟩ := result
          simp only [Crew.act, stepped]
          rw [thread_acted member, if_pos rfl]
          exact history.act member (.step stepped)

theorem History.ask (history : History repertoire first past crew)
    {operation : Operation} (may : crew.mayAsk me operation = true)
    (asked : repertoire crew.world operation) :
    History repertoire first past (crew.ask me operation) := by
  simp only [mayAsk, Bool.and_eq_true, decide_eq_true_eq,
    Option.isNone_iff_eq_none] at may
  obtain ⟨⟨member, turn⟩, granted⟩ := may
  rw [← List.append_nil past]
  cases loads : operation.task? crew.world with
  | some task =>
      have called := history.act member (.call operation turn asked granted loads)
      rw [World.milestones_of_turn turn] at called
      simpa only [Crew.ask, loads] using called
  | none =>
      have done := history.act member (.operate operation turn asked granted loads)
      have same : crew.threads.set me (crew.thread me) = crew.threads := by
        simp [Crew.thread, member]
      rw [World.milestones_of_turn turn, setThread, same] at done
      simpa only [Crew.ask, loads] using done

/-- Two threads, and a unit that is made to fail. -/
def unrequested : Crew :=
  (idle [.observed] 2).ask 0
    (.create 0 { name := "App" } { name := "App", failAt := some .eagerFixups })

/-- Both threads want the unit to be active. -/
def contested : Crew :=
  (unrequested.ask 0 (.ensure 0 0 .active)).ask 1 (.ensure 0 0 .active)

/-- The threads have acted in turn until both have their answer. -/
def foughtOver : Crew :=
  contested.follow (List.replicate 40 [0, 1]).flatten

theorem sub_steps_of_foughtOver :
    foughtOver.isDone = true ∧
      foughtOver.Serial 0 [.begins 0 .begun, .begins 0 .beforeTypeLoad,
        .begins 0 .eagerFixups, .fails 0 .eagerFixups] := by
  have made : History .undirected (idle [.observed] 2) [] unrequested :=
    History.start.ask (by decide +kernel) trivial
  have one : History .undirected _ [] (unrequested.ask 0 (.ensure 0 0 .active)) :=
    made.ask (by decide +kernel) trivial
  have two : History .undirected _ [] contested :=
    one.ask (by decide +kernel) trivial
  have fought : History .undirected _ _ foughtOver :=
    two.follow (by decide +kernel)
  have past : ([] : List Milestone) ++
      contested.passed (List.replicate 40 [0, 1]).flatten =
      [.begins 0 .begun, .begins 0 .beforeTypeLoad, .begins 0 .eagerFixups,
        .fails 0 .eagerFixups] := by
    decide +kernel
  exact ⟨by decide +kernel,
    past ▸ sub_steps_in_order fought (by decide +kernel)⟩

end Crew

end LoadLadder
