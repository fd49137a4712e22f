import LoadLadder.Proofs.UnitGrowth

/-!
# The frames of a thread

What may lie on what.  A sub-step runs for its driver or for a direct request, a
drive for the client or for a dependency initializer, a callback for the place
that called it back.  Every frame names units that exist, and the rest of a
sub-step is an end of its level's work.
-/

namespace LoadLadder

/-- What kind of work a stack waits for. -/
inductive Seat
  | subStep (unit : UnitKey) (level : Level)
  | drive
  | dependencies (unit : UnitKey)
  | callback (callback : Callback)

/-- An activation has either still to insist that its unit is loaded, or the unit
is. -/
def World.Insisted (world : World) (key : UnitKey) (level : Level)
    (rest : List Action) : Prop :=
  level = .active → .requireLoaded ∈ rest ∨ .loaded ≤ (world.unit key).level

/-- The frames of a stack fit together and wait for work of a kind. -/
inductive World.Seated (world : World) : Seat → List Waiting → Prop
  | subStepOutside {key : UnitKey} {level : Level} :
      Seated world (.subStep key level) []
  | driveOutside : Seated world .drive []
  | subStepCalled {key : UnitKey} {level : Level} {callback : Callback}
      {stack : List Waiting} (below : Seated world (.callback callback) stack) :
      Seated world (.subStep key level) (.onOperation callback :: stack)
  | driveCalled {callback : Callback} {stack : List Waiting}
      (below : Seated world (.callback callback) stack) :
      Seated world .drive (.onOperation callback :: stack)
  | driven {key : UnitKey} {target level : Level} {stack : List Waiting}
      (known : key < world.unitCount) (below : Seated world .drive stack) :
      Seated world (.subStep key level) (.onSubStep key target level :: stack)
  | initializing {key : UnitKey} {level : Level} {rest : List Action}
      {gateLifted : Bool} {seat : Seat} {stack : List Waiting}
      (known : key < world.unitCount)
      (runs : seat = .dependencies key ∨ seat = .callback (.initializer key))
      (remains : .runInitializer :: rest <:+ level.actions)
      (insisted : world.Insisted key level (.runInitializer :: rest))
      (below : Seated world (.subStep key level) stack) :
      Seated world seat (.onInitializer key level rest gateLifted :: stack)
  | hooked {key : UnitKey} {level : Level} {rest : List Action}
      {stack : List Waiting} (known : key < world.unitCount)
      (remains : .reportTransition :: rest <:+ level.actions)
      (insisted : world.Insisted key level (.reportTransition :: rest))
      (below : Seated world (.subStep key level) stack) :
      Seated world (.callback (.hook key level))
        (.onHook key level rest :: stack)
  | depending {key : UnitKey} {rest : List UnitKey} {stack : List Waiting}
      (known : key < world.unitCount)
      (dependencies : ∀ dependency ∈ rest, dependency < world.unitCount)
      (below : Seated world (.dependencies key) stack) :
      Seated world .drive (.onDependency key rest :: stack)
  | listening {key : UnitKey} {target : Level} {snapshot : Snapshot}
      {number : Nat} {rest : List Listener} {stack : List Waiting}
      (known : key < world.unitCount) (below : Seated world .drive stack) :
      Seated world (.callback (.listener number snapshot))
        (.onListener key target snapshot rest :: stack)

/-- A thread works on units that exist, on a stack that waits for its work. -/
def World.Supports (world : World) (thread : Thread) : Prop :=
  match thread.task with
  | .drive key _ _ => key < world.unitCount ∧ world.Seated .drive thread.stack
  | .subStep key level rest =>
      key < world.unitCount ∧ rest <:+ level.actions ∧
        world.Insisted key level rest ∧
        world.Seated (.subStep key level) thread.stack
  | .activateDependencies key rest =>
      key < world.unitCount ∧ (∀ dependency ∈ rest,
        dependency < world.unitCount) ∧
        world.Seated (.dependencies key) thread.stack
  | .announce key _ _ _ =>
      key < world.unitCount ∧ world.Seated .drive thread.stack
  | .callback callback => world.Seated (.callback callback) thread.stack
  | .answer _ => ∃ seat, world.Seated seat thread.stack

/-- Dependencies are units that exist. -/
def World.Rooted (world : World) : Prop :=
  ∀ key, ∀ dependency ∈ (world.unit key).dependencies,
    dependency < world.unitCount

theorem loaded_of_publish {level : Level} {rest : List Action}
    (remains : .publish :: rest <:+ level.actions) : level = .loaded := by
  have member := remains.subset List.mem_cons_self
  cases level <;> simp [Level.actions] at member ⊢

theorem active_of_runInitializer {level : Level} {rest : List Action}
    (remains : .runInitializer :: rest <:+ level.actions) :
    level = .active := by
  have member := remains.subset List.mem_cons_self
  cases level <;> simp [Level.actions] at member ⊢

namespace World

variable {world next : World}

theorem Insisted.grows {key : UnitKey} {level : Level} {rest : List Action}
    (insisted : world.Insisted key level rest) (grows : world.Grows next)
    (known : key < world.unitCount) : next.Insisted key level rest := by
  intro active
  rcases insisted active with pending | loaded
  · exact Or.inl pending
  · exact Or.inr (Nat.le_trans loaded (grows.unit key known).level)

theorem Seated.grows {seat : Seat} {stack : List Waiting}
    (seated : world.Seated seat stack) (grows : world.Grows next) :
    next.Seated seat stack := by
  induction seated with
  | subStepOutside => exact .subStepOutside
  | driveOutside => exact .driveOutside
  | subStepCalled below ih => exact .subStepCalled ih
  | driveCalled below ih => exact .driveCalled ih
  | driven known below ih =>
      exact .driven (Nat.lt_of_lt_of_le known grows.count) ih
  | initializing known runs remains insisted below ih =>
      exact .initializing (Nat.lt_of_lt_of_le known grows.count) runs remains
        (insisted.grows grows known) ih
  | hooked known remains insisted below ih =>
      exact .hooked (Nat.lt_of_lt_of_le known grows.count) remains
        (insisted.grows grows known) ih
  | depending known dependencies below ih =>
      exact .depending (Nat.lt_of_lt_of_le known grows.count)
        (fun dependency member =>
          Nat.lt_of_lt_of_le (dependencies dependency member) grows.count) ih
  | listening known below ih =>
      exact .listening (Nat.lt_of_lt_of_le known grows.count) ih

theorem Supports.grows {thread : Thread} (supports : world.Supports thread)
    (grows : world.Grows next) : next.Supports thread := by
  obtain ⟨task, stack⟩ := thread
  cases task with
  | drive key target phase =>
      exact ⟨Nat.lt_of_lt_of_le supports.1 grows.count,
        supports.2.grows grows⟩
  | subStep key level rest =>
      obtain ⟨known, remains, insisted, seated⟩ := supports
      exact ⟨Nat.lt_of_lt_of_le known grows.count, remains,
        insisted.grows grows known, seated.grows grows⟩
  | activateDependencies key rest =>
      obtain ⟨known, dependencies, seated⟩ := supports
      exact ⟨Nat.lt_of_lt_of_le known grows.count,
        fun dependency member =>
          Nat.lt_of_lt_of_le (dependencies dependency member) grows.count,
        seated.grows grows⟩
  | announce key target snapshot rest =>
      exact ⟨Nat.lt_of_lt_of_le supports.1 grows.count,
        supports.2.grows grows⟩
  | callback callback => exact Seated.grows supports grows
  | answer reply =>
      obtain ⟨seat, seated⟩ := supports
      exact ⟨seat, seated.grows grows⟩

theorem Supports.seated {thread : Thread} (supports : world.Supports thread) :
    ∃ seat, world.Seated seat thread.stack := by
  obtain ⟨task, stack⟩ := thread
  cases task with
  | drive | announce => exact ⟨_, supports.2⟩
  | subStep => exact ⟨_, supports.2.2.2⟩
  | activateDependencies => exact ⟨_, supports.2.2⟩
  | callback => exact ⟨_, supports⟩
  | answer => exact supports

theorem Seated.known {seat : Seat} {stack : List Waiting}
    (seated : world.Seated seat stack) :
    ∀ key ∈ stack.filterMap Waiting.unit?, key < world.unitCount := by
  induction seated with
  | subStepOutside | driveOutside => simp
  | subStepCalled below ih | driveCalled below ih => exact ih
  | driven known below ih | initializing known _ _ _ below ih
  | hooked known _ _ below ih | depending known _ below ih
  | listening known below ih =>
      exact List.forall_mem_cons.mpr ⟨known, ih⟩

theorem Supports.known {thread : Thread} (supports : world.Supports thread) :
    ∀ key ∈ thread.task.unit?, key < world.unitCount := by
  obtain ⟨task, stack⟩ := thread
  cases task with
  | drive | subStep | activateDependencies | announce =>
      rintro key ⟨⟩
      exact supports.1
  | callback | answer => simp [Task.unit?]

/-- The units that running operations hold are there. -/
theorem Supports.known_of_pinned {thread : Thread}
    (supports : world.Supports thread) {key : UnitKey}
    (pinned : key ∈ thread.pinned) : key < world.unitCount := by
  rcases List.mem_append.mp pinned with own | waiting
  · exact supports.known key (Option.mem_toList.mp own)
  · obtain ⟨seat, seated⟩ := supports.seated
    exact seated.known key waiting

theorem supports_ensure {through : DomainKey} {key : UnitKey} {target : Level}
    {stack : List Waiting} (known : key < world.unitCount)
    (seated : world.Seated .drive stack) :
    world.Supports ⟨.ensure world through key target, stack⟩ := by
  unfold Task.ensure
  split
  · exact ⟨.drive, seated⟩
  · split
    · exact ⟨known, seated⟩
    · exact ⟨.drive, seated⟩

theorem supports_incremental {through : DomainKey} {key : UnitKey}
    {level : Level} {stack : List Waiting} (known : key < world.unitCount)
    (seated : world.Seated (.subStep key level) stack) :
    world.Supports ⟨.incremental world through key level, stack⟩ := by
  unfold Task.incremental
  split
  · exact ⟨_, seated⟩
  · split
    · exact ⟨_, seated⟩
    · split
      · exact ⟨_, seated⟩
      · refine ⟨known, List.suffix_rfl, ?_, seated⟩
        rintro rfl
        exact Or.inl (by decide)

theorem insisted_tail {key : UnitKey} {level : Level} {action : Action}
    {rest : List Action} (insisted : world.Insisted key level (action :: rest))
    (other : action ≠ .requireLoaded) : world.Insisted key level rest := by
  intro active
  rcases insisted active with pending | loaded
  · rcases List.mem_cons.mp pending with same | pending
    · exact absurd same.symm other
    · exact Or.inl pending
  · exact Or.inr loaded

theorem supports_stepped {me : ThreadId} {thread after : Thread}
    (stepped : world.Stepped me thread next after) (rooted : world.Rooted)
    (supports : world.Supports thread) : next.Supports after := by
  have grows := grows_stepped stepped
  cases stepped with
  | climbs short healthy above =>
      obtain ⟨known, seated⟩ := supports
      refine ⟨known, List.suffix_rfl, ?_, .driven known seated⟩
      rintro rfl
      exact Or.inl (by decide)
  | releasedRaise => exact ⟨.drive, supports.2.grows grows⟩
  | blames | required => exact ⟨.drive, supports.2⟩
  | @completed key level stack => exact ⟨_, supports.2.2.2⟩
  | @performed key level action rest next stack ordinary done =>
      obtain ⟨known, remains, insisted, seated⟩ := supports
      refine ⟨Nat.lt_of_lt_of_le known grows.count,
        (List.suffix_cons action rest).trans remains, ?_,
        seated.grows grows⟩
      by_cases insists : action = .requireLoaded
      · subst insists
        intro active
        simp only [perform] at done
        split at done
        · cases done
          exact Or.inr (of_decide_eq_true ‹_›)
        · simp at done
      · exact (insisted_tail insisted insists).grows grows known
  | faulted => exact ⟨_, supports.2.2.2.grows grows⟩
  | @initializes key level rest task stack runs =>
      obtain ⟨known, remains, insisted, seated⟩ := supports
      have below := seated.grows grows
      rcases runs with ⟨-, rfl⟩ | ⟨-, rfl⟩
      · exact ⟨known, rooted key, .initializing known (Or.inl rfl) remains
          (insisted.grows grows known) below⟩
      · exact .initializing known (Or.inr rfl) remains
          (insisted.grows grows known) below
  | @reported key level rest after stack goes =>
      obtain ⟨known, remains, insisted, seated⟩ := supports
      have insisted := insisted.grows grows known
      have known := Nat.lt_of_lt_of_le known grows.count
      have below := seated.grows grows
      rcases goes with ⟨-, rfl⟩ | ⟨-, rfl⟩
      · exact ⟨known, (List.suffix_cons _ rest).trans remains,
          insisted_tail insisted (by simp), below⟩
      · exact .hooked known remains insisted below
  | allActivated => exact ⟨_, supports.2.2.grows grows⟩
  | activates =>
      obtain ⟨known, dependencies, seated⟩ := supports
      exact supports_ensure (dependencies _ (by simp))
        (.depending known
          (fun dependency member => dependencies dependency (by simp [member]))
          seated)
  | skips =>
      obtain ⟨known, dependencies, seated⟩ := supports
      exact ⟨known,
        fun dependency member => dependencies dependency (by simp [member]),
        seated⟩
  | tellsClient => exact .listening supports.1 supports.2
  | succeeded | abandoned | broke =>
      obtain ⟨seat, seated⟩ := supports
      cases seated with
      | driven known below => exact ⟨known, below⟩
  | initialized =>
      obtain ⟨seat, seated⟩ := supports
      cases seated with
      | initializing known runs remains insisted below =>
          exact ⟨known, (List.suffix_cons _ _).trans remains,
            (insisted_tail insisted (by simp)).grows grows known,
            below.grows grows⟩
  | uninitialized =>
      obtain ⟨seat, seated⟩ := supports
      cases seated with
      | initializing known runs remains insisted below =>
          exact ⟨_, below.grows grows⟩
  | hooked =>
      obtain ⟨seat, seated⟩ := supports
      cases seated with
      | hooked known remains insisted below =>
          exact ⟨known, (List.suffix_cons _ _).trans remains,
            insisted_tail insisted (by simp), below⟩
  | activated =>
      obtain ⟨seat, seated⟩ := supports
      cases seated with
      | depending known dependencies below => exact ⟨known, dependencies, below⟩
  | unactivated =>
      obtain ⟨seat, seated⟩ := supports
      cases seated with
      | depending known dependencies below => exact ⟨_, below⟩
  | listened =>
      obtain ⟨seat, seated⟩ := supports
      cases seated with
      | listening known below => exact ⟨known, below⟩
  | _ => exact supports.grows grows

theorem rooted_of_dependencies (rooted : world.Rooted)
    (count : world.unitCount ≤ next.unitCount)
    (same : ∀ key,
      (next.unit key).dependencies = (world.unit key).dependencies) :
    next.Rooted := by
  intro key dependency member
  rw [same] at member
  exact Nat.lt_of_lt_of_le (rooted key dependency member) count

theorem rooted_of_still (rooted : world.Rooted) (still : world.Still next) :
    next.Rooted :=
  rooted_of_dependencies rooted (Nat.le_of_eq still.count.symm)
    fun key => (still.unit key).dependencies

theorem rooted_stepped {me : ThreadId} {thread after : Thread}
    (stepped : world.Stepped me thread next after) (rooted : world.Rooted) :
    next.Rooted := by
  refine rooted_of_dependencies rooted (grows_stepped stepped).count ?_
  intro other
  rcases stepped_moves stepped with
    still | ⟨key, _, level, _, -, rfl⟩ | ⟨key, _, _, _, -, rfl⟩ |
    ⟨key, _, _, _, _, -, rfl⟩
  · exact (still.unit other).dependencies
  · rw [unit_modifyUnit]
    split
    · rename_i same
      rw [← same]
      rfl
    · rfl
  · rw [unit_modifyUnit]
    split
    · rename_i same
      rw [← same]
      rfl
    · rfl
  · rw [unit_setError]
    split
    · rename_i fresh
      rw [← fresh.1]
    · rfl

theorem rooted_createUnit (rooted : world.Rooted) (home : DomainKey)
    (image : Image) (container : Container) :
    (world.createUnit home image container).1.Rooted := by
  intro key dependency member
  rw [unitCount_createUnit]
  rw [unit_createUnit] at member
  split at member
  · simp at member
  · exact Nat.lt_succ_of_lt (rooted key dependency member)

theorem rooted_complete (rooted : world.Rooted) (me : ThreadId)
    (operation : Operation) : (operation.complete world me).1.Rooted := by
  rcases complete_moves world me operation with
    still | ⟨home, image, container, -, result⟩ |
    ⟨key, dependency, -, added, result⟩ | ⟨key, cause, -, result⟩
  · exact rooted_of_dependencies rooted (Nat.le_of_eq still.count.symm)
      fun other => (still.unit other).dependencies
  · rw [result]
    exact rooted_createUnit rooted home image container
  · rw [result]
    intro key other member
    rw [unit_modifyUnit] at member
    split at member
    · rename_i same
      subst same
      rcases List.mem_append.mp member with old | new
      · exact rooted _ other old
      · rw [List.mem_singleton] at new
        simp only [holdsUnit, Bool.and_eq_true, decide_eq_true_eq] at added
        rw [new]
        exact added.1
    · exact rooted key other member
  · rw [result]
    refine rooted_of_dependencies rooted
      (grows_setError world key cause).count fun other => ?_
    rw [unit_setError]
    split
    · rename_i fresh
      rw [← fresh.1]
    · rfl

/-- The client may have any kind of work done when it is its turn. -/
theorem supports_call {me : ThreadId} {thread : Thread} {task : Task}
    (turn : world.step me thread = none) (supports : world.Supports thread)
    (fits : ∀ stack, world.Seated .drive stack →
      (∀ key level, world.Seated (.subStep key level) stack) →
      world.Supports ⟨task, stack⟩) :
    world.Supports (thread.call task) := by
  rcases turn_cases turn with
    ⟨callback, stack, rfl⟩ | ⟨reply, rfl⟩ | ⟨reply, callback, stack, rfl⟩
  · exact fits _ (.driveCalled supports) fun _ _ => .subStepCalled supports
  · exact fits _ .driveOutside fun _ _ => .subStepOutside
  · obtain ⟨seat, seated⟩ := supports
    have below : world.Seated (.callback callback) stack := by
      cases seated with
      | subStepCalled below => exact below
      | driveCalled below => exact below
    exact fits _ (.driveCalled below) fun _ _ => .subStepCalled below

theorem holdsUnit_of_granted {operation : Operation} {key : UnitKey}
    (granted : operation.refusal? world = none)
    (about : operation.unit? = some key) : world.holdsUnit key = true := by
  unfold Operation.refusal? at granted
  split at granted
  · simp at granted
  · simpa [about] using granted

theorem known_of_granted {operation : Operation} {key : UnitKey}
    (granted : operation.refusal? world = none)
    (about : operation.unit? = some key) : key < world.unitCount := by
  have held := holdsUnit_of_granted granted about
  simp only [holdsUnit, Bool.and_eq_true, decide_eq_true_eq] at held
  exact held.1

theorem supports_act {repertoire : Repertoire} {me : ThreadId}
    {thread after : Thread} {deeds : List Deed}
    (act : world.Act repertoire me thread deeds next after)
    (rooted : world.Rooted) (supports : world.Supports thread) :
    next.Supports after := by
  cases act with
  | step step => exact supports_stepped (stepped_of_step step) rooted supports
  | operate operation turn asked granted instant =>
      exact supports.grows (grows_complete world me _)
  | @call operation task turn asked granted loads =>
      refine supports_call turn supports fun stack drive subStep => ?_
      cases operation with
      | ensure through key target =>
          cases loads
          exact supports_ensure (known_of_granted granted rfl) drive
      | incremental through key level =>
          cases loads
          exact supports_incremental (known_of_granted granted rfl)
            (subStep key level)
      | _ => simp [Operation.task?] at loads
  | resume answered =>
      subst answered
      obtain ⟨seat, seated⟩ := supports
      cases seated with
      | subStepCalled below => exact below
      | driveCalled below => exact below
  | finish result called =>
      subst called
      exact ⟨_, supports⟩

theorem rooted_act {repertoire : Repertoire} {me : ThreadId}
    {thread after : Thread} {deeds : List Deed}
    (act : world.Act repertoire me thread deeds next after)
    (rooted : world.Rooted) : next.Rooted := by
  cases act with
  | step step => exact rooted_stepped (stepped_of_step step) rooted
  | operate => exact rooted_complete rooted me _
  | call | resume | finish => exact rooted

end World

namespace Crew

variable {repertoire : Repertoire} {setups : List Setup} {members : Nat}
  {crew next : Crew} {deeds : List Deed}

/-- All threads of a crew have frames that fit. -/
structure Framed (crew : Crew) : Prop where
  rooted : crew.world.Rooted
  supports : ∀ me, crew.world.Supports (crew.thread me)

theorem framed_idle : (idle setups members).Framed where
  rooted := by
    intro key dependency member
    change dependency ∈ ((World.ofSetups setups).unit key).dependencies at member
    rw [World.unit_ofSetups] at member
    change dependency ∈ ([] : List UnitKey) at member
    simp at member
  supports := by
    intro me
    rw [thread_idle]
    exact ⟨_, .driveOutside⟩

theorem framed_move (framed : crew.Framed)
    (move : Move repertoire crew deeds next) : next.Framed := by
  cases move with
  | collect =>
      have still := (World.alike_collect crew.world crew.pinned).still
      exact ⟨World.rooted_of_still framed.rooted still,
        fun me => (framed.supports me).grows (.of_still still)⟩
  | @act me world thread deeds member act =>
      refine ⟨World.rooted_act act framed.rooted, fun you => ?_⟩
      rw [thread_acted member]
      split
      · exact World.supports_act act framed.rooted (framed.supports me)
      · exact (framed.supports you).grows (World.grows_act act)

theorem framed_run {first : Crew} (framed : first.Framed)
    (run : Run repertoire first deeds crew) : crew.Framed := by
  induction run with
  | start => exact framed
  | snoc run move ih => exact framed_move ih move

end Crew

end LoadLadder
