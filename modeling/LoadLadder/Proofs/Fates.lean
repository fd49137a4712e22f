import LoadLadder.Proofs.FinishedLoads
import LoadLadder.Proofs.LoneDescents

/-!
# What becomes of units

A unit that is made to fail is bound to fail with a cause of its own, so an activation
sees of each unit only whether it is active, has failed or will fail, or is neither.
How a machine goes through the dependencies of a unit depends on nothing else: the
walk below takes the same decisions, without levels and sub-steps, and the machine
follows it.  The walk is deterministic, so two machines that start with the same fates
end with the same ones, however far the units have been loaded before.
-/

namespace LoadLadder

open Relation

/-- What an activation sees of a unit. -/
inductive Fate
  | pending
  | active
  | failed (cause : Cause)

/-- What happens next in a walk. -/
inductive Visit
  /-- A unit activates the rest of its dependencies. -/
  | visits (unit : UnitKey) (rest : List UnitKey)
  /-- The activation of a unit fails. -/
  | spoils (unit : UnitKey) (fault : Fault)
  /-- Whoever activates a unit hears how that ended. -/
  | answers (fault : Option Fault)

/-- The fate of a unit answers for it, unless it is still open. -/
def Fate.meet (fate : Fate) (undecided : Visit) : Visit :=
  match fate with
  | .pending => undecided
  | .active => .answers none
  | .failed cause => .answers (some (.load cause))

theorem Fate.meet_congr {fate : Fate} (decided : fate ≠ .pending)
    (one two : Visit) : fate.meet one = fate.meet two := by
  cases fate with
  | pending => contradiction
  | active | failed => rfl

/-- The fates of the units, and the units that wait for one of their dependencies, each
with those that come after it. -/
structure Walk where
  fates : UnitKey → Fate
  visit : Visit
  users : List (UnitKey × List UnitKey)

/-- What to do about a unit that is to be active.  A unit that waits itself is as far
as it can be. -/
def Blueprint.call (plan : Blueprint) (fates : UnitKey → Fate)
    (users : List (UnitKey × List UnitKey)) (key : UnitKey) : Visit :=
  (fates key).meet
    (if key ∈ users.map Prod.fst then .answers none
    else .visits key (plan.dependencies key))

namespace Walk

/-- The next step of a walk through a plan whose units have these names. -/
def next? (plan : Blueprint) (name : UnitKey → String) : Walk → Option Walk
  | ⟨fates, .visits key [], users⟩ =>
      some ⟨Function.update fates key .active, .answers none, users⟩
  | ⟨fates, .visits key (dependency :: rest), users⟩ =>
      some ⟨fates, plan.call fates ((key, rest) :: users) dependency,
        (key, rest) :: users⟩
  | ⟨fates, .spoils key fault, users⟩ =>
      let cause := Cause.capture fault (name key) .active
      some ⟨Function.update fates key (.failed cause),
        .answers (some (.load cause)), users⟩
  | ⟨fates, .answers none, (key, rest) :: users⟩ =>
      some ⟨fates, .visits key rest, users⟩
  | ⟨fates, .answers (some fault), (key, _) :: users⟩ =>
      some ⟨fates, .spoils key fault, users⟩
  | ⟨_, .answers _, []⟩ => none

variable {plan : Blueprint} {name : UnitKey → String} {start one two : Walk}

theorem next?_over (fates : UnitKey → Fate) (fault : Option Fault) :
    next? plan name ⟨fates, .answers fault, []⟩ = none := by
  cases fault <;> rfl

def Leads (plan : Blueprint) (name : UnitKey → String) : Walk → Walk → Prop :=
  ReflTransGen fun walk later => walk.next? plan name = some later

/-- A walk has one end at most. -/
theorem Leads.unique (first : Leads plan name start one)
    (second : Leads plan name start two) (ended : one.next? plan name = none)
    (done : two.next? plan name = none) : one = two := by
  have single : Relator.RightUnique
      fun walk later : Walk => walk.next? plan name = some later := by
    intro walk left right goes there
    rw [goes] at there
    exact Option.some.inj there
  rcases ReflTransGen.total_of_right_unique single first second with
    leads | leads
  · rcases ReflTransGen.cases_head leads with same | ⟨later, goes, -⟩
    · exact same
    · rw [ended] at goes
      contradiction
  · rcases ReflTransGen.cases_head leads with same | ⟨later, goes, -⟩
    · exact same.symm
    · rw [done] at goes
      contradiction

end Walk

/-- The unit that waits for a dependency, with those that come after it. -/
def Waiting.user : Waiting → List (UnitKey × List UnitKey)
  | .onDependency key rest => [(key, rest)]
  | _ => []

def Reply.fault? : Reply → Option Fault
  | .ok _ => none
  | .error fault => some fault

/-- What a thread does next, as a step of its walk. -/
def Thread.visit (fates : UnitKey → Fate) (plan : Blueprint) : Thread → Visit
  | ⟨.drive key _ phase, stack⟩ =>
      match phase with
      | .raise .active => (fates key).meet (.visits key [])
      | .fail _ fault => (fates key).meet (.spoils key fault)
      | .leave | .settle => (fates key).meet (.answers none)
      | .require => .answers none
      | _ => plan.call fates (stack.flatMap Waiting.user) key
  | ⟨.subStep key level rest, _⟩ =>
      (fates key).meet (.visits key
        (if level = .active ∧ .runInitializer ∉ rest then []
        else plan.dependencies key))
  | ⟨.activateDependencies key rest, _⟩ => (fates key).meet (.visits key rest)
  | ⟨.answer reply, .onSubStep key _ level :: _⟩ =>
      (fates key).meet (match reply with
        | .ok _ =>
            .visits key (if level = .active then [] else plan.dependencies key)
        | .error fault => .spoils key fault)
  | ⟨.answer reply, .onInitializer key _ _ _ :: _⟩ =>
      (fates key).meet (match reply with
        | .ok _ => .visits key []
        | .error fault => .spoils key fault)
  | ⟨.answer reply, _⟩ => .answers (Reply.fault? reply)
  | ⟨_, _⟩ => .answers none

namespace World

variable {world next : World} {thread after : Thread} {key root : UnitKey}
  {level : Level} {stack : List Waiting} {sinks : Sinks} {cause : Cause}

/-- What has become of a unit, or is bound to. -/
def fate (world : World) (key : UnitKey) : Fate :=
  match world.foretold .active key fun _ => none with
  | some cause => .failed cause
  | none =>
      if (world.unit key).level = .active then .active
      else
        match (world.unit key).failure.cause with
        | some cause => .failed cause
        | none => .pending

/-- Where a thread is on its walk. -/
def walk (world : World) (thread : Thread) : Walk where
  fates := world.fate
  visit := thread.visit world.fate world.blueprint
  users := thread.stack.flatMap Waiting.user

theorem Proceeds.names (proceeds : world.Proceeds next) :
    (fun key => (next.unit key).name) = fun key => (world.unit key).name := by
  funext key
  rw [LoadUnit.name, LoadUnit.name, (proceeds.fixed key).image]

theorem foretold_of_sound (sound : world.blueprint.failAt key = none) :
    (world.foretold .active key fun _ => none) = none := by
  simp [foretold, sound]

theorem foretold_of_fails (fails : world.blueprint.failAt key = some level) :
    (world.foretold .active key fun _ => none) = some (.capture
      (.step level ("injected failure in " ++ (world.unit key).container.name))
      (world.unit key).name level) := by
  have high : level ≤ .active := Nat.not_lt.mp (not_active_lt level)
  simp [foretold, fails, high]

theorem fate_of_healthy (sound : world.blueprint.failAt key = none)
    (low : (world.unit key).level ≠ .active)
    (healthy : (world.unit key).failure.cause = none) :
    world.fate key = .pending := by
  simp [fate, foretold_of_sound sound, low, healthy]

theorem fate_of_active (grounded : world.Grounded key)
    (active : (world.unit key).level = .active) : world.fate key = .active := by
  simp [fate, foretold_of_sound (grounded.attended active).sound, active]

theorem fate_of_cause (grounded : world.Grounded key)
    (stored : (world.unit key).failure.cause = some cause) :
    world.fate key = .failed cause := by
  obtain ⟨level, fault, accounts, captured, step⟩ :=
    grounded.accounted cause stored
  have low := Level.ne_active_of_next step
  subst captured
  cases accounts with
  | injected fails => simp [fate, foretold_of_fails fails]
  | inherited sound =>
      simp [fate, foretold_of_sound sound, low, stored]

theorem fate_of_isError (grounded : world.Grounded key)
    (failed : (world.unit key).isError = true) :
    ∃ cause, world.fate key = .failed cause := by
  obtain ⟨cause, stored⟩ := isError_iff.mp failed
  exact ⟨cause, fate_of_cause grounded stored⟩

theorem fate_of_fails (fails : world.blueprint.failAt key = some level) :
    ∃ cause, world.fate key = .failed cause := by
  rw [fate, foretold_of_fails fails]
  exact ⟨_, rfl⟩

/-- A unit that cannot go on has its fate. -/
theorem fate_ne_pending (grounded : world.Grounded key)
    (done : .active ≤ (world.unit key).level ∨ (world.unit key).isError = true) :
    world.fate key ≠ .pending := by
  rcases done with reached | failed
  · rw [fate_of_active grounded (Level.eq_active_of_le reached)]
    simp
  · obtain ⟨cause, fate⟩ := fate_of_isError grounded failed
    rw [fate]
    simp

/-- Neither rising below the top nor anything else but a failure changes a fate. -/
theorem fate_of_same (proceeds : world.Proceeds next)
    (level : (next.unit key).level = .active ↔ (world.unit key).level = .active)
    (failure : (next.unit key).failure = (world.unit key).failure) :
    next.fate key = world.fate key := by
  rw [fate, fate, proceeds.foretold, failure]
  simp only [level]

/-- A unit that is being driven is neither active nor failed. -/
theorem fate_of_driving (steady : world.Steady thread key)
    (sound : world.blueprint.failAt key = none)
    (driving : level ∈ thread.driving key) : world.fate key = .pending := by
  refine fate_of_healthy sound (not_active_of_driving steady driving) ?_
  have healthy := steady.healthy level driving
  simpa [LoadUnit.isError, CauseCell.isSet] using healthy

/-- A step that neither activates a unit nor keeps a cause leaves all fates as they
are. -/
theorem fate_stepped (stepped : world.Stepped mainThread thread next after)
    (excursion : world.Excursion sinks root .active thread)
    (plain : ∀ key target stack,
      thread ≠ ⟨.drive key target (.raise .active), stack⟩)
    (sound : ∀ key target level fault stack,
      thread ≠ ⟨.drive key target (.fail level fault), stack⟩) :
    next.fate = world.fate := by
  funext key
  have proceeds := proceeds_stepped stepped
  have lifted {level : Level} (driving : level ∈ thread.driving key)
      (low : level ≠ .active)
      (raised : next.unit key = (world.unit key).raiseLevel level) :
      next.fate key = world.fate key := by
    have steady := excursion.steady key
    have below := not_active_of_driving steady driving
    have there : (next.unit key).level = level := by
      rw [raised]
      exact Level.max_eq_of_standing (steady.standing level driving)
    refine fate_of_same proceeds ?_ ?_
    · rw [there]
      exact ⟨fun same => absurd same low, fun same => absurd same below⟩
    · rw [raised]
      rfl
  rcases unit_moves_stepped stepped key with
    still | ⟨target, level, stack, rfl, raised⟩ |
    ⟨level, rest, stack, rfl, raised⟩ |
    ⟨target, level, fault, stack, rfl, moved⟩
  · exact fate_of_same proceeds (by rw [still.level]) still.failure
  · refine lifted (by simp [Thread.driving, Task.driving]) ?_ raised
    rintro rfl
    exact plain key target stack rfl
  · have top := loaded_of_publish excursion.chains.1
    subst top
    exact lifted (driving_of_midway excursion.chains (if_pos rfl)) (by decide)
      raised
  · exact absurd rfl (sound key target level fault stack)

/-- Whoever waits for a unit that is to be active is on its way up itself. -/
theorem Delves.target_eq (delves : world.Delves (some root) .active key level stack) :
    level = .active := by
  cases delves with
  | outermost | within => rfl

theorem Delves.users (delves : world.Delves (some root) .active key level stack) :
    (stack.flatMap Waiting.user).map Prod.fst = stack.flatMap Waiting.holds := by
  induction delves with
  | outermost => rfl
  | within below sound split served ih => simpa [Waiting.user, Waiting.holds] using ih

theorem visit_answer {fates : UnitKey → Fate} {plan : Blueprint} {reply : Reply}
    (delves : world.Delves (some root) .active key level stack) :
    Thread.visit fates plan ⟨.answer reply, stack⟩ =
      .answers (Reply.fault? reply) := by
  cases delves with
  | outermost | within => rfl

/-- A unit that does not wait on the stack is visited, if it has no fate yet. -/
theorem call_of_free {fates : UnitKey → Fate}
    (delves : world.Delves (some root) .active key level stack)
    (free : key ∉ stack.flatMap Waiting.holds) :
    world.blueprint.call fates (stack.flatMap Waiting.user) key =
      (fates key).meet (.visits key (world.blueprint.dependencies key)) := by
  rw [← delves.users] at free
  rw [Blueprint.call, if_neg free]

/-- A unit that stops nobody is active, or waits itself until it can be. -/
theorem fate_of_clear {target : Level}
    (excursion : world.Excursion sinks root .active
      ⟨.drive key target .settle, stack⟩)
    (stands : world.Stands key .active stack .settle)
    (clear : (world.unit key).throwIfError .active = .ok ()) :
    world.fate key = .active ∨ world.fate key = .pending := by
  by_cases high : .active ≤ (world.unit key).level
  · have active := Level.eq_active_of_le high
    exact Or.inl (fate_of_active (excursion.grounded key) active)
  · have healthy : ¬ (world.unit key).isError = true :=
      fun failed => high (reached_of_clear clear failed)
    obtain ⟨user, rest, below, -, closes, -⟩ :=
      (stands.resolve_left high).resolve_left healthy
    refine Or.inr (fate_of_healthy closes.1
      (fun active => high (Nat.le_of_eq (congrArg _ active.symm))) ?_)
    simpa [LoadUnit.isError, CauseCell.isSet] using healthy

/-- A drive that goes on in its own loop, and does not raise the unit to the top or
keep a cause. -/
theorem visit_of_drives {target : Level} {phase : Phase}
    (excursion : world.Excursion sinks root .active
      ⟨.drive key target phase, stack⟩)
    (stands : world.Stands key .active stack phase)
    (stepped : world.Stepped mainThread ⟨.drive key target phase, stack⟩ next
      after)
    (plain : phase ≠ .raise .active)
    (sound : ∀ level fault, phase ≠ .fail level fault) :
    after.visit world.fate world.blueprint =
      Thread.visit world.fate world.blueprint ⟨.drive key target phase, stack⟩ := by
  have delves := excursion.delving.delves
  have top := delves.target_eq
  subst top
  have grounded := excursion.grounded key
  cases stepped with
  | below | admitted | releasedAgain | leaves | announcedBefore | overtaken => rfl
  | arrived high =>
      exact Fate.meet_congr
        (fate_ne_pending grounded (Or.inl (Nat.not_lt.mp high))) _ _
  | barred failed =>
      exact Fate.meet_congr (fate_ne_pending grounded (Or.inr failed)) _ _
  | entered asks => rcases asks with rfl | rfl <;> rfl
  | @refused _ _ _ next entries stack asks kept goes asked =>
      obtain ⟨verdict, asked, answered⟩ := asked
      rcases goes with rfl | rfl
      · -- Without company only the unit's own activation can be in the way.
        have denied : verdict ≠ .acquired := by
          rintro rfl
          cases answered
        have waits := excursion.revisits _ _ _ _ _ _ rfl asked denied
        rw [← delves.users] at waits
        rcases asks with rfl | rfl <;>
          simp only [Thread.visit, Blueprint.call, if_pos waits]
      · rcases asks with rfl | rfl <;> rfl
  | @climbs _ _ level _ short healthy above =>
      have free : key ∉ stack.flatMap Waiting.holds :=
        not_mem_of_held_once (excursion.once key) List.mem_cons_self
      have begins : ¬ (level = .active ∧ .runInitializer ∉ level.actions) := by
        rintro ⟨rfl, absent⟩
        exact absent (by decide)
      simp only [Thread.visit, call_of_free delves free, if_neg begins]
  | @raised _ _ level _ =>
      cases level <;> first | rfl | exact absurd rfl plain
  | failed => exact absurd rfl (sound _ _)
  | releasedStop =>
      exact Fate.meet_congr (fate_ne_pending grounded stands) _ _
  | releasedRaise =>
      obtain ⟨cause, stored, rfl⟩ := stands
      rw [visit_answer delves]
      simp [Thread.visit, Blueprint.call, fate_of_cause grounded stored, Fate.meet,
        Reply.fault?]
  | announces active =>
      have high := LoadUnit.eq_active_of_isActive active
      simp [Thread.visit, fate_of_active grounded high, Fate.meet]
  | settled clear =>
      rcases fate_of_clear excursion stands clear with fate | fate <;>
        simp [Thread.visit, fate, Fate.meet]
  | blames blocks =>
      obtain ⟨cause, stored, rfl⟩ := load_of_throwIfError blocks
      rw [visit_answer delves]
      simp [Thread.visit, fate_of_cause grounded stored, Fate.meet, Reply.fault?]
  | required =>
      rw [visit_answer delves, requireLevel_of_stands delves stands]
      rfl

/-- A sub-step that goes on, or ends. -/
theorem visit_of_carries {target : Level} {rest : List Action}
    (excursion : world.Excursion sinks root .active
      ⟨.subStep key level rest, .onSubStep key target level :: stack⟩)
    (stepped : world.Stepped mainThread
      ⟨.subStep key level rest, .onSubStep key target level :: stack⟩ next after) :
    after.visit world.fate world.blueprint =
        Thread.visit world.fate world.blueprint
          ⟨.subStep key level rest, .onSubStep key target level :: stack⟩ ∧
      after.stack.flatMap Waiting.user = stack.flatMap Waiting.user := by
  have chains := excursion.chains
  cases stepped with
  | completed =>
      refine ⟨?_, rfl⟩
      simp [Thread.visit]
  | @performed _ _ action later next _ ordinary done absent =>
      refine ⟨?_, rfl⟩
      by_cases initializes : action = .runInitializer
      · -- Without an initializer there is nothing to activate.
        have none : world.blueprint.dependencies key = [] := by
          refine List.eq_nil_iff_forall_not_mem.mpr fun dependency needs => ?_
          have initialized := excursion.planned.initialized key dependency needs
          rw [absent initializes] at initialized
          contradiction
        simp [Thread.visit, none]
      · have same : .runInitializer ∉ action :: later ↔ .runInitializer ∉ later := by
          simp [Ne.symm initializes]
        simp only [Thread.visit, same]
  | @faulted _ _ action later next fault _ done =>
      refine ⟨?_, rfl⟩
      have fails := (fails_of_faulted excursion.planned excursion.supports chains
        (excursion.steady key) rfl done).1
      obtain ⟨cause, fate⟩ := fate_of_fails fails
      simp [Thread.visit, fate, Fate.meet]
  | initializes runs =>
      have top := active_of_runInitializer chains.1
      subst top
      rcases runs with ⟨-, rfl⟩ | ⟨client, -⟩
      · refine ⟨?_, rfl⟩
        simp [Thread.visit, blueprint]
      · exact absurd client
          (excursion.planned.watched.initializer key excursion.supports.1)
  | @reported _ _ later after _ goes =>
      rcases goes with ⟨-, rfl⟩ | ⟨client, -⟩
      · refine ⟨?_, rfl⟩
        simp [Thread.visit]
      · rw [excursion.planned.watched.homeOf excursion.supports.1,
          excursion.planned.watched.hook] at client
        contradiction

/-- Nothing is done about an active unit, and any other unit is driven. -/
theorem visit_ensure (planned : world.Planned sinks) (grounded : world.Grounded key)
    (known : key < world.unitCount)
    (delves : world.Delves (some root) .active key level stack) :
    Thread.visit world.fate world.blueprint
        ⟨.ensure world 0 key .active, stack⟩ =
      world.blueprint.call world.fate (stack.flatMap Waiting.user) key := by
  have native : world.checkDomain 0 key = .ok () :=
    if_pos (planned.watched.home key known)
  simp only [Task.ensure, native]
  split
  · rfl
  · rename_i high
    have reached : Level.active ≤ (world.unit key).level := by
      have high : ¬ (world.unit key).level < .active := by
        simpa [LoadUnit.isLoading] using high
      exact Nat.not_lt.mp high
    have fate := fate_of_active grounded (Level.eq_active_of_le reached)
    rw [visit_answer delves, clear_of_reached reached]
    simp [Blueprint.call, fate, Fate.meet, Reply.fault?, Except.map]

/-- A thread stays where it is on its walk, or goes one step further. -/
def Follows (world : World) (thread : Thread) (next : World) (after : Thread) :
    Prop :=
  next.walk after = world.walk thread ∨
    (world.walk thread).next? world.blueprint (fun key => (world.unit key).name) =
      some (next.walk after)

/-- A step that changes no fate, after which the thread is to do what it was to do
before. -/
theorem follows_of_same (proceeds : world.Proceeds next)
    (fates : next.fate = world.fate)
    (visit : after.visit world.fate world.blueprint =
      thread.visit world.fate world.blueprint)
    (users : after.stack.flatMap Waiting.user = thread.stack.flatMap Waiting.user) :
    world.Follows thread next after := by
  refine Or.inl ?_
  rw [walk, walk, fates, proceeds.blueprint, visit, users]

/-- A unit whose fate is decided when it is raised, or when its failure is kept. -/
theorem fate_of_decided (proceeds : world.Proceeds next) {fate : Fate}
    (mine : next.fate key = fate)
    (others : ∀ other, other ≠ key → next.unit other = world.unit other) :
    next.fate = Function.update world.fate key fate := by
  funext other
  by_cases same : other = key
  · rw [same, mine, Function.update_self]
  · rw [Function.update_of_ne same]
    exact fate_of_same proceeds (by rw [others other same])
      (by rw [others other same])

section

variable (proceeds : world.Proceeds next) (sound : world.blueprint.failAt key = none)
  (pending : world.fate key = .pending)

include proceeds sound pending

/-- A unit that becomes active has been through its dependencies. -/
theorem follows_of_raised
    (others : ∀ other, other ≠ key → next.unit other = world.unit other)
    (active : (next.unit key).level = .active) :
    world.Follows ⟨.drive key level (.raise .active), stack⟩ next
      ⟨.drive key level (.release .again), stack⟩ := by
  have mine : next.fate key = .active := by
    simp [fate, proceeds.foretold, foretold_of_sound sound, active]
  have fates := fate_of_decided proceeds mine others
  refine Or.inr ?_
  simp [walk, Thread.visit, Blueprint.call, pending, mine, Fate.meet, Walk.next?,
    fates]

/-- A unit whose dependency has failed fails itself. -/
theorem follows_of_failed {fault surfaced : Fault} (cause : Cause)
    (captured : cause = .capture fault (world.unit key).name .active)
    (others : ∀ other, other ≠ key → next.unit other = world.unit other)
    (low : (next.unit key).level ≠ .active)
    (stored : (next.unit key).failure.cause = some cause) :
    world.Follows ⟨.drive key level (.fail .active fault), stack⟩ next
      ⟨.drive key level (.release (.raise surfaced)), stack⟩ := by
  have mine : next.fate key = .failed cause := by
    simp [fate, proceeds.foretold, foretold_of_sound sound, low, stored]
  have fates := fate_of_decided proceeds mine others
  refine Or.inr ?_
  simp [walk, Thread.visit, Blueprint.call, pending, mine, Fate.meet, Walk.next?,
    fates, captured]

end

/-- A failure that the unit was made for is no news. -/
theorem follows_of_injected {fault surfaced : Fault} (proceeds : world.Proceeds next)
    (fails : world.blueprint.failAt key = some level)
    (others : ∀ other, other ≠ key → next.unit other = world.unit other) :
    world.Follows ⟨.drive key .active (.fail level fault), stack⟩ next
      ⟨.drive key .active (.release (.raise surfaced)), stack⟩ := by
  obtain ⟨cause, fate⟩ := fate_of_fails fails
  have mine : next.fate key = world.fate key := by
    rw [World.fate, World.fate, proceeds.foretold, foretold_of_fails fails]
  have fates : next.fate = world.fate :=
    (fate_of_decided proceeds mine others).trans
      (Function.update_eq_self key world.fate)
  refine follows_of_same proceeds fates ?_ rfl
  simp [Thread.visit, Blueprint.call, fate, Fate.meet]

theorem users_of_drives {target : Level} {phase : Phase}
    (stepped : world.Stepped mainThread ⟨.drive key target phase, stack⟩ next
      after) : after.stack.flatMap Waiting.user = stack.flatMap Waiting.user := by
  cases stepped <;> rfl

theorem follows_of_drives {phase : Phase}
    (stepped : world.Stepped mainThread ⟨.drive key level phase, stack⟩ next
      after)
    (excursion : world.Excursion sinks root .active
      ⟨.drive key level phase, stack⟩)
    (stands : world.Stands key level stack phase) :
    world.Follows ⟨.drive key level phase, stack⟩ next after := by
  have proceeds := proceeds_stepped stepped
  have top := excursion.delving.delves.target_eq
  subst top
  have steady := excursion.steady key
  by_cases raising : phase = .raise .active
  · subst raising
    have driving : .active ∈ Thread.driving key
        ⟨.drive key .active (.raise .active), stack⟩ := by
      simp [Thread.driving, Task.driving]
    have sound := ((stands.2.attends rfl).resolve_left (by simp)).sound
    cases stepped with
    | entered asks | refused asks => simp at asks
    | raised =>
        refine follows_of_raised proceeds sound
          (fate_of_driving steady sound driving) (fun other apart => ?_) ?_
        · rw [unit_modifyUnit, if_neg apart.symm]
        · rw [unit_modifyUnit, if_pos rfl]
          exact Level.max_eq_of_standing (steady.standing _ driving)
  by_cases failing : ∃ level fault, phase = .fail level fault
  · obtain ⟨level, fault, rfl⟩ := failing
    have driving : level ∈ Thread.driving key
        ⟨.drive key .active (.fail level fault), stack⟩ := by
      simp [Thread.driving, Task.driving]
    have healthy := steady.healthy level driving
    cases stepped with
    | entered asks | refused asks => simp at asks
    | failed =>
        have others (other : UnitKey) (apart : other ≠ key) :
            (world.recordFailure key level fault).1.unit other =
              world.unit other := by
          rw [recordFailure_fst, unit_setError, if_neg fun both =>
            apart both.1.symm]
        cases stands.2 with
        | injected fails => exact follows_of_injected proceeds fails others
        | @inherited met rest dependency cause sound =>
            refine follows_of_failed proceeds sound
              (fate_of_driving steady sound driving) _ rfl others ?_ ?_
            · rw [recordFailure_fst, level_setError]
              exact not_active_of_driving steady driving
            · rw [recordFailure_fst, unit_setError, if_pos ⟨rfl, healthy⟩]
  have fates := fate_stepped stepped excursion
    (fun other target stack same => by
      cases same
      exact raising rfl)
    (fun other target level fault stack same => by
      cases same
      exact failing ⟨level, fault, rfl⟩)
  exact follows_of_same proceeds fates
    (visit_of_drives excursion stands stepped raising fun level fault same =>
      failing ⟨level, fault, same⟩) (users_of_drives stepped)

section

variable {rest : List UnitKey} {gateLifted : Bool}
  (delves : world.Delves (some root) .active key .active stack)
  (sound : world.blueprint.failAt key = none)

include delves sound

theorem follows_of_initializes {met : List UnitKey}
    (stepped : world.Stepped mainThread ⟨.activateDependencies key rest,
      .onInitializer key .active Level.afterInitializer gateLifted ::
        .onSubStep key .active .active :: stack⟩ next after)
    (excursion : world.Excursion sinks root .active
      ⟨.activateDependencies key rest,
        .onInitializer key .active Level.afterInitializer gateLifted ::
          .onSubStep key .active .active :: stack⟩)
    (split : world.blueprint.dependencies key = met ++ rest)
    (served : ∀ other ∈ met, world.Serves key other) :
    world.Follows ⟨.activateDependencies key rest,
      .onInitializer key .active Level.afterInitializer gateLifted ::
        .onSubStep key .active .active :: stack⟩ next after := by
  have proceeds := proceeds_stepped stepped
  have fates := fate_stepped stepped excursion (by simp) (by simp)
  have driving : .active ∈ Thread.driving key ⟨.activateDependencies key rest,
      .onInitializer key .active Level.afterInitializer gateLifted ::
        .onSubStep key .active .active :: stack⟩ := by
    simp [Thread.driving, Waiting.driving]
  have pending := fate_of_driving (excursion.steady key) sound driving
  cases stepped with
  | allActivated => exact follows_of_same proceeds fates rfl rfl
  | @activates _ dependency rest _ =>
      have planned := excursion.planned
      have needs : world.blueprint.Needs key dependency := by
        rw [Blueprint.Needs, split]
        simp
      have home := planned.watched.home key excursion.supports.1
      have visit := visit_ensure planned (excursion.grounded dependency)
        (planned.held key dependency needs).1
        (.within delves sound split served :
          world.Delves (some root) .active dependency .active
            (.onDependency key rest ::
              .onInitializer key .active Level.afterInitializer gateLifted ::
              .onSubStep key .active .active :: stack))
      refine Or.inr ?_
      rw [home, walk, walk, visit, Thread.visit, pending]
      rfl
  | @skips _ dependency rest _ destroyed =>
      have needs : world.blueprint.Needs key dependency := by
        rw [Blueprint.Needs, split]
        simp
      have held := (excursion.planned.held key dependency needs).2
      simp [LoadUnit.isAlive, held] at destroyed

omit delves in
theorem follows_of_answersDependency {reply : Reply}
    (stepped : world.Stepped mainThread ⟨.answer reply, .onDependency key rest ::
      .onInitializer key .active Level.afterInitializer gateLifted ::
        .onSubStep key .active .active :: stack⟩ next after)
    (excursion : world.Excursion sinks root .active
      ⟨.answer reply, .onDependency key rest ::
        .onInitializer key .active Level.afterInitializer gateLifted ::
          .onSubStep key .active .active :: stack⟩) :
    world.Follows ⟨.answer reply, .onDependency key rest ::
      .onInitializer key .active Level.afterInitializer gateLifted ::
        .onSubStep key .active .active :: stack⟩ next after := by
  have fates := fate_stepped stepped excursion (by simp) (by simp)
  have driving : .active ∈ Thread.driving key ⟨.answer reply,
      .onDependency key rest ::
        .onInitializer key .active Level.afterInitializer gateLifted ::
          .onSubStep key .active .active :: stack⟩ := by
    simp [Thread.driving, Waiting.driving]
  have pending := fate_of_driving (excursion.steady key) sound driving
  cases stepped with
  | activated | unactivated =>
      refine Or.inr ?_
      simp [walk, Thread.visit, pending, Fate.meet, Walk.next?, Waiting.user,
        Reply.fault?]

end

/-- Every step of a machine that activates a unit is on its walk. -/
theorem follows_stepped (stepped : world.Stepped mainThread thread next after)
    (excursion : world.Excursion sinks root .active thread) :
    world.Follows thread next after := by
  have proceeds := proceeds_stepped stepped
  have delving := excursion.delving
  cases delving with
  | @drives key target phase stack delves stands =>
      exact follows_of_drives stepped excursion (delves.target_eq ▸ stands)
  | @carries key target level rest stack delves low ahead =>
      have fates := fate_stepped stepped excursion (by simp) (by simp)
      obtain ⟨visit, users⟩ := visit_of_carries excursion stepped
      exact follows_of_same proceeds fates visit users
  | initializes delves sound split served =>
      exact follows_of_initializes delves sound stepped excursion split served
  | @announces key target snapshot rest stack delves reached =>
      have fates := fate_stepped stepped excursion (by simp) (by simp)
      have fate := fate_of_active (excursion.grounded key)
        (Level.eq_active_of_le (delves.target_eq ▸ reached))
      cases stepped with
      | allTold =>
          refine follows_of_same proceeds fates ?_ rfl
          simp [Thread.visit, fate, Fate.meet]
      | tellsRecorder => exact follows_of_same proceeds fates rfl rfl
      | tellsClient =>
          have member := excursion.chains.1.subset List.mem_cons_self
          simp at member
  | answersClient => cases stepped
  | @answersDriver key target level reply stack delves low ends =>
      have fates := fate_stepped stepped excursion (by simp) (by simp)
      rcases ends with ⟨rfl, ahead⟩ | ⟨fault, rfl, accounts⟩
      · cases stepped with
        | succeeded =>
            refine follows_of_same proceeds fates ?_ rfl
            have once : ([key] ++ stack.flatMap Waiting.holds).count key ≤ 1 :=
              excursion.once key
            have free := not_mem_of_held_once once List.mem_cons_self
            have call := @call_of_free _ _ _ _ _ world.fate delves free
            cases level with
            | active => rfl
            | _ => exact call
      · cases stepped with
        | broke => exact follows_of_same proceeds fates rfl rfl
  | answersInitializer delves ends =>
      have fates := fate_stepped stepped excursion (by simp) (by simp)
      cases stepped with
      | initialized =>
          refine follows_of_same proceeds fates ?_ rfl
          simp [Thread.visit, Level.afterInitializer]
      | uninitialized => exact follows_of_same proceeds fates rfl rfl
  | answersDependency delves sound =>
      exact follows_of_answersDependency sound stepped excursion

end World

namespace Machine

variable {base first second world : World} {key : UnitKey} {sinks : Sinks}

/-- A machine that activates a unit goes on a walk from the fates that it finds to
those that it leaves. -/
theorem leads_ensure (rested : world.Rested sinks) (known : key < world.unitCount)
    (held : (world.unit key).presence = .held) :
    ∃ fault, Walk.Leads world.blueprint (fun key => (world.unit key).name)
      ⟨world.fate, world.blueprint.call world.fate [] key, []⟩
      ⟨(ensure world 0 key .active).1.fate, .answers fault, []⟩ := by
  let follows (later : World) (thread : Thread) : Prop :=
    world.Proceeds later ∧
      Walk.Leads world.blueprint (fun key => (world.unit key).name)
        ⟨world.fate, world.blueprint.call world.fate [] key, []⟩
        (later.walk thread)
  have start : follows world ⟨.ensure world 0 key .active, []⟩ := by
    refine ⟨.refl world, ?_⟩
    rw [World.walk, World.visit_ensure rested.planned (rested.grounded key) known
      (.outermost rfl : world.Delves (some key) .active key .active [])]
    exact ReflTransGen.refl
  obtain ⟨reply, -, leads⟩ := ensure_induction follows
    (fun excursion stepped before => by
      obtain ⟨proceeds, leads⟩ := before
      refine ⟨proceeds.trans (World.proceeds_stepped stepped), ?_⟩
      rcases World.follows_stepped stepped excursion with same | goes
      · rw [same]
        exact leads
      · rw [proceeds.blueprint, proceeds.names] at goes
        exact leads.tail goes) rested known held start
  exact ⟨Reply.fault? reply, leads⟩

/-- Machines that find the same fates leave the same fates. -/
theorem fate_ensure (toFirst : base.Proceeds first)
    (toSecond : base.Proceeds second) (one : first.Rested sinks)
    (two : second.Rested sinks) (known : key < base.unitCount)
    (held : (base.unit key).presence = .held) (fates : first.fate = second.fate) :
    (ensure first 0 key .active).1.fate = (ensure second 0 key .active).1.fate := by
  obtain ⟨fault, leads⟩ := @leads_ensure first key sinks one
    (toFirst.count.symm ▸ known) ((toFirst.fixed key).presence.trans held)
  obtain ⟨other, there⟩ := @leads_ensure second key sinks two
    (toSecond.count.symm ▸ known) ((toSecond.fixed key).presence.trans held)
  rw [toFirst.blueprint, toFirst.names, fates] at leads
  rw [toSecond.blueprint, toSecond.names] at there
  exact congrArg Walk.fates
    (leads.unique there (Walk.next?_over ..) (Walk.next?_over ..))

end Machine

end LoadLadder
