import LoadLadder.Proofs.CrewRuns

/-!
# Units only grow

Whatever happens, a unit stays what it is made of and belongs to the domain that
made it, and everything it has reached it keeps: its level never falls, a kept
cause stays the same, and a claimed latch stays claimed.
-/

namespace LoadLadder

/-- The same unit at a later time. -/
structure LoadUnit.Grows (before after : LoadUnit) : Prop where
  id : after.id = before.id
  home : after.home = before.home
  image : after.image = before.image
  container : after.container = before.container
  level : before.level ≤ after.level
  failure : ∀ cause, before.failure.cause = some cause →
    after.failure.cause = some cause
  told : ∀ kind, before.latches.isSet kind = true →
    after.latches.isSet kind = true

namespace LoadUnit.Grows

variable {first second third : LoadUnit}

theorem refl (unit : LoadUnit) : unit.Grows unit :=
  ⟨rfl, rfl, rfl, rfl, Nat.le_refl _, fun _ kept => kept, fun _ told => told⟩

theorem trans (before : first.Grows second) (after : second.Grows third) :
    first.Grows third where
  id := after.id.trans before.id
  home := after.home.trans before.home
  image := after.image.trans before.image
  container := after.container.trans before.container
  level := Nat.le_trans before.level after.level
  failure := fun cause kept => after.failure cause (before.failure cause kept)
  told := fun kind told => after.told kind (before.told kind told)

theorem of_still (still : first.Still second) : first.Grows second where
  id := still.id
  home := still.home
  image := still.image
  container := still.container
  level := by rw [still.level]; exact Nat.le_refl _
  failure := fun cause kept => by rw [still.failure]; exact kept
  told := still.told

theorem isError (grows : first.Grows second) (failed : first.isError = true) :
    second.isError = true := by
  rw [LoadUnit.isError, CauseCell.isSet, Option.isSome_iff_exists] at failed ⊢
  obtain ⟨cause, kept⟩ := failed
  exact ⟨cause, grows.failure cause kept⟩

theorem healthy (grows : first.Grows second)
    (healthy : second.isError = false) : first.isError = false :=
  Bool.eq_false_iff.mpr fun failed => by
    rw [grows.isError failed] at healthy
    contradiction

end LoadUnit.Grows

theorem LoadUnit.eq_active_of_isActive {unit : LoadUnit}
    (active : unit.isActive = true) : unit.level = .active := by
  have high : Level.active ≤ unit.level := of_decide_eq_true active
  cases level : unit.level <;> rw [level] at high <;>
    first | rfl | exact absurd high (by decide)

theorem Level.le_max_left (left right : Level) : left ≤ max left right := by
  cases left <;> cases right <;> decide

theorem Level.le_max_right (left right : Level) : right ≤ max left right := by
  cases left <;> cases right <;> decide

theorem Level.max_eq_left_or_right (left right : Level) :
    max left right = left ∨ max left right = right := by
  change (if left ≤ right then right else left) = left ∨
    (if left ≤ right then right else left) = right
  split
  · exact Or.inr rfl
  · exact Or.inl rfl

namespace World

/-- The same world at a later time. -/
structure Grows (world next : World) : Prop where
  count : world.unitCount ≤ next.unitCount
  unit : ∀ key, key < world.unitCount → (world.unit key).Grows (next.unit key)

namespace Grows

variable {first second third : World}

theorem refl (world : World) : world.Grows world :=
  ⟨Nat.le_refl _, fun key _ => .refl (world.unit key)⟩

theorem trans (before : first.Grows second) (after : second.Grows third) :
    first.Grows third where
  count := Nat.le_trans before.count after.count
  unit := fun key known => (before.unit key known).trans
    (after.unit key (Nat.lt_of_lt_of_le known before.count))

theorem of_still (still : first.Still second) : first.Grows second where
  count := Nat.le_of_eq still.count.symm
  unit := fun key _ => .of_still (still.unit key)

end Grows

variable (world : World) (key : UnitKey)

theorem unit_grows_raiseLevel (level : Level) (other : UnitKey) :
    (world.unit other).Grows
      ((world.modifyUnit key fun unit => unit.raiseLevel level).unit
        other) := by
  rw [unit_modifyUnit]
  split
  · rename_i same
    subst same
    exact ⟨rfl, rfl, rfl, rfl, Level.le_max_left _ _, fun _ kept => kept,
      fun _ told => told⟩
  · exact .refl _

theorem unit_grows_setError (cause : Cause) (other : UnitKey) :
    (world.unit other).Grows ((world.setError key cause).1.unit other) := by
  rw [unit_setError]
  split
  · rename_i fresh
    obtain ⟨same, healthy⟩ := fresh
    subst same
    refine ⟨rfl, rfl, rfl, rfl, Nat.le_refl _, ?_, ?_⟩
    · intro kept stored
      simp [LoadUnit.isError, CauseCell.isSet, stored] at healthy
    · intro kind told
      simp [told]
  · exact .refl _

theorem grows_setError (cause : Cause) :
    world.Grows (world.setError key cause).1 :=
  ⟨by simp, fun other _ => unit_grows_setError world key cause other⟩

theorem grows_createUnit (home : DomainKey) (image : Image)
    (container : Container) :
    world.Grows (world.createUnit home image container).1 := by
  refine ⟨by simp, fun key known => ?_⟩
  rw [unit_createUnit, if_neg (Nat.ne_of_gt known)]
  exact .refl _

/-- The same units, none of which climbed or failed; load entries and listeners
may differ. -/
structure UnitsStill (world next : World) : Prop where
  count : next.unitCount = world.unitCount
  unit : ∀ key, (world.unit key).Still (next.unit key)

theorem UnitsStill.of_still {world next : World} (still : world.Still next) :
    world.UnitsStill next :=
  ⟨still.count, still.unit⟩

theorem UnitsStill.of_units {world next : World}
    (units : next.units = world.units)
    (count : next.unitCount = world.unitCount) : world.UnitsStill next := by
  refine ⟨count, fun key => ?_⟩
  rw [World.unit, World.unit, units]
  exact .refl _

theorem Grows.of_unitsStill {world next : World}
    (still : world.UnitsStill next) : world.Grows next :=
  ⟨Nat.le_of_eq still.count.symm, fun key _ => .of_still (still.unit key)⟩

variable {world}

/-- A step that moves a unit is the raise of a driver, the early publication of
a loaded unit, or the keeping of a failure. -/
theorem stepped_moves {next : World} {me : ThreadId} {thread after : Thread}
    (stepped : world.Stepped me thread next after) :
    world.UnitsStill next ∨
    (∃ key target level stack,
      thread = ⟨.drive key target (.raise level), stack⟩ ∧
      next = world.modifyUnit key fun unit => unit.raiseLevel level) ∨
    (∃ key level rest stack,
      thread = ⟨.subStep key level (.publish :: rest), stack⟩ ∧
      next = world.modifyUnit key fun unit => unit.raiseLevel .loaded) ∨
    (∃ key target level fault stack,
      thread = ⟨.drive key target (.fail level fault), stack⟩ ∧
      next = (world.setError key
        (.capture fault (world.unit key).name level)).1) := by
  cases stepped with
  | entered | refused | releasedAgain | releasedStop | releasedRaise =>
      exact Or.inl (.of_units rfl rfl)
  | raised => exact Or.inr (Or.inl ⟨_, _, _, _, rfl, rfl⟩)
  | failed =>
      rw [recordFailure_fst]
      exact Or.inr (Or.inr (Or.inr ⟨_, _, _, _, _, rfl, rfl⟩))
  | announces | announcedBefore =>
      exact Or.inl (.of_still (still_claim world _ _))
  | @performed key level action rest next stack ordinary done =>
      by_cases publishes : action = .publish
      · subst publishes
        cases done
        exact Or.inr (Or.inr (Or.inl ⟨_, _, _, _, rfl, rfl⟩))
      · have still := still_perform world key publishes
        rw [done] at still
        exact Or.inl (.of_still still)
  | @faulted key level action rest next fault stack done =>
      have quiet : action ≠ .publish := by
        rintro rfl
        simp [perform] at done
      have still := still_perform world key quiet
      rw [done] at still
      exact Or.inl (.of_still still)
  | initializes | initialized | uninitialized =>
      exact Or.inl (.of_still (alike_liftGate world _ _).still)
  | allActivated => exact Or.inl (.of_still (alike_countRun world _).still)
  | reported =>
      refine Or.inl (.of_still ?_)
      split
      · exact (alike_emit world _).still
      · exact .refl world
  | tellsRecorder => exact Or.inl (.of_still (alike_emit world _).still)
  | _ => exact Or.inl (.of_still (.refl world))

/-- A step moves a unit only if the thread raises it, publishes it, or keeps its
failure. -/
theorem unit_moves_stepped {next : World} {me : ThreadId}
    {thread after : Thread} (stepped : world.Stepped me thread next after)
    (key : UnitKey) :
    (world.unit key).Still (next.unit key) ∨
    (∃ target level stack,
      thread = ⟨.drive key target (.raise level), stack⟩ ∧
      next.unit key = (world.unit key).raiseLevel level) ∨
    (∃ level rest stack,
      thread = ⟨.subStep key level (.publish :: rest), stack⟩ ∧
      next.unit key = (world.unit key).raiseLevel .loaded) ∨
    (∃ target level fault stack,
      thread = ⟨.drive key target (.fail level fault), stack⟩ ∧
      next = (world.setError key
        (.capture fault (world.unit key).name level)).1) := by
  have elsewhere (same : next.unit key = world.unit key) :
      (world.unit key).Still (next.unit key) := same ▸ .refl _
  rcases stepped_moves stepped with
    still | ⟨unit, target, level, stack, current, moved⟩ |
    ⟨unit, level, rest, stack, current, moved⟩ |
    ⟨unit, target, level, fault, stack, current, moved⟩
  · exact Or.inl (still.unit key)
  · by_cases same : unit = key
    · subst same
      refine Or.inr (Or.inl ⟨target, level, stack, current, ?_⟩)
      rw [moved, unit_modifyUnit, if_pos rfl]
    · exact Or.inl (elsewhere (by rw [moved, unit_modifyUnit, if_neg same]))
  · by_cases same : unit = key
    · subst same
      refine Or.inr (Or.inr (Or.inl ⟨level, rest, stack, current, ?_⟩))
      rw [moved, unit_modifyUnit, if_pos rfl]
    · exact Or.inl (elsewhere (by rw [moved, unit_modifyUnit, if_neg same]))
  · by_cases same : unit = key
    · subst same
      exact Or.inr (Or.inr (Or.inr ⟨target, level, fault, stack, current, moved⟩))
    · exact Or.inl (elsewhere (by
        rw [moved, unit_setError, if_neg fun fresh => same fresh.1]))

theorem unitCount_stepped {next : World} {me : ThreadId}
    {thread after : Thread} (stepped : world.Stepped me thread next after) :
    next.unitCount = world.unitCount := by
  rcases stepped_moves stepped with
    still | ⟨_, _, _, _, -, rfl⟩ | ⟨_, _, _, _, -, rfl⟩ |
    ⟨_, _, _, _, _, -, rfl⟩
  · exact still.count
  · rfl
  · rfl
  · exact unitCount_setError world _ _

/-- Every unit grows, whether or not it is one of those that were made. -/
theorem unit_grows_stepped {next : World} {me : ThreadId}
    {thread after : Thread} (stepped : world.Stepped me thread next after)
    (other : UnitKey) : (world.unit other).Grows (next.unit other) := by
  rcases stepped_moves stepped with
    still | ⟨key, _, level, _, -, rfl⟩ | ⟨key, _, _, _, -, rfl⟩ |
    ⟨key, _, _, _, _, -, rfl⟩
  · exact .of_still (still.unit other)
  · exact unit_grows_raiseLevel world key level other
  · exact unit_grows_raiseLevel world key .loaded other
  · exact unit_grows_setError world key _ other

theorem grows_stepped {next : World} {me : ThreadId} {thread after : Thread}
    (stepped : world.Stepped me thread next after) : world.Grows next :=
  ⟨Nat.le_of_eq (unitCount_stepped stepped).symm,
    fun key _ => unit_grows_stepped stepped key⟩

variable (world)

/-- An operation that completes at once and changes a unit is a creation, the
addition of a dependency, or the storing of a cause. -/
theorem complete_moves (me : ThreadId) (operation : Operation) :
    world.UnitsStill (operation.complete world me).1 ∨
    (∃ home image container, operation = .create home image container ∧
      (operation.complete world me).1 =
        (world.createUnit home image container).1) ∨
    (∃ key dependency, operation = .addDependency key dependency ∧
      world.holdsUnit dependency = true ∧
      (operation.complete world me).1 = world.modifyUnit key fun unit =>
        { unit with dependencies := unit.dependencies ++ [dependency] }) ∨
    (∃ key cause, operation = .setError key cause ∧
      (operation.complete world me).1 = (world.setError key cause).1) := by
  cases operation with
  | create home image container =>
      exact Or.inr (Or.inl ⟨home, image, container, rfl,
        complete_create world me home image container⟩)
  | addDependency key dependency =>
      simp only [Operation.complete, addDependency]
      split
      · rename_i added
        rw [Bool.and_eq_true] at added
        exact Or.inr (Or.inr (Or.inl ⟨key, dependency, rfl, added.2, rfl⟩))
      · exact Or.inl (.of_units rfl rfl)
  | setError key cause =>
      exact Or.inr (Or.inr (Or.inr
        ⟨key, cause, rfl, complete_setError world key me cause⟩))
  | subscribe home listener => exact Or.inl (.of_units rfl rfl)
  | _ => exact Or.inl (.of_still (still_complete world me rfl))

theorem grows_extended (dependency : UnitKey) :
    world.Grows (world.modifyUnit key fun unit =>
      { unit with dependencies := unit.dependencies ++ [dependency] }) := by
  refine ⟨Nat.le_refl _, fun other known => ?_⟩
  rw [unit_modifyUnit]
  split
  · rename_i same
    subst same
    exact ⟨rfl, rfl, rfl, rfl, Nat.le_refl _, fun _ kept => kept,
      fun _ told => told⟩
  · exact .refl _

/-- No operation that completes at once raises a level. -/
theorem grows_complete (me : ThreadId) (operation : Operation) :
    world.Grows (operation.complete world me).1 := by
  rcases complete_moves world me operation with
    still | ⟨home, image, container, -, result⟩ |
    ⟨key, dependency, -, -, result⟩ | ⟨key, cause, -, result⟩
  · exact .of_unitsStill still
  · rw [result]
    exact grows_createUnit world home image container
  · rw [result]
    exact grows_extended world key dependency
  · rw [result]
    exact grows_setError world key cause

variable {world}

theorem grows_act {repertoire : Repertoire} {next : World} {me : ThreadId}
    {thread after : Thread} {deeds : List Deed}
    (act : world.Act repertoire me thread deeds next after) :
    world.Grows next := by
  cases act with
  | step step => exact grows_stepped (stepped_of_step step)
  | operate => exact grows_complete world me _
  | call | resume | finish => exact .refl world

/-- A unit that was not there before the act is as it was made. -/
theorem unit_of_new {repertoire : Repertoire} {next : World} {me : ThreadId}
    {thread after : Thread} {deeds : List Deed} {key : UnitKey}
    (act : world.Act repertoire me thread deeds next after)
    (unknown : ¬ key < world.unitCount) (known : key < next.unitCount) :
    ∃ home image container, next.unit key =
      { id := ⟨(world.domain home).nextUnit⟩, home, image, container,
        presence := if image.valid then .held else .refused } := by
  cases act with
  | call | resume | finish => contradiction
  | step step =>
      rw [unitCount_stepped (stepped_of_step step)] at known
      contradiction
  | operate operation turn asked granted instant =>
      rcases complete_moves world me operation with
        still | ⟨home, image, container, -, result⟩ | ⟨_, _, -, -, result⟩ |
        ⟨failed, cause, -, result⟩
      · rw [still.count] at known
        contradiction
      · rw [result, unitCount_createUnit] at known
        have newest : world.unitCount = key :=
          Nat.le_antisymm (Nat.not_lt.mp unknown) (Nat.le_of_lt_succ known)
        rw [result, unit_createUnit, if_pos newest]
        exact ⟨home, image, container, rfl⟩
      · rw [result] at known
        contradiction
      · rw [result, unitCount_setError] at known
        contradiction

/-- The step raises the level of a unit to another: as a driver does after a
sub-step, or as the sub-step does that publishes a loaded unit. -/
inductive Raises (thread : Thread) (key : UnitKey) : Level → Prop
  | drive {target level : Level} {stack : List Waiting}
      (raises : thread = ⟨.drive key target (.raise level), stack⟩) :
      Raises thread key level
  | publish {level : Level} {rest : List Action} {stack : List Waiting}
      (publishes : thread = ⟨.subStep key level (.publish :: rest), stack⟩) :
      Raises thread key .loaded

theorem level_raiseLevel (key other : UnitKey) (level : Level) :
    ((world.modifyUnit key fun unit => unit.raiseLevel level).unit
      other).level =
      if key = other then max (world.unit other).level level
      else (world.unit other).level := by
  rw [unit_modifyUnit]
  by_cases same : key = other <;> simp [same, LoadUnit.raiseLevel]

theorem level_setError (key other : UnitKey) (cause : Cause) :
    ((world.setError key cause).1.unit other).level =
      (world.unit other).level := by
  rw [unit_setError]
  split
  · rename_i fresh
    rw [← fresh.1]
  · rfl

theorem level_complete (me : ThreadId) (operation : Operation) {key : UnitKey}
    (known : key < world.unitCount) :
    ((operation.complete world me).1.unit key).level =
      (world.unit key).level := by
  rcases complete_moves world me operation with
    still | ⟨home, image, container, -, result⟩ |
    ⟨extended, dependency, -, -, result⟩ | ⟨failed, cause, -, result⟩
  · exact (still.unit key).level
  · rw [result, unit_createUnit, if_neg (Nat.ne_of_gt known)]
  · rw [result, unit_modifyUnit]
    split
    · rename_i same
      rw [← same]
    · rfl
  · rw [result]
    exact level_setError failed key cause

/-- A unit's level changes only in a step that raises it. -/
theorem level_act {repertoire : Repertoire} {next : World} {me : ThreadId}
    {thread after : Thread} {deeds : List Deed} {key : UnitKey}
    (act : world.Act repertoire me thread deeds next after)
    (known : key < world.unitCount) :
    (next.unit key).level = (world.unit key).level ∨
    ∃ level, Raises thread key level ∧
      (next.unit key).level = max (world.unit key).level level := by
  cases act with
  | step step =>
      rcases stepped_moves (stepped_of_step step) with
        still | ⟨raised, _, level, _, raises, rfl⟩ |
        ⟨raised, _, _, _, publishes, rfl⟩ | ⟨failed, _, _, _, _, -, rfl⟩
      · exact Or.inl (still.unit key).level
      · by_cases same : raised = key
        · subst same
          exact Or.inr ⟨level, .drive raises, by rw [level_raiseLevel, if_pos rfl]⟩
        · exact Or.inl (by rw [level_raiseLevel, if_neg same])
      · by_cases same : raised = key
        · subst same
          exact Or.inr ⟨.loaded, .publish publishes,
            by rw [level_raiseLevel, if_pos rfl]⟩
        · exact Or.inl (by rw [level_raiseLevel, if_neg same])
      · exact Or.inl (level_setError failed key _)
  | operate => exact Or.inl (level_complete me _ known)
  | call | resume | finish => exact Or.inl rfl

theorem failure_raiseLevel (key other : UnitKey) (level : Level) :
    ((world.modifyUnit key fun unit => unit.raiseLevel level).unit
      other).failure = (world.unit other).failure := by
  rw [unit_modifyUnit]
  by_cases same : key = other <;> simp [same, LoadUnit.raiseLevel]

/-- A cause that is there after another one was stored was there before, or is this
other one. -/
theorem cause_setError {key other : UnitKey} {given cause : Cause}
    (stored : ((world.setError key given).1.unit other).failure.cause =
      some cause) :
    (world.unit other).failure.cause = some cause ∨
      key = other ∧ given = cause := by
  rw [unit_setError] at stored
  split at stored
  · rename_i fresh
    exact Or.inr ⟨fresh.1, Option.some.inj stored⟩
  · exact Or.inl stored

theorem cause_complete {me : ThreadId} {operation : Operation} {key : UnitKey}
    {cause : Cause}
    (stored : ((operation.complete world me).1.unit key).failure.cause =
      some cause) :
    (world.unit key).failure.cause = some cause ∨
      operation = .setError key cause := by
  rcases complete_moves world me operation with
    still | ⟨home, image, container, -, result⟩ |
    ⟨extended, dependency, -, -, result⟩ | ⟨failed, given, blames, result⟩
  · rw [(still.unit key).failure] at stored
    exact Or.inl stored
  · rw [result, unit_createUnit] at stored
    split at stored
    · contradiction
    · exact Or.inl stored
  · rw [result, unit_modifyUnit] at stored
    split at stored
    · rename_i same
      rw [← same]
      exact Or.inl stored
    · exact Or.inl stored
  · rw [result] at stored
    rcases cause_setError stored with before | ⟨rfl, rfl⟩
    · exact Or.inl before
    · exact Or.inr blames

/-- A stored cause was stored before, or comes from a driver whose sub-step failed,
or from the client. -/
theorem cause_act {repertoire : Repertoire} {next : World} {me : ThreadId}
    {thread after : Thread} {deeds : List Deed} {key : UnitKey} {cause : Cause}
    (act : world.Act repertoire me thread deeds next after)
    (stored : (next.unit key).failure.cause = some cause) :
    (world.unit key).failure.cause = some cause ∨
      (∃ target level fault stack,
        thread = ⟨.drive key target (.fail level fault), stack⟩ ∧
          cause.code = fault.resultCode) ∨
      repertoire world (.setError key cause) := by
  cases act with
  | step step =>
      rcases stepped_moves (stepped_of_step step) with
        still | ⟨raised, _, _, _, -, rfl⟩ | ⟨raised, _, _, _, -, rfl⟩ |
        ⟨failed, target, level, fault, stack, fails, rfl⟩
      · rw [(still.unit key).failure] at stored
        exact Or.inl stored
      · rw [failure_raiseLevel] at stored
        exact Or.inl stored
      · rw [failure_raiseLevel] at stored
        exact Or.inl stored
      · rcases cause_setError stored with before | ⟨rfl, rfl⟩
        · exact Or.inl before
        · exact Or.inr (Or.inl ⟨target, level, fault, stack, fails, rfl⟩)
  | operate operation turn asked =>
      rcases cause_complete stored with before | rfl
      · exact Or.inl before
      · exact Or.inr (Or.inr asked)
  | call | resume | finish => exact Or.inl stored

end World

namespace Crew

variable {repertoire : Repertoire} {first crew next : Crew}
  {before deeds : List Deed}

theorem grows_move (move : Move repertoire crew deeds next) :
    crew.world.Grows next.world := by
  cases move with
  | act member act => exact World.grows_act act
  | collect => exact .of_still (World.alike_collect _ _).still

theorem grows_run (run : Run repertoire first deeds crew) :
    first.world.Grows crew.world := by
  induction run with
  | start => exact .refl _
  | snoc run move ih => exact ih.trans (grows_move move)

end Crew

/-- A property that a fresh unit has and that nothing that happens to a unit
takes away. -/
structure LoadUnit.Invariant (property : LoadUnit → Prop) : Prop where
  fresh : ∀ id home image container presence,
    property { id, home, image, container, presence }
  still : ∀ {before after : LoadUnit}, before.Still after →
    property before → property after
  raised : ∀ {unit : LoadUnit} level, property unit →
    property (unit.raiseLevel level)
  failed : ∀ {unit : LoadUnit} cause, unit.isError = false → property unit →
    property { unit with
      failure := ⟨some cause⟩
      latches := unit.latches.claim .profiler }
  extended : ∀ {unit : LoadUnit} dependencies, property unit →
    property { unit with dependencies }

namespace World

variable {property : LoadUnit → Prop} {world next : World}

/-- Every unit of a world has a property. -/
def AllUnits (world : World) (property : LoadUnit → Prop) : Prop :=
  ∀ key, key < world.unitCount → property (world.unit key)

theorem allUnits_modifyUnit (all : world.AllUnits property) (key : UnitKey)
    {change : LoadUnit → LoadUnit}
    (kept : property (world.unit key) → property (change (world.unit key))) :
    (world.modifyUnit key change).AllUnits property := by
  intro other known
  rw [unit_modifyUnit]
  split
  · rename_i same
    subst same
    exact kept (all key known)
  · exact all other known

theorem allUnits_of_unitsStill (invariant : LoadUnit.Invariant property)
    (all : world.AllUnits property) (still : world.UnitsStill next) :
    next.AllUnits property := by
  intro key known
  rw [still.count] at known
  exact invariant.still (still.unit key) (all key known)

theorem allUnits_setError (invariant : LoadUnit.Invariant property)
    (all : world.AllUnits property) (key : UnitKey) (cause : Cause) :
    (world.setError key cause).1.AllUnits property := by
  intro other known
  rw [unitCount_setError] at known
  rw [unit_setError]
  split
  · rename_i fresh
    obtain ⟨rfl, healthy⟩ := fresh
    exact invariant.failed cause healthy (all key known)
  · exact all other known

theorem allUnits_createUnit (invariant : LoadUnit.Invariant property)
    (all : world.AllUnits property) (home : DomainKey) (image : Image)
    (container : Container) :
    (world.createUnit home image container).1.AllUnits property := by
  intro key known
  rw [unitCount_createUnit] at known
  rw [unit_createUnit]
  split
  · exact invariant.fresh _ _ _ _ _
  · exact all key (by omega)

theorem allUnits_complete (invariant : LoadUnit.Invariant property)
    (all : world.AllUnits property) (me : ThreadId) (operation : Operation) :
    (operation.complete world me).1.AllUnits property := by
  rcases complete_moves world me operation with
    still | ⟨home, image, container, -, result⟩ |
    ⟨key, dependency, -, -, result⟩ | ⟨key, cause, -, result⟩
  · exact allUnits_of_unitsStill invariant all still
  · rw [result]
    exact allUnits_createUnit invariant all home image container
  · rw [result]
    exact allUnits_modifyUnit all key (invariant.extended _)
  · rw [result]
    exact allUnits_setError invariant all key cause

theorem allUnits_stepped (invariant : LoadUnit.Invariant property)
    (all : world.AllUnits property) {me : ThreadId} {thread after : Thread}
    (stepped : world.Stepped me thread next after) :
    next.AllUnits property := by
  rcases stepped_moves stepped with
    still | ⟨key, _, level, _, -, rfl⟩ | ⟨key, _, _, _, -, rfl⟩ |
    ⟨key, _, _, _, _, -, rfl⟩
  · exact allUnits_of_unitsStill invariant all still
  · exact allUnits_modifyUnit all key (invariant.raised level)
  · exact allUnits_modifyUnit all key (invariant.raised .loaded)
  · exact allUnits_setError invariant all key _

end World

namespace Crew

variable {property : LoadUnit → Prop} {repertoire : Repertoire}
  {first crew next : Crew} {deeds : List Deed}

theorem allUnits_move (invariant : LoadUnit.Invariant property)
    (all : crew.world.AllUnits property)
    (move : Move repertoire crew deeds next) :
    next.world.AllUnits property := by
  cases move with
  | collect =>
      exact World.allUnits_of_unitsStill invariant all
        (.of_still (World.alike_collect _ _).still)
  | act member act =>
      cases act with
      | step step =>
          exact World.allUnits_stepped invariant all
            (World.stepped_of_step step)
      | operate => exact World.allUnits_complete invariant all _ _
      | call | resume | finish => exact all

/-- An invariant of single units holds of every unit in every run. -/
theorem allUnits_run (invariant : LoadUnit.Invariant property)
    {setups : List Setup} {members : Nat}
    (run : Run repertoire (idle setups members) deeds crew) :
    crew.world.AllUnits property := by
  induction run with
  | start =>
      intro key known
      change key < (World.ofSetups setups).unitCount at known
      rw [(World.ofSetups_units setups).2.1] at known
      contradiction
  | snoc run move ih => exact allUnits_move invariant ih move

end Crew

end LoadLadder
