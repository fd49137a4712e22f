import LoadLadder.Proofs.RestingWorlds
import Mathlib.Order.WellFoundedSet

/-!
# Finished loads

When every unit of a plan has been loaded towards one goal, each of them has reached
the goal and is not beyond it, or it stands below the level at which it failed.  Why
it failed is decided by what it depends on.  If no dependencies form a cycle, or if
nothing is made to fail, then the blueprint alone says which units have failed and
with which causes, so any two ways of loading the plan agree.
-/

namespace LoadLadder

open Relation

/-- No load has taken the unit beyond a goal. -/
structure LoadUnit.Capped (unit : LoadUnit) (goal : Level) : Prop where
  level : unit.level ≤ goal
  cause : ∀ cause, unit.failure.cause = some cause → cause.level ≤ goal
  gate : goal ≠ .active → unit.gateLifted = false

theorem Level.eq_active_of_le {level : Level} (high : .active ≤ level) :
    level = .active := by
  cases level <;> first | rfl | exact absurd high (by decide)

theorem LoadUnit.Capped.mono {unit : LoadUnit} {goal higher : Level}
    (capped : unit.Capped goal) (below : goal ≤ higher) : unit.Capped higher where
  level := Nat.le_trans capped.level below
  cause := fun cause stored => Nat.le_trans (capped.cause cause stored) below
  gate := fun low => capped.gate fun top =>
    low (Level.eq_active_of_le (top ▸ below))

theorem Level.le_max {left right goal : Level} (first : left ≤ goal)
    (second : right ≤ goal) : max left right ≤ goal := by
  rcases max_eq_left_or_right left right with same | same <;> rwa [same]

theorem Level.lt_of_next {level above : Level}
    (step : level.next = some above) : level < above := by
  have rank := Level.rank_of_next step
  simp only [Level.lt_def]
  omega

theorem Level.next_injective {level other above : Level}
    (first : level.next = some above) (second : other.next = some above) :
    level = other := by
  have one := Level.rank_of_next first
  have two := Level.rank_of_next second
  exact Level.rank_injective (by omega)

namespace World

variable {world next : World} {me : ThreadId} {thread after : Thread}
  {key dependency : UnitKey} {goal : Level} {sinks : Sinks}
  {aim : Option UnitKey}

/-- An initializer runs only on the way to the highest level. -/
theorem goal_of_initializing (chains : world.Chains thread)
    (delving : world.Delving aim goal thread)
    (runs : (∃ key level rest stack,
        thread = ⟨.subStep key level (.runInitializer :: rest), stack⟩) ∨
      ∃ reply key level rest saved stack,
        thread = ⟨.answer reply, .onInitializer key level rest saved :: stack⟩) :
    goal = .active := by
  refine Level.eq_active_of_le ?_
  rcases runs with ⟨key, level, rest, stack, rfl⟩ |
    ⟨reply, key, level, rest, saved, stack, rfl⟩
  · cases delving with
    | carries delves low =>
        have top := active_of_runInitializer chains.1
        exact Nat.le_trans (top ▸ low) (target_le_goal delves)
  · cases delving with
    | answersInitializer delves => exact target_le_goal delves

theorem capped_stepped (stepped : world.Stepped me thread next after)
    (chains : world.Chains thread) (delving : world.Delving aim goal thread)
    (capped : (world.unit key).Capped goal) : (next.unit key).Capped goal := by
  have gate : goal ≠ .active → (next.unit key).gateLifted = false := by
    intro low
    rcases keeps_stepped stepped key with kept | ⟨unit, lifted, -, runs⟩
    · rw [kept.gateLifted]
      exact capped.gate low
    · refine absurd (goal_of_initializing chains delving ?_) low
      rcases runs with ⟨level, rest, stack, same⟩ |
        ⟨reply, level, rest, saved, stack, same⟩
      · exact Or.inl ⟨unit, level, rest, stack, same⟩
      · exact Or.inr ⟨reply, unit, level, rest, saved, stack, same⟩
  have lifted {level : Level} (low : level ≤ goal)
      (raised : next.unit key = (world.unit key).raiseLevel level) :
      (next.unit key).Capped goal := by
    refine ⟨?_, ?_, gate⟩
    · rw [raised]
      exact Level.le_max capped.level low
    · rw [raised]
      exact capped.cause
  rcases unit_moves_stepped stepped key with
    still | ⟨target, level, stack, rfl, raised⟩ |
    ⟨level, rest, stack, rfl, raised⟩ |
    ⟨target, level, fault, stack, rfl, moved⟩
  · refine ⟨?_, ?_, gate⟩
    · rw [still.level]
      exact capped.level
    · rw [still.failure]
      exact capped.cause
  · cases delving with
    | drives delves stands =>
        exact lifted (Nat.le_trans stands.1 (target_le_goal delves)) raised
  · have top := loaded_of_publish chains.1
    cases delving with
    | carries delves low =>
        exact lifted (Nat.le_trans (top ▸ low) (target_le_goal delves)) raised
  · cases delving with
    | drives delves stands =>
        refine ⟨?_, ?_, gate⟩
        · rw [moved, level_setError key key]
          exact capped.level
        · rw [moved, unit_setError]
          split
          · intro cause stored
            cases stored
            exact Nat.le_trans stands.1 (target_le_goal delves)
          · exact capped.cause

/-- No unit has been loaded beyond a goal. -/
def Capped (world : World) (goal : Level) : Prop :=
  ∀ key, (world.unit key).Capped goal

theorem capped_act {crew : Crew} {aims : ThreadId → Option UnitKey}
    (tended : crew.Tended sinks goal aims) (capped : crew.world.Capped goal)
    (me : ThreadId) : (crew.act me).world.Capped goal := by
  intro key
  rcases Crew.act_cases crew me with
    ⟨idle, -⟩ | ⟨world, after, member, stepped, acted⟩
  · rw [idle]
    exact capped key
  · rw [acted]
    exact capped_stepped stepped (tended.orderly.chains me)
      (tended.orderly.delving me) (capped key)

theorem Loads.capped (loads : world.Loads goal next)
    (rested : world.Rested sinks) (capped : world.Capped goal) :
    next.Capped goal :=
  Loads.induction (fun world => world.Capped goal)
    (fun _ _ tended capped me => capped_act tended capped me) loads rested capped

/-- Every unit that the client holds has been loaded towards a goal, and nothing
has been loaded beyond it. -/
structure Finished (world : World) (sinks : Sinks) (goal : Level) : Prop where
  rested : world.Rested sinks
  capped : world.Capped goal
  complete : ∀ key < world.unitCount, (world.unit key).presence = .held →
    goal ≤ (world.unit key).level ∨ (world.unit key).isError = true

theorem isError_iff {unit : LoadUnit} :
    unit.isError = true ↔ ∃ cause, unit.failure.cause = some cause :=
  Option.isSome_iff_exists

namespace Finished

variable {cause : Cause}

section

variable (finished : world.Finished sinks goal)

include finished

/-- A failed unit stands right below the level at which it failed. -/
theorem next_of_cause (stored : (world.unit key).failure.cause = some cause) :
    (world.unit key).level.next = some cause.level ∧ cause.level ≤ goal := by
  obtain ⟨level, fault, -, captured, step⟩ :=
    (finished.rested.grounded key).accounted cause stored
  refine ⟨?_, (finished.capped key).cause cause stored⟩
  rw [step, captured]
  rfl

theorem healthy_of_reached (reached : goal ≤ (world.unit key).level) :
    (world.unit key).failure.cause = none := by
  by_contra failed
  obtain ⟨cause, stored⟩ := Option.ne_none_iff_exists'.mp failed
  obtain ⟨step, low⟩ := finished.next_of_cause stored
  have below := Level.lt_of_next step
  simp only [Level.le_def, Level.lt_def] at *
  omega

theorem level_of_healthy (known : key < world.unitCount)
    (held : (world.unit key).presence = .held)
    (healthy : (world.unit key).failure.cause = none) :
    (world.unit key).level = goal := by
  rcases finished.complete key known held with reached | failed
  · exact Level.rank_injective
      (Nat.le_antisymm (finished.capped key).level reached)
  · obtain ⟨cause, stored⟩ := isError_iff.mp failed
    rw [healthy] at stored
    contradiction

/-- Nothing fails that does not lead to what is made to fail. -/
theorem healthy_of_sound
    (sound : ∀ other, world.blueprint.Leads key other →
      world.blueprint.failAt other = none) :
    (world.unit key).failure.cause = none := by
  by_contra failed
  obtain ⟨cause, stored⟩ := Option.ne_none_iff_exists'.mp failed
  obtain ⟨-, other, leads, fails⟩ :=
    (finished.rested.grounded key).doomed cause stored
  exact fails (sound other leads)

end

/-- A unit that is made to fail fails there. -/
theorem cause_of_injected (finished : world.Finished sinks goal) {level : Level}
    (fails : world.blueprint.failAt key = some level)
    (stored : (world.unit key).failure.cause = some cause) :
    cause = .capture
      (.step level ("injected failure in " ++ (world.unit key).container.name))
      (world.unit key).name level := by
  obtain ⟨reached, fault, accounts, captured, -⟩ :=
    (finished.rested.grounded key).accounted cause stored
  cases accounts with
  | injected same =>
      rw [fails] at same
      cases same
      exact captured
  | inherited sound =>
      rw [fails] at sound
      contradiction

/-- A unit that is not made to fail quotes a dependency. -/
theorem cause_of_inherited (finished : world.Finished sinks goal)
    (sound : world.blueprint.failAt key = none)
    (stored : (world.unit key).failure.cause = some cause) :
    ∃ dependency quoted, world.blueprint.Needs key dependency ∧
      (world.unit dependency).failure.cause = some quoted ∧
      cause = .capture (.load quoted) (world.unit key).name .active := by
  obtain ⟨reached, fault, accounts, captured, -⟩ :=
    (finished.rested.grounded key).accounted cause stored
  cases accounts with
  | injected fails =>
      rw [fails] at sound
      contradiction
  | @inherited met rest dependency quoted _ split served failed =>
      refine ⟨dependency, quoted, ?_, failed, captured⟩
      rw [Blueprint.Needs, split]
      simp

section

variable (finished : world.Finished sinks .active)
  (known : key < world.unitCount) (held : (world.unit key).presence = .held)

include finished known held

theorem failed_of_injected (fails : world.blueprint.failAt key ≠ none) :
    (world.unit key).isError = true := by
  obtain ⟨level, fails⟩ := Option.ne_none_iff_exists'.mp fails
  have short := (finished.rested.grounded key).short level fails
  refine (finished.complete key known held).resolve_left fun reached => ?_
  rw [Level.eq_active_of_le reached] at short
  exact not_active_lt level short

/-- A unit whose dependency is not as far as it should be has failed. -/
theorem failed_of_unserved (needs : world.blueprint.Needs key dependency)
    (unserved : ¬ world.Serves key dependency) :
    (world.unit key).isError = true := by
  refine (finished.complete key known held).resolve_left fun reached => ?_
  have active := Level.eq_active_of_le reached
  have attended := (finished.rested.grounded key).attended active
  exact unserved (attended.served dependency needs)

end

/-- Without cycles a unit fails if anything that it leads to is made to fail. -/
theorem failed_of_doomed (finished : world.Finished sinks .active)
    (acyclic : ∀ key, ¬ TransGen world.blueprint.Needs key key)
    (known : key < world.unitCount) (held : (world.unit key).presence = .held)
    (doomed : world.blueprint.Doomed key) :
    (world.unit key).isError = true := by
  obtain ⟨other, leads, fails⟩ := doomed
  induction leads using ReflTransGen.head_induction_on with
  | refl => exact finished.failed_of_injected known held fails
  | @head user dependency needs leads ih =>
      obtain ⟨there, heldThere⟩ :=
        finished.rested.planned.held user dependency needs
      obtain ⟨cause, stored⟩ := isError_iff.mp (ih there heldThere)
      refine finished.failed_of_unserved known held needs fun serves => ?_
      rcases serves with active | closes
      · have healthy :=
          (finished.rested.grounded dependency).healthy_of_active active
        rw [stored] at healthy
        contradiction
      · exact acyclic user (TransGen.head' needs closes.2)

end Finished

/-- The cause with which a unit fails, if its dependencies fail with the given
causes. -/
def foretold (world : World) (goal : Level) (key : UnitKey)
    (causes : UnitKey → Option Cause) : Option Cause :=
  match world.blueprint.failAt key with
  | some level =>
      if level ≤ goal then
        some (.capture
          (.step level
            ("injected failure in " ++ (world.unit key).container.name))
          (world.unit key).name level)
      else none
  | none =>
      if goal = .active then
        ((world.blueprint.dependencies key).findSome? causes).map fun cause =>
          .capture (.load cause) (world.unit key).name .active
      else none

theorem Proceeds.foretold (proceeds : world.Proceeds next) :
    next.foretold goal key = world.foretold goal key := by
  funext causes
  rw [World.foretold, World.foretold, proceeds.blueprint, LoadUnit.name,
    LoadUnit.name, (proceeds.fixed key).image, (proceeds.fixed key).container]

/-- If no dependency leads back to the unit, the unit fails just when it is
foretold, and with the cause that is foretold.  Below the top no dependency
matters. -/
theorem Finished.cause_eq_foretold (finished : world.Finished sinks goal)
    (known : key < world.unitCount) (held : (world.unit key).presence = .held)
    (apart : goal = .active → ∀ dependency,
      world.blueprint.Needs key dependency →
        ¬ world.blueprint.Leads dependency key) :
    (world.unit key).failure.cause = world.foretold goal key fun dependency =>
      (world.unit dependency).failure.cause := by
  have grounded := finished.rested.grounded key
  have served (top : goal = .active) {other : UnitKey}
      (needs : world.blueprint.Needs key other)
      (serves : world.Serves key other) :
      (world.unit other).failure.cause = none := by
    rcases serves with active | closes
    · exact (finished.rested.grounded other).healthy_of_active active
    · exact absurd closes.2 (apart top other needs)
  cases failure : (world.unit key).failure.cause with
  | none =>
      have level := finished.level_of_healthy known held failure
      cases fails : world.blueprint.failAt key with
      | some failing =>
          have short := grounded.short failing fails
          have high : ¬ failing ≤ goal := by
            rw [level] at short
            exact Nat.not_le.mpr short
          simp [foretold, fails, high]
      | none =>
          by_cases top : goal = .active
          · have attended := grounded.attended (level.trans top)
            have healthy : (world.blueprint.dependencies key).findSome?
                (fun other => (world.unit other).failure.cause) = none :=
              List.findSome?_eq_none_iff.mpr fun other member =>
                served top member (attended.served other member)
            simp [foretold, fails, healthy]
          · simp [foretold, fails, top]
  | some cause =>
      obtain ⟨level, fault, accounts, captured, -⟩ :=
        grounded.accounted cause failure
      have low := (finished.next_of_cause failure).2
      subst captured
      cases accounts with
      | injected fails =>
          have low : level ≤ goal := low
          simp [foretold, fails, low]
      | @inherited met rest dependency quoted sound split before stored =>
          have top := Level.eq_active_of_le low
          have healthy : met.findSome?
              (fun other => (world.unit other).failure.cause) = none :=
            List.findSome?_eq_none_iff.mpr fun other member =>
              served top (by simp [Blueprint.Needs, split, member])
                (before other member)
          simp [foretold, sound, split, top, List.findSome?_append, healthy,
            stored]

/-- Without cycles, what holds of a unit if it holds of all that the unit needs
holds of all units. -/
theorem needs_induction {blueprint : Blueprint} {count : Nat}
    {holds : UnitKey → Prop}
    (acyclic : ∀ key, ¬ TransGen blueprint.Needs key key)
    (step : ∀ key < count, (∀ dependency < count, blueprint.Needs key dependency →
      holds dependency) → holds key) : ∀ key < count, holds key := by
  let deeper (dependency key : UnitKey) : Prop :=
    TransGen blueprint.Needs key dependency
  have strict : IsStrictOrder UnitKey deeper := {
    irrefl := acyclic
    trans := fun _ _ _ low high => high.trans low }
  -- Without cycles the dependencies of finitely many units are well-founded.
  have founded : (Set.Iio count).WellFoundedOn deeper :=
    (Set.finite_Iio count).wellFoundedOn
  intro key known
  exact founded.induction known fun key known ih =>
    step key known fun dependency known needs =>
      ih dependency known (TransGen.single needs)

/-- Pairs of units of two plans that are made alike.  They need paired units, in the
same order. -/
structure Pairing (base twin : World) (pairs : UnitKey → UnitKey → Prop) :
    Prop where
  known : ∀ {key other}, pairs key other →
    key < base.unitCount ∧ other < twin.unitCount
  image : ∀ {key other}, pairs key other →
    (base.unit key).image = (twin.unit other).image
  container : ∀ {key other}, pairs key other →
    (base.unit key).container = (twin.unit other).container
  presence : ∀ {key other}, pairs key other →
    (base.unit key).presence = (twin.unit other).presence
  needs : ∀ {key other}, pairs key other →
    List.Forall₂ pairs (base.blueprint.dependencies key)
      (twin.blueprint.dependencies other)

theorem Pairing.refl {base : World} (rooted : base.Rooted) :
    base.Pairing base fun key other => key < base.unitCount ∧ key = other where
  known := by
    rintro key _ ⟨known, rfl⟩
    exact ⟨known, known⟩
  image := by
    rintro key _ ⟨-, rfl⟩
    rfl
  container := by
    rintro key _ ⟨-, rfl⟩
    rfl
  presence := by
    rintro key _ ⟨-, rfl⟩
    rfl
  needs := by
    rintro key _ ⟨-, rfl⟩
    exact List.forall₂_same.mpr fun dependency needs =>
      ⟨rooted key dependency needs, rfl⟩

theorem findSome?_of_forall₂ {α β γ : Type} {first : α → Option γ}
    {second : β → Option γ} {items : List α} {others : List β}
    (same : List.Forall₂ (fun item other => first item = second other) items
      others) : items.findSome? first = others.findSome? second := by
  induction same with
  | nil => rfl
  | cons head tail ih => rw [List.findSome?_cons, List.findSome?_cons, head, ih]

namespace Pairing

variable {base twin first second : World} {pairs : UnitKey → UnitKey → Prop}
  {other : UnitKey} {sinks others : Sinks} (pairing : base.Pairing twin pairs)

include pairing

theorem foretold_congr (paired : pairs key other)
    {causes foreign : UnitKey → Option Cause}
    (same : ∀ {dependency rival}, pairs dependency rival →
      base.blueprint.Needs key dependency →
        causes dependency = foreign rival) :
    base.foretold goal key causes = twin.foretold goal other foreign := by
  have fails : base.blueprint.failAt key = twin.blueprint.failAt other :=
    congrArg Container.failAt (pairing.container paired)
  have quoted : (base.blueprint.dependencies key).findSome? causes =
      (twin.blueprint.dependencies other).findSome? foreign := by
    have needs := List.forall₂_iff_zip.mp (pairing.needs paired)
    refine findSome?_of_forall₂ (List.forall₂_iff_zip.mpr
      ⟨needs.1, fun together => ?_⟩)
    exact same (needs.2 together) (List.of_mem_zip together).1
  rw [foretold, foretold, fails, quoted, LoadUnit.name, LoadUnit.name,
    pairing.image paired, pairing.container paired]

/-- Without cycles all ways of loading paired plans end with the same causes. -/
theorem causes_agree (toFirst : base.Proceeds first)
    (toSecond : twin.Proceeds second) (one : first.Finished sinks goal)
    (two : second.Finished others goal)
    (acyclic : ∀ key, ¬ TransGen base.blueprint.Needs key key)
    (apart : ∀ key, ¬ TransGen twin.blueprint.Needs key key)
    (paired : pairs key other) (held : (base.unit key).presence = .held) :
    (first.unit key).failure.cause = (second.unit other).failure.cause := by
  have expected {start world : World} {sinks : Sinks} {key : UnitKey}
      (proceeds : start.Proceeds world) (finished : world.Finished sinks goal)
      (acyclic : ∀ key, ¬ TransGen start.blueprint.Needs key key)
      (known : key < start.unitCount)
      (held : (start.unit key).presence = .held) :
      (world.unit key).failure.cause = start.foretold goal key
        fun dependency => (world.unit dependency).failure.cause := by
    rw [← proceeds.foretold]
    refine finished.cause_eq_foretold (proceeds.count.symm ▸ known)
      ((proceeds.fixed key).presence.trans held) fun _ dependency needs leads => ?_
    rw [proceeds.blueprint] at needs leads
    exact acyclic key (TransGen.head' needs leads)
  let agrees (key : UnitKey) : Prop := ∀ other, pairs key other →
    (base.unit key).presence = .held →
      (first.unit key).failure.cause = (second.unit other).failure.cause
  suffices step : ∀ key < base.unitCount, (∀ dependency < base.unitCount,
      base.blueprint.Needs key dependency → agrees dependency) → agrees key from
    needs_induction acyclic step key (pairing.known paired).1 other paired held
  intro key known ih other paired held
  rw [expected toFirst one acyclic known held,
    expected toSecond two apart (pairing.known paired).2
      ((pairing.presence paired).symm.trans held)]
  refine pairing.foretold_congr paired fun {dependency rival} together needs => ?_
  have planned := one.rested.planned.held key dependency
    (toFirst.blueprint.symm ▸ needs)
  rw [toFirst.count, (toFirst.fixed dependency).presence] at planned
  exact ih dependency planned.1 needs rival together planned.2

end Pairing

end World

end LoadLadder
