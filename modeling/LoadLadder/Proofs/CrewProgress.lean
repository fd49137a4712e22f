import LoadLadder.Proofs.CrewRecords
import Mathlib.Algebra.BigOperators.Ring.Finset
import Mathlib.Algebra.Order.BigOperators.Group.Finset

/-!
# How crews come to an end

What a thread still has to do is given a cost that each of its steps lowers, except
that a thread which sleeps for an entry may be woken in vain, and that a driver
which climbs takes on the work of a whole level.  Of that there is only so much:
every level of a unit is begun once.  As long as some thread is not done, one of
them can act with effect, so whoever lets all threads act again and again comes to
an end.
-/

namespace LoadLadder

open Relation

/-- The cost of an action in a sub-step of a unit with so many dependencies. -/
def Action.cost (dependencies : Nat) : Action → Nat
  | .runInitializer => 13 * dependencies + 3
  | _ => 1

/-- The cost of what is left of a sub-step. -/
def Action.costs (dependencies : Nat) (actions : List Action) : Nat :=
  (actions.map (Action.cost dependencies)).sum

/-- The cost of what is left of a driver's loop, up to the next level. -/
def Phase.cost : Phase → Nat
  | .require => 1
  | .settle => 2
  | .leave => 5
  | .recheck => 7
  | .blocked => 8
  | .acquire => 9
  | .checkCause => 10
  | .checkLevel => 11
  | .raise _ => 13
  | .fail _ _ => 2
  | .release .again => 12
  | .release .stop => 6
  | .release (.raise _) => 1

namespace Blueprint

variable (plan : Blueprint)

def fanout (key : UnitKey) : Nat :=
  (plan.dependencies key).length

def taskCost : Task → Nat
  | .drive _ _ phase => phase.cost
  | .subStep key _ rest => Action.costs (plan.fanout key) rest + 1
  | .activateDependencies _ rest => 13 * rest.length + 1
  | .announce _ _ _ rest => rest.length + 3
  | .callback _ => 0
  | .answer _ => 0

def frameCost : Waiting → Nat
  | .onSubStep _ _ _ => 14
  | .onInitializer key _ rest _ => Action.costs (plan.fanout key) rest + 2
  | .onDependency _ rest => 13 * rest.length + 2
  | _ => 0

/-- The cost of what a thread has taken on. -/
def threadCost (thread : Thread) : Nat :=
  plan.taskCost thread.task + (thread.stack.map plan.frameCost).sum

/-- The cost of carrying a unit up by one level. -/
def rungCost (key : UnitKey) : Nat :=
  13 * plan.fanout key + 17

variable {plan}

theorem taskCost_ensure (world : World) (through : DomainKey) (key : UnitKey)
    (target : Level) :
    plan.taskCost (.ensure world through key target) ≤ 11 := by
  unfold Task.ensure
  split
  · simp [taskCost]
  · split <;> simp [taskCost, Phase.cost]

/-- The work of a level is worth less than what is paid for it. -/
theorem costs_actions (level : Level) (key : UnitKey) :
    Action.costs (plan.fanout key) level.actions + 9 ≤ plan.rungCost key := by
  cases level <;>
    simp [Action.costs, Action.cost, Level.actions, rungCost]
  omega

end Blueprint

namespace World

/-- The thread was woken in vain and sleeps on. -/
def SleepsOn (world : World) (thread after : Thread) : Prop :=
  after = thread ∧ ∃ key, thread.asleep = some key ∧
    (world.homeOf key).entries.owner? (world.unit key).id ≠ none

/-- The thread has begun the climb of a unit to a level. -/
def Climbs (world : World) (thread after : Thread) : Prop :=
  ∃ key target level stack,
    thread = ⟨.drive key target .recheck, stack⟩ ∧
    after = ⟨.subStep key level level.actions,
      .onSubStep key target level :: stack⟩ ∧
    (world.unit key).isError = false ∧
    (world.unit key).level.next = some level

variable {world next : World} {me : ThreadId} {thread after : Thread}
  {key : UnitKey} {sinks : Sinks}

/-- Who is told to sleep on has asked for an entry that is owned. -/
theorem owned_of_blocked {entries table : Entries} {unit : UnitId}
    {verdict : Verdict} {target : Level}
    (asked : Phase.asked table me unit .blocked = some (entries, verdict))
    (goes : afterRequest key target verdict = .drive key target .blocked) :
    table.owner? unit ≠ none := by
  have denied : verdict = .blocked := by
    cases verdict <;> first | rfl | (simp [afterRequest] at goes)
  subst denied
  have request : (table.stopWaiting me).request me unit = (entries, .blocked) :=
    Option.some.inj asked
  rcases (table.stopWaiting me).request_cases me unit with
    ⟨-, result⟩ | ⟨-, result⟩ | ⟨-, result⟩ | ⟨owned, -, -⟩
  · cases request.symm.trans result
  · cases request.symm.trans result
  · cases request.symm.trans result
  · exact Option.isSome_iff_ne_none.mp owned

theorem cost_stepped (stepped : world.Stepped me thread next after)
    (watched : world.Watched sinks) (supports : world.Supports thread)
    (chains : world.Chains thread) :
    world.blueprint.threadCost after < world.blueprint.threadCost thread ∨
      world.SleepsOn thread after ∨ world.Climbs thread after := by
  have grows := grows_stepped stepped
  cases stepped with
  | climbs short healthy above =>
      exact Or.inr (Or.inr ⟨_, _, _, _, rfl, rfl, healthy, above⟩)
  | @refused key target phase next entries stack asks kept ends asked =>
      rcases asks with rfl | rfl <;> rcases ends with rfl | rfl
      iterate 3
        exact Or.inl (by simp [Blueprint.threadCost, Blueprint.taskCost, Phase.cost])
      obtain ⟨verdict, asked, goes⟩ := asked
      exact Or.inr (Or.inl ⟨rfl, key, rfl, owned_of_blocked asked goes⟩)
  | entered asks =>
      rcases asks with rfl | rfl <;>
        exact Or.inl (by simp [Blueprint.threadCost, Blueprint.taskCost, Phase.cost])
  | @announces key target stack active untold =>
      have listeners : ((world.claim key .hostLoadEvent).1.homeOf
          key).listeners = [.recorder] := by
        have known : key < (world.claim key .hostLoadEvent).1.unitCount :=
          supports.1
        have later := watched.of_grows grows rfl (.refl _)
        rw [later.homeOf known, domain_claim, watched.listeners]
      exact Or.inl (by simp [Blueprint.threadCost, Blueprint.taskCost,
        Phase.cost, listeners])
  | @performed key level action rest next stack =>
      refine Or.inl ?_
      have paid : 0 < action.cost (world.blueprint.fanout key) := by
        cases action <;> simp [Action.cost]
      simp only [Blueprint.threadCost, Blueprint.taskCost, Action.costs,
        List.map_cons, List.sum_cons]
      omega
  | @initializes key level rest task stack runs =>
      rcases runs with ⟨-, rfl⟩ | ⟨client, -⟩
      · refine Or.inl ?_
        have fanout : (world.unit key).dependencies.length =
            world.blueprint.fanout key := rfl
        simp only [Blueprint.threadCost, Blueprint.taskCost, Action.costs,
          List.map_cons, List.sum_cons, Blueprint.frameCost, Action.cost, fanout]
        omega
      · exact absurd client (watched.initializer key supports.1)
  | reported goes =>
      rcases goes with ⟨-, rfl⟩ | ⟨client, -⟩
      · exact Or.inl (by simp [Blueprint.threadCost, Blueprint.taskCost,
          Action.costs, Action.cost])
      · rw [watched.homeOf supports.1, watched.hook] at client
        contradiction
  | @activates key dependency rest stack =>
      refine Or.inl ?_
      have entry : world.blueprint.taskCost (.ensure world (world.unit key).home
          dependency .active) ≤ 11 := Blueprint.taskCost_ensure _ _ _ _
      simp only [Blueprint.threadCost, Blueprint.taskCost, List.map_cons,
        List.sum_cons, Blueprint.frameCost, List.length_cons] at entry ⊢
      omega
  | tellsClient =>
      have member := chains.1.subset List.mem_cons_self
      simp at member
  | hooked | listened =>
      obtain ⟨seat, chained⟩ := chains
      cases chained
  | _ =>
      refine Or.inl ?_
      simp only [Blueprint.threadCost, Blueprint.taskCost, Blueprint.frameCost,
        Phase.cost, List.map_cons, List.sum_cons, List.length_cons,
        Action.costs, List.map_nil, List.sum_nil]
      omega

end World

/-- A sum in which one place is paid for and no other grows. -/
theorem sum_add_le_sum {places : Finset Nat} (first second : Nat → Nat)
    {place paid lent : Nat} (member : place ∈ places)
    (others : ∀ other ∈ places, other ≠ place → first other ≤ second other)
    (here : first place + paid ≤ second place + lent) :
    ∑ other ∈ places, first other + paid ≤
      ∑ other ∈ places, second other + lent := by
  rw [← Finset.add_sum_erase places first member,
    ← Finset.add_sum_erase places second member]
  have rest : ∑ other ∈ places.erase place, first other ≤
      ∑ other ∈ places.erase place, second other :=
    Finset.sum_le_sum fun other apart =>
      others other (Finset.mem_of_mem_erase apart)
        (Finset.ne_of_mem_erase apart)
  omega

namespace Crew

/-- The climb of a healthy unit to a level has still to begin. -/
def Unbegun (crew : Crew) (key : UnitKey) (level : Level) : Prop :=
  ¬ level ≤ (crew.world.unit key).level ∧
    (crew.world.unit key).isError = false ∧
    ∀ thread ∈ crew.threads, level ∉ thread.driving key

instance (crew : Crew) (key : UnitKey) : DecidablePred (crew.Unbegun key) :=
  fun _ => inferInstanceAs (Decidable (_ ∧ _ ∧ _))

def unbegun (crew : Crew) (key : UnitKey) : Finset Level :=
  Level.all.toFinset.filter (crew.Unbegun key)

/-- The cost of carrying a unit up all the levels that are not begun. -/
def owed (crew : Crew) (key : UnitKey) : Nat :=
  crew.world.blueprint.rungCost key * (crew.unbegun key).card

/-- What all threads have taken on, and what they may still take on. -/
def effort (crew : Crew) : Nat :=
  ∑ key ∈ Finset.range crew.world.unitCount, crew.owed key +
    ∑ me ∈ Finset.range crew.threads.length,
      crew.world.blueprint.threadCost (crew.thread me)

/-- The thread has something to do and does not sleep for an entry that is
owned. -/
structure Ready (crew : Crew) (me : ThreadId) : Prop where
  busy : (crew.thread me).isDone = false
  free : ∀ key, (crew.thread me).asleep = some key →
    (crew.world.domain 0).entries.owner? (crew.world.unit key).id = none

variable {crew : Crew} {world : World} {me you : ThreadId} {after : Thread}
  {key : UnitKey} {level goal : Level} {sinks : Sinks}
  {aims : ThreadId → Option UnitKey}

theorem mem_unbegun : level ∈ crew.unbegun key ↔
    ¬ level ≤ (crew.world.unit key).level ∧
      (crew.world.unit key).isError = false ∧
      ∀ me, level ∉ (crew.thread me).driving key := by
  have threads : (∀ thread ∈ crew.threads, level ∉ thread.driving key) ↔
      ∀ me, level ∉ (crew.thread me).driving key := by
    constructor
    · intro all me
      by_cases member : me < crew.threads.length
      · apply all
        simp [Crew.thread, member]
      · simp [Crew.thread, Nat.le_of_not_lt member, Thread.driving, Task.driving]
    · intro all thread member
      obtain ⟨me, within, rfl⟩ := List.getElem_of_mem member
      have driven := all me
      simpa [Crew.thread, within] using driven
  simp [unbegun, Unbegun, Level.mem_all, threads]

/-- No step makes work that was begun unbegun. -/
theorem unbegun_subset (orderly : crew.Orderly sinks goal aims)
    (member : me < crew.threads.length)
    (stepped : crew.world.Stepped me (crew.thread me) world after)
    (key : UnitKey) :
    ({ crew with world }.setThread me after).unbegun key ⊆
      crew.unbegun key := by
  intro level unbegun
  rw [mem_unbegun] at unbegun ⊢
  obtain ⟨high, healthy, undriven⟩ := unbegun
  have grows := World.unit_grows_stepped stepped key
  refine ⟨fun reached => high (Nat.le_trans reached grows.level), ?_,
    fun you driving => ?_⟩
  · by_contra failed
    have later := grows.isError (Bool.eq_true_of_not_eq_false failed)
    exact Bool.false_ne_true (healthy.symm.trans later)
  · have still := undriven you
    rw [thread_acted member] at still
    split at still
    · rename_i same
      subst same
      rcases World.driving_resolves stepped (orderly.delving me) driving with
        drives | reached | failed
      · exact still drives
      · exact high reached
      · exact Bool.false_ne_true (healthy.symm.trans failed)
    · exact still driving

/-- A driver begins a climb that was not begun. -/
theorem unbegun_ssubset (orderly : crew.Orderly sinks goal aims)
    (member : me < crew.threads.length)
    (stepped : crew.world.Stepped me (crew.thread me) world after)
    {target : Level} {stack : List Waiting}
    (rechecks : crew.thread me = ⟨.drive key target .recheck, stack⟩)
    (healthy : (crew.world.unit key).isError = false)
    (above : (crew.world.unit key).level.next = some level)
    (driven : level ∈ after.driving key) :
    ({ crew with world }.setThread me after).unbegun key ⊂
      crew.unbegun key := by
  rw [Finset.ssubset_iff_of_subset (unbegun_subset orderly member stepped key)]
  refine ⟨level, mem_unbegun.mpr ⟨?_, healthy, fun you driving => ?_⟩,
    fun unbegun => ?_⟩
  · have rank := Level.rank_of_next above
    rw [Level.le_def]
    omega
  · have mine : key ∈ (crew.thread me).holds := by
      rw [rechecks]
      exact List.mem_cons_self
    have same := orderly.same_thread mine (Thread.holds_of_driving driving)
    subst same
    have once := orderly.count_le me key
    rw [rechecks] at driving once
    have below : level ∈ stack.flatMap (Waiting.driving key) := by
      simpa [Thread.driving, Task.driving] using driving
    have held := holds_of_driving_stack below
    have count := List.count_pos_iff.mpr held
    simp only [Thread.holds, Task.holds, List.singleton_append,
      List.count_cons_self] at once
    omega
  · have undriven := (mem_unbegun.mp unbegun).2.2 me
    rw [thread_acted member, if_pos rfl] at undriven
    exact undriven driven

/-- What a driver takes on with a climb is worth no more than what its unit owes
less. -/
theorem unbegun_of_climbs (orderly : crew.Orderly sinks goal aims)
    (member : me < crew.threads.length)
    (stepped : crew.world.Stepped me (crew.thread me) world after)
    (climbs : crew.world.Climbs (crew.thread me) after) :
    ∃ key < crew.world.unitCount,
      crew.world.blueprint.threadCost after + 1 ≤
        crew.world.blueprint.threadCost (crew.thread me) +
          crew.world.blueprint.rungCost key ∧
      (({ crew with world }.setThread me after).unbegun key).card <
        (crew.unbegun key).card := by
  obtain ⟨key, target, level, stack, current, rfl, healthy, above⟩ := climbs
  have supports := orderly.supports me
  rw [current] at supports
  refine ⟨key, supports.1, ?_, Finset.card_lt_card
    (unbegun_ssubset orderly member stepped current healthy above ?_)⟩
  · have paid : _ ≤ crew.world.blueprint.rungCost key :=
      Blueprint.costs_actions level key
    rw [current]
    simp only [Blueprint.threadCost, Blueprint.taskCost, Blueprint.frameCost,
      Phase.cost, List.map_cons, List.sum_cons]
    omega
  · simp [Thread.driving, Waiting.driving]

theorem owed_le (orderly : crew.Orderly sinks goal aims)
    (member : me < crew.threads.length)
    (stepped : crew.world.Stepped me (crew.thread me) world after)
    (key : UnitKey) :
    ({ crew with world }.setThread me after).owed key ≤ crew.owed key := by
  have blueprint := (World.proceeds_stepped stepped).blueprint
  change world.blueprint.rungCost key * _ ≤ _
  rw [blueprint]
  exact Nat.mul_le_mul_left _
    (Finset.card_le_card (unbegun_subset orderly member stepped key))

/-- The effort after a step, by what the step costs. -/
theorem effort_stepped (member : me < crew.threads.length)
    (stepped : crew.world.Stepped me (crew.thread me) world after)
    {paid lent : Nat}
    (units : ∑ key ∈ Finset.range crew.world.unitCount,
        ({ crew with world }.setThread me after).owed key + lent ≤
      ∑ key ∈ Finset.range crew.world.unitCount, crew.owed key)
    (thread : crew.world.blueprint.threadCost after + paid ≤
      crew.world.blueprint.threadCost (crew.thread me) + lent) :
    ({ crew with world }.setThread me after).effort + paid ≤ crew.effort := by
  have proceeds := World.proceeds_stepped stepped
  have acted := thread_acted member world after
  have size : ({ crew with world }.setThread me after).threads.length =
      crew.threads.length := by
    simp [setThread]
  have within : me ∈ Finset.range crew.threads.length :=
    Finset.mem_range.mpr member
  have threads := sum_add_le_sum
    (fun you => crew.world.blueprint.threadCost
      (({ crew with world }.setThread me after).thread you))
    (fun you => crew.world.blueprint.threadCost (crew.thread you)) within
    (fun you _ apart => by rw [acted, if_neg (Ne.symm apart)])
    (by rw [acted, if_pos rfl]; exact thread)
  rw [effort, effort, size]
  change ∑ key ∈ Finset.range world.unitCount, _ +
    ∑ you ∈ _, world.blueprint.threadCost _ + paid ≤ _
  rw [proceeds.count, proceeds.blueprint]
  omega

/-- A thread that is woken in vain changes neither the threads nor the owners. -/
theorem ready_of_sleepsOn (member : me < crew.threads.length)
    (stepped : crew.world.Stepped me (crew.thread me) world after)
    (sleeps : crew.world.SleepsOn (crew.thread me) after)
    (ready : crew.Ready you) :
    ({ crew with world }.setThread me after).Ready you := by
  obtain ⟨same, -⟩ := sleeps
  have threads : ({ crew with world }.setThread me after).thread you =
      crew.thread you := by
    rw [thread_acted member]
    split
    · rename_i mine
      rw [same, mine]
    · rfl
  have ids (key : UnitKey) := (World.fixed_stepped stepped key).id
  refine ⟨by rw [threads]; exact ready.busy, fun key asleep => ?_⟩
  rw [threads] at asleep
  change world.ownerAt (0, (world.unit key).id) = none
  rw [ids]
  have passes := World.passes_stepped stepped
  rw [same] at passes
  cases passes with
  | same owners =>
      rw [owners]
      exact ready.free key asleep
  | takes asks free owners holds => simp at holds
  | returns owners holds => simp at holds

/-- Acting lowers the effort, or it is in vain and leaves every other thread as
ready as it was. -/
theorem effort_act (orderly : crew.Orderly sinks goal aims) (me : ThreadId) :
    (crew.act me).effort < crew.effort ∨
      ((crew.act me).effort ≤ crew.effort ∧ ¬ crew.Ready me ∧
        ∀ you, crew.Ready you → (crew.act me).Ready you) := by
  rcases act_cases crew me with
    ⟨idle, turn⟩ | ⟨world, after, member, stepped, acted⟩
  · obtain ⟨reply, rests⟩ := World.atRest_of_turn turn (orderly.chains me)
    rw [idle]
    refine Or.inr ⟨Nat.le_refl _, fun ready => ?_, fun _ ready => ready⟩
    have busy := ready.busy
    rw [rests] at busy
    contradiction
  rw [acted]
  have units : ∑ key ∈ Finset.range crew.world.unitCount,
      ({ crew with world }.setThread me after).owed key ≤
        ∑ key ∈ Finset.range crew.world.unitCount, crew.owed key :=
    Finset.sum_le_sum fun key _ => owed_le orderly member stepped key
  have kept : _ + 0 ≤ _ := units
  rcases World.cost_stepped stepped orderly.planned.watched
    (orderly.supports me) (orderly.chains me) with lower | sleeps | climbs
  · have lowered : _ + 1 ≤ crew.effort :=
      effort_stepped member stepped kept lower
    exact Or.inl lowered
  · refine Or.inr ⟨?_, ?_,
      fun you ready => ready_of_sleepsOn member stepped sleeps ready⟩
    · have same : crew.world.blueprint.threadCost after + 0 ≤
          crew.world.blueprint.threadCost (crew.thread me) + 0 := by
        rw [sleeps.1]
      exact effort_stepped member stepped kept same
    · obtain ⟨-, key, asleep, owned⟩ := sleeps
      obtain ⟨target, stack, current⟩ := blocked_of_asleep asleep
      have supports := orderly.supports me
      rw [current] at supports
      rw [orderly.planned.watched.homeOf supports.1] at owned
      exact fun ready => owned (ready.free key asleep)
  · -- The thread takes on the work of a level, which the unit no longer owes.
    obtain ⟨key, known, lent, fewer⟩ :=
      unbegun_of_climbs orderly member stepped climbs
    have here : ({ crew with world }.setThread me after).owed key +
        crew.world.blueprint.rungCost key ≤ crew.owed key + 0 := by
      change world.blueprint.rungCost key * _ + _ ≤ _
      rw [(World.proceeds_stepped stepped).blueprint, ← Nat.mul_succ]
      exact Nat.mul_le_mul_left _ fewer
    have paid := sum_add_le_sum _ _ (Finset.mem_range.mpr known)
      (fun other _ _ => owed_le orderly member stepped other) here
    exact Or.inl (effort_stepped member stepped paid lent)

theorem not_isDone_iff : crew.isDone = false ↔
    ∃ me < crew.threads.length, (crew.thread me).isDone = false := by
  simp only [Crew.isDone, List.all_eq_false, Bool.not_eq_true]
  constructor
  · rintro ⟨thread, member, busy⟩
    obtain ⟨me, within, rfl⟩ := List.getElem_of_mem member
    exact ⟨me, within, by simpa [Crew.thread, within] using busy⟩
  · rintro ⟨me, within, busy⟩
    refine ⟨crew.thread me, ?_, busy⟩
    simp [Crew.thread, within]

theorem Thread.not_isDone_of_asleep {thread : Thread} {key : UnitKey}
    (asleep : thread.asleep = some key) : thread.isDone = false := by
  obtain ⟨target, stack, rfl⟩ := blocked_of_asleep asleep
  rfl

theorem Thread.not_isDone_of_holds {thread : Thread} {key : UnitKey}
    (holds : key ∈ thread.holds) : thread.isDone = false := by
  by_contra rests
  obtain ⟨reply, rfl⟩ :=
    Thread.answered_of_isDone (Bool.eq_true_of_not_eq_false rests)
  simp [Thread.holds, Task.holds] at holds

/-- As long as some thread has not come to rest, one of them is ready. -/
theorem exists_ready (orderly : crew.Orderly sinks goal aims)
    (busy : crew.isDone = false) : ∃ me < crew.threads.length, crew.Ready me := by
  suffices ready : ∃ me, crew.Ready me by
    obtain ⟨me, ready⟩ := ready
    refine ⟨me, ?_, ready⟩
    by_contra outside
    have busy := ready.busy
    simp [Crew.thread, Nat.le_of_not_lt outside, Thread.isDone] at busy
  obtain ⟨me, -, busy⟩ := not_isDone_iff.mp busy
  have awake {you : ThreadId} (busy : (crew.thread you).isDone = false)
      (wakes : crew.contention.asleep you = none) : crew.Ready you := by
    refine ⟨busy, fun key asleep => ?_⟩
    have sleeps : crew.contention.asleep you =
        some (crew.world.unit key).id := by
      simp [contention, asleep]
    rw [wakes] at sleeps
    contradiction
  by_cases wakes : crew.contention.asleep me = none
  · exact ⟨me, awake busy wakes⟩
  -- The thread sleeps; who is at the end of the chain that it waits for can act.
  obtain ⟨last, chain, ends⟩ :=
    Contention.chainEnds_of_blocked orderly.sound wakes
  refine ⟨last, ?_⟩
  rcases ends with running | ⟨unit, sleeps, free⟩
  · rcases ReflTransGen.cases_tail chain with same | ⟨before, -, edge⟩
    · exact absurd (same ▸ running) wakes
    · obtain ⟨unit, -, owned⟩ := edge
      have guard := (orderly.sound.owns unit last).mp owned
      obtain ⟨key, holds, -⟩ := List.mem_map.mp guard
      exact awake (Thread.not_isDone_of_holds holds) running
  · obtain ⟨key, asleep, rfl⟩ := Option.map_eq_some_iff.mp sleeps
    refine ⟨Thread.not_isDone_of_asleep asleep, fun other same => ?_⟩
    rw [asleep] at same
    cases same
    exact free

theorem effort_follow_le (orderly : crew.Orderly sinks goal aims)
    (schedule : List ThreadId) :
    (crew.follow schedule).effort ≤ crew.effort := by
  induction schedule generalizing crew with
  | nil => exact Nat.le_refl _
  | cons me schedule ih =>
      have rest := ih (orderly_act orderly me)
      rcases effort_act orderly me with lower | ⟨same, -⟩
      · exact Nat.le_trans rest (Nat.le_of_lt lower)
      · exact Nat.le_trans rest same

/-- Whoever lets a ready thread act sometime lowers the effort. -/
theorem effort_follow_lt (orderly : crew.Orderly sinks goal aims)
    {schedule : List ThreadId} (ready : crew.Ready me)
    (member : me ∈ schedule) :
    (crew.follow schedule).effort < crew.effort := by
  induction schedule generalizing crew with
  | nil => simp at member
  | cons first schedule ih =>
      have later := orderly_act orderly first
      rcases effort_act orderly first with lower | ⟨same, vain, kept⟩
      · exact Nat.lt_of_le_of_lt (effort_follow_le later schedule) lower
      · have rest : me ∈ schedule := by
          rcases List.mem_cons.mp member with rfl | rest
          · exact absurd ready vain
          · exact rest
        exact Nat.lt_of_lt_of_le (ih later (kept me ready) rest) same

/-- Where no effort is left, everything is done. -/
theorem isDone_of_effort (orderly : crew.Orderly sinks goal aims)
    (spent : crew.effort = 0) : crew.isDone = true := by
  by_contra busy
  obtain ⟨me, -, ready⟩ :=
    exists_ready orderly (Bool.eq_false_of_not_eq_true busy)
  have lower := effort_follow_lt orderly ready (List.mem_singleton_self me)
  omega

theorem length_follow (crew : Crew) (schedule : List ThreadId) :
    (crew.follow schedule).threads.length = crew.threads.length := by
  induction schedule generalizing crew with
  | nil => rfl
  | cons me schedule ih => exact (ih (crew.act me)).trans (length_act crew me)

/-- Every thread of a crew acts again and again. -/
def Fair (members : Nat) (turns : Nat → ThreadId) : Prop :=
  ∀ me < members, ∀ early, ∃ late, early ≤ late ∧ turns late = me

theorem Fair.drop {members : Nat} {turns : Nat → ThreadId}
    (fair : Fair members turns) (start : Nat) :
    Fair members fun moment => turns (start + moment) := by
  intro me member early
  obtain ⟨late, after, turn⟩ := fair me member (start + early)
  refine ⟨late - start, by omega, ?_⟩
  change turns (start + (late - start)) = me
  rwa [Nat.add_sub_cancel' (by omega)]

/-- The crew after so many turns of an infinite schedule. -/
def afterTurns (crew : Crew) (turns : Nat → ThreadId) (moment : Nat) : Crew :=
  crew.follow ((List.range moment).map turns)

theorem afterTurns_add (crew : Crew) (turns : Nat → ThreadId) (start more : Nat) :
    crew.afterTurns turns (start + more) =
      (crew.afterTurns turns start).afterTurns (fun moment => turns (start + moment))
        more := by
  simp [afterTurns, follow, List.range_add, Function.comp_def]

/-- Every fair schedule brings an orderly crew to its end. -/
theorem isDone_of_fair (orderly : crew.Orderly sinks goal aims)
    {turns : Nat → ThreadId} (fair : Fair crew.threads.length turns) :
    ∃ moment, (crew.afterTurns turns moment).isDone = true := by
  induction effort : crew.effort using Nat.strong_induction_on
    generalizing crew turns with
  | _ bound ih =>
      cases done : crew.isDone with
      | true => exact ⟨0, done⟩
      | false =>
          obtain ⟨me, member, ready⟩ := exists_ready orderly done
          obtain ⟨late, -, turn⟩ := fair me member 0
          have acts : me ∈ (List.range (late + 1)).map turns :=
            List.mem_map.mpr ⟨late, by simp, turn⟩
          have lower := effort_follow_lt orderly ready acts
          have size := length_follow crew ((List.range (late + 1)).map turns)
          obtain ⟨more, done⟩ := ih _ (effort ▸ lower)
            (orderly_follow orderly _) (size ▸ fair.drop (late + 1)) rfl
          exact ⟨late + 1 + more, by rwa [afterTurns_add]⟩

/-- Letting all threads act in turn brings an orderly crew to its end within as
many rounds as there is effort left. -/
theorem isDone_advance (orderly : crew.Orderly sinks goal aims) {rounds : Nat}
    (enough : crew.effort ≤ rounds) : (crew.advance rounds).isDone = true := by
  induction rounds generalizing crew with
  | zero => exact isDone_of_effort orderly (Nat.le_zero.mp enough)
  | succ rounds ih =>
      rw [advance]
      split
      · assumption
      · rename_i busy
        obtain ⟨me, member, ready⟩ :=
          exists_ready orderly (Bool.eq_false_of_not_eq_true busy)
        have lower := effort_follow_lt orderly ready (List.mem_range.mpr member)
        exact ih (orderly_follow orderly crew.members)
          (Nat.le_of_lt_succ (Nat.lt_of_lt_of_le lower enough))

theorem advance_eq_follow (rounds : Nat) (crew : Crew) :
    ∃ schedule, crew.advance rounds = crew.follow schedule := by
  induction rounds generalizing crew with
  | zero => exact ⟨[], rfl⟩
  | succ rounds ih =>
      rw [advance]
      split
      · exact ⟨[], rfl⟩
      · obtain ⟨schedule, same⟩ := ih (crew.follow crew.members)
        refine ⟨crew.members ++ schedule, ?_⟩
        rw [same, follow, follow, follow, List.foldl_append]

/-- A thread that has answered its client does nothing. -/
theorem act_of_rests {reply : Reply}
    (rests : crew.thread me = ⟨.answer reply, []⟩) : crew.act me = crew := by
  simp [act, rests, World.step]

theorem rests_act {reply : Reply} (rests : crew.thread you = ⟨.answer reply, []⟩)
    (me : ThreadId) : (crew.act me).thread you = ⟨.answer reply, []⟩ := by
  by_cases same : me = you
  · subst same
    rwa [act_of_rests rests]
  rcases act_cases crew me with ⟨idle, -⟩ | ⟨world, after, member, -, acted⟩
  · rwa [idle]
  · rwa [acted, thread_acted member, if_neg same]

theorem rests_follow {reply : Reply}
    (rests : crew.thread you = ⟨.answer reply, []⟩) (schedule : List ThreadId) :
    (crew.follow schedule).thread you = ⟨.answer reply, []⟩ := by
  induction schedule generalizing crew with
  | nil => exact rests
  | cons me schedule ih => exact ih (rests_act rests me)

theorem answered_of_isDone (done : crew.isDone = true) (me : ThreadId) :
    ∃ reply, crew.thread me = ⟨.answer reply, []⟩ := by
  by_cases member : me < crew.threads.length
  · refine Thread.answered_of_isDone (List.all_eq_true.mp done _ ?_)
    simp [Crew.thread, member]
  · exact ⟨.ok true, by simp [Crew.thread, Nat.le_of_not_lt member]⟩

theorem follow_of_isDone (done : crew.isDone = true)
    (schedule : List ThreadId) : crew.follow schedule = crew := by
  induction schedule with
  | nil => rfl
  | cons me schedule ih =>
      obtain ⟨reply, rests⟩ := answered_of_isDone done me
      rw [follow, List.foldl_cons, act_of_rests rests]
      exact ih

theorem sum_getD_le {α : Type} (size : α → Nat) (default : α)
    (empty : size default = 0) (items : List α) (count : Nat) :
    ∑ place ∈ Finset.range count, size (items.getD place default) ≤
      (items.map size).sum := by
  induction items generalizing count with
  | nil => simp [empty]
  | cons item items ih =>
      cases count with
      | zero => simp
      | succ count =>
          rw [Finset.sum_range_succ']
          have rest := ih count
          simp only [List.getD_cons_succ, List.getD_cons_zero, List.map_cons,
            List.sum_cons]
          omega

theorem foldl_add_eq {α : Type} (size : α → Nat) (items : List α)
    (start : Nat) :
    items.foldl (fun total item => total + size item) start =
      start + (items.map size).sum := by
  induction items generalizing start with
  | nil => simp
  | cons item items ih =>
      rw [List.foldl_cons, ih, List.map_cons, List.sum_cons, Nat.add_assoc]

/-- Threads that have only begun have no more to do than there is time for. -/
theorem effort_le_budget
    (fresh : ∀ me, crew.world.blueprint.threadCost (crew.thread me) ≤ 11)
    (few : crew.threads.length ≤ crew.world.unitCount + 1) :
    crew.effort ≤ crew.world.budget := by
  have levels (key : UnitKey) : (crew.unbegun key).card ≤ 8 :=
    Nat.le_trans (Finset.card_filter_le _ _) (List.toFinset_card_le Level.all)
  have owed : ∑ key ∈ Finset.range crew.world.unitCount, crew.owed key ≤
      ∑ key ∈ Finset.range crew.world.unitCount,
        (104 * crew.world.blueprint.fanout key + 136) := by
    refine Finset.sum_le_sum fun key _ => ?_
    refine Nat.le_trans (Nat.mul_le_mul_left _ (levels key)) ?_
    rw [Blueprint.rungCost]
    omega
  have threads : ∑ me ∈ Finset.range crew.threads.length,
      crew.world.blueprint.threadCost (crew.thread me) ≤
        crew.threads.length * 11 := by
    refine (Finset.sum_le_sum fun me _ => fresh me).trans_eq ?_
    simp
  have fanouts : ∑ key ∈ Finset.range crew.world.unitCount,
      crew.world.blueprint.fanout key ≤
        (crew.world.units.items.map fun unit => unit.dependencies.length).sum :=
    sum_getD_le (fun unit : LoadUnit => unit.dependencies.length) default rfl _ _
  rw [Finset.sum_add_distrib, ← Finset.mul_sum,
    Finset.sum_const_nat fun _ _ => rfl, Finset.card_range] at owed
  rw [effort, World.budget]
  simp only [foldl_add_eq, Nat.zero_add]
  generalize (crew.world.units.items.map fun unit =>
    unit.dependencies.length).sum = dependencies at fanouts ⊢
  generalize (crew.world.domains.items.map fun domain =>
    domain.listeners.length).sum = listeners
  generalize size : crew.world.unitCount + dependencies + listeners + 1 = total
  have square : total ≤ total * total := Nat.le_mul_self total
  have work := Nat.mul_le_mul_left 104 fanouts
  omega

end Crew

namespace Machine

/-- A machine as a crew of one thread. -/
def crew (machine : Machine) : Crew where
  world := machine.world
  threads := [machine.thread]

variable {goal : Level} {sinks : Sinks} {aims : ThreadId → Option UnitKey}

theorem step_of_step? {machine next : Machine} (step : machine.step? = some next) :
    machine.world.step mainThread machine.thread =
      some (next.world, next.thread) := by
  obtain ⟨result, stepped, rfl⟩ := Option.map_eq_some_iff.mp step
  exact stepped

theorem act_crew_of_step {machine next : Machine}
    (step : machine.step? = some next) :
    machine.crew.act mainThread = next.crew := by
  have thread : machine.crew.thread mainThread = machine.thread := rfl
  have world : machine.crew.world = machine.world := rfl
  rw [Crew.act, thread, world, step_of_step? step]
  rfl

theorem act_crew_of_stops {machine : Machine} (stops : machine.step? = none) :
    machine.crew.act mainThread = machine.crew := by
  have thread : machine.crew.thread mainThread = machine.thread := rfl
  have world : machine.crew.world = machine.world := rfl
  rw [Crew.act, thread, world, Option.map_eq_none_iff.mp stops]

theorem crew_advance (bound : Nat) (machine : Machine) :
    (machine.advance bound).crew =
      machine.crew.follow (List.replicate bound mainThread) := by
  induction bound generalizing machine with
  | zero => rfl
  | succ bound ih =>
      rw [List.replicate_succ, Crew.follow, List.foldl_cons]
      cases step : machine.step? with
      | none =>
          have stays : machine.advance bound = machine := by
            cases bound with
            | zero => rfl
            | succ bound => simp [advance, step]
          have rest := ih machine
          rw [stays] at rest
          simp only [advance, step]
          rw [act_crew_of_stops step]
          exact rest
      | some next =>
          simp only [advance, step]
          rw [act_crew_of_step step]
          exact ih next

/-- A machine that has enough time comes to its end. -/
theorem isDone_advance {machine : Machine} {bound : Nat}
    (orderly : machine.crew.Orderly sinks goal aims)
    (enough : machine.crew.effort ≤ bound) :
    (machine.advance bound).thread.isDone = true := by
  have done : (machine.crew.follow
      (List.replicate bound mainThread)).isDone = true := by
    have lone : machine.crew.threads.length = 1 := rfl
    generalize machine.crew = crew at orderly enough lone
    induction bound generalizing crew with
    | zero => exact Crew.isDone_of_effort orderly (Nat.le_zero.mp enough)
    | succ bound ih =>
        cases done : crew.isDone with
        | true => rwa [Crew.follow_of_isDone done]
        | false =>
            obtain ⟨me, member, ready⟩ := Crew.exists_ready orderly done
            have first : me = mainThread := by
              rw [lone] at member
              exact Nat.lt_one_iff.mp member
            subst first
            have lower := Crew.effort_follow_lt orderly ready
              (List.mem_singleton_self mainThread)
            exact ih (crew.act mainThread) (Crew.orderly_act orderly mainThread)
              (Nat.le_of_lt_succ (Nat.lt_of_lt_of_le lower enough))
              ((Crew.length_follow crew [mainThread]).trans lone)
  rw [← crew_advance] at done
  simpa [Crew.isDone, crew] using done

end Machine

end LoadLadder
