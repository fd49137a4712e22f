import LoadLadder.Proofs.Descents

/-!
# Crews on descents

Several threads that load units of one plan, each on a descent of its own.  They
meet at the load entries only.  A thread that is told it is in its own way has come
upon a unit that is being activated and that waits, maybe by way of other threads,
for what the thread itself is activating; so the unit leads back to it.
-/

namespace LoadLadder

open Relation

/-- The unit whose entry a thread sleeps for, if any. -/
def Thread.asleep (thread : Thread) : Option UnitKey :=
  match thread.task with
  | .drive key _ .blocked => some key
  | _ => none

theorem blocked_of_asleep {thread : Thread} {key : UnitKey}
    (asleep : thread.asleep = some key) :
    ∃ target stack, thread = ⟨.drive key target .blocked, stack⟩ := by
  obtain ⟨task, stack⟩ := thread
  unfold Thread.asleep at asleep
  split at asleep
  · rename_i drives
    cases asleep
    exact ⟨_, stack, congrArg (Thread.mk · stack) drives⟩
  · contradiction

namespace World

/-- What a step does to the load entries: nothing, or the thread asks for an entry,
or it gives one back. -/
inductive Contends (world : World) (me : ThreadId) :
    Thread → World → Thread → Prop
  | apart {thread after : Thread} {next : World}
      (entries : ∀ home,
        (next.domain home).entries = (world.domain home).entries)
      (holds : after.holds = thread.holds) (awake : thread.asleep = none)
      (stays : after.asleep = none) : Contends world me thread next after
  | asks {key : UnitKey} {target : Level} {phase : Phase} {entries : Entries}
      {verdict : Verdict} {stack : List Waiting}
      (asked : phase.asked (world.homeOf key).entries me (world.unit key).id =
        some (entries, verdict)) :
      Contends world me ⟨.drive key target phase, stack⟩
        (world.modifyEntries key fun _ => entries)
        ⟨afterRequest key target verdict, stack⟩
  | returns {key : UnitKey} {target : Level} {exit : Exit} {after : Thread}
      {stack : List Waiting}
      (holds : after.holds = stack.flatMap Waiting.holds)
      (awake : after.asleep = none) :
      Contends world me ⟨.drive key target (.release exit), stack⟩
        (world.releaseEntry key) after

variable {world next : World} {me : ThreadId} {thread after : Thread}
  {key : UnitKey} {target : Level} {stack : List Waiting}
  {aim : Option UnitKey} {goal : Level} {sinks : Sinks}

@[simp]
theorem asleep_ensure (through : DomainKey) (other : UnitKey)
    (target : Level) (stack : List Waiting) :
    Thread.asleep ⟨.ensure world through other target, stack⟩ = none := by
  unfold Task.ensure
  split
  · rfl
  · split <;> rfl

theorem contends_of_still (still : world.Still next)
    (holds : after.holds = thread.holds) (awake : thread.asleep = none)
    (stays : after.asleep = none) : world.Contends me thread next after :=
  .apart (fun home => (still.domain home).entries) holds awake stays

theorem contends_stepped (stepped : world.Stepped me thread next after) :
    world.Contends me thread next after := by
  cases stepped with
  | entered asks free taken asked => exact .asks asked
  | refused asks kept goes asked =>
      obtain ⟨verdict, asked, goes⟩ := asked
      rw [← goes]
      exact .asks asked
  | releasedAgain | releasedStop | releasedRaise => exact .returns rfl rfl
  | failed =>
      rw [recordFailure_fst]
      exact .apart (fun home => by simp) rfl rfl rfl
  | announces | announcedBefore =>
      exact contends_of_still (still_claim world _ _) rfl rfl rfl
  | @performed key level action rest next stack ordinary done =>
      by_cases publishes : action = .publish
      · subst publishes
        cases done
        exact .apart (fun home => rfl) rfl rfl rfl
      · have still := still_perform world key publishes
        rw [done] at still
        exact contends_of_still still rfl rfl rfl
  | @faulted key level action rest next fault stack done =>
      have quiet : action ≠ .publish := by
        rintro rfl
        simp [perform] at done
      have still := still_perform world key quiet
      rw [done] at still
      exact contends_of_still still rfl rfl rfl
  | initializes runs =>
      rcases runs with ⟨-, rfl⟩ | ⟨-, rfl⟩ <;>
        exact .apart (fun home => rfl) rfl rfl rfl
  | reported goes =>
      rcases goes with ⟨-, rfl⟩ | ⟨-, rfl⟩ <;>
        exact .apart (fun home => by split <;> rfl) rfl rfl rfl
  | @activates other dependency rest stack =>
      refine .apart (fun home => rfl) ?_ rfl (asleep_ensure _ _ _ _)
      simp [Thread.holds, Waiting.holds]
      rfl
  | _ => exact .apart (fun home => rfl) rfl rfl rfl

/-- A unit that waits on the stack of a descent leads to what is driven on top of
it. -/
theorem Delves.leads (delves : world.Delves aim goal key target stack) :
    ∀ held ∈ stack.flatMap Waiting.holds,
      world.blueprint.Leads held key ∧ world.blueprint.failAt held = none ∧
        .active ∈ stack.flatMap (Waiting.driving held) ∧
        ∃ user rest below, stack = .onDependency user rest :: below ∧
          world.blueprint.Leads held user := by
  induction delves with
  | outermost => simp
  | @within user dependency met rest gateLifted stack below sound split served
      ih =>
      have needs : world.blueprint.Needs user dependency := by
        rw [Blueprint.Needs, split]
        simp
      intro held member
      simp only [List.flatMap_cons, Waiting.holds, List.nil_append,
        List.singleton_append, List.mem_cons] at member
      rcases member with rfl | member
      · exact ⟨ReflTransGen.single needs, sound,
          by simp [Waiting.driving],
          _, _, _, rfl, ReflTransGen.refl⟩
      · obtain ⟨leads, healthy, drives, -⟩ := ih held member
        refine ⟨leads.tail needs, healthy, ?_, _, _, _, rfl, leads⟩
        simp only [List.flatMap_cons, List.mem_append]
        exact Or.inr (Or.inr (Or.inr drives))

/-- A unit that a step moves is driven by the thread that takes it. -/
theorem moved_of_driving (stepped : world.Stepped me thread next after)
    (chains : world.Chains thread) (key : UnitKey) :
    ((next.unit key).level = (world.unit key).level ∧
      (next.unit key).failure = (world.unit key).failure) ∨
    ∃ level, level ∈ thread.driving key := by
  rcases unit_moves_stepped stepped key with
    still | ⟨target, level, stack, rfl, -⟩ | ⟨level, rest, stack, rfl, -⟩ |
    ⟨target, level, fault, stack, rfl, -⟩
  · exact Or.inl ⟨still.level, still.failure⟩
  · exact Or.inr ⟨level, by simp [Thread.driving, Task.driving]⟩
  · exact Or.inr ⟨level, driving_of_midway chains (if_pos rfl)⟩
  · exact Or.inr ⟨level, by simp [Thread.driving, Task.driving]⟩

/-- A thread that drives a unit is not disturbed by those that do not. -/
theorem Steady.bystander {other : Thread} (steady : world.Steady other key)
    (stepped : world.Stepped me thread next after)
    (chains : world.Chains thread)
    (apart : ∀ one two : Level, one ∈ thread.driving key →
      two ∈ other.driving key → False) : next.Steady other key := by
  rcases moved_of_driving stepped chains key with
    ⟨level, failure⟩ | ⟨one, drives⟩
  · refine ⟨fun two driving => ?_, fun two driving => ?_⟩
    · rw [LoadUnit.isError, failure]
      exact steady.healthy two driving
    · rw [level]
      exact steady.standing two driving
  · exact ⟨fun two driving => (apart one two drives driving).elim,
      fun two driving => (apart one two drives driving).elim⟩

theorem loaded_of_driving_active (steady : world.Steady thread key)
    (driving : .active ∈ thread.driving key) :
    (world.unit key).level = .loaded := by
  rcases steady.standing .active driving with step | ⟨same, -⟩
  · have rank := Level.rank_of_next step
    exact Level.rank_injective (Nat.succ.inj rank.symm)
  · contradiction

/-- A driver stops driving a unit to a level only when the level is reached or the
unit has failed. -/
theorem driving_resolves (stepped : world.Stepped me thread next after)
    (delving : world.Delving aim goal thread) {level : Level}
    (driving : level ∈ thread.driving key) :
    level ∈ after.driving key ∨ level ≤ (next.unit key).level ∨
      (next.unit key).isError = true := by
  rcases undriven_stepped stepped driving with kept | succeeds | failed
  · exact Or.inl kept
  · cases succeeds with
    | answered =>
        cases stepped with
        | succeeded => exact Or.inl (by simp [Thread.driving, Task.driving])
        | abandoned =>
            cases delving with
            | answersDriver delves low ends =>
                rcases ends with ⟨success, -⟩ | ⟨fault, raised, -⟩
                · simp at success
                · contradiction
    | raising =>
        cases stepped with
        | raised =>
            refine Or.inr (Or.inl ?_)
            rw [level_raiseLevel, if_pos rfl]
            exact Level.le_max_right _ _
        | entered asks | refused asks => rcases asks with asks | asks <;> cases asks
  · exact Or.inr (Or.inr failed)

theorem Delving.delves {phase : Phase}
    (delving : world.Delving aim goal ⟨.drive key target phase, stack⟩) :
    world.Delves aim goal key target stack := by
  cases delving with
  | drives delves => exact delves

end World

namespace Crew

/-- The load entries as the threads of a crew contend for them. -/
def contention (crew : Crew) : Contention where
  entries := (crew.world.domain 0).entries
  asleep := fun me =>
    (crew.thread me).asleep.map fun key => (crew.world.unit key).id
  guards := fun me =>
    (crew.thread me).holds.map fun key => (crew.world.unit key).id

variable {crew : Crew} {world : World} {me you : ThreadId} {thread : Thread}
  {key : UnitKey} {target goal : Level} {sinks : Sinks}
  {aims : ThreadId → Option UnitKey}

/-- A step changes the crew, or it is the client's turn. -/
theorem act_cases (crew : Crew) (me : ThreadId) :
    (crew.act me = crew ∧ crew.world.step me (crew.thread me) = none) ∨
    ∃ world thread, me < crew.threads.length ∧
      crew.world.Stepped me (crew.thread me) world thread ∧
      crew.act me = { crew with world }.setThread me thread := by
  cases step : crew.world.step me (crew.thread me) with
  | none => exact Or.inl ⟨by simp [act, step], rfl⟩
  | some result =>
      obtain ⟨world, thread⟩ := result
      refine Or.inr ⟨world, thread, ?_, World.stepped_of_step step,
        by simp [act, step]⟩
      by_contra outside
      have idle : crew.thread me = {} := by
        simp [Crew.thread, Nat.le_of_not_lt outside]
      rw [idle] at step
      simp [World.step] at step

theorem contention_setThread (member : me < crew.threads.length)
    (ids : ∀ key, (world.unit key).id = (crew.world.unit key).id) :
    ({ crew with world }.setThread me thread).contention =
      { entries := (world.domain 0).entries
        asleep := Function.update crew.contention.asleep me
          (thread.asleep.map fun key => (crew.world.unit key).id)
        guards := Function.update crew.contention.guards me
          (thread.holds.map fun key => (crew.world.unit key).id) } := by
  simp only [contention, Contention.mk.injEq]
  refine ⟨rfl, ?_, ?_⟩
  · funext you
    rw [thread_acted member]
    change ((if me = you then thread else crew.thread you).asleep.map
      fun key => (world.unit key).id) = _
    simp only [ids]
    by_cases same : me = you
    · subst same
      simp
    · rw [if_neg same, Function.update_of_ne (Ne.symm same)]
  · funext you
    rw [thread_acted member]
    change ((if me = you then thread else crew.thread you).holds.map
      fun key => (world.unit key).id) = _
    simp only [ids]
    by_cases same : me = you
    · subst same
      simp
    · rw [if_neg same, Function.update_of_ne (Ne.symm same)]

/-- The thread's answer to a verdict on its request is what the contention says. -/
theorem receive_verdict {entries : Entries} {verdict : Verdict}
    {stack : List Waiting} {id : UnitId}
    (ids : (crew.world.unit key).id = id)
    (holds : crew.contention.guards me =
      (stack.flatMap Waiting.holds).map fun held =>
        (crew.world.unit held).id) :
    crew.contention.receive me id (entries, verdict) =
      { entries
        asleep := Function.update crew.contention.asleep me
          ((Thread.asleep ⟨World.afterRequest key target verdict, stack⟩).map
            fun key => (crew.world.unit key).id)
        guards := Function.update crew.contention.guards me
          ((Thread.holds ⟨World.afterRequest key target verdict, stack⟩).map
            fun key => (crew.world.unit key).id) } := by
  have kept : Function.update crew.contention.guards me
      ((stack.flatMap Waiting.holds).map fun held =>
        (crew.world.unit held).id) = crew.contention.guards := by
    rw [← holds, Function.update_eq_self]
  subst ids
  cases verdict with
  | acquired => rw [Contention.receive, holds]; rfl
  | reentrant | wouldDeadlock | blocked =>
      change _ = Contention.mk _ _ (Function.update _ _
        ((stack.flatMap Waiting.holds).map _))
      rw [kept]
      rfl

/-- What a step of a thread does to the contention for the entries of the only
domain: nothing, or one of its steps. -/
theorem contention_stepped {after : Thread}
    (home : ∀ key < crew.world.unitCount, (crew.world.unit key).home = 0)
    (supports : crew.world.Supports (crew.thread me))
    (member : me < crew.threads.length)
    (stepped : crew.world.Stepped me (crew.thread me) world after) :
    ({ crew with world }.setThread me after).contention = crew.contention ∨
      Contention.Step crew.contention
        ({ crew with world }.setThread me after).contention := by
  have ids (key : UnitKey) :
      (world.unit key).id = (crew.world.unit key).id :=
    (World.fixed_stepped stepped key).id
  rw [contention_setThread member ids]
  have contends := World.contends_stepped stepped
  generalize current : crew.thread me = thread at contends supports
  have asleep : crew.contention.asleep me =
      thread.asleep.map fun key => (crew.world.unit key).id := by
    rw [← current]
    rfl
  have guards : crew.contention.guards me =
      thread.holds.map fun key => (crew.world.unit key).id := by
    rw [← current]
    rfl
  cases contends with
  | apart entries holds awake stays =>
      refine Or.inl ?_
      rw [entries, holds, stays, ← guards, Function.update_eq_self,
        ← awake, ← asleep, Function.update_eq_self]
      rfl
  | @asks key target phase entries verdict stack asked =>
      have table : ((crew.world.modifyEntries key fun _ => entries).domain
          0).entries = entries := by
        rw [World.modifyEntries, World.domain_modifyDomain,
          home key supports.1, if_pos rfl]
      rw [World.homeOf, home key supports.1] at asked
      rw [table]
      refine Or.inr ?_
      cases phase with
      | acquire =>
          have result := Option.some.inj asked
          rw [← receive_verdict rfl guards, ← result]
          exact .ask _ asleep
      | blocked =>
          have result := Option.some.inj asked
          rw [← receive_verdict rfl guards, ← result]
          exact .retry asleep
      | _ => cases asked
  | @returns key target exit after stack holds awake =>
      have table : ((crew.world.releaseEntry key).domain 0).entries =
          (crew.world.domain 0).entries.release (crew.world.unit key).id := by
        rw [World.releaseEntry, World.modifyEntries, World.domain_modifyDomain,
          home key supports.1, if_pos rfl]
      have held : (crew.world.unit key).id ∈ crew.contention.guards me := by
        rw [guards]
        exact List.mem_map_of_mem List.mem_cons_self
      have step : Contention.Step crew.contention _ :=
        .surrender asleep held
      refine Or.inr ?_
      rw [table, holds, awake]
      convert step using 1
      simp only [Contention.surrender, Contention.mk.injEq]
      refine ⟨rfl, ?_, ?_⟩
      · exact Function.update_eq_self_iff.mpr asleep.symm
      · rw [guards]
        exact congrArg _ (List.erase_cons_head ..).symm

/-- What a crew's step does to the contention: nothing, or one of its steps. -/
theorem contention_act (watched : crew.world.Watched sinks)
    (supports : crew.world.Supports (crew.thread me)) :
    (crew.act me).contention = crew.contention ∨
      Contention.Step crew.contention (crew.act me).contention := by
  rcases act_cases crew me with
    ⟨idle, -⟩ | ⟨world, after, member, stepped, acted⟩
  · exact Or.inl (by rw [idle])
  · rw [acted]
    exact contention_stepped watched.home supports member stepped

/-- Every thread of a crew is on a descent of its own towards one goal, the load
entries say who holds and who waits for what, and every unit is where the blueprint
lets it be. -/
structure Orderly (crew : Crew) (sinks : Sinks) (goal : Level)
    (aims : ThreadId → Option UnitKey) : Prop where
  planned : crew.world.Planned sinks
  aimed : ∀ me root, aims me = some root →
    (crew.world.unit root).presence = .held
  supports : ∀ me, crew.world.Supports (crew.thread me)
  chains : ∀ me, crew.world.Chains (crew.thread me)
  delving : ∀ me, crew.world.Delving (aims me) goal (crew.thread me)
  steady : ∀ me key, crew.world.Steady (crew.thread me) key
  sound : crew.contention.Sound
  grounded : ∀ key, crew.world.Grounded key

theorem eq_of_id (planned : crew.world.Planned sinks) {other : UnitKey}
    (known : key < crew.world.unitCount)
    (knownOther : other < crew.world.unitCount)
    (same : (crew.world.unit key).id = (crew.world.unit other).id) :
    key = other := by
  rw [planned.numbered key known, planned.numbered other knownOther] at same
  exact Nat.succ.inj (congrArg UnitId.number same)

namespace Orderly

section

variable (orderly : crew.Orderly sinks goal aims)

include orderly

/-- Two threads never hold one entry. -/
theorem same_thread (mine : key ∈ (crew.thread me).holds)
    (yours : key ∈ (crew.thread you).holds) : me = you := by
  have owner (member : ThreadId) (holds : key ∈ (crew.thread member).holds) :=
    (orderly.sound.owns (crew.world.unit key).id member).mpr
      (List.mem_map_of_mem holds)
  exact Option.some.inj ((owner me mine).symm.trans (owner you yours))

theorem count_le (me : ThreadId) (key : UnitKey) :
    (crew.thread me).holds.count key ≤ 1 :=
  List.nodup_iff_count_le_one.mp
    ((orderly.sound.guards_nodup me).of_map _) key

/-- Whoever owns the entry of a unit holds it. -/
theorem holds_of_owner (known : key < crew.world.unitCount)
    (owned : (crew.world.domain 0).entries.owner? (crew.world.unit key).id =
      some me) : key ∈ (crew.thread me).holds := by
  have guard := (orderly.sound.owns (crew.world.unit key).id me).mp owned
  obtain ⟨held, holds, same⟩ := List.mem_map.mp guard
  have knownHeld := World.known_of_holds (orderly.supports me) holds
  rwa [eq_of_id orderly.planned knownHeld known same] at holds

/-- A unit that waits for its dependencies on a thread's stack, below what the
thread drives. -/
theorem waits_of_holds {target : Level} {phase : Phase} {stack : List Waiting}
    {driven : UnitKey}
    (current : crew.thread me = ⟨.drive driven target phase, stack⟩)
    (outside : Task.holds (.drive driven target phase) = [])
    (holds : key ∈ (crew.thread me).holds) :
    crew.world.blueprint.failAt key = none ∧
      .loaded ≤ (crew.world.unit key).level ∧
      crew.world.blueprint.Leads key driven ∧
      ∃ user rest below, stack = .onDependency user rest :: below ∧
        crew.world.blueprint.Leads key user := by
  have delving := orderly.delving me
  rw [current] at delving
  have member : key ∈ stack.flatMap Waiting.holds := by
    rwa [current, Thread.holds, outside] at holds
  obtain ⟨leads, healthy, drives, user⟩ := delving.delves.leads key member
  have level := World.loaded_of_driving_active (orderly.steady me key) (by
    rw [current]
    exact List.mem_append_right _ drives)
  exact ⟨healthy, level ▸ Nat.le_refl _, leads, user⟩

/-- From a unit on which the walk through the entries comes back to a thread, the
dependencies lead to a unit that the thread holds. -/
theorem leads_of_meets {entries : Entries} {driven : UnitKey} {target : Level}
    {phase : Phase} {stack : List Waiting} {hops : Nat}
    (current : crew.thread me = ⟨.drive driven target phase, stack⟩)
    (outside : Task.holds (.drive driven target phase) = [])
    (owners : entries.owners = (crew.world.domain 0).entries.owners)
    (waits : ∀ you id, entries.waitsFor? you = some id →
      crew.contention.asleep you = some id)
    (known : key < crew.world.unitCount)
    (meets : entries.Meets me (crew.world.unit key).id hops) :
    crew.world.blueprint.failAt key = none ∧
      .loaded ≤ (crew.world.unit key).level ∧
      ∃ held ∈ (crew.thread me).holds, crew.world.blueprint.Leads key held := by
  have owner (id : UnitId) :
      entries.owner? id = (crew.world.domain 0).entries.owner? id := by
    rw [Entries.owner?, owners, Entries.owner?]
  -- Each hop of the walk goes from a unit to one that its owner sleeps for, and
  -- the owner's stack says that the first leads to the second.
  induction hops generalizing key with
  | zero =>
      rw [Entries.meets_zero, owner] at meets
      have holds := orderly.holds_of_owner known meets
      obtain ⟨healthy, loaded, -⟩ :=
        orderly.waits_of_holds current outside holds
      exact ⟨healthy, loaded, key, holds, ReflTransGen.refl⟩
  | succ hops ih =>
      obtain ⟨awaited, hop, meets⟩ := Entries.meets_succ.mp meets
      obtain ⟨you, owned, sleeps⟩ := Option.bind_eq_some_iff.mp hop
      have asleep := waits you awaited sleeps
      rw [owner] at owned
      have holds := orderly.holds_of_owner known owned
      obtain ⟨other, drives, rfl⟩ := Option.map_eq_some_iff.mp asleep
      obtain ⟨top, below, blocked⟩ := blocked_of_asleep drives
      obtain ⟨healthy, loaded, leads, -⟩ :=
        orderly.waits_of_holds blocked rfl holds
      have knownOther : other < crew.world.unitCount := by
        have supports := orderly.supports you
        rw [blocked] at supports
        exact supports.1
      obtain ⟨-, -, held, mine, further⟩ := ih knownOther meets
      exact ⟨healthy, loaded, held, mine, leads.trans further⟩

/-- Whoever is told that it is in its own way has come back to a unit that waits
on its own stack. -/
theorem turns (me : ThreadId) : crew.world.Turns me (crew.thread me) := by
  intro key target phase stack entries verdict current asked own
  have known : key < crew.world.unitCount := by
    have supports := orderly.supports me
    rw [current] at supports
    exact supports.1
  rw [orderly.planned.watched.homeOf known] at asked
  have waits := orderly.sound.waits
  have finish (table : Entries)
      (outside : Task.holds (.drive key target phase) = [])
      (owners : table.owners = (crew.world.domain 0).entries.owners)
      (sleeps : ∀ you id, table.waitsFor? you = some id →
        crew.contention.asleep you = some id)
      (request : table.request me (crew.world.unit key).id =
        (entries, verdict)) : crew.world.Halted key stack := by
    have meets : ∃ hops, table.Meets me (crew.world.unit key).id hops := by
      rcases table.request_cases me (crew.world.unit key).id with
        ⟨-, result⟩ | ⟨owned, -⟩ | ⟨closes, -⟩ | ⟨-, -, result⟩
      · rw [request] at result
        rcases own with rfl | rfl <;> cases result
      · exact ⟨0, Entries.meets_zero.mpr owned⟩
      · exact Entries.wouldDeadlock_iff_meets.mp closes
      · rw [request] at result
        rcases own with rfl | rfl <;> cases result
    obtain ⟨hops, meets⟩ := meets
    obtain ⟨healthy, loaded, held, holds, leads⟩ :=
      orderly.leads_of_meets current outside owners sleeps known meets
    obtain ⟨-, -, -, user, rest, below, same, further⟩ :=
      orderly.waits_of_holds current outside holds
    exact ⟨user, rest, below, same, ⟨healthy, leads.trans further⟩, loaded⟩
  cases phase with
  | acquire =>
      exact finish _ rfl rfl
        (fun you id sleeps => (waits you).symm.trans sleeps)
        (Option.some.inj asked)
  | blocked =>
      refine finish ((crew.world.domain 0).entries.stopWaiting me) rfl rfl
        (fun you id sleeps => ?_) (Option.some.inj asked)
      rw [Entries.waitsFor?_stopWaiting] at sleeps
      split at sleeps
      · contradiction
      · exact (waits you).symm.trans sleeps
  | _ => cases asked

end

end Orderly

/-- The threads of an orderly crew after one of them has acted. -/
theorem orderly_act (orderly : crew.Orderly sinks goal aims) (me : ThreadId) :
    (crew.act me).Orderly sinks goal aims := by
  have sound : (crew.act me).contention.Sound := by
    rcases contention_act orderly.planned.watched (orderly.supports me) with
      same | step
    · exact same ▸ orderly.sound
    · exact Contention.sound_step step orderly.sound
  rcases act_cases crew me with
    ⟨idle, -⟩ | ⟨world, after, member, stepped, acted⟩
  · rwa [idle]
  rw [acted] at sound ⊢
  have proceeds := World.proceeds_stepped stepped
  have grows := World.grows_stepped stepped
  have watched := orderly.planned.watched
  have supports := orderly.supports me
  have chains := orderly.chains me
  have steady := orderly.steady me
  refine ⟨World.planned_stepped orderly.planned stepped, ?_, ?_, ?_, ?_, ?_,
    sound, ?_⟩
  · intro you root sought
    exact (proceeds.fixed root).presence.trans (orderly.aimed you root sought)
  · intro you
    rw [thread_acted member]
    split
    · exact World.supports_stepped stepped orderly.planned.rooted supports
    · exact (orderly.supports you).grows grows
  · intro you
    rw [thread_acted member]
    split
    · exact World.chains_stepped stepped watched supports chains
    · exact (orderly.chains you).grows (orderly.supports you) grows
  · intro you
    rw [thread_acted member]
    split
    · rename_i same
      subst same
      exact World.delving_stepped stepped orderly.planned orderly.grounded
        supports chains steady (orderly.turns me) (orderly.delving me)
    · exact (orderly.delving you).later proceeds
  · intro you key
    rw [thread_acted member]
    split
    · exact World.steady_stepped stepped chains (orderly.count_le me key)
        (steady key)
    · -- No two threads drive one unit, since its driver holds the entry.
      rename_i other
      exact (orderly.steady you key).bystander stepped chains fun one two
        drives driving => other (orderly.same_thread
          (Thread.holds_of_driving drives) (Thread.holds_of_driving driving))
  · exact World.grounded_stepped stepped orderly.planned orderly.grounded
      chains steady (orderly.aimed me) (orderly.delving me)

theorem orderly_follow (orderly : crew.Orderly sinks goal aims)
    (schedule : List ThreadId) :
    (crew.follow schedule).Orderly sinks goal aims := by
  induction schedule generalizing crew with
  | nil => exact orderly
  | cons me schedule ih => exact ih (orderly_act orderly me)

end Crew

end LoadLadder
