import LoadLadder.Proofs.CrewProgress

/-!
# Worlds at rest

Between loads no entry is owned, everything recorded has been told to its end, and
the registry has the units that have begun to climb.  A crew that sets out from
such a world leaves one behind when it has come to its end, and then each thread
knows how far the unit is that it was sent for.
-/

namespace LoadLadder

open Relation

namespace World

/-- Nobody is loading anything in the world. -/
structure Rested (world : World) (sinks : Sinks) : Prop where
  planned : world.Planned sinks
  grounded : ∀ key, world.Grounded key
  named : world.Named
  decoded : world.AllUnits LoadUnit.Decoded
  spoken : ∀ key < world.unitCount, world.Speaks sinks {} key
  unowned : ∀ id, (world.domain 0).entries.owner? id = none
  unwaiting : ∀ me, (world.domain 0).entries.waitsFor? me = none
  proper : ∀ entry ∈ (world.domain 0).registry,
    ∃ key < world.unitCount, entry = (⟨key + 1⟩, key)
  once : (world.domain 0).registry.Nodup
  enlists : ∀ key, world.Enlists key ↔ .begun ≤ (world.unit key).level

variable {world next : World} {thread : Thread} {key : UnitKey}
  {goal : Level} {sinks : Sinks}

theorem Speaks.of_resting (speaks : world.Speaks sinks {} key)
    (quiet : thread.Quiet key) : world.Speaks sinks thread key where
  told := by
    obtain ⟨telling, told⟩ := speaks.told
    exact ⟨telling, told_of_quiet told ⟨rfl, rfl⟩ quiet⟩
  heard := by
    refine ⟨speaks.heard.active, fun active free => ?_, fun pending => ?_⟩
    · exact absurd (speaks.heard.unannounced active free).1
        (by simp [Thread.nears])
    · exact absurd quiet.untold pending

theorem Speaks.rests {reply : Reply}
    (speaks : world.Speaks sinks ⟨.answer reply, []⟩ key) :
    world.Speaks sinks {} key where
  told := by
    obtain ⟨telling, told⟩ := speaks.told
    exact ⟨telling, told_of_quiet told
      ⟨midway_answer .bottom (by simp), rfl⟩ ⟨rfl, rfl⟩⟩
  heard := by
    refine ⟨speaks.heard.active, fun active free => ?_, fun pending => ?_⟩
    · exact absurd (speaks.heard.unannounced active free).1
        (by simp [Thread.nears])
    · exact absurd rfl pending

/-- What has been recorded about a unit at rest. -/
theorem Rested.traced (rested : world.Rested sinks)
    (known : key < world.unitCount) :
    world.eventsOf key = canonicalTrace sinks (world.unit key) := by
  obtain ⟨⟨telling, told⟩, heard⟩ := rested.spoken key known
  exact eventsOf_of_told told heard rested.planned.watched
    rested.planned.recorded known rfl rfl rfl

/-- A thread that is sent for a unit of the first domain, or has nothing to do. -/
inductive SetsOut (world : World) (goal : Level) (thread : Thread) :
    Option UnitKey → Prop
  | resting {reply : Reply} (rests : thread = ⟨.answer reply, []⟩) :
      SetsOut world goal thread none
  | sent {key : UnitKey} (known : key < world.unitCount)
      (held : (world.unit key).presence = .held)
      (begins : thread = ⟨.ensure world 0 key goal, []⟩) :
      SetsOut world goal thread (some key)

variable {aim : Option UnitKey}

theorem SetsOut.supports (sets : world.SetsOut goal thread aim) :
    world.Supports thread := by
  cases sets with
  | resting rests => exact rests ▸ ⟨.drive, .driveOutside⟩
  | sent known held begins => exact begins ▸ supports_ensure known .driveOutside

theorem SetsOut.chains (sets : world.SetsOut goal thread aim) :
    world.Chains thread := by
  cases sets with
  | resting rests => exact rests ▸ ⟨.drive, .bottom⟩
  | sent known held begins => exact begins ▸ chains_ensure .bottom

theorem SetsOut.quiet (sets : world.SetsOut goal thread aim) (key : UnitKey) :
    thread.Quiet key := by
  cases sets with
  | resting rests => exact rests ▸ ⟨midway_answer .bottom (by simp), rfl⟩
  | sent known held begins => exact begins ▸ ⟨midway_ensure .bottom, untold_ensure⟩

theorem SetsOut.undriven (sets : world.SetsOut goal thread aim) (key : UnitKey) :
    thread.driving key = [] := by
  cases sets with
  | resting rests => exact rests ▸ rfl
  | sent known held begins =>
      subst begins
      simp [Thread.driving]

theorem SetsOut.free (sets : world.SetsOut goal thread aim) :
    thread.holds = [] ∧ thread.asleep = none := by
  cases sets with
  | resting rests => exact rests ▸ ⟨rfl, rfl⟩
  | sent known held begins =>
      subst begins
      exact ⟨by simp [Thread.holds], asleep_ensure ..⟩

theorem SetsOut.cost (sets : world.SetsOut goal thread aim) (plan : Blueprint) :
    plan.threadCost thread ≤ 11 := by
  cases sets with
  | resting rests =>
      subst rests
      simp [Blueprint.threadCost, Blueprint.taskCost]
  | sent known held begins =>
      subst begins
      exact Blueprint.taskCost_ensure ..

theorem SetsOut.delving (sets : world.SetsOut goal thread aim)
    (planned : world.Planned sinks) : world.Delving aim goal thread := by
  cases sets with
  | resting rests => exact rests ▸ .answersClient (by simp)
  | @sent key known held begins =>
      subst begins
      have native : world.checkDomain 0 key = .ok () :=
        if_pos (planned.watched.home key known)
      simp only [Task.ensure, native]
      split
      · exact .drives (.outermost rfl) trivial
      · rename_i high
        have top : ¬ (world.unit key).level < .active := by
          simpa [LoadUnit.isLoading] using high
        have reached : goal ≤ (world.unit key).level := by
          rw [LoadUnit.eq_active_of_isActive
            (decide_eq_true (Nat.not_lt.mp top))]
          exact Nat.not_lt.mp (not_active_lt goal)
        refine .answersClient fun root sought => ?_
        cases sought
        rw [clear_of_reached reached]
        exact Or.inl ⟨⟨true, rfl⟩, reached⟩

theorem Proceeds.refl (world : World) : world.Proceeds world :=
  ⟨rfl, fun key => .refl (world.unit key), fun key => .refl (world.unit key)⟩

theorem Proceeds.trans {first second third : World}
    (before : first.Proceeds second) (after : second.Proceeds third) :
    first.Proceeds third where
  count := after.count.trans before.count
  fixed := fun key => (before.fixed key).trans (after.fixed key)
  grows := fun key => (before.grows key).trans (after.grows key)

end World

namespace Crew

/-- All that is known about a crew that loads a plan. -/
structure Tended (crew : Crew) (sinks : Sinks) (goal : Level)
    (aims : ThreadId → Option UnitKey) : Prop where
  orderly : crew.Orderly sinks goal aims
  recounted : crew.Recounted sinks
  enlisted : crew.Enlisted

variable {crew : Crew} {world : World} {key : UnitKey} {goal : Level}
  {sinks : Sinks} {aims : ThreadId → Option UnitKey}

theorem tended_act (tended : crew.Tended sinks goal aims) (me : ThreadId) :
    (crew.act me).Tended sinks goal aims where
  orderly := orderly_act tended.orderly me
  recounted := recounted_act tended.orderly tended.recounted me
  enlisted := enlisted_act tended.orderly tended.enlisted me

/-- What a step of a tended crew keeps, a schedule keeps. -/
theorem follow_induction (holds : Crew → Prop)
    (step : ∀ crew : Crew, crew.Tended sinks goal aims → holds crew → ∀ me,
      holds (crew.act me))
    (tended : crew.Tended sinks goal aims) (start : holds crew)
    (schedule : List ThreadId) : holds (crew.follow schedule) := by
  induction schedule generalizing crew with
  | nil => exact start
  | cons me schedule ih =>
      exact ih (tended_act tended me) (step crew tended start me)

theorem tended_follow (tended : crew.Tended sinks goal aims)
    (schedule : List ThreadId) :
    (crew.follow schedule).Tended sinks goal aims := by
  induction schedule generalizing crew with
  | nil => exact tended
  | cons me schedule ih => exact ih (tended_act tended me)

theorem proceeds_act (crew : Crew) (me : ThreadId) :
    crew.world.Proceeds (crew.act me).world := by
  rcases act_cases crew me with
    ⟨idle, -⟩ | ⟨world, after, member, stepped, acted⟩
  · rw [idle]
    exact .refl _
  · rw [acted]
    exact World.proceeds_stepped stepped

theorem proceeds_follow (crew : Crew) (schedule : List ThreadId) :
    crew.world.Proceeds (crew.follow schedule).world := by
  induction schedule generalizing crew with
  | nil => exact .refl _
  | cons me schedule ih => exact (proceeds_act crew me).trans (ih (crew.act me))

/-- Every thread of a crew sets out. -/
def Starts (crew : Crew) (goal : Level) (aims : ThreadId → Option UnitKey) :
    Prop :=
  ∀ me, crew.world.SetsOut goal (crew.thread me) (aims me)

theorem sound_of_starts (rested : crew.world.Rested sinks)
    (starts : crew.Starts goal aims) : crew.contention.Sound := by
  have guards (me : ThreadId) : crew.contention.guards me = [] := by
    simp [contention, (starts me).free.1]
  have empty : (crew.world.domain 0).entries.owners = [] := by
    cases owners : (crew.world.domain 0).entries.owners with
    | nil => rfl
    | cons owned rest =>
        have free := rested.unowned owned.1
        simp [Entries.owner?, owners] at free
  refine ⟨fun me => ?_, fun id me => ?_, fun me => ?_, ?_, fun me chain => ?_⟩
  · refine (rested.unwaiting me).trans ?_
    simp [contention, (starts me).free.2]
  · rw [guards]
    simp [contention, rested.unowned]
  · rw [guards]
    exact List.nodup_nil
  · change (List.map _ (crew.world.domain 0).entries.owners).Nodup
    rw [empty]
    exact List.nodup_nil
  · obtain ⟨second, ⟨unit, -, owned⟩, -⟩ := TransGen.head'_iff.mp chain
    have free : (crew.world.domain 0).entries.owner? unit = some second := owned
    rw [rested.unowned] at free
    contradiction

theorem orderly_of_starts (rested : crew.world.Rested sinks)
    (starts : crew.Starts goal aims) : crew.Orderly sinks goal aims where
  planned := rested.planned
  aimed := by
    intro me root sought
    have sets := starts me
    rw [sought] at sets
    cases sets with
    | sent known held begins => exact held
  supports := fun me => (starts me).supports
  chains := fun me => (starts me).chains
  delving := fun me => (starts me).delving rested.planned
  steady := fun me key => by
    have undriven := (starts me).undriven key
    exact ⟨by simp [undriven], by simp [undriven]⟩
  sound := sound_of_starts rested starts
  grounded := rested.grounded

/-- A crew that sets out from a world at rest is tended. -/
theorem tended_of_starts (rested : crew.world.Rested sinks)
    (starts : crew.Starts goal aims) : crew.Tended sinks goal aims where
  orderly := orderly_of_starts rested starts
  recounted := ⟨rested.named, rested.decoded, fun key known =>
    ⟨0, (rested.spoken key known).of_resting ((starts 0).quiet key),
      fun you _ => (starts you).quiet key⟩⟩
  enlisted := by
    refine ⟨rested.proper, rested.once, fun key there => ?_, fun key high => ?_,
      fun me key rest midway => ?_⟩
    · exact Or.inl ((rested.enlists key).mp there)
    · exact (rested.enlists key).mpr high
    · rw [((starts me).quiet key).midway] at midway
      contradiction

section

variable {me : ThreadId} {thread : Thread} {reply : Reply}
  {aim : Option UnitKey}

theorem thread_setThread (member : me < crew.threads.length) (thread : Thread)
    (you : ThreadId) : (crew.setThread me thread).thread you =
      if me = you then thread else crew.thread you :=
  thread_acted member crew.world thread you

variable (rests : crew.thread me = ⟨.answer reply, []⟩)
  (sets : crew.world.SetsOut goal thread aim) (member : me < crew.threads.length)

include rests sets member

theorem contention_of_setsOut :
    (crew.setThread me thread).contention = crew.contention := by
  have asleep : crew.contention.asleep me = none := by
    simp [contention, rests, Thread.asleep]
  have guards : crew.contention.guards me = [] := by
    simp [contention, rests, Thread.holds, Task.holds]
  refine (contention_setThread member fun key => rfl).trans ?_
  rw [sets.free.1, sets.free.2]
  simp only [Option.map_none, List.map_nil]
  rw [← asleep, ← guards, Function.update_eq_self, Function.update_eq_self]
  rfl

theorem orderly_of_setsOut (orderly : crew.Orderly sinks goal aims) :
    (crew.setThread me thread).Orderly sinks goal
      (Function.update aims me aim) := by
  have acted := thread_setThread member thread
  refine ⟨orderly.planned, fun you root sought => ?_, fun you => ?_,
    fun you => ?_, fun you => ?_, fun you key => ?_, ?_, orderly.grounded⟩
  · by_cases same : you = me
    · rw [same, Function.update_self] at sought
      subst sought
      cases sets with
      | sent known held begins => exact held
    · rw [Function.update_of_ne same] at sought
      exact orderly.aimed you root sought
  · rw [acted]
    split
    · exact sets.supports
    · exact orderly.supports you
  · rw [acted]
    split
    · exact sets.chains
    · exact orderly.chains you
  · rw [acted]
    split
    · rename_i same
      rw [← same, Function.update_self]
      exact sets.delving orderly.planned
    · rename_i other
      rw [Function.update_of_ne (Ne.symm other)]
      exact orderly.delving you
  · rw [acted]
    split
    · have undriven := sets.undriven key
      exact ⟨by simp [undriven], by simp [undriven]⟩
    · exact orderly.steady you key
  · rw [contention_of_setsOut rests sets member]
    exact orderly.sound

/-- A thread that has been idle so far may set out at any time. -/
theorem tended_of_setsOut (tended : crew.Tended sinks goal aims) :
    (crew.setThread me thread).Tended sinks goal
      (Function.update aims me aim) := by
  have acted := thread_setThread member thread
  obtain ⟨orderly, recounted, enlisted⟩ := tended
  refine ⟨orderly_of_setsOut rests sets member orderly,
    ⟨recounted.named, recounted.decoded, fun key known => ?_⟩,
    ⟨enlisted.proper, enlisted.once, fun key there => ?_, enlisted.begun,
      fun you key rest midway => ?_⟩⟩
  · obtain ⟨teller, speaks, quiet⟩ := recounted.spoken key known
    refine ⟨teller, ?_, fun you other => ?_⟩
    · rw [acted]
      split
      · rename_i same
        rw [← same, rests] at speaks
        exact speaks.rests.of_resting (sets.quiet key)
      · exact speaks
    · rw [acted]
      split
      · exact sets.quiet key
      · exact quiet you other
  · rcases enlisted.started key there with high | ⟨you, driving⟩
    · exact Or.inl high
    · refine Or.inr ⟨you, ?_⟩
      rw [acted]
      split
      · rename_i same
        rw [← same, rests] at driving
        simp [Thread.driving, Task.driving] at driving
      · exact driving
  · rw [acted] at midway
    split at midway
    · rw [(sets.quiet key).midway] at midway
      contradiction
    · exact enlisted.midway you key rest midway

end

/-- When all threads of a tended crew are done, the world is at rest. -/
theorem rested_of_isDone (tended : crew.Tended sinks goal aims)
    (done : crew.isDone = true) : crew.world.Rested sinks := by
  obtain ⟨orderly, recounted, enlisted⟩ := tended
  have rests := answered_of_isDone done
  refine ⟨orderly.planned, orderly.grounded, recounted.named,
    recounted.decoded, fun key known => ?_, fun id => ?_, fun me => ?_,
    enlisted.proper, enlisted.once, fun key => ⟨fun there => ?_, ?_⟩⟩
  · obtain ⟨me, speaks, -⟩ := recounted.spoken key known
    obtain ⟨reply, rest⟩ := rests me
    rw [rest] at speaks
    exact speaks.rests
  · by_contra owned
    obtain ⟨me, owned⟩ := Option.ne_none_iff_exists'.mp owned
    have guard := (orderly.sound.owns id me).mp owned
    obtain ⟨reply, rest⟩ := rests me
    simp [contention, rest, Thread.holds, Task.holds] at guard
  · refine (orderly.sound.waits me).trans ?_
    obtain ⟨reply, rest⟩ := rests me
    simp [contention, rest, Thread.asleep]
  · rcases enlisted.started key there with high | ⟨me, driving⟩
    · exact high
    · obtain ⟨reply, rest⟩ := rests me
      simp [rest, Thread.driving, Task.driving] at driving
  · exact enlisted.begun key

/-- A thread that is done knows how far its unit is. -/
theorem answers_of_rests (tended : crew.Tended sinks goal aims)
    {me : ThreadId} {reply : Reply}
    (rests : crew.thread me = ⟨.answer reply, []⟩) (aimed : aims me = some key) :
    crew.world.Answers key goal reply := by
  have delving := tended.orderly.delving me
  rw [rests] at delving
  cases delving with
  | answersClient answers => exact answers key aimed

end Crew

namespace World

/-- A crew that sets out from a world for a goal comes to its end in the next
one. -/
def Load (goal : Level) (world next : World) : Prop :=
  ∃ (crew : Crew) (aims : ThreadId → Option UnitKey)
    (schedule : List ThreadId), crew.world = world ∧ crew.Starts goal aims ∧
      (crew.follow schedule).isDone = true ∧
      (crew.follow schedule).world = next

/-- Some crews have set out one after the other. -/
def Loads (goal : Level) : World → World → Prop :=
  ReflTransGen (Load goal)

variable {world next : World} {key : UnitKey} {goal : Level} {sinks : Sinks}

theorem Load.rested (load : world.Load goal next)
    (rested : world.Rested sinks) : next.Rested sinks := by
  obtain ⟨crew, aims, schedule, rfl, starts, done, rfl⟩ := load
  have tended := Crew.tended_follow (Crew.tended_of_starts rested starts) schedule
  exact Crew.rested_of_isDone tended done

theorem Load.proceeds (load : world.Load goal next) : world.Proceeds next := by
  obtain ⟨crew, aims, schedule, rfl, -, -, rfl⟩ := load
  exact Crew.proceeds_follow crew schedule

theorem Loads.rested (loads : world.Loads goal next)
    (rested : world.Rested sinks) : next.Rested sinks := by
  induction loads with
  | refl => exact rested
  | tail _ load ih => exact load.rested ih

theorem Loads.proceeds (loads : world.Loads goal next) :
    world.Proceeds next := by
  induction loads with
  | refl => exact .refl world
  | tail _ load ih => exact ih.trans load.proceeds

/-- What every step of a tended crew keeps holds of a world at rest, however often
units have been loaded before. -/
theorem Loads.induction (holds : World → Prop)
    (step : ∀ (crew : Crew) (aims : ThreadId → Option UnitKey),
      crew.Tended sinks goal aims → holds crew.world → ∀ me,
        holds (crew.act me).world)
    (loads : world.Loads goal next) (rested : world.Rested sinks)
    (start : holds world) : holds next := by
  induction loads with
  | refl => exact start
  | tail loads load ih =>
      obtain ⟨crew, aims, schedule, rfl, starts, -, rfl⟩ := load
      have tended := Crew.tended_of_starts (Loads.rested loads rested) starts
      exact Crew.follow_induction (fun crew => holds crew.world)
        (fun crew tended start me => step crew aims tended start me) tended ih
        schedule

end World

namespace Machine

variable {machine : Machine} {key : UnitKey} {goal : Level} {sinks : Sinks}
  {aim : Option UnitKey}

/-- A machine whose thread sets out is a crew that starts. -/
theorem starts_of_setsOut
    (sets : machine.world.SetsOut goal machine.thread aim) :
    ∃ aims, machine.crew.Starts goal aims ∧ aims mainThread = aim := by
  refine ⟨Function.update (fun _ => none) mainThread aim, fun me => ?_,
    Function.update_self ..⟩
  cases me with
  | zero => exact sets
  | succ me => exact .resting rfl

theorem crew_run (machine : Machine) : machine.run.crew =
    machine.crew.follow (List.replicate machine.world.budget mainThread) :=
  crew_advance machine.world.budget machine

/-- A machine that is left to run comes to its end. -/
theorem isDone_run (rested : machine.world.Rested sinks)
    {aims : ThreadId → Option UnitKey} (starts : machine.crew.Starts goal aims) :
    machine.run.crew.isDone = true := by
  have enough : machine.crew.effort ≤ machine.world.budget :=
    Crew.effort_le_budget (fun me => (starts me).cost _) (Nat.le_add_left ..)
  have rests : machine.run.thread.isDone = true :=
    isDone_advance (Crew.orderly_of_starts rested starts) enough
  simpa [Crew.isDone, crew] using rests

/-- To leave a machine to run is to load. -/
theorem load_run (rested : machine.world.Rested sinks)
    (sets : machine.world.SetsOut goal machine.thread aim) :
    machine.world.Load goal machine.run.world ∧
      ∀ key, aim = some key → ∃ reply,
        machine.run.thread = ⟨.answer reply, []⟩ ∧
          machine.run.world.Answers key goal reply := by
  obtain ⟨aims, starts, sought⟩ := starts_of_setsOut sets
  have done := isDone_run rested starts
  have ended := machine.crew_run
  have tended := Crew.tended_follow (Crew.tended_of_starts rested starts)
    (List.replicate machine.world.budget mainThread)
  rw [← ended] at tended
  refine ⟨⟨machine.crew, aims, List.replicate machine.world.budget mainThread,
    rfl, starts, ?_, ?_⟩, fun key aimed => ?_⟩
  · rwa [← ended]
  · rw [← ended]
    rfl
  · obtain ⟨reply, rests⟩ := Crew.answered_of_isDone done mainThread
    exact ⟨reply, rests,
      Crew.answers_of_rests tended rests (sought.trans aimed)⟩

/-- To ensure a level of a unit is to send one thread for it. -/
theorem load_ensure {world : World} (rested : world.Rested sinks)
    (known : key < world.unitCount) (held : (world.unit key).presence = .held) :
    world.Load goal (Machine.ensure world 0 key goal).1 ∧
      ∃ reply : Reply,
        (Machine.ensure world 0 key goal).2 = reply.map (fun _ => ()) ∧
        (Machine.ensure world 0 key goal).1.Answers key goal reply := by
  have sets : world.SetsOut goal ⟨.ensure world 0 key goal, []⟩ (some key) :=
    .sent known held rfl
  obtain ⟨load, answered⟩ := @load_run ⟨world, _⟩ goal sinks _ rested sets
  obtain ⟨reply, rests, answers⟩ := answered key rfl
  refine ⟨load, reply, ?_, answers⟩
  rw [Machine.ensure, rests]
  rfl

end Machine

end LoadLadder
