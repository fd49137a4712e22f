import LoadLadder.Climb.Turn
import LoadLadder.Crew.Basic
import LoadLadder.Proofs.UnitDeeds

/-!
# Runs of a crew

Threads share a world with a client that acts in any of them whenever it is the
client's turn there: it asks for an operation, ends a callback with whatever
result it likes, and may do so in callbacks to any depth.  A run is any order of
such acts, and it keeps account of what was done to the units.
-/

namespace LoadLadder

/-- What a client may ask for in a given world. -/
abbrev Repertoire := World → Operation → Prop

/-- A client that may ask for anything. -/
def Repertoire.full : Repertoire := fun _ _ => True

/-- What a client chooses when it makes a domain. -/
structure Setup where
  config : LoaderConfig := {}
  sinks : Sinks := {}
  hook : Hook := {}
  listeners : List Listener := []

/-- The domain that is made of these choices. -/
def Setup.domain (setup : Setup) : Domain where
  config := setup.config
  sinks := setup.sinks
  hook := setup.hook
  listeners := setup.listeners

/-- The choices for a domain in which the recorder stands in for every
consumer. -/
def Setup.observed : Setup where
  sinks := Domain.observed.sinks
  hook := Domain.observed.hook
  listeners := Domain.observed.listeners

/-- A world with domains and without units. -/
def World.ofSetups (setups : List Setup) : World :=
  setups.foldl (fun world setup => world.addDomain setup.domain) {}

/-- What one thread, or the client in it, does at one instant. -/
inductive World.Act (repertoire : Repertoire) (me : ThreadId) (world : World)
    (thread : Thread) : List Deed → World → Thread → Prop
  /-- The loader takes a step. -/
  | step {next : World} {after : Thread}
      (step : world.step me thread = some (next, after)) :
      Act repertoire me world thread (world.deeds thread) next after
  /-- The client asks for something that completes at once. -/
  | operate (operation : Operation) (turn : world.step me thread = none)
      (asked : repertoire world operation)
      (granted : operation.refusal? world = none)
      (instant : operation.task? world = none) :
      Act repertoire me world thread (operation.deeds world)
        (operation.complete world me).1 thread
  /-- The client asks for a load. -/
  | call (operation : Operation) {task : Task}
      (turn : world.step me thread = none)
      (asked : repertoire world operation)
      (granted : operation.refusal? world = none)
      (loads : operation.task? world = some task) :
      Act repertoire me world thread [] world (thread.call task)
  /-- The client goes on with its callback after a load. -/
  | resume {reply : Reply} {callback : Callback} {stack : List Waiting}
      (answered : thread =
        ⟨.answer reply, .onOperation callback :: stack⟩) :
      Act repertoire me world thread [] world ⟨.callback callback, stack⟩
  /-- The client ends its callback. -/
  | finish {callback : Callback} {stack : List Waiting}
      (result : Except Fault Unit)
      (called : thread = ⟨.callback callback, stack⟩) :
      Act repertoire me world thread [] world (thread.finish result)

/-- What an operation that loads a unit begins with. -/
inductive Task.Begins (world : World) (key : UnitKey) : Task → Prop
  | answers (reply : Reply) : Begins world key (.answer reply)
  | drives (target : Level) : Begins world key (.drive key target .checkLevel)
  | runs (level : Level) (healthy : (world.unit key).isError = false) :
      Begins world key (.subStep key level level.actions)

namespace World

theorem begins_ensure (world : World) (through : DomainKey) (key : UnitKey)
    (target : Level) :
    Task.Begins world key (.ensure world through key target) := by
  unfold Task.ensure
  split
  · exact .answers _
  · split
    · exact .drives target
    · exact .answers _

theorem begins_incremental (world : World) (through : DomainKey) (key : UnitKey)
    (level : Level) :
    Task.Begins world key (.incremental world through key level) := by
  unfold Task.incremental
  split
  · exact .answers _
  · split
    · exact .answers _
    · rename_i healthy
      split
      · exact .answers _
      · exact .runs level (Bool.eq_false_iff.mpr healthy)

theorem begins_of_loads {world : World} {operation : Operation} {task : Task}
    (loads : operation.task? world = some task) :
    ∃ key, Task.Begins world key task := by
  cases operation with
  | ensure through key target =>
      cases loads
      exact ⟨key, begins_ensure world through key target⟩
  | incremental through key level =>
      cases loads
      exact ⟨key, begins_incremental world through key level⟩
  | _ => simp [Operation.task?] at loads

/-- The recording grows by what is done. -/
theorem events_act {world next : World} {repertoire : Repertoire}
    {me : ThreadId} {thread after : Thread} {deeds : List Deed}
    (act : world.Act repertoire me thread deeds next after) :
    next.events = world.events ++ deeds.flatMap world.recordDeed := by
  cases act with
  | step step => exact events_stepped (stepped_of_step step)
  | operate operation => exact events_complete world me operation
  | call | resume | finish => simp

theorem ofSetups_units (setups : List Setup) :
    (ofSetups setups).units = {} ∧ (ofSetups setups).unitCount = 0 ∧
      (ofSetups setups).events = [] := by
  have kept (world : World) :
      (setups.foldl (fun world setup => world.addDomain setup.domain)
        world).units = world.units ∧
      (setups.foldl (fun world setup => world.addDomain setup.domain)
        world).unitCount = world.unitCount ∧
      (setups.foldl (fun world setup => world.addDomain setup.domain)
        world).events = world.events := by
    induction setups generalizing world with
    | nil => exact ⟨rfl, rfl, rfl⟩
    | cons setup setups ih => exact ih _
  exact kept {}

theorem unit_ofSetups (setups : List Setup) (key : UnitKey) :
    (ofSetups setups).unit key = default := by
  rw [World.unit, (ofSetups_units setups).1, Store.get_empty]

end World

/-- What a longer record has somewhere is old or among what is new. -/
theorem split_of_append {α : Type} {old new earlier later : List α} {item : α}
    (split : old ++ new = earlier ++ item :: later) :
    (∃ rest, old = earlier ++ item :: rest ∧ later = rest ++ new) ∨
      ∃ more, earlier = old ++ more ∧ new = more ++ item :: later := by
  rcases List.append_eq_append_iff.mp split with
    ⟨more, first, last⟩ | ⟨rest, first, last⟩
  · exact Or.inr ⟨more, first, last⟩
  · cases rest with
    | nil => exact Or.inr ⟨[], by simpa using first.symm, last.symm⟩
    | cons head rest =>
        cases last
        exact Or.inl ⟨rest, first, rfl⟩

namespace Crew

/-- The units that running operations hold. -/
def pinned (crew : Crew) : List UnitKey :=
  crew.threads.flatMap Thread.pinned

/-- What happens at one instant. -/
inductive Move (repertoire : Repertoire) (crew : Crew) :
    List Deed → Crew → Prop
  /-- A thread acts. -/
  | act {me : ThreadId} {world : World} {thread : Thread} {deeds : List Deed}
      (member : me < crew.threads.length)
      (act : World.Act repertoire me crew.world (crew.thread me) deeds world
        thread) :
      Move repertoire crew deeds ({ crew with world }.setThread me thread)
  /-- Whatever nothing refers to any more is freed. -/
  | collect :
      Move repertoire crew []
        { crew with world := crew.world.collect crew.pinned }

/-- What happens from one state of a crew to another, and what is done to units
meanwhile. -/
inductive Run (repertoire : Repertoire) (first : Crew) :
    List Deed → Crew → Prop
  | start : Run repertoire first [] first
  | snoc {crew next : Crew} {before deeds : List Deed}
      (run : Run repertoire first before crew)
      (move : Move repertoire crew deeds next) :
      Run repertoire first (before ++ deeds) next

/-- Threads that have done nothing yet, in a world with domains only. -/
def idle (setups : List Setup) (members : Nat) : Crew where
  world := .ofSetups setups
  threads := List.replicate members {}

variable {repertoire : Repertoire} {first crew next : Crew}
  {before deeds : List Deed}

theorem Run.trans {more : List Deed} (run : Run repertoire first before crew)
    (rest : Run repertoire crew more next) :
    Run repertoire first (before ++ more) next := by
  induction rest with
  | start => simpa using run
  | snoc rest move ih =>
      rw [← List.append_assoc]
      exact ih.snoc move

/-- A client does nothing that a freer client could not do. -/
theorem Run.mono {freer : Repertoire}
    (allowed : ∀ world operation,
      repertoire world operation → freer world operation)
    (run : Run repertoire first before crew) :
    Run freer first before crew := by
  induction run with
  | start => exact .start
  | snoc run move ih =>
      refine ih.snoc ?_
      cases move with
      | collect => exact .collect
      | act member act =>
          refine .act member ?_
          cases act with
          | step step => exact .step step
          | operate operation turn asked granted instant =>
              exact .operate operation turn (allowed _ _ asked) granted instant
          | call operation turn asked granted loads =>
              exact .call operation turn (allowed _ _ asked) granted loads
          | resume answered => exact .resume answered
          | finish result called => exact .finish result called

theorem thread_acted {me : ThreadId} (member : me < crew.threads.length)
    (world : World) (thread : Thread) (you : ThreadId) :
    ({ crew with world }.setThread me thread).thread you =
      if me = you then thread else crew.thread you := by
  by_cases same : me = you
  · subst same
    simp [Crew.thread, setThread, member]
  · simp [Crew.thread, setThread, same]

theorem events_move (move : Move repertoire crew deeds next) :
    next.world.events =
      crew.world.events ++ deeds.flatMap crew.world.recordDeed := by
  cases move with
  | act member act => exact World.events_act act
  | collect =>
      rw [World.events_collect]
      simp

@[simp]
theorem thread_idle (setups : List Setup) (members : Nat) (me : ThreadId) :
    (idle setups members).thread me = {} := by
  simp [Crew.thread, idle, List.getElem?_replicate]
  split <;> rfl

theorem run_step {me : ThreadId} {next : World} {thread after : Thread}
    (member : me < crew.threads.length) (current : crew.thread me = thread)
    (step : crew.world.step me thread = some (next, after)) :
    Run repertoire crew (crew.world.deeds thread)
      ({ crew with world := next }.setThread me after) := by
  subst current
  exact Run.start.snoc (.act member (.step step))

/-- The client asks for an operation in a thread. -/
def ask (crew : Crew) (me : ThreadId) (operation : Operation) : Crew :=
  match operation.task? crew.world with
  | some task => crew.setThread me ((crew.thread me).call task)
  | none => { crew with world := (operation.complete crew.world me).1 }

/-- What asking for an operation does at once. -/
def askDeeds (crew : Crew) (operation : Operation) : List Deed :=
  match operation.task? crew.world with
  | some _ => []
  | none => operation.deeds crew.world

/-- It is the client's turn in a thread, and the client holds what the operation
needs. -/
def mayAsk (crew : Crew) (me : ThreadId) (operation : Operation) : Bool :=
  decide (me < crew.threads.length) &&
    (crew.world.step me (crew.thread me)).isNone &&
    (operation.refusal? crew.world).isNone

theorem run_ask {me : ThreadId} {operation : Operation}
    (may : crew.mayAsk me operation = true)
    (asked : repertoire crew.world operation) :
    Run repertoire crew (crew.askDeeds operation) (crew.ask me operation) := by
  simp only [mayAsk, Bool.and_eq_true, decide_eq_true_eq,
    Option.isNone_iff_eq_none] at may
  obtain ⟨⟨member, turn⟩, granted⟩ := may
  cases loads : operation.task? crew.world with
  | some task =>
      simp only [ask, askDeeds, loads]
      exact Run.start.snoc
        (.act member (.call operation turn asked granted loads))
  | none =>
      have move := Move.act member
        (World.Act.operate operation turn asked granted loads)
      have same : crew.threads.set me (crew.thread me) = crew.threads := by
        simp [Crew.thread, member]
      simp only [setThread, same] at move
      simp only [ask, askDeeds, loads]
      exact Run.start.snoc move

/-- The client ends its callback in a thread. -/
def endCallback (crew : Crew) (me : ThreadId) (result : Except Fault Unit) :
    Crew :=
  crew.setThread me ((crew.thread me).finish result)

/-- The client is called back in a thread. -/
def isCalledBack (crew : Crew) (me : ThreadId) : Bool :=
  match (crew.thread me).task with
  | .callback _ => decide (me < crew.threads.length)
  | _ => false

theorem run_endCallback {me : ThreadId} (called : crew.isCalledBack me = true)
    (result : Except Fault Unit) :
    Run repertoire crew [] (crew.endCallback me result) := by
  rcases current : crew.thread me with ⟨task, stack⟩
  cases task with
  | callback callback =>
      simp only [isCalledBack, current, decide_eq_true_eq] at called
      exact Run.start.snoc (.act called (.finish result current))
  | _ => simp [isCalledBack, current] at called

/-- What a thread does when it acts and it is not the client's turn. -/
def actDeeds (crew : Crew) (me : ThreadId) : List Deed :=
  match crew.world.step me (crew.thread me) with
  | none => []
  | some _ => crew.world.deeds (crew.thread me)

/-- What threads do that act in a given order. -/
def followDeeds (crew : Crew) : List ThreadId → List Deed
  | [] => []
  | me :: schedule => crew.actDeeds me ++ followDeeds (crew.act me) schedule

theorem run_act {me : ThreadId} (member : me < crew.threads.length) :
    Run repertoire crew (crew.actDeeds me) (crew.act me) := by
  cases stepped : crew.world.step me (crew.thread me) with
  | none =>
      simp only [actDeeds, act, stepped]
      exact .start
  | some result =>
      obtain ⟨world, thread⟩ := result
      simp only [actDeeds, act, stepped]
      exact Run.start.snoc (.act member (.step stepped))

theorem length_act (crew : Crew) (me : ThreadId) :
    (crew.act me).threads.length = crew.threads.length := by
  unfold act
  split
  · rfl
  · simp [setThread]

theorem run_follow {schedule : List ThreadId}
    (members : ∀ me ∈ schedule, me < crew.threads.length) :
    Run repertoire crew (crew.followDeeds schedule)
      (crew.follow schedule) := by
  induction schedule generalizing crew with
  | nil => exact .start
  | cons me schedule ih =>
      have rest : ∀ you ∈ schedule, you < (crew.act me).threads.length := by
        intro you member
        rw [length_act]
        exact members you (List.mem_cons_of_mem me member)
      exact (run_act (members me List.mem_cons_self)).trans (ih rest)

/-- One thread and, in a domain that records everything, one unit whose
initializer is the client's. -/
def alone : Crew :=
  (idle [.observed] 1).ask 0
    (.create 0 { name := "App" } { name := "App", initializer := .client })

/-- The unit is being activated, and its initializer runs. -/
def initializing : Crew :=
  (alone.ask 0 (.ensure 0 0 .active)).follow (List.replicate 72 0)

/-- What was done to the unit up to there. -/
def deedsBefore : List Deed :=
  (alone.ask 0 (.ensure 0 0 .active)).followDeeds (List.replicate 72 0)

theorem alone_reached : Run .full (idle [.observed] 1) [] alone := by
  have made : Run .full (idle [.observed] 1) _ alone :=
    run_ask (by decide +kernel) trivial
  exact made

theorem initializing_reached :
    Run .full (idle [.observed] 1) deedsBefore initializing := by
  have called : Run .full alone _ (alone.ask 0 (.ensure 0 0 .active)) :=
    run_ask (by decide +kernel) trivial
  have ran : Run .full (alone.ask 0 (.ensure 0 0 .active)) deedsBefore
      initializing :=
    run_follow (by decide +kernel)
  exact (alone_reached.trans called).trans ran

end Crew

end LoadLadder
