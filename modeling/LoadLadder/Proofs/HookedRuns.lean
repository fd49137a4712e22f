import LoadLadder.Proofs.AdvisorySettings
import LoadLadder.Proofs.OperationViews

/-!
# Scheduling hooks that come and go

A scheduling hook is called back after every sub-step, and whatever it answers, the
climb goes on as if it had not been called.  As long as the hooks call nothing
themselves, any run therefore has a counterpart in which the hooks are others or there
are none: the same requests are made and answered, and the same things happen, but for
the transitions that are recorded.
-/

namespace LoadLadder

/-- The client is called back as a scheduling hook. -/
def Callback.isHook : Callback → Bool
  | .hook _ _ => true
  | _ => false

def Task.isHook : Task → Bool
  | .callback called => called.isHook
  | _ => false

def Waiting.isHook : Waiting → Bool
  | .onHook _ _ _ => true
  | .onOperation callback => callback.isHook
  | _ => false

namespace Thread

variable {thread : Thread}

/-- The thread once it has left the hook that it is in, if it is in one. -/
def unhooked : Thread → Thread
  | ⟨.callback (.hook _ _), .onHook key level rest :: stack⟩ =>
      ⟨.subStep key level rest, stack⟩
  | ⟨.answer _, .onHook key level rest :: stack⟩ => ⟨.subStep key level rest, stack⟩
  | thread => thread

/-- The thread is in no hook. -/
structure Plain (thread : Thread) : Prop where
  task : thread.task.isHook = false
  stack : ∀ waiting ∈ thread.stack, waiting.isHook = false

theorem unhooked_of_plain (plain : thread.Plain) : thread.unhooked = thread := by
  unfold unhooked
  split
  · exact absurd plain.task (by simp [Task.isHook, Callback.isHook])
  · exact absurd (plain.stack _ List.mem_cons_self) (by simp [Waiting.isHook])
  · rfl

@[simp]
theorem pinned_unhooked (thread : Thread) : thread.unhooked.pinned = thread.pinned := by
  unfold unhooked
  split <;> rfl

/-- A thread that leaves a hook was called back by it, or it has just ended. -/
theorem unhooked_cases (plain : thread.unhooked.Plain) :
    (∃ unit reached key level rest stack,
      thread = ⟨.callback (.hook unit reached), .onHook key level rest :: stack⟩) ∨
    (∃ reply key level rest stack,
      thread = ⟨.answer reply, .onHook key level rest :: stack⟩) ∨
    thread.Plain := by
  unfold unhooked at plain
  split at plain
  · exact Or.inl ⟨_, _, _, _, _, _, rfl⟩
  · exact Or.inr (Or.inl ⟨_, _, _, _, _, rfl⟩)
  · exact Or.inr (Or.inr plain)

namespace Plain

variable {task next : Task} {waiting : Waiting} {stack : List Waiting}

theorem goes (plain : Plain ⟨task, stack⟩) (apart : next.isHook = false) :
    Plain ⟨next, stack⟩ :=
  ⟨apart, plain.stack⟩

theorem pops (plain : Plain ⟨task, waiting :: stack⟩) (apart : next.isHook = false) :
    Plain ⟨next, stack⟩ :=
  ⟨apart, fun below member => plain.stack below (List.mem_cons_of_mem _ member)⟩

theorem pushes (plain : Plain ⟨task, stack⟩) (apart : next.isHook = false)
    (waits : waiting.isHook = false) : Plain ⟨next, waiting :: stack⟩ := by
  refine ⟨apart, fun below member => ?_⟩
  rcases List.mem_cons.mp member with rfl | deeper
  · exact waits
  · exact plain.stack below deeper

end Plain

end Thread

theorem Task.Begins.isHook {world : World} {key : UnitKey} {task : Task}
    (begins : Task.Begins world key task) : task.isHook = false := by
  cases begins <;> rfl

namespace World

variable {world next : World} {me : ThreadId} {thread after : Thread}

/-- A thread gets into a hook only by reporting to it. -/
theorem plain_stepped (stepped : world.Stepped me thread next after)
    (spares : world.Spares thread .hooks) (plain : thread.Plain) : after.Plain := by
  cases stepped with
  | reported => exact absurd rfl (spares _ _ _)
  | initializes runs =>
      rcases runs with ⟨-, rfl⟩ | ⟨-, rfl⟩ <;> exact plain.pushes rfl rfl
  | activates => exact plain.pushes (begins_ensure ..).isHook rfl
  | climbs | tellsClient => exact plain.pushes rfl rfl
  | succeeded | abandoned | broke | initialized | uninitialized | hooked | activated
  | unactivated | listened => exact plain.pops rfl
  | _ => exact plain.goes rfl

/-- The client gets into no hook by itself. -/
theorem plain_granted {request : Request}
    (granted : world.Granted me thread request next after) (plain : thread.Plain) :
    after.Plain := by
  cases granted with
  | operate => exact plain
  | call operation turn granted loads =>
      obtain ⟨key, begins⟩ := begins_of_loads loads
      obtain ⟨task, stack⟩ := thread
      cases task with
      | callback callback => exact plain.pushes begins.isHook plain.task
      | _ => exact plain.goes begins.isHook
  | resume answered =>
      subst answered
      exact plain.pops (plain.stack _ List.mem_cons_self)
  | finish result called =>
      subst called
      exact plain.goes rfl

/-- A report to a hook lets the thread go on, or calls the hook back. -/
theorem step_reporting (world : World) (me : ThreadId) (key : UnitKey) (level : Level)
    (rest : List Action) (stack : List Waiting) :
    ∃ next after, next.without .hooks = world.without .hooks ∧
      (after = ⟨.subStep key level rest, stack⟩ ∨
        after = ⟨.callback (.hook key level), .onHook key level rest :: stack⟩) ∧
      world.step me ⟨.subStep key level (.reportTransition :: rest), stack⟩ =
        some (next, after) := by
  have recorded : (world.emit (.transition (world.unit key).name level)).without .hooks =
      world.without .hooks := emit_unseen world rfl
  refine ⟨_, _, ?_, ?_, rfl⟩
  · cases (world.homeOf key).hook.records <;> cases (world.homeOf key).hook.client <;>
      first | rfl | exact recorded
  · cases (world.homeOf key).hook.client
    · exact Or.inl rfl
    · exact Or.inr rfl

end World

/-- It is the turn of a scheduling hook. -/
def Thread.inHook (thread : Thread) : Bool :=
  thread.task.isHook

/-- A client whose hooks do nothing but end. -/
def Conduct.passive : Conduct := fun crew me request =>
  match request with
  | .ends _ => True
  | _ => (crew.thread me).inHook = false

instance (crew : Crew) (me : ThreadId) (request : Request) :
    Decidable (Conduct.passive crew me request) := by
  unfold Conduct.passive
  split <;> infer_instance

/-- A client whose hooks do nothing but end, and always with the same result. -/
def Conduct.answering (result : Except Fault Unit) : Conduct := fun crew me request =>
  (crew.thread me).inHook = true → request = .ends result

/-- A request of the client, with what it has been told when it makes the request, and
what it is told at once. -/
structure Exchange where
  thread : ThreadId
  turn : Turn
  request : Request
  answer : Option Answer

/-- What the client is told at once.  The answer of a load comes later. -/
def Request.answer? (world : World) (me : ThreadId) : Request → Option Answer
  | .asks operation =>
      if (operation.task? world).isSome then none
      else some (operation.complete world me).2.unhooked
  | _ => none

/-- The requests that are made outside hooks, as threads act. -/
def World.exchanges : Noting Exchange := fun world me thread request =>
  match request with
  | none => []
  | some request =>
      if thread.inHook then []
      else [⟨me, thread.turn, request, request.answer? world me⟩]

theorem World.exchanges_unhooked (world : World) (me : ThreadId) (thread : Thread)
    (request : Option Request) :
    (world.without .hooks).exchanges me thread request =
      world.exchanges me thread request := by
  match request with
  | none | some .resumes | some (.ends _) => rfl
  | some (.asks operation) =>
      simp only [exchanges, Request.answer?, task?_unhooked,
        (complete_unhooked world me operation).2]

/-- The choices for a domain without those for its hook. -/
def Setup.unhooked (setup : Setup) : Setup :=
  { setup with hook := {} }

theorem World.ofSetups_unhooked (setups : List Setup) :
    (ofSetups setups).without .hooks = ofSetups (setups.map Setup.unhooked) := by
  rw [ofSetups, ofSetups, List.foldl_map]
  exact (List.foldl_hom (World.without · .hooks) fun world setup =>
    (addDomain_without world setup.domain).symm).symm

namespace Crew

variable {crew other : Crew} {me : ThreadId} {world next : World} {thread after : Thread}
  {request : Option Request} {result : Except Fault Unit} {setups replaced : List Setup}
  {members : Nat} {past : List Exchange}

/-- The crews differ in the hooks of their domains and in the transitions that were
recorded, and threads of the first may still be in a hook that they have left in the
second. -/
structure Rehooked (crew other : Crew) : Prop where
  members : other.threads.length = crew.threads.length
  world : other.world.without .hooks = crew.world.without .hooks
  thread : ∀ me, other.thread me = (crew.thread me).unhooked

/-- No thread is in a hook. -/
def Plain (crew : Crew) : Prop :=
  ∀ me, (crew.thread me).Plain

theorem Rehooked.threads (rehooked : crew.Rehooked other) :
    other.threads = crew.threads.map Thread.unhooked := by
  refine List.ext_getElem (by simp [rehooked.members]) fun me within withinToo => ?_
  have member : me < crew.threads.length := by simpa using withinToo
  simpa [Crew.thread, within, member] using rehooked.thread me

theorem Rehooked.pinned (rehooked : crew.Rehooked other) :
    other.pinned = crew.pinned := by
  rw [Crew.pinned, rehooked.threads, List.flatMap_map, Crew.pinned]
  simp only [Thread.pinned_unhooked]

theorem Rehooked.acts (rehooked : crew.Rehooked other) (member : me < crew.threads.length)
    (seen : next.without .hooks = world.without .hooks) (same : after = thread.unhooked) :
    ({ crew with world }.setThread me thread).Rehooked
      ({ other with world := next }.setThread me after) := by
  have memberToo : me < other.threads.length := rehooked.members.symm ▸ member
  refine ⟨by simpa [setThread] using rehooked.members, seen, fun you => ?_⟩
  rw [thread_acted member, thread_acted memberToo, same]
  split
  · rfl
  · exact rehooked.thread you

theorem Rehooked.stays (rehooked : crew.Rehooked other)
    (member : me < crew.threads.length)
    (seen : world.without .hooks = crew.world.without .hooks)
    (same : thread.unhooked = (crew.thread me).unhooked) :
    ({ crew with world }.setThread me thread).Rehooked other := by
  refine ⟨by simpa [setThread] using rehooked.members, rehooked.world.trans seen.symm,
    fun you => ?_⟩
  rw [thread_acted member]
  split
  · rename_i here
    rw [same, ← here]
    exact rehooked.thread me
  · exact rehooked.thread you

theorem plain_acts (plain : crew.Plain) (member : me < crew.threads.length)
    (goes : thread.Plain) : ({ crew with world }.setThread me thread).Plain := by
  intro you
  rw [thread_acted member]
  split
  · exact goes
  · exact plain you

theorem rehooked_idle (same : setups.map Setup.unhooked = replaced.map Setup.unhooked) :
    (idle setups members).Rehooked (idle replaced members) := by
  refine ⟨rfl, ?_, fun me => ?_⟩
  · change (World.ofSetups replaced).without .hooks =
      (World.ofSetups setups).without .hooks
    rw [World.ofSetups_unhooked, World.ofSetups_unhooked, same]
  · rw [thread_idle, thread_idle]
    rfl

theorem plain_idle : (idle setups members).Plain := by
  intro me
  rw [thread_idle]
  exact ⟨rfl, by simp⟩

variable {first : Crew}

theorem setThread_setThread (crew : Crew) (me : ThreadId) (thread after : Thread) :
    (crew.setThread me thread).setThread me after = crew.setThread me after := by
  simp [setThread]

/-- The loader takes a step, of which nothing is noted. -/
theorem Account.steps
    (account : Account (.answering result) World.exchanges first past crew)
    (member : me < crew.threads.length) (here : crew.thread me = thread)
    (stepped : crew.world.step me thread = some (next, after)) :
    Account (.answering result) World.exchanges first past
      ({ crew with world := next }.setThread me after) := by
  rw [← here] at stepped
  have played : Account (.answering result) World.exchanges first
      (past ++ crew.world.exchanges me (crew.thread me) none)
      ({ crew with world := next }.setThread me after) :=
    account.play member (by simp) stepped
  rwa [World.exchanges, List.append_nil] at played

/-- A hook ends, and the thread goes on with its sub-step. -/
theorem Account.leaves {unit key : UnitKey} {reached level : Level} {rest : List Action}
    {stack : List Waiting}
    (account : Account (.answering result) World.exchanges first past crew)
    (member : me < crew.threads.length)
    (here : crew.thread me =
      ⟨.callback (.hook unit reached), .onHook key level rest :: stack⟩) :
    Account (.answering result) World.exchanges first past
      (crew.setThread me ⟨.subStep key level rest, stack⟩) := by
  have inside : (crew.thread me).inHook = true := by
    rw [here]
    rfl
  have played : Account (.answering result) World.exchanges first
      (past ++ crew.world.exchanges me (crew.thread me) (some (.ends result)))
      (crew.setThread me ((crew.thread me).finish result)) := by
    refine account.play member (fun requested asked _ => ?_) ?_
    · exact (Option.some.inj asked).symm
    · rw [here]
      rfl
  have silent : crew.world.exchanges me (crew.thread me) (some (.ends result)) = [] :=
    if_pos inside
  rw [silent, List.append_nil, here] at played
  have ended := thread_acted member crew.world
    (Thread.finish ⟨.callback (.hook unit reached), .onHook key level rest :: stack⟩
      result) me
  rw [if_pos rfl] at ended
  have left := played.steps (by simpa [setThread] using member) ended rfl
  rwa [setThread_setThread] at left

/-- A thread reports a transition, and leaves the hook again if there is one. -/
theorem Account.reports {key : UnitKey} {level : Level} {rest : List Action}
    {stack : List Waiting}
    (account : Account (.answering result) World.exchanges first past crew)
    (member : me < crew.threads.length)
    (here : crew.thread me = ⟨.subStep key level (.reportTransition :: rest), stack⟩) :
    ∃ next, next.without .hooks = crew.world.without .hooks ∧
      Account (.answering result) World.exchanges first past
        ({ crew with world := next }.setThread me ⟨.subStep key level rest, stack⟩) := by
  obtain ⟨next, after, seen, goes, stepped⟩ :=
    World.step_reporting crew.world me key level rest stack
  have reported := account.steps member here stepped
  refine ⟨next, seen, ?_⟩
  rcases goes with rfl | rfl
  · exact reported
  · have called := thread_acted member next
      ⟨.callback (.hook key level), .onHook key level rest :: stack⟩ me
    rw [if_pos rfl] at called
    have left := reported.leaves (by simpa [setThread] using member) called
    rwa [setThread_setThread] at left

section

variable (account : Account (.answering result) World.exchanges first past other)
  (rehooked : crew.Rehooked other) (plain : other.Plain)
  (member : me < crew.threads.length)

include account rehooked plain member

/-- A report to a hook has a report to the other hook as its counterpart. -/
theorem Account.reported {key : UnitKey} {level : Level} {rest : List Action}
    {stack : List Waiting}
    (here : crew.thread me = ⟨.subStep key level (.reportTransition :: rest), stack⟩)
    (steps : crew.world.step me (crew.thread me) = some (world, thread)) :
    ∃ later, Account (.answering result) World.exchanges first past later ∧
      ({ crew with world }.setThread me thread).Rehooked later ∧ later.Plain := by
  have memberToo : me < other.threads.length := rehooked.members.symm ▸ member
  have same := (rehooked.thread me).trans (congrArg Thread.unhooked here)
  obtain ⟨next, seen, reported⟩ := account.reports memberToo same
  obtain ⟨_, _, seenToo, goes, stepped⟩ :=
    World.step_reporting crew.world me key level rest stack
  rw [here, stepped] at steps
  cases steps
  have worlds := seen.trans (rehooked.world.trans seenToo.symm)
  have settled := plain me
  rw [same] at settled
  refine ⟨_, reported, rehooked.acts member worlds ?_,
    plain_acts plain memberToo (settled.goes rfl)⟩
  rcases goes with rfl | rfl <;> rfl

/-- A step outside the hooks has the same step as its counterpart. -/
theorem Account.stepped (outside : (crew.thread me).Plain)
    (steps : crew.world.step me (crew.thread me) = some (world, thread)) :
    ∃ later, Account (.answering result) World.exchanges first past later ∧
      ({ crew with world }.setThread me thread).Rehooked later ∧ later.Plain := by
  have memberToo : me < other.threads.length := rehooked.members.symm ▸ member
  have same : other.thread me = crew.thread me :=
    (rehooked.thread me).trans (Thread.unhooked_of_plain outside)
  by_cases spares : crew.world.Spares (crew.thread me) .hooks
  · have seen := World.step_without crew.world me spares
    have seenToo : (other.world.without .hooks).step me
          ((crew.thread me).without .hooks) =
        (other.world.step me (crew.thread me)).map
          (Prod.map (World.without · .hooks) (Thread.without · .hooks)) :=
      World.step_without other.world me spares
    rw [rehooked.world, seen, steps] at seenToo
    obtain ⟨⟨next, after⟩, stepsToo, agree⟩ := Option.map_eq_some_iff.mp seenToo.symm
    simp only [Prod.map, Thread.without_hooks, Prod.mk.injEq] at agree
    obtain ⟨worlds, rfl⟩ := agree
    have goes := World.plain_stepped (World.stepped_of_step steps) spares outside
    exact ⟨_, account.steps memberToo same stepsToo,
      rehooked.acts member worlds (Thread.unhooked_of_plain goes).symm,
      plain_acts plain memberToo goes⟩
  · obtain ⟨key, level, rest, reports⟩ : ∃ key level rest,
        (crew.thread me).task = .subStep key level (.reportTransition :: rest) := by
      simpa [World.Spares] using spares
    refine account.reported rehooked plain member (?_ : crew.thread me =
      ⟨.subStep key level (.reportTransition :: rest), (crew.thread me).stack⟩) steps
    rw [← reports]

/-- A request outside the hooks has the same request as its counterpart. -/
theorem Account.requested {asked : Request} (outside : (crew.thread me).Plain)
    (plays : crew.world.play me (crew.thread me) (some asked) = some (world, thread)) :
    ∃ later, Account (.answering result) World.exchanges first
        (past ++ crew.world.exchanges me (crew.thread me) (some asked)) later ∧
      ({ crew with world }.setThread me thread).Rehooked later ∧ later.Plain := by
  have memberToo : me < other.threads.length := rehooked.members.symm ▸ member
  have same : other.thread me = crew.thread me :=
    (rehooked.thread me).trans (Thread.unhooked_of_plain outside)
  have seen := World.play_unhooked crew.world me (crew.thread me) asked
  have seenToo := World.play_unhooked other.world me (crew.thread me) asked
  rw [rehooked.world, seen, plays] at seenToo
  obtain ⟨⟨next, after⟩, playsToo, agree⟩ := Option.map_eq_some_iff.mp seenToo.symm
  simp only [Prod.map, id, Prod.mk.injEq] at agree
  obtain ⟨worlds, rfl⟩ := agree
  have exchanged : crew.world.exchanges me (crew.thread me) (some asked) =
      other.world.exchanges me (other.thread me) (some asked) := by
    rw [same, ← World.exchanges_unhooked crew.world, ← rehooked.world,
      World.exchanges_unhooked]
  have goes := World.plain_granted (World.granted_of_play plays) outside
  rw [exchanged]
  refine ⟨_, account.play memberToo (fun requested _ inside => ?_) (same ▸ playsToo),
    rehooked.acts member worlds (Thread.unhooked_of_plain goes).symm,
    plain_acts plain memberToo goes⟩
  rw [same, Thread.inHook, outside.task] at inside
  contradiction

/-- What is done in a hook is not seen, and all else has a counterpart. -/
theorem Account.counterpart
    (conducted : ∀ requested, request = some requested →
      Conduct.passive crew me requested)
    (plays : crew.world.play me (crew.thread me) request = some (world, thread)) :
    ∃ later, Account (.answering result) World.exchanges first
        (past ++ crew.world.exchanges me (crew.thread me) request) later ∧
      ({ crew with world }.setThread me thread).Rehooked later ∧ later.Plain := by
  have settled := plain me
  rw [rehooked.thread me] at settled
  rcases Thread.unhooked_cases settled with
    ⟨unit, reached, key, level, rest, stack, here⟩ |
    ⟨reply, key, level, rest, stack, here⟩ | outside
  · have inside : (crew.thread me).inHook = true := by
      rw [here]
      rfl
    match request with
    | none =>
        rw [here] at plays
        contradiction
    | some (.asks operation) | some .resumes =>
        have outside : (crew.thread me).inHook = false := conducted _ rfl
        rw [inside] at outside
        contradiction
    | some (.ends answered) =>
        have silent : crew.world.exchanges me (crew.thread me) (some (.ends answered)) =
            [] := if_pos inside
        rw [silent, List.append_nil]
        rw [here] at plays
        cases plays
        exact ⟨other, account, rehooked.stays member rfl (by rw [here]; rfl), plain⟩
  · rw [here] at plays
    match request with
    | none =>
        rw [World.exchanges, List.append_nil]
        cases plays
        exact ⟨other, account, rehooked.stays member rfl (by rw [here]; rfl), plain⟩
    | some (.asks operation) | some .resumes | some (.ends _) => contradiction
  · match request with
    | none =>
        rw [World.exchanges, List.append_nil]
        exact account.stepped rehooked plain member outside plays
    | some asked => exact account.requested rehooked plain member outside plays

end

/-- Whatever the hooks answer, and whatever they are replaced by, the client is told
the same and the same things happen. -/
theorem exists_rehooked (same : setups.map Setup.unhooked = replaced.map Setup.unhooked)
    (result : Except Fault Unit)
    (account : Account .passive World.exchanges (idle setups members) past crew) :
    ∃ other, Account (.answering result) World.exchanges (idle replaced members) past
        other ∧ crew.Rehooked other ∧ other.Plain := by
  induction account with
  | start => exact ⟨_, .start, rehooked_idle same, plain_idle⟩
  | play account member conducted plays ih =>
      obtain ⟨other, counterpart, rehooked, plain⟩ := ih
      exact counterpart.counterpart rehooked plain member conducted plays
  | collect account ih =>
      obtain ⟨other, counterpart, rehooked, plain⟩ := ih
      refine ⟨_, counterpart.collect, ⟨rehooked.members, ?_, rehooked.thread⟩, plain⟩
      change (other.world.collect other.pinned).without .hooks = _
      rw [← World.collect_unhooked, rehooked.pinned, rehooked.world,
        World.collect_unhooked]

end Crew

/-- No outcome hangs on an observer or on a setting that only advises.  Runs of two
manifests that differ in nothing else end alike, and a client is told the same whether
its domains have other hooks, hooks that always fail, or none. -/
theorem nothing_hangs_on_observers :
    (∀ left right : Manifest, left.validate = .ok () → right.validate = .ok () →
      left.unadvised = right.unadvised → ∀ (targets : List Level) (target : Level),
        let former := (left.build.runAll targets).load target false
        let latter := (right.build.runAll targets).load target false
        former.1.world.SameProgress latter.1.world ∧
          List.Forall₂ UnitReport.SameStatus former.2.units latter.2.units) ∧
    ∀ setups replaced : List Setup,
      setups.map Setup.unhooked = replaced.map Setup.unhooked →
      ∀ (result : Except Fault Unit) (members : Nat) (past : List Exchange) (crew : Crew),
        Crew.Account .passive World.exchanges (.idle setups members) past crew →
        ∃ other, Crew.Account (.answering result) World.exchanges (.idle replaced members)
          past other ∧ crew.Rehooked other := by
  constructor
  · intro left right accepted acceptedToo same targets target
    exact Manifest.load_sameProgress accepted acceptedToo same targets target
  · intro setups replaced same result members past crew account
    obtain ⟨other, counterpart, rehooked, -⟩ :=
      Crew.exists_rehooked same result account
    exact ⟨other, counterpart, rehooked⟩

/-- A library that fails when its tables are patched, a unit that needs it, and an image
that is refused, with all consumers, lenient settings and blobs of which one is
malformed. -/
def Manifest.advised : Manifest where
  loader := { expandModulesOnLoad := true, strictActivationChecks := false }
  sinks := { profiler := true, debugger := true, inspection := true }
  units := [
    { name := "Lib"
      failAt := some .vtableFixups
      debuggable := some [1, 0, 3, 1, 0, 0] },
    { name := "App", dependsOn := ["Lib"], debuggable := some [9, 0, 0, 0, 0, 0] },
    { name := "Bad", invalid := true }]

/-- The same units without consumers, under strict settings. -/
def Manifest.strict : Manifest where
  loader := { strictActivationChecks := true }
  units := [
    { name := "Lib", failAt := some .vtableFixups },
    { name := "App", dependsOn := ["Lib"] },
    { name := "Bad", invalid := true, debuggable := some [1, 0] }]

namespace Crew

/-- One domain with a hook. -/
def hookedBy (hook : Hook) : List Setup :=
  [{ Setup.observed with hook }]

/-- A client whose hook fails once, and which counts events in an initializer. -/
def tours : List Cue :=
  [.asks 0 (.create 0 { name := "App" } { name := "App", initializer := .client }),
    .asks 0 (.ensure 0 0 .active)] ++ Cue.climbs 0 7 ++
  [.requests 0 (.ends (.error (.step .begun "rejected")))] ++ Cue.climbs 0 12 ++
  [.returns 0] ++ Cue.climbs 0 11 ++ [.returns 0] ++ Cue.climbs 0 13 ++
  [.returns 0] ++ Cue.climbs 0 11 ++ [.returns 0] ++ Cue.climbs 0 12 ++
  [.returns 0] ++ Cue.climbs 0 12 ++
  [.asks 0 (.counts "App"), .asks 0 (.state 0), .returns 0] ++ Cue.climbs 0 4

/-- One thread in a domain with a recorder and the client for its hooks. -/
def tourist : Crew :=
  idle (hookedBy { records := true, client := true }) 1

theorem tours_enacted : (tourist.enactAll Conduct.passive tours).isSome = true := by
  decide +kernel

def toured : Crew :=
  (tourist.enactAll Conduct.passive tours).get tours_enacted

end Crew

theorem nothing_hangs_on_observers_toured :
    (Manifest.advised.validate = .ok () ∧ Manifest.strict.validate = .ok () ∧
      Manifest.advised.unadvised = Manifest.strict.unadvised ∧
      let former := (Manifest.advised.build.runAll [.loaded]).load .active false
      let latter := (Manifest.strict.build.runAll [.loaded]).load .active false
      former.2.units.map UnitReport.status = [.failed, .failed, .refused] ∧
        former.1.world.SameProgress latter.1.world ∧
        List.Forall₂ UnitReport.SameStatus former.2.units latter.2.units) ∧
    ∃ past, Crew.Account .passive World.exchanges Crew.tourist past Crew.toured ∧
      (∃ other, Crew.Account (.answering (.ok ())) World.exchanges
        (.idle (Crew.hookedBy {}) 1) past other ∧ Crew.toured.Rehooked other) ∧
      ∃ other, Crew.Account (.answering (.error (.step .begun "rejected")))
        World.exchanges (.idle (Crew.hookedBy { client := true }) 1) past other ∧
        Crew.toured.Rehooked other := by
  obtain ⟨alike, counterpart⟩ := nothing_hangs_on_observers
  have account : Crew.Account .passive World.exchanges Crew.tourist _ Crew.toured :=
    Crew.Account.start.enactAll (Option.some_get Crew.tours_enacted).symm
  have accepted : Manifest.advised.validate = .ok () := by decide +kernel
  have acceptedToo : Manifest.strict.validate = .ok () := by decide +kernel
  have same : Manifest.advised.unadvised = Manifest.strict.unadvised := by decide
  have replaced (hook : Hook) (result : Except Fault Unit) :=
    counterpart (Crew.hookedBy { records := true, client := true }) (Crew.hookedBy hook)
      rfl result 1 _ _ account
  refine ⟨⟨accepted, acceptedToo, same, ?_, ?_⟩, _, account, ?_, ?_⟩
  · decide +kernel
  · exact alike _ _ accepted acceptedToo same [.loaded] .active
  · exact replaced {} (.ok ())
  · exact replaced { client := true } (.error (.step .begun "rejected"))

end LoadLadder
