import LoadLadder.Proofs.CauseReplays
import LoadLadder.Proofs.LoneCrews

/-!
# What a request for a level promises

A thread that runs alone asks for a level of a unit.  If none of its drivers holds
the unit's entry, success means that the unit has got there.  If one does, the
request comes from inside a sub-step of the unit; it does nothing, and one level
less will do.  Whatever callbacks do meanwhile, and however the request ends, the
load entries are in the end as they were in the beginning.
-/

namespace LoadLadder

/-- What a thread hears that asks for a level of a unit from inside a sub-step of
this unit. -/
def LoadUnit.reentrantReply (unit : LoadUnit) (target : Level) : Reply :=
  match unit.failure.cause, decide (unit.level < target) with
  | some cause, true => .error (.load cause)
  | _, _ =>
      if target.relaxed ≤ unit.level then .ok true
      else .error (.loadInProgress unit.name unit.level target.relaxed)

/-- A driver that leaves its loop has a reason to: the unit is where it should be, or
it has failed. -/
def Phase.Promises (unit : LoadUnit) (goal : Level) : Phase → Prop
  | .release .stop | .leave | .settle => goal ≤ unit.level ∨ unit.isError = true
  | .require => goal ≤ unit.level
  | _ => True

theorem Phase.Promises.grows {unit later : LoadUnit} {goal : Level} {phase : Phase}
    (promises : phase.Promises unit goal) (grows : unit.Grows later) :
    phase.Promises later goal := by
  have sooner (reason : goal ≤ unit.level ∨ unit.isError = true) :
      goal ≤ later.level ∨ later.isError = true :=
    reason.imp (fun reached => Nat.le_trans reached grows.level) grows.isError
  cases phase with
  | release exit => cases exit <;> first | trivial | exact sooner promises
  | leave | settle => exact sooner promises
  | require => exact Nat.le_trans promises grows.level
  | _ => trivial

/-- Where one step takes a driver that promises a level. -/
inductive World.Leads (world : World) (key : UnitKey) (target goal : Level)
    (stack : List Waiting) : Thread → Prop
  | drives {phase : Phase} (promises : phase.Promises (world.unit key) goal) :
      Leads world key target goal stack ⟨.drive key target phase, stack⟩
  | climbs {level : Level} :
      Leads world key target goal stack
        ⟨.subStep key level level.actions, .onSubStep key target level :: stack⟩
  | announces {snapshot : Snapshot} {listeners : List Listener}
      (active : .active ≤ (world.unit key).level) :
      Leads world key target goal stack
        ⟨.announce key target snapshot listeners, stack⟩
  | answers {reply : Reply}
      (kept : ∀ flag, reply = .ok flag → goal ≤ (world.unit key).level) :
      Leads world key target goal stack ⟨.answer reply, stack⟩

/-- Where a thread is that answers a request for a level, on top of what lay on its
stack when it was asked. -/
inductive World.Pursues (world : World) (key : UnitKey) (target : Level)
    (below : List Waiting) : Thread → Prop
  | drives {phase : Phase} (promises : phase.Promises (world.unit key) target) :
      Pursues world key target below ⟨.drive key target phase, below⟩
  /-- A sub-step of the unit is running, with whatever it calls. -/
  | climbs {task : Task} {above : List Waiting} {level : Level} :
      Pursues world key target below
        ⟨task, above ++ .onSubStep key target level :: below⟩
  | announces {snapshot : Snapshot} {rest : List Listener}
      (reached : target ≤ (world.unit key).level) :
      Pursues world key target below ⟨.announce key target snapshot rest, below⟩
  /-- A listener is being told that the unit is active. -/
  | tells {task : Task} {above : List Waiting} {snapshot : Snapshot}
      {rest : List Listener} (reached : target ≤ (world.unit key).level) :
      Pursues world key target below
        ⟨task, above ++ .onListener key target snapshot rest :: below⟩
  | answers {reply : Reply}
      (kept : ∀ flag, reply = .ok flag → target ≤ (world.unit key).level) :
      Pursues world key target below ⟨.answer reply, below⟩

namespace World

variable {world next : World} {repertoire : Repertoire} {me : ThreadId}
  {thread after : Thread} {deeds : List Deed} {key : UnitKey}
  {target goal : Level} {below : List Waiting}

theorem Pursues.grows (pursues : world.Pursues key target below thread)
    (grows : world.Grows next) (known : key < world.unitCount) :
    next.Pursues key target below thread := by
  have unit := grows.unit key known
  have higher (reached : target ≤ (world.unit key).level) :
      target ≤ (next.unit key).level := Nat.le_trans reached unit.level
  cases pursues with
  | drives promises => exact .drives (promises.grows unit)
  | climbs => exact .climbs
  | announces reached => exact .announces (higher reached)
  | tells reached => exact .tells (higher reached)
  | answers kept => exact .answers fun flag same => higher (kept flag same)

theorem ensure_of_home :
    Task.ensure world (world.unit key).home key target =
      if (world.unit key).isLoading then .drive key target .checkLevel
      else .answer (((world.unit key).throwIfError target).map fun _ => true) := by
  simp [Task.ensure, checkDomain]

theorem reached_of_not_loading (idle : ¬ (world.unit key).isLoading = true) :
    target ≤ (world.unit key).level := by
  have high : Level.active ≤ (world.unit key).level :=
    Nat.not_lt.mp fun low => idle (decide_eq_true low)
  exact Nat.le_trans (Nat.not_lt.mp (not_active_lt target)) high

/-- A request starts with driving the unit, unless it is active already. -/
theorem pursues_ensure :
    world.Pursues key target below
      ⟨.ensure world (world.unit key).home key target, below⟩ := by
  rw [ensure_of_home]
  split
  · exact .drives trivial
  · rename_i idle
    exact .answers fun _ _ => reached_of_not_loading idle

/-- An active unit that tells its host stays where it is. -/
theorem reached_of_active (active : (world.unit key).isActive = true) :
    target ≤ ((world.claim key .hostLoadEvent).1.unit key).level := by
  rw [((still_claim world key .hostLoadEvent).unit key).level]
  exact Nat.le_trans (Nat.not_lt.mp (not_active_lt target)) (of_decide_eq_true active)

theorem verdict_of_free {entries table : Entries} {verdict : Verdict}
    {phase : Phase} {id : UnitId} (free : table.owner? id = none)
    (asked : phase.asked table me id = some (entries, verdict)) :
    verdict = .acquired := by
  cases phase with
  | acquire =>
      rw [Phase.asked, Entries.request_of_free free] at asked
      cases asked
      rfl
  | blocked =>
      have woken : (table.stopWaiting me).owner? id = none := free
      change some ((table.stopWaiting me).request me id) = _ at asked
      rw [Entries.request_of_free woken] at asked
      cases asked
      rfl
  | _ => simp [Phase.asked] at asked

/-- One step of a driver keeps its promise, if nobody is refused the entry of a unit
that has not got so far. -/
theorem leads_stepped {phase : Phase}
    (stepped : world.Stepped me ⟨.drive key target phase, below⟩ next after)
    (lower : goal ≤ target)
    (denied : phase = .acquire ∨ phase = .blocked →
      (world.homeOf key).entries.owner? (world.unit key).id ≠ none →
        goal ≤ (world.unit key).level)
    (promises : phase.Promises (world.unit key) goal) :
    next.Leads key target goal below after := by
  have enough (reached : target ≤ (world.unit key).level) :
      goal ≤ (world.unit key).level := Nat.le_trans lower reached
  cases stepped with
  | below => exact .drives trivial
  | arrived high => exact .drives (Or.inl (enough (Nat.not_lt.mp high)))
  | barred failed => exact .drives (Or.inr failed)
  | admitted => exact .drives trivial
  | entered => exact .drives trivial
  | refused asks kept goes asked =>
      obtain ⟨verdict, asked, went⟩ := asked
      have taken : (world.homeOf key).entries.owner? (world.unit key).id ≠ none := by
        intro free
        have acquired : verdict = .acquired := verdict_of_free free asked
        subst acquired
        rcases goes with rfl | rfl <;> simp [afterRequest] at went
      rcases goes with rfl | rfl
      · exact .drives (Or.inl (denied asks taken))
      · exact .drives trivial
  | overtaken past => exact .drives ((through_of_overtaken past).imp_left enough)
  | climbs => exact .climbs
  | raised => exact .drives trivial
  | failed => exact .drives trivial
  | releasedAgain => exact .drives trivial
  | releasedStop => exact .drives promises
  | releasedRaise => exact .answers (by simp)
  | announces active => exact .announces (reached_of_active active)
  | announcedBefore active => exact .drives (Or.inl (reached_of_active active))
  | leaves => exact .drives promises
  | settled clear =>
      apply Leads.drives
      rcases promises with reached | failed
      · exact reached
      · exact enough (reached_of_clear clear failed)
  | blames => exact .answers (by simp)
  | required => exact .answers fun _ _ => promises

/-- One step of the driver of a request. -/
theorem pursues_driven {phase : Phase}
    (stepped : world.Stepped me ⟨.drive key target phase, below⟩ next after)
    (free : phase = .acquire ∨ phase = .blocked →
      (world.homeOf key).entries.owner? (world.unit key).id = none)
    (promises : phase.Promises (world.unit key) target) :
    next.Pursues key target below after := by
  have leads := leads_stepped stepped (Nat.le_refl _)
    (fun asks taken => absurd (free asks) taken) promises
  cases leads with
  | drives promises => exact .drives promises
  | climbs => exact @Pursues.climbs _ _ _ _ _ [] _
  | announces active =>
      exact .announces (Nat.le_trans (Nat.not_lt.mp (not_active_lt target)) active)
  | answers kept => exact .answers kept

/-- The driver of a request is answered by the sub-step that it waited for. -/
theorem pursues_climbed {level : Level} {reply : Reply}
    (act : world.Act repertoire 0
      ⟨.answer reply, .onSubStep key target level :: below⟩ deeds next after)
    (candid : Thread.Candid ⟨.answer reply, .onSubStep key target level :: below⟩) :
    next.Pursues key target below after := by
  cases stepped_of_busy act rfl with
  | succeeded | broke => exact .drives trivial
  | abandoned => cases candid rfl

theorem pursues_act (act : world.Act repertoire 0 thread deeds next after)
    (known : key < world.unitCount) (candid : thread.Candid)
    (free : ∀ phase, thread = ⟨.drive key target phase, below⟩ →
      phase = .acquire ∨ phase = .blocked →
      (world.homeOf key).entries.owner? (world.unit key).id = none)
    (unanswered : ∀ reply, thread ≠ ⟨.answer reply, below⟩)
    (pursues : world.Pursues key target below thread) :
    next.Pursues key target below after := by
  have grows := (grows_act act).unit key known
  have shifts := shifts_act act
  cases pursues with
  | @drives phase promises =>
      exact pursues_driven (stepped_of_busy act rfl) (free phase rfl) promises
  | @climbs task above level =>
      rcases shifts.stays rfl with ⟨higher, stack⟩ | ⟨reply, answers⟩
      · obtain ⟨task, stack⟩ := after
        subst stack
        exact .climbs
      · rw [answers] at act candid
        exact pursues_climbed act candid
  | announces reached =>
      have later := Nat.le_trans reached grows.level
      cases stepped_of_busy act rfl with
      | allTold => exact .drives (Or.inl later)
      | tellsRecorder => exact .announces later
      | tellsClient => exact @Pursues.tells _ _ _ _ _ [] _ _ later
  | @tells task above snapshot rest reached =>
      have later := Nat.le_trans reached grows.level
      rcases shifts.stays rfl with ⟨higher, stack⟩ | ⟨reply, answers⟩
      · obtain ⟨task, stack⟩ := after
        subst stack
        exact .tells later
      · rw [answers] at act
        cases stepped_of_busy act rfl with
        | listened => exact .announces later
  | answers => exact absurd rfl (unanswered _)

theorem reached_of_pursues (pursues : world.Pursues key target below thread)
    {flag : Bool} (answers : thread = ⟨.answer (.ok flag), below⟩) :
    target ≤ (world.unit key).level := by
  have short := congrArg (fun thread : Thread => thread.stack.length) answers
  cases pursues with
  | answers kept =>
      cases answers
      exact kept flag rfl
  | drives | announces => cases answers
  | climbs | tells =>
      simp at short
      omega

/-- Where a thread is that asks for a unit from inside a sub-step of this unit, and
how many steps it may take until it has its answer. -/
inductive Declines (unit : LoadUnit) (key : UnitKey) (target : Level)
    (below : List Waiting) : Nat → Thread → Prop
  | checksLevel : Declines unit key target below 6
      ⟨.drive key target .checkLevel, below⟩
  | checksCause : Declines unit key target below 5
      ⟨.drive key target .checkCause, below⟩
  | acquires : Declines unit key target below 4
      ⟨.drive key target .acquire, below⟩
  | leaves : Declines unit key target below 3 ⟨.drive key target .leave, below⟩
  | settles : Declines unit key target below 2 ⟨.drive key target .settle, below⟩
  | requires (clear : unit.throwIfError target = .ok ()) :
      Declines unit key target below 1 ⟨.drive key target .require, below⟩
  | answers : Declines unit key target below 0
      ⟨.answer (unit.reentrantReply target), below⟩

theorem stack_of_declines {unit : LoadUnit} {left : Nat}
    (declines : Declines unit key target below left thread) :
    thread.stack = below := by
  cases declines <;> rfl

theorem answer_of_declines {unit : LoadUnit}
    (declines : Declines unit key target below 0 thread) :
    thread = ⟨.answer (unit.reentrantReply target), below⟩ := by
  cases declines
  rfl

theorem deeds_of_declines {unit : LoadUnit} {left : Nat}
    (declines : Declines unit key target below left thread) :
    world.deeds thread = [] := by
  cases declines <;> rfl

theorem busy_of_declines {unit : LoadUnit} {left : Nat}
    (declines : Declines unit key target below (left + 1) thread) :
    (world.step 0 thread).isSome = true := by
  cases declines <;> rfl

theorem reentrantReply_of_still {unit later : LoadUnit} (still : unit.Still later) :
    later.reentrantReply target = unit.reentrantReply target := by
  simp only [LoadUnit.reentrantReply, LoadUnit.name, still.failure, still.level,
    still.image]

theorem declines_of_still {unit later : LoadUnit} {left : Nat}
    (still : unit.Still later)
    (declines : Declines unit key target below left thread) :
    Declines later key target below left thread := by
  cases declines with
  | requires clear =>
      apply Declines.requires
      rw [LoadUnit.throwIfError, still.failure, still.level]
      exact clear
  | answers =>
      rw [← reentrantReply_of_still still]
      exact .answers
  | checksLevel => exact .checksLevel
  | checksCause => exact .checksCause
  | acquires => exact .acquires
  | leaves => exact .leaves
  | settles => exact .settles

/-- Whom the cause of the unit blocks hears of it at once. -/
theorem reentrantReply_of_blocked {unit : LoadUnit} {fault : Fault}
    (blocks : unit.throwIfError target = .error fault) :
    unit.reentrantReply target = .error fault := by
  simp only [LoadUnit.throwIfError, CauseCell.raiseIfBlocking] at blocks
  split at blocks
  · rename_i cause stored
    split at blocks
    · rename_i short
      cases blocks
      simp [LoadUnit.reentrantReply, stored, short]
    · contradiction
  · contradiction

/-- Otherwise the level counts, and one level less will do. -/
theorem reentrantReply_of_clear {unit : LoadUnit}
    (clear : unit.throwIfError target = .ok ()) :
    unit.reentrantReply target =
      (unit.requireLevel target.relaxed).map fun _ => true := by
  have unblamed : unit.failure.cause = none ∨ ¬ unit.level < target := by
    cases stored : unit.failure.cause with
    | none => exact Or.inl rfl
    | some cause =>
        refine Or.inr fun short => ?_
        rw [LoadUnit.throwIfError_of_cause stored, Cause.verdict, if_pos short] at clear
        contradiction
  by_cases enough : target.relaxed ≤ unit.level
  · have high : ¬ unit.level < target.relaxed := Nat.not_lt.mpr enough
    rcases unblamed with none | reached
    · simp [LoadUnit.reentrantReply, LoadUnit.requireLevel, none, enough, high]
      rfl
    · simp [LoadUnit.reentrantReply, LoadUnit.requireLevel, reached, enough, high]
      rfl
  · have low : unit.level < target.relaxed := Nat.not_le.mp enough
    have short : unit.level < target := Nat.lt_of_lt_of_le low target.relaxed_le
    have none := unblamed.resolve_right (not_not_intro short)
    simp [LoadUnit.reentrantReply, LoadUnit.requireLevel, LoadUnit.throwIfError,
      CauseCell.raiseIfBlocking, none, enough, low]
    rfl

/-- One step of a request from inside. -/
theorem declines_stepped {left : Nat}
    (stepped : world.Stepped 0 thread next after)
    (owned : thread = ⟨.drive key target .acquire, below⟩ →
      (world.homeOf key).entries.owner? (world.unit key).id = some 0)
    (inactive : (world.unit key).level ≠ .active)
    (declines : Declines (world.unit key) key target below (left + 1) thread) :
    (world.unit key).Still (next.unit key) ∧
      ∃ fewer ≤ left, Declines (world.unit key) key target below fewer after := by
  cases declines with
  | checksLevel =>
      cases stepped with
      | below => exact ⟨.refl _, 5, by decide, .checksCause⟩
      | arrived => exact ⟨.refl _, 3, by decide, .leaves⟩
      | entered asks | refused asks => rcases asks with asks | asks <;> cases asks
  | checksCause =>
      cases stepped with
      | barred => exact ⟨.refl _, 3, by decide, .leaves⟩
      | admitted => exact ⟨.refl _, 4, by decide, .acquires⟩
      | entered asks | refused asks => rcases asks with asks | asks <;> cases asks
  | acquires =>
      cases stepped with
      | entered asks free =>
          rw [owned rfl] at free
          contradiction
      | refused asks kept goes asked =>
          refine ⟨.refl _, 3, by decide, ?_⟩
          obtain ⟨verdict, asked, went⟩ := asked
          rw [Phase.asked, Entries.request_of_owned (owned rfl)] at asked
          cases asked
          cases went
          exact .leaves
  | leaves =>
      cases stepped with
      | announces active | announcedBefore active =>
          exact absurd (LoadUnit.eq_active_of_isActive active) inactive
      | leaves => exact ⟨.refl _, 2, by decide, .settles⟩
      | entered asks | refused asks => rcases asks with asks | asks <;> cases asks
  | settles =>
      cases stepped with
      | settled clear => exact ⟨.refl _, 1, by decide, .requires clear⟩
      | blames blocks =>
          rw [← reentrantReply_of_blocked blocks]
          exact ⟨.refl _, 0, by decide, .answers⟩
      | entered asks | refused asks => rcases asks with asks | asks <;> cases asks
  | requires clear =>
      cases stepped with
      | required =>
          rw [← reentrantReply_of_clear clear]
          exact ⟨.refl _, 0, by decide, .answers⟩
      | entered asks | refused asks => rcases asks with asks | asks <;> cases asks

end World

namespace Crew

/-- What happens from a state of a crew on, as long as the thread has not yet
answered what lay on its stack in the beginning. -/
inductive Call (below : List Waiting) (first : Crew) : List Deed → Crew → Prop
  | start : Call below first [] first
  | snoc {crew next : Crew} {before deeds : List Deed}
      (call : Call below first before crew)
      (unanswered : ∀ reply, crew.thread 0 ≠ ⟨.answer reply, below⟩)
      (move : Move .full crew deeds next) :
      Call below first (before ++ deeds) next

/-- What a thread that asked for a level of a unit can count on, up to its answer. -/
structure Promised (first : Crew) (key : UnitKey) (target : Level)
    (below : List Waiting) (deeds : List Deed) (later : Crew) : Prop where
  /-- If the thread did not own the unit's entry, success means that the unit has got
  there. -/
  reached : first.world.ownerAt (first.world.slot key) ≠ some 0 →
    ∀ flag, later.thread 0 = ⟨.answer (.ok flag), below⟩ →
      target ≤ (later.world.unit key).level
  /-- If it did, no sub-step begins, nothing is done to any unit, and this unit's
  level and cause stay. -/
  idle : first.world.ownerAt (first.world.slot key) = some 0 →
    deeds = [] ∧ (later.thread 0).stack = below ∧
      (first.world.unit key).Still (later.world.unit key)
  /-- The unit's cause and level then give the answer. -/
  reentrant : first.world.ownerAt (first.world.slot key) = some 0 →
    ∀ reply, later.thread 0 = ⟨.answer reply, below⟩ →
      reply = (first.world.unit key).reentrantReply target
  /-- With the answer, however it comes about, the entries are as they were. -/
  entries : ∀ reply, later.thread 0 = ⟨.answer reply, below⟩ →
    ∀ home, (later.world.domain home).entries =
      (first.world.domain home).entries

/-- Whatever follows, a request for a level of a unit keeps its promise, and a request
from inside has an answer. -/
structure KeepsPromise (first : Crew) (key : UnitKey) (target : Level)
    (below : List Waiting) : Prop where
  promised : ∀ {deeds : List Deed} {later : Crew}, Call below first deeds later →
    Promised first key target below deeds later
  answered : first.world.ownerAt (first.world.slot key) = some 0 →
    ∃ later reply, Call below first [] later ∧
      later.thread 0 = ⟨.answer reply, below⟩

variable {setups : List Setup} {first crew later : Crew}
  {before deeds : List Deed} {key : UnitKey} {target : Level}
  {below : List Waiting} {through : DomainKey}

theorem Call.run (call : Call below first deeds crew) :
    Run .full first deeds crew := by
  induction call with
  | start => exact .start
  | snoc call unanswered move ih => exact ih.snoc move

section

variable (run : Run .full (idle setups 1) before first)
  (known : key < first.world.unitCount)
  (asked : first.thread 0 =
    ⟨.ensure first.world (first.world.unit key).home key target, below⟩)

include asked in
theorem holds_of_asked :
    (first.thread 0).holds = below.flatMap Waiting.holds := by
  simp [asked, Thread.holds]

include run known asked in
/-- While a request is under way, what the tables say of the unit in between two
sub-steps is what they said in the beginning. -/
theorem owner_of_asking (call : Call below first deeds crew) {phase : Phase}
    (asks : phase = .acquire ∨ phase = .blocked)
    (current : crew.thread 0 = ⟨.drive key target phase, below⟩) :
    (crew.world.homeOf key).entries.owner? (crew.world.unit key).id =
      first.world.ownerAt (first.world.slot key) := by
  have lone := lone_run run
  have later := lone_run (run.trans call.run)
  have grows := grows_run call.run
  have holds : (crew.thread 0).holds = (first.thread 0).holds := by
    rw [holds_of_asked asked, current]
    rcases asks with rfl | rfl <;> rfl
  have slot := World.slot_of_grows grows known
  rw [← slot, World.ownerAt, ← lone.entries_eq later grows holds]
  rfl

include run known asked in
theorem pursues_call (call : Call below first deeds later)
    (unowned : first.world.ownerAt (first.world.slot key) ≠ some 0) :
    later.world.Pursues key target below (later.thread 0) := by
  induction call with
  | start =>
      rw [asked]
      exact World.pursues_ensure
  | @snoc crew next said deeds call unanswered move ih =>
      have lone := lone_run (run.trans call.run)
      have grows := grows_run call.run
      have known := Nat.lt_of_lt_of_le known grows.count
      cases turns_of_move move lone.single with
      | collect =>
          exact ih.grows (.of_still (World.alike_collect crew.world crew.pinned).still)
            known
      | act act now =>
          rw [now]
          refine World.pursues_act act known lone.candid ?_ unanswered ih
          intro phase current asks
          have same := owner_of_asking run ‹_› asked call asks current
          cases owned : (crew.world.homeOf key).entries.owner?
              (crew.world.unit key).id with
          | none => rfl
          | some owner =>
              obtain ⟨rfl, -⟩ := lone.holds_of_owner known owned
              rw [owned] at same
              exact absurd same.symm unowned

include run known asked in
/-- A unit whose entry the thread owns is in the middle of a sub-step. -/
theorem inactive_of_owned
    (owned : first.world.ownerAt (first.world.slot key) = some 0) :
    (first.world.unit key).level ≠ .active := by
  have lone := lone_run run
  have holds := (lone.holds_of_owner known owned).2
  rw [holds_of_asked asked] at holds
  apply lone.unfinished key
  rw [asked]
  exact holds

include run known asked in
/-- One act of a thread that asks from inside. -/
theorem declines_acted (call : Call below first [] crew)
    (owned : first.world.ownerAt (first.world.slot key) = some 0)
    (still : (first.world.unit key).Still (crew.world.unit key))
    {world : World} {thread : Thread} {left : Nat}
    (act : World.Act .full 0 crew.world (crew.thread 0) deeds world thread)
    (declines : World.Declines (crew.world.unit key) key target below (left + 1)
      (crew.thread 0)) :
    deeds = [] ∧ (first.world.unit key).Still (world.unit key) ∧
      ∃ fewer ≤ left, World.Declines (world.unit key) key target below fewer
        thread := by
  have inactive := inactive_of_owned run known asked owned
  have busy : (crew.world.step 0 (crew.thread 0)).isSome = true :=
    World.busy_of_declines declines
  have asking (current : crew.thread 0 = ⟨.drive key target .acquire, below⟩) :=
    (owner_of_asking run known asked call (Or.inl rfl) current).trans owned
  obtain ⟨kept, fewer, less, goes⟩ := World.declines_stepped
    (World.stepped_of_busy act busy) asking (still.level ▸ inactive) declines
  rw [World.deeds_of_busy act busy, World.deeds_of_declines declines]
  exact ⟨rfl, still.trans kept, fewer, less, World.declines_of_still kept goes⟩

include run known asked in
theorem declines_start
    (owned : first.world.ownerAt (first.world.slot key) = some 0) :
    World.Declines (first.world.unit key) key target below 6 (first.thread 0) := by
  have inactive := inactive_of_owned run known asked owned
  have loading : (first.world.unit key).isLoading = true := by
    revert inactive
    simp only [LoadUnit.isLoading]
    cases (first.world.unit key).level <;> decide
  rw [asked, World.ensure_of_home, if_pos loading]
  exact .checksLevel

include run known asked in
theorem declines_call (call : Call below first deeds later)
    (owned : first.world.ownerAt (first.world.slot key) = some 0) :
    deeds = [] ∧ (first.world.unit key).Still (later.world.unit key) ∧
      ∃ left, World.Declines (later.world.unit key) key target below left
        (later.thread 0) := by
  induction call with
  | start => exact ⟨rfl, .refl _, 6, declines_start run known asked owned⟩
  | @snoc crew next said deeds call unanswered move ih =>
      obtain ⟨rfl, still, left, declines⟩ := ih
      have lone := lone_run (run.trans call.run)
      cases turns_of_move move lone.single with
      | collect =>
          have kept := (World.alike_collect crew.world crew.pinned).still.unit key
          exact ⟨rfl, still.trans kept, left,
            World.declines_of_still kept declines⟩
      | act act now =>
          cases left with
          | zero => exact absurd (World.answer_of_declines declines) (unanswered _)
          | succ left =>
              rw [now]
              obtain ⟨rfl, kept, fewer, -, goes⟩ :=
                declines_acted run known asked call owned still act declines
              exact ⟨rfl, kept, fewer, goes⟩

include run known asked in
/-- A request from inside that has so many steps left has its answer after as many
steps at most. -/
theorem answers_call (call : Call below first [] crew)
    (owned : first.world.ownerAt (first.world.slot key) = some 0)
    (still : (first.world.unit key).Still (crew.world.unit key)) {left : Nat}
    (declines : World.Declines (crew.world.unit key) key target below left
      (crew.thread 0)) :
    ∃ later reply, Call below first [] later ∧
      later.thread 0 = ⟨.answer reply, below⟩ := by
  induction left using Nat.strong_induction_on generalizing crew with
  | _ left ih =>
      cases left with
      | zero => exact ⟨crew, _, call, World.answer_of_declines declines⟩
      | succ left =>
          have member : 0 < crew.threads.length :=
            Nat.lt_of_sub_eq_succ (lone_run (run.trans call.run)).single
          obtain ⟨⟨world, thread⟩, step⟩ := Option.isSome_iff_exists.mp
            (World.busy_of_declines declines)
          have act : World.Act .full 0 crew.world (crew.thread 0) _ world thread :=
            .step step
          obtain ⟨nothing, kept, fewer, less, goes⟩ :=
            declines_acted run known asked call owned still act declines
          have unanswered reply : crew.thread 0 ≠ ⟨.answer reply, below⟩ := by
            intro answered
            rw [answered] at declines
            cases declines
          have later := call.snoc unanswered (.act member act)
          rw [nothing] at later
          refine ih fewer (by omega) later kept ?_
          rw [thread_acted member, if_pos rfl]
          exact goes

include run known asked in
theorem promised_call (call : Call below first deeds later) :
    Promised first key target below deeds later where
  reached unowned flag answered := by
    exact World.reached_of_pursues (pursues_call run known asked call unowned)
      answered
  idle owned := by
    obtain ⟨nothing, still, left, declines⟩ :=
      declines_call run known asked call owned
    exact ⟨nothing, World.stack_of_declines declines, still⟩
  reentrant owned reply answered := by
    obtain ⟨nothing, still, left, declines⟩ :=
      declines_call run known asked call owned
    rw [answered] at declines
    cases declines
    exact World.reentrantReply_of_still still
  entries reply answered := by
    have holds : (later.thread 0).holds = (first.thread 0).holds := by
      rw [holds_of_asked asked, answered]
      rfl
    exact (lone_run run).entries_eq (lone_run (run.trans call.run))
      (grows_run call.run) holds

include run known asked in
/-- A thread that runs alone asks for a level of a unit, through the unit's own
domain.  Success means that the unit has got there, except that one level less will
do for a thread that is in the middle of a sub-step of the unit; and the entries are
in the end as they were. -/
theorem ensure_keeps_promise : KeepsPromise first key target below where
  promised := promised_call run known asked
  answered owned := answers_call run known asked .start owned (.refl _)
    (declines_start run known asked owned)

end

theorem thread_ask_ensure (member : 0 < crew.threads.length)
    (home : (crew.world.unit key).home = through)
    (now : later = crew.ask 0 (.ensure through key target)) :
    later.thread 0 =
      ⟨.ensure later.world (later.world.unit key).home key target,
        (later.thread 0).stack⟩ := by
  have world : later.world = crew.world := by
    rw [now]
    rfl
  have asked : later.thread 0 =
      (crew.thread 0).call (.ensure crew.world through key target) := by
    rw [now]
    exact (thread_acted member crew.world _ 0).trans (if_pos rfl)
  rw [world, home, asked, Thread.call]
  split <;> rfl

/-- The client asks for the unit to be active. -/
def requested : Crew :=
  alone.ask 0 (.ensure 0 0 .active)

/-- The unit's initializer asks for the unit to be active once more. -/
def reentrant : Crew :=
  initializing.ask 0 (.ensure 0 0 .active)

theorem ensure_keeps_promise_of_initializing :
    KeepsPromise requested 0 .active (requested.thread 0).stack ∧
      requested.world.ownerAt (requested.world.slot 0) = none ∧
      KeepsPromise reentrant 0 .active (reentrant.thread 0).stack ∧
      reentrant.world.ownerAt (reentrant.world.slot 0) = some 0 ∧
      (reentrant.world.unit 0).reentrantReply .active = .ok true := by
  have called : Run .full alone _ requested :=
    run_ask (by decide +kernel) trivial
  have again : Run .full initializing _ reentrant :=
    run_ask (by decide +kernel) trivial
  exact ⟨ensure_keeps_promise (alone_reached.trans called) (by decide +kernel)
      (thread_ask_ensure (by decide +kernel) (by decide +kernel) rfl),
    by decide +kernel,
    ensure_keeps_promise (initializing_reached.trans again) (by decide +kernel)
      (thread_ask_ensure (by decide +kernel) (by decide +kernel) rfl),
    by decide +kernel, by decide +kernel⟩

end Crew

end LoadLadder
