import LoadLadder.Proofs.CrewDescents
import LoadLadder.Proofs.ThreadAnswers
import LoadLadder.Proofs.UnitNumbers

/-!
# A thread that runs alone

When only one thread acts, the entry tables hold nothing but what this thread's
drivers hold, and nobody waits.  So an entry is free or held by a driver further
down on the thread's own stack, and what the tables say is a matter of that stack.
-/

namespace LoadLadder

/-- The entry table of a domain in which the first thread alone holds entries. -/
def World.ledger (world : World) (held : List UnitKey) (home : DomainKey) :
    Entries where
  owners := (held.filter fun key => (world.unit key).home = home).map
    fun key => ((world.unit key).id, 0)

/-- The entry tables say what the thread holds. -/
def World.Tabled (world : World) (thread : Thread) : Prop :=
  ∀ home, (world.domain home).entries = world.ledger thread.holds home

namespace World

variable {world next : World} {repertoire : Repertoire} {thread after : Thread}
  {deeds : List Deed} {key : UnitKey} {held : List UnitKey}

theorem ledger_congr (slots : ∀ key ∈ held, next.slot key = world.slot key)
    (home : DomainKey) : next.ledger held home = world.ledger held home := by
  unfold ledger
  congr 1
  induction held with
  | nil => rfl
  | cons key held ih =>
      have here := slots key List.mem_cons_self
      have rest := ih fun other member => slots other (List.mem_cons_of_mem key member)
      simp only [slot, Prod.mk.injEq] at here
      simp only [List.filter_cons, here.1]
      split
      · simp only [List.map_cons, here.2, rest]
      · exact rest

theorem ledger_cons (world : World) (key : UnitKey) (held : List UnitKey)
    (home : DomainKey) :
    world.ledger (key :: held) home =
      if (world.unit key).home = home then
        { world.ledger held home with
          owners := ((world.unit key).id, 0) :: (world.ledger held home).owners }
      else world.ledger held home := by
  unfold ledger
  by_cases same : (world.unit key).home = home <;> simp [same]

/-- Whatever is owned is held by the thread. -/
theorem holds_of_ledger {home : DomainKey} {id : UnitId} {owner : ThreadId}
    (owned : (world.ledger held home).owner? id = some owner) :
    owner = 0 ∧ ∃ key ∈ held, world.slot key = (home, id) := by
  induction held with
  | nil => simp [ledger, Entries.owner?] at owned
  | cons key held ih =>
      rw [ledger_cons] at owned
      split at owned
      · rename_i here
        rw [Entries.owner?_cons] at owned
        split at owned
        · rename_i same
          cases owned
          exact ⟨rfl, key, List.mem_cons_self, by rw [slot, here, same]⟩
        · obtain ⟨first, other, member, place⟩ := ih owned
          exact ⟨first, other, List.mem_cons_of_mem key member, place⟩
      · obtain ⟨first, other, member, place⟩ := ih owned
        exact ⟨first, other, List.mem_cons_of_mem key member, place⟩

/-- Giving back the entry of a unit that is held once takes it from the table. -/
theorem release_ledger (once : world.slot key ∉ held.map world.slot) :
    (world.ledger (key :: held) (world.unit key).home).release (world.unit key).id =
      world.ledger held (world.unit key).home := by
  rw [ledger_cons, if_pos rfl, Entries.release]
  congr 1
  rw [List.filter_cons_of_neg (by simp)]
  apply List.filter_eq_self.mpr
  intro owned member
  obtain ⟨other, holds, rfl⟩ := List.mem_map.mp member
  obtain ⟨holds, here⟩ := List.mem_filter.mp holds
  simp only [bne_iff_ne]
  intro same
  apply once
  exact List.mem_map.mpr
    ⟨other, holds, Prod.ext (of_decide_eq_true here) same⟩

/-- Whoever asks for an entry in a ledger takes it, or has it already. -/
theorem asked_ledger {home : DomainKey} {id : UnitId} {phase : Phase}
    {entries : Entries} {verdict : Verdict}
    (asked : phase.asked (world.ledger held home) 0 id = some (entries, verdict)) :
    (phase = .acquire ∨ phase = .blocked) ∧
    ((world.ledger held home).owner? id = none ∧ verdict = .acquired ∧
      entries = { world.ledger held home with
        owners := (id, 0) :: (world.ledger held home).owners } ∨
    (world.ledger held home).owner? id = some 0 ∧ verdict = .reentrant ∧
      entries = world.ledger held home) := by
  have answer (asks : (world.ledger held home).request 0 id = (entries, verdict)) :
      (world.ledger held home).owner? id = none ∧ verdict = .acquired ∧
        entries = { world.ledger held home with
          owners := (id, 0) :: (world.ledger held home).owners } ∨
      (world.ledger held home).owner? id = some 0 ∧ verdict = .reentrant ∧
        entries = world.ledger held home := by
    cases owned : (world.ledger held home).owner? id with
    | none =>
        rw [Entries.request_of_free owned] at asks
        cases asks
        exact Or.inl ⟨rfl, rfl, rfl⟩
    | some owner =>
        obtain ⟨rfl, -⟩ := holds_of_ledger owned
        rw [Entries.request_of_owned owned] at asks
        cases asks
        exact Or.inr ⟨rfl, rfl, rfl⟩
  cases phase with
  | acquire => exact ⟨Or.inl rfl, answer (Option.some.inj asked)⟩
  | blocked => exact ⟨Or.inr rfl, answer (Option.some.inj asked)⟩
  | _ => simp [Phase.asked] at asked

theorem entries_modifyEntries (world : World) (key : UnitKey)
    (change : Entries → Entries) (home : DomainKey) :
    ((world.modifyEntries key change).domain home).entries =
      if (world.unit key).home = home then change (world.domain home).entries
      else (world.domain home).entries := by
  rw [modifyEntries, domain_modifyDomain]
  split
  · rename_i same
    rw [same]
  · rfl

theorem tabled_grows (grows : world.Grows next) (supports : world.Supports thread)
    (tabled : world.Tabled thread) (holds : after.holds = thread.holds)
    (entries : ∀ home, (next.domain home).entries = (world.domain home).entries) :
    next.Tabled after := by
  intro home
  rw [entries, tabled home, holds]
  refine (ledger_congr ?_ home).symm
  exact fun key holds => slot_of_grows grows (known_of_holds supports holds)

theorem tabled_stepped (stepped : world.Stepped 0 thread next after)
    (supports : world.Supports thread)
    (once : (thread.holds.map world.slot).Nodup) (tabled : world.Tabled thread) :
    next.Tabled after := by
  cases contends_stepped stepped with
  | apart entries holds =>
      exact tabled_grows (grows_stepped stepped) supports tabled holds entries
  | @asks key target phase entries verdict stack asked =>
      rw [homeOf, tabled] at asked
      obtain ⟨asks, answer⟩ := asked_ledger asked
      have holds : Thread.holds ⟨.drive key target phase, stack⟩ =
          stack.flatMap Waiting.holds := by
        rcases asks with rfl | rfl <;> rfl
      intro home
      rw [entries_modifyEntries, tabled home]
      change _ = world.ledger _ home
      rcases answer with ⟨-, rfl, rfl⟩ | ⟨-, rfl, rfl⟩
      · change _ = world.ledger (key :: stack.flatMap Waiting.holds) home
        rw [ledger_cons, holds]
        split
        · rename_i same
          rw [same]
        · rfl
      · change _ = world.ledger (stack.flatMap Waiting.holds) home
        rw [holds]
        split
        · rename_i same
          rw [same]
        · rfl
  | @returns key target exit after stack holds =>
      change ((key :: stack.flatMap Waiting.holds).map world.slot).Nodup at once
      have apart := (List.nodup_cons.mp once).1
      intro home
      rw [releaseEntry, entries_modifyEntries, tabled home, holds]
      change _ = world.ledger _ home
      change (if _ then (world.ledger (key :: stack.flatMap Waiting.holds)
        home).release _ else world.ledger (key :: stack.flatMap Waiting.holds) home) = _
      split
      · rename_i same
        rw [← same]
        exact release_ledger apart
      · rename_i other
        rw [ledger_cons, if_neg other]

theorem tabled_act (act : world.Act repertoire 0 thread deeds next after)
    (supports : world.Supports thread)
    (once : (thread.holds.map world.slot).Nodup) (tabled : world.Tabled thread) :
    next.Tabled after := by
  have grows := grows_act act
  cases act with
  | step step => exact tabled_stepped (stepped_of_step step) supports once tabled
  | operate operation =>
      exact tabled_grows grows supports tabled rfl (entries_complete operation)
  | call operation turn asked granted loads =>
      obtain ⟨key, begins⟩ := begins_of_loads loads
      exact tabled_grows grows supports tabled
        (holds_call (holds_of_begins begins) turn) fun home => rfl
  | resume answered =>
      subst answered
      exact tabled_grows grows supports tabled rfl fun home => rfl
  | finish result called =>
      subst called
      exact tabled_grows grows supports tabled rfl fun home => rfl

/-- The units whose drivers wait on the stack have not become active. -/
def Unfinished (world : World) (thread : Thread) : Prop :=
  ∀ key ∈ thread.stack.flatMap Waiting.holds, (world.unit key).level ≠ .active

/-- A driver that comes to wait begins the sub-step after the level of its unit. -/
theorem waiting_stepped {me : ThreadId}
    (stepped : world.Stepped me thread next after)
    (holds : key ∈ after.stack.flatMap Waiting.holds) :
    key ∈ thread.stack.flatMap Waiting.holds ∨
      next = world ∧ (world.unit key).level ≠ .active := by
  cases stepped with
  | climbs short healthy above =>
      rcases List.mem_cons.mp holds with rfl | below
      · exact Or.inr ⟨rfl, Level.ne_active_of_next above⟩
      · exact Or.inl below
  | initializes runs =>
      rcases runs with ⟨-, rfl⟩ | ⟨-, rfl⟩ <;> exact Or.inl holds
  | reported goes =>
      rcases goes with ⟨-, rfl⟩ | ⟨-, rfl⟩ <;> exact Or.inl holds
  | succeeded | abandoned | broke =>
      exact Or.inl (List.mem_cons_of_mem _ holds)
  | _ => exact Or.inl holds

theorem waiting_act {me : ThreadId}
    (act : world.Act repertoire me thread deeds next after)
    (holds : key ∈ after.stack.flatMap Waiting.holds) :
    key ∈ thread.stack.flatMap Waiting.holds ∨
      next = world ∧ (world.unit key).level ≠ .active := by
  cases act with
  | step step => exact waiting_stepped (stepped_of_step step) holds
  | operate => exact Or.inl holds
  | call operation turn =>
      rcases turn_cases turn with
        ⟨callback, stack, rfl⟩ | ⟨reply, rfl⟩ | ⟨reply, callback, stack, rfl⟩ <;>
        exact Or.inl holds
  | resume answered =>
      subst answered
      exact Or.inl holds
  | finish result called =>
      subst called
      exact Or.inl holds

theorem unfinished_act {me : ThreadId}
    (act : world.Act repertoire me thread deeds next after)
    (supports : world.Supports thread)
    (once : ∀ key, thread.holds.count key ≤ 1)
    (unfinished : world.Unfinished thread) : next.Unfinished after := by
  intro key holds
  rcases waiting_act act holds with before | ⟨rfl, inactive⟩
  · have inactive := unfinished key before
    have known := known_of_holds supports (List.mem_append_right _ before)
    rcases level_act act known with same | ⟨level, raises, raised⟩
    · rw [same]
      exact inactive
    · cases raises with
      | @drive target level stack raises =>
          -- the driver on top would hold the entry a second time
          subst raises
          have twice := once key
          have below : 0 < (stack.flatMap Waiting.holds).count key :=
            List.count_pos_iff.mpr before
          simp [Thread.holds, Task.holds] at twice
          omega
      | publish publishes =>
          rw [raised]
          revert inactive
          cases (world.unit key).level <;> decide
  · exact inactive

theorem entries_ofSetups (setups : List Setup) (home : DomainKey) :
    ((ofSetups setups).domain home).entries = {} := by
  have kept (world : World)
      (empty : ∀ home, (world.domain home).entries = {}) :
      ∀ home, ((setups.foldl (fun world setup => world.addDomain setup.domain)
        world).domain home).entries = {} := by
    induction setups generalizing world with
    | nil => exact empty
    | cons setup setups ih =>
        apply ih
        intro home
        simp only [addDomain, World.domain, Store.get_set]
        split
        · rfl
        · exact empty home
  refine kept {} (fun home => ?_) home
  rw [World.domain, Store.get_empty]
  rfl

end World

namespace Crew

variable {repertoire : Repertoire} {setups : List Setup} {crew next : Crew}
  {deeds : List Deed} {key : UnitKey}

/-- What is known about a crew of one thread, whatever its client does. -/
structure Lone (crew : Crew) : Prop where
  single : crew.threads.length = 1
  framed : crew.Framed
  candid : (crew.thread 0).Candid
  numbered : crew.world.Numbered
  tabled : crew.world.Tabled (crew.thread 0)
  unfinished : crew.world.Unfinished (crew.thread 0)

/-- A crew of one thread stays one. -/
theorem single_run (run : Run repertoire (idle setups 1) deeds crew) :
    crew.threads.length = 1 := by
  induction run with
  | start => rfl
  | snoc run move ih =>
      cases move with
      | collect => exact ih
      | act member act => simpa [setThread] using ih

/-- Whatever happens in a crew of one thread happens in this thread. -/
inductive Turns (repertoire : Repertoire) (crew : Crew) :
    List Deed → Crew → Prop
  | act {world : World} {thread : Thread} {deeds : List Deed}
      (act : World.Act repertoire 0 crew.world (crew.thread 0) deeds world thread)
      (later : (({ crew with world }.setThread 0 thread)).thread 0 = thread) :
      Turns repertoire crew deeds ({ crew with world }.setThread 0 thread)
  | collect :
      Turns repertoire crew [] { crew with world := crew.world.collect crew.pinned }

theorem turns_of_move (move : Move repertoire crew deeds next)
    (single : crew.threads.length = 1) : Turns repertoire crew deeds next := by
  cases move with
  | collect => exact .collect
  | @act me world thread deeds member act =>
      have first : me = 0 := Nat.lt_one_iff.mp (single ▸ member)
      subst first
      exact .act act (by rw [thread_acted member, if_pos rfl])

theorem tabled_run (run : Run repertoire (idle setups 1) deeds crew) :
    crew.world.Tabled (crew.thread 0) := by
  induction run with
  | start =>
      intro home
      rw [thread_idle]
      exact World.entries_ofSetups setups home
  | @snoc crew next before deeds run move ih =>
      have framed := framed_run framed_idle run
      cases turns_of_move move (single_run run) with
      | collect =>
          have still := (World.alike_collect crew.world crew.pinned).still
          exact World.tabled_grows (.of_still still) (framed.supports 0) ih rfl
            fun home => (still.domain home).entries
      | act act later =>
          rw [later]
          exact World.tabled_act act (framed.supports 0)
            ((exclusive_run run).once 0) ih

theorem unfinished_run (run : Run repertoire (idle setups 1) deeds crew) :
    crew.world.Unfinished (crew.thread 0) := by
  induction run with
  | start =>
      intro key holds
      rw [thread_idle] at holds
      simp at holds
  | @snoc crew next before deeds run move ih =>
      have framed := framed_run framed_idle run
      cases turns_of_move move (single_run run) with
      | collect =>
          have still := (World.alike_collect crew.world crew.pinned).still
          intro key holds
          rw [(still.unit key).level]
          exact ih key holds
      | act act later =>
          rw [later]
          exact World.unfinished_act act (framed.supports 0)
            ((exclusive_run run).count_le 0) ih

theorem lone_run (run : Run repertoire (idle setups 1) deeds crew) : crew.Lone where
  single := single_run run
  framed := framed_run framed_idle run
  candid := candid_run run 0
  numbered := numbered_run run
  tabled := tabled_run run
  unfinished := unfinished_run run

/-- Whoever owns the entry of a unit is the thread, and one of its drivers holds
it. -/
theorem Lone.holds_of_owner (lone : crew.Lone) (known : key < crew.world.unitCount)
    {owner : ThreadId}
    (owned : crew.world.ownerAt (crew.world.slot key) = some owner) :
    owner = 0 ∧ key ∈ (crew.thread 0).holds := by
  rw [World.ownerAt, lone.tabled] at owned
  obtain ⟨first, other, holds, place⟩ := World.holds_of_ledger owned
  have knownOther := World.known_of_holds (lone.framed.supports 0) holds
  have same := lone.numbered.apart other knownOther key known place
  exact ⟨first, same ▸ holds⟩

/-- Where the thread holds the same units as before, the entries are the same. -/
theorem Lone.entries_eq (lone : crew.Lone) (later : next.Lone)
    (grows : crew.world.Grows next.world)
    (holds : (next.thread 0).holds = (crew.thread 0).holds) (home : DomainKey) :
    (next.world.domain home).entries = (crew.world.domain home).entries := by
  rw [later.tabled, lone.tabled, holds]
  apply World.ledger_congr
  intro key held
  exact World.slot_of_grows grows
    (World.known_of_holds (lone.framed.supports 0) held)

end Crew

end LoadLadder
