import LoadLadder.Proofs.ThreadFrames

/-!
# Who drives a unit

A thread that has acquired the entry of a unit keeps it through the sub-step and
gives it back afterwards.  This file shows that the owners in the entry tables are
at every instant exactly such threads, so that no two drivers are between
acquiring and giving back the entry of one unit: not in two threads, and not in
two frames of one thread.
-/

namespace LoadLadder

/-- The unit whose entry a task holds, if any. -/
def Task.holds : Task → List UnitKey
  | .drive key _ .recheck => [key]
  | .drive key _ (.raise _) => [key]
  | .drive key _ (.fail _ _) => [key]
  | .drive key _ (.release _) => [key]
  | _ => []

/-- The unit whose entry a waiting driver holds, if any. -/
def Waiting.holds : Waiting → List UnitKey
  | .onSubStep key _ _ => [key]
  | _ => []

/-- The units whose entries a thread holds, innermost first. -/
def Thread.holds (thread : Thread) : List UnitKey :=
  thread.task.holds ++ thread.stack.flatMap Waiting.holds

/-- What is held just once, and at the top, is not held further down. -/
theorem not_mem_of_held_once {key : UnitKey} {top below : List UnitKey}
    (once : (top ++ below).count key ≤ 1) (held : key ∈ top) : key ∉ below := by
  have count := List.count_pos_iff.mpr held
  rw [List.count_append] at once
  exact List.count_eq_zero.mp (by omega)

namespace World

/-- The place of a unit in the entry tables. -/
def slot (world : World) (key : UnitKey) : DomainKey × UnitId :=
  ((world.unit key).home, (world.unit key).id)

/-- The owner of a place in the entry tables. -/
def ownerAt (world : World) (slot : DomainKey × UnitId) : Option ThreadId :=
  (world.domain slot.1).entries.owner? slot.2

variable {world next : World} {repertoire : Repertoire} {me : ThreadId}
  {thread after : Thread} {deeds : List Deed} {key : UnitKey}

theorem slot_of_grows (grows : world.Grows next)
    (known : key < world.unitCount) : next.slot key = world.slot key := by
  have unit := grows.unit key known
  rw [slot, slot, unit.home, unit.id]

theorem ownerAt_modifyEntries (entries : Entries)
    (slot : DomainKey × UnitId) :
    (world.modifyEntries key fun _ => entries).ownerAt slot =
      if (world.slot key).1 = slot.1 then entries.owner? slot.2
      else world.ownerAt slot := by
  by_cases same : (world.unit key).home = slot.1 <;>
    simp [ownerAt, modifyEntries, World.slot, same]

theorem ownerAt_of_domains
    (same : ∀ home,
      (next.domain home).entries = (world.domain home).entries)
    (slot : DomainKey × UnitId) : next.ownerAt slot = world.ownerAt slot := by
  rw [ownerAt, same]
  rfl

theorem ownerAt_taken {entries : Entries}
    (taken : entries.owners =
      ((world.unit key).id, me) :: (world.homeOf key).entries.owners)
    (slot : DomainKey × UnitId) :
    (world.modifyEntries key fun _ => entries).ownerAt slot =
      if slot = world.slot key then some me else world.ownerAt slot := by
  obtain ⟨home, id⟩ := slot
  rw [ownerAt_modifyEntries]
  by_cases sameHome : (world.slot key).1 = home
  · subst sameHome
    have owner : entries.owner? id =
        if id = (world.unit key).id then some me
        else (world.homeOf key).entries.owner? id := by
      rw [← Entries.owner?_cons]
      simp only [Entries.owner?, taken]
    rw [if_pos rfl, owner]
    by_cases same : id = (world.unit key).id
    · simp [same, World.slot]
    · simp [same, World.slot, ownerAt, homeOf]
  · have apart : ¬ (home, id) = world.slot key := by
      rintro same
      exact sameHome (congrArg Prod.fst same.symm)
    rw [if_neg sameHome, if_neg apart]

theorem ownerAt_released (slot : DomainKey × UnitId) :
    (world.releaseEntry key).ownerAt slot =
      if slot = world.slot key then none else world.ownerAt slot := by
  obtain ⟨home, id⟩ := slot
  simp only [releaseEntry, ownerAt, modifyEntries, domain_modifyDomain]
  by_cases sameHome : (world.unit key).home = home
  · subst sameHome
    rw [if_pos rfl, Entries.owner?_release]
    by_cases same : (world.unit key).id = id
    · simp [same, World.slot]
    · simp [same, World.slot, Ne.symm same]
  · have apart : ¬ (home, id) = world.slot key := by
      rintro same
      exact sameHome (congrArg Prod.fst same.symm)
    rw [if_neg sameHome, if_neg apart]

/-- What an act does to the owners and to the entries that its thread holds. -/
inductive Passes (world next : World) (me : ThreadId)
    (thread after : Thread) : Prop
  /-- Nothing changes hands. -/
  | same (owners : ∀ slot, next.ownerAt slot = world.ownerAt slot)
      (holds : after.holds = thread.holds)
  /-- The thread takes a free entry. -/
  | takes {key : UnitKey}
      (asks : ∃ target phase, thread.task = .drive key target phase)
      (free : world.ownerAt (world.slot key) = none)
      (owners : ∀ slot, next.ownerAt slot =
        if slot = world.slot key then some me else world.ownerAt slot)
      (holds : after.holds = key :: thread.holds)
  /-- The thread gives an entry back. -/
  | returns {key : UnitKey}
      (owners : ∀ slot, next.ownerAt slot =
        if slot = world.slot key then none else world.ownerAt slot)
      (holds : thread.holds = key :: after.holds)

theorem passes_of_still (still : world.Still next)
    (holds : after.holds = thread.holds) :
    world.Passes next me thread after :=
  .same (ownerAt_of_domains fun home => (still.domain home).entries) holds

theorem holds_of_begins {task : Task} (begins : task.Begins world key) :
    task.holds = [] := by
  cases begins <;> rfl

@[simp]
theorem holds_ensure (through : DomainKey) (other : UnitKey)
    (target : Level) : (Task.ensure world through other target).holds = [] :=
  holds_of_begins (begins_ensure world through other target)

theorem passes_stepped (stepped : world.Stepped me thread next after) :
    world.Passes next me thread after := by
  cases stepped with
  | entered asks free taken =>
      refine .takes ⟨_, _, rfl⟩ free (ownerAt_taken taken) ?_
      rcases asks with rfl | rfl <;> rfl
  | @refused key target phase next entries stack asks kept goes =>
      refine .same (fun slot => ?_) ?_
      · rw [ownerAt_modifyEntries]
        split
        · rename_i sameHome
          have owner : entries.owner? slot.2 =
              (world.homeOf key).entries.owner? slot.2 := by
            simp only [Entries.owner?, kept]
          rw [owner, ownerAt, ← sameHome]
          rfl
        · rfl
      · rcases asks with rfl | rfl <;> rcases goes with rfl | rfl <;> rfl
  | releasedAgain | releasedStop | releasedRaise =>
      exact .returns ownerAt_released rfl
  | raised => exact .same (fun slot => rfl) rfl
  | failed =>
      rw [recordFailure_fst]
      exact .same (ownerAt_of_domains fun home => by simp) rfl
  | announces | announcedBefore =>
      exact passes_of_still (still_claim world _ _) rfl
  | @performed key level action rest next stack ordinary done =>
      by_cases publishes : action = .publish
      · subst publishes
        cases done
        exact .same (fun slot => rfl) rfl
      · have still := still_perform world key publishes
        rw [done] at still
        exact passes_of_still still rfl
  | @faulted key level action rest next fault stack done =>
      have quiet : action ≠ .publish := by
        rintro rfl
        simp [perform] at done
      have still := still_perform world key quiet
      rw [done] at still
      exact passes_of_still still rfl
  | initializes runs =>
      refine .same (fun slot => rfl) ?_
      rcases runs with ⟨-, rfl⟩ | ⟨-, rfl⟩ <;> rfl
  | reported goes =>
      refine .same (fun slot => ?_) ?_
      · split <;> rfl
      · rcases goes with ⟨-, rfl⟩ | ⟨-, rfl⟩ <;> rfl
  | @activates other dependency rest stack =>
      refine .same (fun slot => rfl) ?_
      simp [Thread.holds, Waiting.holds]
      rfl
  | _ => exact .same (fun slot => rfl) rfl

theorem entries_complete (operation : Operation) (home : DomainKey) :
    ((operation.complete world me).1.domain home).entries =
      (world.domain home).entries := by
  cases operation with
  | create made image container =>
      rw [complete_create, domain_createUnit]
      split
      · rename_i same
        rw [← same]
      · rfl
  | addDependency unit dependency =>
      simp only [Operation.complete, addDependency]
      split <;> rfl
  | setError unit cause => rw [complete_setError, domain_setError]
  | subscribe subscribed listener =>
      simp only [Operation.complete, domain_modifyDomain]
      split
      · rename_i same
        rw [← same]
      · rfl
  | _ => exact ((still_complete world me rfl).domain home).entries

theorem holds_call {task : Task} (free : task.holds = [])
    (turn : world.step me thread = none) :
    (thread.call task).holds = thread.holds := by
  rcases turn_cases turn with
    ⟨callback, stack, rfl⟩ | ⟨reply, rfl⟩ | ⟨reply, callback, stack, rfl⟩ <;>
  · simp only [Thread.call, Thread.holds, free]
    rfl

theorem passes_act (act : world.Act repertoire me thread deeds next after) :
    world.Passes next me thread after := by
  cases act with
  | step step => exact passes_stepped (stepped_of_step step)
  | operate operation turn asked granted instant =>
      exact .same (ownerAt_of_domains (entries_complete operation)) rfl
  | @call operation task turn asked granted loads =>
      obtain ⟨key, begins⟩ := begins_of_loads loads
      exact .same (fun slot => rfl) (holds_call (holds_of_begins begins) turn)
  | resume answered =>
      subst answered
      exact .same (fun slot => rfl) rfl
  | finish result called =>
      subst called
      exact .same (fun slot => rfl) rfl

theorem known_of_seated {seat : Seat} {stack : List Waiting}
    (seated : world.Seated seat stack) :
    ∀ key ∈ stack.flatMap Waiting.holds, key < world.unitCount := by
  induction seated with
  | subStepOutside | driveOutside => simp
  | driven known below ih =>
      intro key member
      rcases List.mem_append.mp member with own | rest
      · rw [List.mem_singleton.mp own]
        exact known
      · exact ih key rest
  | _ =>
      rename_i ih
      exact ih

theorem known_of_holds (supports : world.Supports thread)
    (holds : key ∈ thread.holds) : key < world.unitCount := by
  obtain ⟨task, stack⟩ := thread
  rcases List.mem_append.mp holds with own | waiting
  · cases task with
    | drive other target phase =>
        have same : key = other := by
          cases phase <;> simp_all [Task.holds]
        rw [same]
        exact supports.1
    | _ => simp [Task.holds] at own
  · obtain ⟨seat, seated⟩ := supports.seated
    exact known_of_seated seated key waiting

theorem known_of_passes (passes : world.Passes next me thread after)
    (supports : world.Supports thread) (holds : key ∈ after.holds) :
    key < world.unitCount := by
  cases passes with
  | same owners same =>
      rw [same] at holds
      exact known_of_holds supports holds
  | @takes taken asks free owners more =>
      rw [more] at holds
      rcases List.mem_cons.mp holds with same | held
      · obtain ⟨target, phase, task⟩ := asks
        simp only [Supports, task] at supports
        rw [same]
        exact supports.1
      · exact known_of_holds supports held
  | returns owners fewer =>
      refine known_of_holds supports ?_
      rw [fewer]
      exact List.mem_cons_of_mem _ holds

end World

namespace Crew

/-- Whoever holds an entry owns it, and holds it once. -/
structure Exclusive (crew : Crew) : Prop where
  owns : ∀ me, ∀ key ∈ (crew.thread me).holds,
    crew.world.ownerAt (crew.world.slot key) = some me
  once : ∀ me, ((crew.thread me).holds.map crew.world.slot).Nodup

variable {repertoire : Repertoire} {setups : List Setup} {members : Nat}
  {first crew next : Crew} {deeds : List Deed} {me you : ThreadId}
  {key : UnitKey}

theorem Exclusive.same_thread (exclusive : crew.Exclusive)
    (mine : key ∈ (crew.thread me).holds)
    (yours : key ∈ (crew.thread you).holds) : me = you := by
  have owner := exclusive.owns me key mine
  rw [exclusive.owns you key yours] at owner
  exact (Option.some.inj owner).symm

theorem Exclusive.count_le (exclusive : crew.Exclusive) (me : ThreadId)
    (key : UnitKey) : (crew.thread me).holds.count key ≤ 1 :=
  List.nodup_iff_count_le_one.mp ((exclusive.once me).of_map _) key

theorem exclusive_idle : (idle setups members).Exclusive where
  owns := by
    intro me key holds
    rw [thread_idle] at holds
    simp [Thread.holds, Task.holds] at holds
  once := by
    intro me
    rw [thread_idle]
    simp [Thread.holds, Task.holds]

/-- What the acting thread holds after the act, it owns, and holds once. -/
theorem exclusive_actor {world : World} {thread : Thread}
    (exclusive : crew.Exclusive)
    (passes : crew.world.Passes world me (crew.thread me) thread) :
    (∀ key ∈ thread.holds,
      world.ownerAt (crew.world.slot key) = some me) ∧
    (thread.holds.map crew.world.slot).Nodup := by
  have owns := exclusive.owns me
  have once := exclusive.once me
  cases passes with
  | same owners holds =>
      rw [holds]
      exact ⟨fun key member => (owners _).trans (owns key member), once⟩
  | @takes taken asks free owners holds =>
      rw [holds]
      have fresh : crew.world.slot taken ∉
          (crew.thread me).holds.map crew.world.slot := by
        intro member
        obtain ⟨held, holding, same⟩ := List.mem_map.mp member
        have owner := owns held holding
        rw [same, free] at owner
        contradiction
      refine ⟨?_, List.nodup_cons.mpr ⟨fresh, once⟩⟩
      intro key member
      rw [owners]
      split
      · rfl
      · rename_i apart
        rcases List.mem_cons.mp member with same | held
        · exact absurd (congrArg crew.world.slot same) apart
        · exact owns key held
  | @returns returned owners holds =>
      rw [holds] at owns once
      obtain ⟨gone, once⟩ := List.nodup_cons.mp once
      refine ⟨?_, once⟩
      intro key member
      rw [owners, if_neg]
      · exact owns key (List.mem_cons_of_mem _ member)
      · intro same
        exact gone (same ▸ List.mem_map_of_mem member)

/-- What another thread holds, it still owns. -/
theorem exclusive_bystander {world : World} {thread : Thread}
    (exclusive : crew.Exclusive)
    (passes : crew.world.Passes world me (crew.thread me) thread)
    (other : me ≠ you) (holds : key ∈ (crew.thread you).holds) :
    world.ownerAt (crew.world.slot key) = some you := by
  have owner := exclusive.owns you key holds
  cases passes with
  | same owners => exact (owners _).trans owner
  | takes asks free owners =>
      rw [owners, if_neg]
      · exact owner
      · intro same
        rw [same, free] at owner
        contradiction
  | @returns returned owners holds =>
      rw [owners, if_neg]
      · exact owner
      · intro same
        have mine := exclusive.owns me returned (by simp [holds])
        rw [same, mine] at owner
        exact other (Option.some.inj owner)

theorem exclusive_move (exclusive : crew.Exclusive) (framed : crew.Framed)
    (move : Move repertoire crew deeds next) : next.Exclusive := by
  cases move with
  | collect =>
      have still := (World.alike_collect crew.world crew.pinned).still
      have slots : (crew.world.collect crew.pinned).slot = crew.world.slot := by
        funext key
        rw [World.slot, World.slot, (still.unit key).home, (still.unit key).id]
      refine ⟨fun me key holds => ?_, fun me => ?_⟩
      · change (crew.world.collect crew.pinned).ownerAt
          ((crew.world.collect crew.pinned).slot key) = some me
        rw [slots, World.ownerAt_of_domains fun home =>
          (still.domain home).entries]
        exact exclusive.owns me key holds
      · change ((crew.thread me).holds.map
          (crew.world.collect crew.pinned).slot).Nodup
        rw [slots]
        exact exclusive.once me
  | @act me world thread deeds member act =>
      have passes := World.passes_act act
      have grows := World.grows_act act
      have slots (held : List UnitKey)
          (known : ∀ key ∈ held, key < crew.world.unitCount) :
          held.map world.slot = held.map crew.world.slot :=
        List.map_congr_left fun key member =>
          World.slot_of_grows grows (known key member)
      obtain ⟨owns, once⟩ := exclusive_actor exclusive passes
      have knownHere : ∀ key ∈ thread.holds, key < crew.world.unitCount :=
        fun key holds =>
          World.known_of_passes passes (framed.supports me) holds
      refine ⟨fun you key holds => ?_, fun you => ?_⟩
      · rw [thread_acted member] at holds
        split at holds
        · rename_i same
          subst same
          change world.ownerAt (world.slot key) = some me
          rw [World.slot_of_grows grows (knownHere key holds)]
          exact owns key holds
        · rename_i other
          change world.ownerAt (world.slot key) = some you
          rw [World.slot_of_grows grows
            (World.known_of_holds (framed.supports you) holds)]
          exact exclusive_bystander exclusive passes other holds
      · rw [thread_acted member]
        split
        · exact (slots _ knownHere) ▸ once
        · exact (slots _ fun key holds =>
            World.known_of_holds (framed.supports you) holds) ▸
            exclusive.once you

theorem exclusive_run (run : Run repertoire (idle setups members) deeds crew) :
    crew.Exclusive := by
  induction run with
  | start => exact exclusive_idle
  | snoc run move ih =>
      exact exclusive_move ih (framed_run framed_idle run) move

end Crew

end LoadLadder
