import LoadLadder.Proofs.EnsuredLevels

/-!
# Checks that make allowance for the asking thread

A tolerant check passes a unit that lacks one level if the asking thread is itself in
the way.  The check looks owners and waits up on its own, without asking for the
entry.  This file shows that it makes allowance exactly where a driver would be sent
away, whatever the tables say: where the walk from the unit meets a unit of the
thread.

So a thread that runs alone and has just been told that a unit was ensured finds the
unit checked, even if the unit was left one level short.  Where none of its drivers
holds the unit's entry there is nothing to make allowance for.
-/

namespace LoadLadder

/-- An answer that sends a driver away: the thread has the entry already, or would
wait for itself. -/
def Verdict.Refuses (verdict : Verdict) : Prop :=
  verdict = .reentrant ∨ verdict = .wouldDeadlock

namespace Entries

variable {entries : Entries} {thread owner : ThreadId} {unit : UnitId}

theorem wouldDeadlock_of_free (free : entries.owner? unit = none) :
    entries.wouldDeadlock thread unit = false := by
  simp [wouldDeadlock, leadsTo, free]

/-- A walk that starts at a unit of the thread has met one. -/
theorem wouldDeadlock_of_owned (owned : entries.owner? unit = some thread) :
    entries.wouldDeadlock thread unit = true := by
  apply wouldDeadlock_iff_meets.mpr
  exact ⟨0, meets_zero.mpr owned⟩

/-- A driver is sent away exactly where the walk from its unit comes back to its own
thread. -/
theorem refuses_request_iff (entries : Entries) (thread : ThreadId) (unit : UnitId) :
    (entries.request thread unit).2.Refuses ↔
      entries.wouldDeadlock thread unit = true := by
  rcases request_cases entries thread unit with
    ⟨free, taken⟩ | ⟨owned, kept⟩ | ⟨closes, kept⟩ | ⟨-, apart, waits⟩
  · rw [taken, wouldDeadlock_of_free free]
    simp [Verdict.Refuses]
  · rw [kept, wouldDeadlock_of_owned owned]
    simp [Verdict.Refuses]
  · rw [kept, closes]
    simp [Verdict.Refuses]
  · rw [waits, apart]
    simp [Verdict.Refuses]

end Entries

namespace World

variable {world : World} {me : ThreadId} {key : UnitKey} {required : Level}

/-- The check asks for the level, or for one level less where the walk from the unit
comes back to the thread. -/
theorem checkLoading_iff :
    world.checkLoading me key required = true ↔
      required ≤ (world.unit key).level ∨
        required.relaxed ≤ (world.unit key).level ∧
          (world.homeOf key).entries.wouldDeadlock me (world.unit key).id = true := by
  by_cases reached : required ≤ (world.unit key).level
  · simp [checkLoading, reached]
  by_cases near : required.relaxed ≤ (world.unit key).level
  · have enough : ¬ (world.unit key).level < required.relaxed := Nat.not_lt.mpr near
    simp only [checkLoading, reached, enough, near, if_false, false_or, true_and]
    cases owned : (world.homeOf key).entries.owner? (world.unit key).id with
    | none => simp [Entries.wouldDeadlock_of_free owned]
    | some owner =>
        by_cases own : owner = me
        · subst own
          simp [Entries.wouldDeadlock_of_owned owned]
        · simp [own]
  · have short : (world.unit key).level < required.relaxed := Nat.not_le.mp near
    simp [checkLoading, reached, short, near]

/-- Through the unit's own domain a tolerant check passes a unit that has the level,
or lacks one while a driver of the thread would be sent away. -/
theorem checkLoadLevel_tolerant_iff :
    world.checkLoadLevel me (world.unit key).home key required true = true ↔
      required ≤ (world.unit key).level ∨
        required.relaxed ≤ (world.unit key).level ∧
          (world.requestEntry me key).2.Refuses := by
  have home : ¬ (world.unit key).home ≠ (world.unit key).home := not_not_intro rfl
  rw [checkLoadLevel, if_neg home, if_pos rfl, checkLoading_iff]
  change _ ↔ _ ∨ _ ∧ ((world.homeOf key).entries.request me (world.unit key).id).2.Refuses
  rw [Entries.refuses_request_iff]

/-- A unit whose entry nobody owns is checked as if nothing were tolerated. -/
theorem checkLoadLevel_of_free {through : DomainKey}
    (free : world.ownerAt (world.slot key) = none) :
    world.checkLoadLevel me through key required true =
      world.checkLoadLevel me through key required false := by
  have clear : (world.homeOf key).entries.wouldDeadlock me (world.unit key).id = false :=
    Entries.wouldDeadlock_of_free free
  have same : world.checkLoading me key required =
      decide (required ≤ (world.unit key).level) := by
    rw [Bool.eq_iff_iff, checkLoading_iff, clear]
    simp
  unfold checkLoadLevel
  split
  · rfl
  · simpa using same

end World

namespace Crew

variable {setups : List Setup} {first later : Crew} {before deeds : List Deed}
  {key : UnitKey} {target : Level} {below : List Waiting} {flag : Bool}

/-- A request from inside that succeeds leaves the unit one level short at worst. -/
theorem near_of_reentrantReply {unit : LoadUnit}
    (succeeds : unit.reentrantReply target = .ok flag) :
    target.relaxed ≤ unit.level := by
  unfold LoadUnit.reentrantReply at succeeds
  split at succeeds
  · contradiction
  · split at succeeds
    · assumption
    · contradiction

/-- Where a request was answered, the entry of its unit is owned as it was when the
request began. -/
theorem ownerAt_answered (run : Run .full (idle setups 1) before first)
    (known : key < first.world.unitCount)
    (asked : first.thread 0 =
      ⟨.ensure first.world (first.world.unit key).home key target, below⟩)
    (call : Call below first deeds later) {reply : Reply}
    (answered : later.thread 0 = ⟨.answer reply, below⟩) :
    later.world.ownerAt (later.world.slot key) =
      first.world.ownerAt (first.world.slot key) := by
  have promised := promised_call run known asked call
  have slot := World.slot_of_grows (grows_run call.run) known
  rw [slot]
  exact World.ownerAt_of_domains (promised.entries reply answered) _

/-- What a thread that has just ensured a unit finds when it checks the unit
tolerantly. -/
theorem checked_of_ensured (run : Run .full (idle setups 1) before first)
    (known : key < first.world.unitCount)
    (asked : first.thread 0 =
      ⟨.ensure first.world (first.world.unit key).home key target, below⟩)
    (call : Call below first deeds later)
    (answered : later.thread 0 = ⟨.answer (.ok flag), below⟩) :
    later.world.checkLoadLevel 0 (later.world.unit key).home key target true =
      true := by
  have promised := promised_call run known asked call
  have sameOwner := ownerAt_answered run known asked call answered
  apply World.checkLoadLevel_tolerant_iff.mpr
  by_cases owned : first.world.ownerAt (first.world.slot key) = some 0
  · right
    obtain ⟨-, -, still⟩ := promised.idle owned
    have reply := promised.reentrant owned _ answered
    constructor
    · rw [still.level]
      exact near_of_reentrantReply reply.symm
    · have mine : (later.world.homeOf key).entries.owner? (later.world.unit key).id =
          some 0 := sameOwner.trans owned
      apply (Entries.refuses_request_iff _ _ _).mpr
      exact Entries.wouldDeadlock_of_owned mine
  · left
    exact promised.reached owned flag answered

/-- How tolerant checks of a unit come out in a thread that runs alone. -/
structure ChecksTolerantly (crew : Crew) (key : UnitKey) : Prop where
  /-- If the thread asks for a level now and succeeds in the end, a check for this
  level passes then, and changes nothing. -/
  ensured : ∀ {target : Level} {below : List Waiting} {deeds : List Deed}
    {later : Crew} {flag : Bool},
    crew.thread 0 = ⟨.ensure crew.world (crew.world.unit key).home key target, below⟩ →
    Call below crew deeds later → later.thread 0 = ⟨.answer (.ok flag), below⟩ →
    (Operation.checkLevel (later.world.unit key).home key target true).complete
      later.world 0 = (later.world, .flag true)
  /-- If no driver of the thread holds the unit's entry, nothing is tolerated. -/
  strict : key ∉ (crew.thread 0).holds → ∀ (through : DomainKey) (required : Level),
    crew.world.checkLoadLevel 0 through key required true =
      crew.world.checkLoadLevel 0 through key required false

/-- In any world a tolerant check makes allowance exactly where the driver of the same
thread would be sent away.  So in whatever way a thread that runs alone has a unit
ensured, a tolerant check agrees at once, and it is strict outside the drivers of the
unit. -/
theorem tolerant_check_agrees :
    (∀ (world : World) (me : ThreadId) (key : UnitKey) (required : Level),
      world.checkLoadLevel me (world.unit key).home key required true = true ↔
        required ≤ (world.unit key).level ∨
          required.relaxed ≤ (world.unit key).level ∧
            (world.requestEntry me key).2.Refuses) ∧
    ∀ {setups : List Setup} {before : List Deed} {crew : Crew} {key : UnitKey},
      Run .full (idle setups 1) before crew → key < crew.world.unitCount →
        crew.ChecksTolerantly key := by
  constructor
  · intro world me key required
    exact World.checkLoadLevel_tolerant_iff
  · intro setups before crew key run known
    constructor
    · intro target below deeds later flag asked call answered
      have checked := checked_of_ensured run known asked call answered
      rw [Operation.complete, checked]
    · intro apart through required
      apply World.checkLoadLevel_of_free
      apply Option.eq_none_iff_forall_ne_some.mpr
      intro owner owned
      exact apart ((lone_run run).holds_of_owner known owned).2

/-- The initializer of a unit asks for the unit to be active, is content with what it
gets, and finds the unit checked, though it is not active.  Before any load there is
nothing to make allowance for. -/
theorem tolerant_check_agrees_reentrant :
    (∃ (later : Crew) (flag : Bool),
      later.thread 0 = ⟨.answer (.ok flag), (reentrant.thread 0).stack⟩ ∧
        (later.world.unit 0).level = .loaded ∧
        (Operation.checkLevel (later.world.unit 0).home 0 .active true).complete
          later.world 0 = (later.world, .flag true)) ∧
      0 ∉ (alone.thread 0).holds ∧
      alone.world.checkLoadLevel 0 0 0 .begun true =
        alone.world.checkLoadLevel 0 0 0 .begun false := by
  have again : Run .full initializing _ reentrant :=
    run_ask (by decide +kernel) trivial
  have reached := initializing_reached.trans again
  have known : 0 < reentrant.world.unitCount := by decide +kernel
  have asked : reentrant.thread 0 =
      ⟨.ensure reentrant.world (reentrant.world.unit 0).home 0 .active,
        (reentrant.thread 0).stack⟩ :=
    thread_ask_ensure (by decide +kernel) (by decide +kernel) rfl
  have owned : reentrant.world.ownerAt (reentrant.world.slot 0) = some 0 := by
    decide +kernel
  obtain ⟨later, reply, call, answered⟩ := answers_call reached known asked .start owned
    (.refl _) (declines_start reached known asked owned)
  have promised := promised_call reached known asked call
  have content : reply = .ok true := by
    rw [promised.reentrant owned reply answered]
    decide +kernel
  rw [content] at answered
  have below : (later.world.unit 0).level = .loaded := by
    rw [(promised.idle owned).2.2.level]
    decide +kernel
  have outside : 0 ∉ (alone.thread 0).holds := by decide +kernel
  exact ⟨⟨later, true, answered, below,
      (tolerant_check_agrees.2 reached known).ensured asked call answered⟩,
    outside,
    (tolerant_check_agrees.2 alone_reached (by decide +kernel)).strict outside 0 .begun⟩

end Crew

end LoadLadder
