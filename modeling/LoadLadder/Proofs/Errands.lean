import LoadLadder.Proofs.CrewDescents
import LoadLadder.Proofs.DelegatedLoads
import LoadLadder.Proofs.EnsuredLevels
import LoadLadder.Proofs.UnitNumbers

/-!
# Errands

Threads load units of one domain for a client that is never called back, and only
drivers store causes.  Each thread is on an errand: it drives the unit that the
client asked for, or down from there a dependency of a unit that is being activated.
This file says what a fault that comes up on an errand goes back to.
-/

namespace LoadLadder

/-- A client of one domain that leaves sub-steps, causes and containers to the
drivers, and is not called back. -/
def Repertoire.secluded : Repertoire := fun world operation =>
  match operation with
  | .create home _ container => home = 0 ∧ container.initializer ≠ .client
  | .subscribe .. => False
  | operation => Repertoire.delegating world operation

theorem Repertoire.delegating_of_secluded {world : World} {operation : Operation}
    (asked : Repertoire.secluded world operation) :
    Repertoire.delegating world operation := by
  cases operation with
  | incremental | setError | container => exact asked
  | _ => trivial

namespace World

/-- All units belong to the first domain, and nothing there calls the client
back. -/
structure Secluded (world : World) : Prop where
  home : ∀ key < world.unitCount, (world.unit key).home = 0
  hook : (world.domain 0).hook.client = false
  listeners : ∀ listener ∈ (world.domain 0).listeners, listener = .recorder
  initializer : ∀ key < world.unitCount,
    (world.unit key).container.initializer ≠ .client

/-- A later world, in which units may have more dependencies. -/
structure Onward (world next : World) : Prop extends world.Grows next where
  dependencies : ∀ key < world.unitCount,
    ∀ dependency ∈ (world.unit key).dependencies,
      dependency ∈ (next.unit key).dependencies

variable {world next : World} {repertoire : Repertoire} {me : ThreadId}
  {thread after : Thread} {deeds : List Deed} {key : UnitKey}
  {target level : Level} {stack : List Waiting} {aim : Option UnitKey}

theorem Secluded.homeOf (secluded : world.Secluded)
    (known : key < world.unitCount) : world.homeOf key = world.domain 0 := by
  rw [World.homeOf, secluded.home key known]

theorem onward_stepped (stepped : world.Stepped me thread next after) :
    world.Onward next where
  toGrows := grows_stepped stepped
  dependencies := fun key _ dependency needs => by
    rw [(fixed_stepped stepped key).dependencies]
    exact needs

theorem dependencies_complete (world : World) (me : ThreadId)
    (operation : Operation) (known : key < world.unitCount) :
    ∀ dependency ∈ (world.unit key).dependencies,
      dependency ∈ ((operation.complete world me).1.unit key).dependencies := by
  intro dependency needs
  rcases complete_moves world me operation with
    still | ⟨home, image, container, -, moved⟩ | ⟨user, added, -, -, moved⟩ |
    ⟨failed, cause, -, moved⟩
  · rw [(still.unit key).dependencies]
    exact needs
  · rw [moved, unit_createUnit, if_neg (Nat.ne_of_gt known)]
    exact needs
  · rw [moved, unit_modifyUnit]
    split
    · rename_i same
      exact List.mem_append_left _ (same ▸ needs)
    · exact needs
  · rw [moved, (keeps_setError world failed key cause).dependencies]
    exact needs

theorem onward_act (act : world.Act repertoire me thread deeds next after) :
    world.Onward next := by
  refine ⟨grows_act act, ?_⟩
  cases act with
  | step step => exact (onward_stepped (stepped_of_step step)).dependencies
  | operate operation =>
      exact fun key known => dependencies_complete world me operation known
  | call | resume | finish => exact fun _ _ _ needs => needs

theorem onward_collect (world : World) (pinned : List UnitKey) :
    world.Onward (world.collect pinned) where
  toGrows := .of_still (alike_collect world pinned).still
  dependencies := fun key _ dependency needs => by
    rw [((alike_collect world pinned).unit key).dependencies]
    exact needs

theorem samePlugs_complete {operation : Operation}
    (asked : Repertoire.secluded world operation) (me : ThreadId)
    (home : DomainKey) :
    (world.domain home).SamePlugs
      ((operation.complete world me).1.domain home) := by
  cases operation with
  | create made image container =>
      rw [complete_create, domain_createUnit]
      split
      · rename_i same
        rw [← same]
        exact ⟨rfl, rfl, rfl⟩
      · exact .refl _
  | addDependency key dependency =>
      simp only [Operation.complete, addDependency]
      split <;> exact .refl _
  | setError | subscribe => exact asked.elim
  | _ => exact .of_alike ((still_complete world me rfl).domain home)

theorem Secluded.of_onward (secluded : world.Secluded)
    (onward : world.Onward next)
    (plugs : (world.domain 0).SamePlugs (next.domain 0))
    (made : ∀ key < next.unitCount, ¬ key < world.unitCount →
      (next.unit key).home = 0 ∧
        (next.unit key).container.initializer ≠ .client) :
    next.Secluded where
  home := by
    intro key known
    by_cases old : key < world.unitCount
    · rw [(onward.unit key old).home]
      exact secluded.home key old
    · exact (made key known old).1
  hook := by
    rw [plugs.hook]
    exact secluded.hook
  listeners := by
    rw [plugs.listeners]
    exact secluded.listeners
  initializer := by
    intro key known
    by_cases old : key < world.unitCount
    · rw [(onward.unit key old).container]
      exact secluded.initializer key old
    · exact (made key known old).2

/-- What the client makes belongs to the first domain as well. -/
theorem made_of_complete {operation : Operation}
    (asked : Repertoire.secluded world operation) (me : ThreadId)
    (known : key < (operation.complete world me).1.unitCount)
    (new : ¬ key < world.unitCount) :
    ((operation.complete world me).1.unit key).home = 0 ∧
      ((operation.complete world me).1.unit key).container.initializer ≠
        .client := by
  rcases complete_moves world me operation with
    still | ⟨home, image, container, rfl, moved⟩ | ⟨user, added, rfl, -, moved⟩ |
    ⟨failed, cause, rfl, -⟩
  · rw [still.count] at known
    exact absurd known new
  · rw [moved, unitCount_createUnit] at known
    have last : world.unitCount = key :=
      Nat.le_antisymm (Nat.not_lt.mp new) (Nat.lt_succ_iff.mp known)
    rw [moved, unit_createUnit, if_pos last]
    exact asked
  · rw [moved] at known
    exact absurd known new
  · exact asked.elim

theorem secluded_act (act : world.Act .secluded me thread deeds next after)
    (secluded : world.Secluded) : next.Secluded := by
  have onward := onward_act act
  cases act with
  | step step =>
      have stepped := stepped_of_step step
      refine secluded.of_onward onward (samePlugs_stepped stepped 0) ?_
      rw [unitCount_stepped stepped]
      exact fun key known new => absurd known new
  | operate operation turn asked =>
      exact secluded.of_onward onward (samePlugs_complete asked me 0)
        fun key known new => made_of_complete asked me known new
  | call | resume | finish => exact secluded

theorem secluded_collect (secluded : world.Secluded) (pinned : List UnitKey) :
    (world.collect pinned).Secluded := by
  have alike := alike_collect world pinned
  refine secluded.of_onward (onward_collect world pinned)
    (.of_alike (alike.domain 0)) ?_
  rw [alike.count]
  exact fun key known new => absurd known new

/-- A fault with which the sub-step of a unit to a level stops: one of its own work,
or the cause of a dependency. -/
inductive Blames (world : World) (key : UnitKey) : Level → Fault → Prop
  | own {level : Level} {fault : Fault} (own : world.OwnFault key level fault) :
      Blames world key level fault
  | quoted {dependency : UnitKey} {cause : Cause}
      (needs : dependency ∈ (world.unit key).dependencies)
      (known : dependency < world.unitCount)
      (stored : (world.unit dependency).failure.cause = some cause) :
      Blames world key .active (.load cause)

/-- The drive of a unit is what the client asked for, or it is on behalf of a unit
that is being activated and depends on it. -/
inductive Sought (world : World) (aim : Option UnitKey) :
    UnitKey → List Waiting → Prop
  | outermost {root : UnitKey} (aimed : aim = some root)
      (known : root < world.unitCount) : Sought world aim root []
  | within {key dependency : UnitKey} {rest : List UnitKey} {target : Level}
      {actions : List Action} {gateLifted : Bool} {stack : List Waiting}
      (below : Sought world aim key stack)
      (known : dependency < world.unitCount)
      (needs : dependency ∈ (world.unit key).dependencies)
      (others : ∀ other ∈ rest, other ∈ (world.unit key).dependencies) :
      Sought world aim dependency
        (.onDependency key rest ::
          .onInitializer key .active actions gateLifted ::
          .onSubStep key target .active :: stack)

/-- A driver that is through with a unit finds it high enough for what it insists
on, or failed. -/
def Through (world : World) (key : UnitKey) (target : Level) : Prop :=
  target.relaxed ≤ (world.unit key).level ∨ (world.unit key).isError = true

/-- The fault is the cause that a unit keeps. -/
def Surfaces (world : World) (key : UnitKey) (fault : Fault) : Prop :=
  key < world.unitCount ∧ ∃ cause, fault = .load cause ∧
    (world.unit key).failure.cause = some cause

/-- What a driver vouches for at each point of its loop. -/
def Vouches (world : World) (key : UnitKey) (target : Level) : Phase → Prop
  | .fail level fault => world.Blames key level fault
  | .release (.raise fault) => world.Surfaces key fault
  | .release .stop | .leave | .settle | .require => world.Through key target
  | _ => True

/-- Where a thread is on its errand. -/
inductive Errand (world : World) (aim : Option UnitKey) : Thread → Prop
  | drives {key : UnitKey} {target : Level} {phase : Phase}
      {stack : List Waiting} (sought : world.Sought aim key stack)
      (vouches : world.Vouches key target phase) :
      Errand world aim ⟨.drive key target phase, stack⟩
  | carries {key : UnitKey} {target level : Level} {rest : List Action}
      {stack : List Waiting} (sought : world.Sought aim key stack) :
      Errand world aim
        ⟨.subStep key level rest, .onSubStep key target level :: stack⟩
  | initializes {key : UnitKey} {rest : List UnitKey} {target : Level}
      {actions : List Action} {gateLifted : Bool} {stack : List Waiting}
      (sought : world.Sought aim key stack)
      (others : ∀ other ∈ rest, other ∈ (world.unit key).dependencies) :
      Errand world aim
        ⟨.activateDependencies key rest,
          .onInitializer key .active actions gateLifted ::
            .onSubStep key target .active :: stack⟩
  | announces {key : UnitKey} {target : Level} {snapshot : Snapshot}
      {rest : List Listener} {stack : List Waiting}
      (sought : world.Sought aim key stack) (through : world.Through key target)
      (quiet : ∀ listener ∈ rest, listener = .recorder) :
      Errand world aim ⟨.announce key target snapshot rest, stack⟩
  | answersClient {reply : Reply}
      (ends : ∀ root cause, aim = some root → reply = .error (.load cause) →
        world.Surfaces root (.load cause)) :
      Errand world aim ⟨.answer reply, []⟩
  | answersDriver {key : UnitKey} {target level : Level} {reply : Reply}
      {stack : List Waiting} (sought : world.Sought aim key stack)
      (ends : ∀ fault, reply = .error fault → world.Blames key level fault) :
      Errand world aim ⟨.answer reply, .onSubStep key target level :: stack⟩
  | answersInitializer {key : UnitKey} {target : Level} {reply : Reply}
      {actions : List Action} {gateLifted : Bool} {stack : List Waiting}
      (sought : world.Sought aim key stack)
      (ends : ∀ fault, reply = .error fault → world.Blames key .active fault) :
      Errand world aim
        ⟨.answer reply,
          .onInitializer key .active actions gateLifted ::
            .onSubStep key target .active :: stack⟩
  | answersDependency {key dependency : UnitKey} {rest : List UnitKey}
      {target : Level} {reply : Reply} {actions : List Action}
      {gateLifted : Bool} {stack : List Waiting}
      (sought : world.Sought aim key stack)
      (needs : dependency ∈ (world.unit key).dependencies)
      (others : ∀ other ∈ rest, other ∈ (world.unit key).dependencies)
      (ends : ∀ fault, reply = .error fault → world.Surfaces dependency fault) :
      Errand world aim
        ⟨.answer reply,
          .onDependency key rest ::
            .onInitializer key .active actions gateLifted ::
            .onSubStep key target .active :: stack⟩

section

theorem Sought.known (sought : world.Sought aim key stack) :
    key < world.unitCount := by
  cases sought <;> assumption

variable (onward : world.Onward next)

include onward

theorem Onward.stored (known : key < world.unitCount) {cause : Cause}
    (stored : (world.unit key).failure.cause = some cause) :
    (next.unit key).failure.cause = some cause :=
  (onward.unit key known).failure cause stored

theorem Blames.later {fault : Fault} (blames : world.Blames key level fault)
    (known : key < world.unitCount) : next.Blames key level fault := by
  have grows := onward.unit key known
  cases blames with
  | own own =>
      cases own with
      | injected fails =>
          rw [← grows.container] at fails
          exact .own (grows.container ▸ .injected fails)
      | unmapped unmapped =>
          rw [← grows.image] at unmapped
          have name : (next.unit key).name = (world.unit key).name :=
            congrArg Image.name grows.image
          exact .own (name ▸ .unmapped unmapped)
  | quoted needs there stored =>
      exact .quoted (onward.dependencies key known _ needs)
        (Nat.lt_of_lt_of_le there onward.count) (onward.stored there stored)

theorem Sought.later (sought : world.Sought aim key stack) :
    next.Sought aim key stack := by
  induction sought with
  | outermost aimed known =>
      exact .outermost aimed (Nat.lt_of_lt_of_le known onward.count)
  | within below known needs others ih =>
      have widens := onward.dependencies _ below.known
      exact .within ih (Nat.lt_of_lt_of_le known onward.count) (widens _ needs)
        fun other member => widens other (others other member)

theorem Through.later (through : world.Through key target)
    (known : key < world.unitCount) : next.Through key target :=
  through.imp
    (fun high => Nat.le_trans high (onward.unit key known).level)
    (fun failed => (onward.unit key known).isError failed)

theorem Surfaces.later {fault : Fault} (surfaces : world.Surfaces key fault) :
    next.Surfaces key fault := by
  obtain ⟨known, cause, same, stored⟩ := surfaces
  exact ⟨Nat.lt_of_lt_of_le known onward.count, cause, same,
    onward.stored known stored⟩

theorem Vouches.later {phase : Phase} (vouches : world.Vouches key target phase)
    (known : key < world.unitCount) : next.Vouches key target phase := by
  cases phase with
  | fail => exact Blames.later onward vouches known
  | leave | settle | require => exact Through.later onward vouches known
  | release exit =>
      cases exit with
      | again => trivial
      | stop => exact Through.later onward vouches known
      | raise => exact Surfaces.later onward vouches
  | _ => trivial

theorem Errand.later (errand : world.Errand aim thread) :
    next.Errand aim thread := by
  cases errand with
  | drives sought vouches =>
      exact .drives (sought.later onward) (vouches.later onward sought.known)
  | carries sought => exact .carries (sought.later onward)
  | initializes sought others =>
      exact .initializes (sought.later onward) fun other member =>
        onward.dependencies _ sought.known other (others other member)
  | announces sought through quiet =>
      exact .announces (sought.later onward) (through.later onward sought.known)
        quiet
  | answersClient ends =>
      exact .answersClient fun root cause aimed same =>
        (ends root cause aimed same).later onward
  | answersDriver sought ends =>
      exact .answersDriver (sought.later onward) fun fault same =>
        (ends fault same).later onward sought.known
  | answersInitializer sought ends =>
      exact .answersInitializer (sought.later onward) fun fault same =>
        (ends fault same).later onward sought.known
  | answersDependency sought needs others ends =>
      have widens := onward.dependencies _ sought.known
      exact .answersDependency (sought.later onward) (widens _ needs)
        (fun other member => widens other (others other member))
        fun fault same => (ends fault same).later onward

end

theorem relaxed_le (target : Level) : target.relaxed ≤ target := by
  cases target <;> decide

theorem relaxed_le_loaded (target : Level) : target.relaxed ≤ .loaded := by
  cases target <;> decide

/-- What a driver answers about its unit tells whoever waits for it what it wants to
know. -/
theorem errand_answer {reply : Reply} (sought : world.Sought aim key stack)
    (ends : ∀ fault, reply = .error fault → world.Surfaces key fault) :
    world.Errand aim ⟨.answer reply, stack⟩ := by
  cases sought with
  | outermost aimed known =>
      refine .answersClient fun root cause same error => ?_
      cases aimed.symm.trans same
      exact ends _ error
  | within below known needs others =>
      exact .answersDependency below needs others ends

/-- A driver that insists on the relaxed target stops at a cause only. -/
theorem surfaces_of_required (known : key < world.unitCount)
    (through : world.Through key target) {fault : Fault}
    (error : (world.unit key).requireLevel target.relaxed = .error fault) :
    world.Surfaces key fault := by
  by_cases low : (world.unit key).level < target.relaxed
  · have failed := through.resolve_left (Nat.not_le.mpr low)
    obtain ⟨cause, stored⟩ := Option.isSome_iff_exists.mp failed
    have blocked : (world.unit key).throwIfError target.relaxed =
        .error (.load cause) := by
      simp [LoadUnit.throwIfError, CauseCell.raiseIfBlocking, stored, low]
    rw [LoadUnit.requireLevel, if_pos low, blocked] at error
    cases error
    exact ⟨known, cause, rfl, stored⟩
  · rw [LoadUnit.requireLevel, if_neg low] at error
    cases error

/-- Whoever is refused an entry because it is in its own way has come back to a unit
that waits for its dependencies. -/
def Returns (world : World) (me : ThreadId) (thread : Thread) : Prop :=
  ∀ key target phase stack entries verdict,
    thread = ⟨.drive key target phase, stack⟩ →
    phase.asked (world.homeOf key).entries me (world.unit key).id =
      some (entries, verdict) →
    verdict = .reentrant ∨ verdict = .wouldDeadlock →
      .loaded ≤ (world.unit key).level

theorem errand_of_verdict {phase : Phase} {entries : Entries} {verdict : Verdict}
    (returns : world.Returns me ⟨.drive key target phase, stack⟩)
    (sought : world.Sought aim key stack)
    (asked : phase.asked (world.homeOf key).entries me (world.unit key).id =
      some (entries, verdict)) :
    world.Errand aim ⟨afterRequest key target verdict, stack⟩ := by
  have back (own : verdict = .reentrant ∨ verdict = .wouldDeadlock) :
      world.Through key target :=
    Or.inl (Nat.le_trans (relaxed_le_loaded target)
      (returns key target phase stack entries verdict rfl asked own))
  cases verdict with
  | acquired | blocked => exact .drives sought trivial
  | reentrant => exact .drives sought (back (Or.inl rfl))
  | wouldDeadlock => exact .drives sought (back (Or.inr rfl))

theorem errand_of_drives {phase : Phase}
    (stepped : world.Stepped me ⟨.drive key target phase, stack⟩ next after)
    (secluded : world.Secluded)
    (steady : world.Steady ⟨.drive key target phase, stack⟩ key)
    (returns : world.Returns me ⟨.drive key target phase, stack⟩)
    (sought : world.Sought aim key stack)
    (vouches : world.Vouches key target phase) : next.Errand aim after := by
  have onward := onward_stepped stepped
  have known := sought.known
  cases stepped with
  | below | admitted => exact .drives sought trivial
  | arrived high =>
      exact .drives sought (Or.inl (Nat.le_trans (relaxed_le target)
        (Nat.not_lt.mp high)))
  | barred failed => exact .drives sought (Or.inr failed)
  | entered | raised => exact .drives (sought.later onward) trivial
  | refused asks kept goes asked =>
      obtain ⟨verdict, asked, goes⟩ := asked
      exact goes ▸ (errand_of_verdict returns sought asked).later onward
  | overtaken past =>
      refine .drives sought ?_
      rcases through_of_overtaken past with reached | failed
      · exact Or.inl (Nat.le_trans (relaxed_le target) reached)
      · exact Or.inr failed
  | climbs => exact .carries sought
  | @failed key target level fault stack =>
      have healthy := steady.healthy level (by simp [Thread.driving, Task.driving])
      obtain ⟨cause, raised, stored⟩ := recordFailure_of_healthy healthy
      exact .drives (sought.later onward)
        ⟨Nat.lt_of_lt_of_le known onward.count, cause, raised, stored⟩
  | releasedAgain => exact .drives (sought.later onward) trivial
  | releasedStop =>
      exact .drives (sought.later onward) (Through.later onward vouches known)
  | releasedRaise =>
      refine errand_answer (sought.later onward) fun fault same => ?_
      cases same
      exact Surfaces.later onward vouches
  | announces =>
      refine .announces (sought.later onward) (Through.later onward vouches known) ?_
      rw [homeOf, (onward.unit key known).home, secluded.home key known]
      exact secluded.listeners
  | announcedBefore =>
      exact .drives (sought.later onward) (Through.later onward vouches known)
  | leaves | settled => exact .drives sought vouches
  | blames blocks =>
      obtain ⟨cause, stored, rfl⟩ := load_of_throwIfError blocks
      refine errand_answer sought fun fault same => ?_
      cases same
      exact ⟨known, cause, rfl, stored⟩
  | required =>
      refine errand_answer sought fun fault same => ?_
      cases error : (world.unit key).requireLevel target.relaxed with
      | ok => simp [error, Except.map] at same
      | error raised =>
          rw [error] at same
          cases same
          exact surfaces_of_required known vouches error

/-- An action that stops a sub-step stops it with a fault of the unit's own work. -/
theorem blames_of_faulted {action : Action} {rest : List Action} {fault : Fault}
    (steady : world.Steady
      ⟨.subStep key level (action :: rest), .onSubStep key target level :: stack⟩
      key)
    (remains : action :: rest <:+ level.actions)
    (done : world.perform key action = (next, some fault)) :
    world.Blames key level fault := by
  have member := remains.subset List.mem_cons_self
  have stands := standing_of_mayStop steady
    (by simp [Thread.driving, Waiting.driving]) member
    (mayStop_of_fault world key done)
  refine .own (own_of_fault done member ?_)
  rintro rfl
  have rank := Level.rank_of_next stands
  exact Level.le_def.mpr (by
    change 6 ≤ _
    change 7 = _ at rank
    omega)

theorem errand_of_carries {rest : List Action}
    (stepped : world.Stepped me
      ⟨.subStep key level rest, .onSubStep key target level :: stack⟩ next after)
    (secluded : world.Secluded) (remains : rest <:+ level.actions)
    (steady : world.Steady
      ⟨.subStep key level rest, .onSubStep key target level :: stack⟩ key)
    (sought : world.Sought aim key stack) : next.Errand aim after := by
  have onward := onward_stepped stepped
  have known := sought.known
  cases stepped with
  | completed => exact .answersDriver sought (by simp)
  | performed => exact .carries (sought.later onward)
  | faulted done =>
      refine .answersDriver (sought.later onward) fun fault same => ?_
      cases same
      exact (blames_of_faulted steady remains done).later onward known
  | initializes runs =>
      cases active_of_runInitializer remains
      rcases runs with ⟨-, rfl⟩ | ⟨client, -⟩
      · exact .initializes (sought.later onward)
          (onward.dependencies key known)
      · exact absurd client (secluded.initializer key known)
  | reported goes =>
      rcases goes with ⟨-, rfl⟩ | ⟨client, -⟩
      · exact .carries (sought.later onward)
      · rw [secluded.homeOf known, secluded.hook] at client
        contradiction

theorem errand_ensure {dependency : UnitKey} {rest : List UnitKey}
    {actions : List Action} {gateLifted : Bool} (secluded : world.Secluded)
    (sought : world.Sought aim key stack) (known : dependency < world.unitCount)
    (needs : dependency ∈ (world.unit key).dependencies)
    (others : ∀ other ∈ rest, other ∈ (world.unit key).dependencies) :
    world.Errand aim
      ⟨.ensure world (world.unit key).home dependency .active,
        .onDependency key rest :: .onInitializer key .active actions gateLifted ::
          .onSubStep key target .active :: stack⟩ := by
  have home : (world.unit key).home = (world.unit dependency).home := by
    rw [secluded.home key sought.known, secluded.home dependency known]
  rw [home, ensure_of_home]
  split
  · exact .drives (.within sought known needs others) trivial
  · rename_i idle
    refine .answersDependency sought needs others fun fault same => ?_
    have reached : .active ≤ (world.unit dependency).level :=
      reached_of_not_loading idle
    rw [clear_of_reached reached] at same
    cases same

theorem errand_stepped (stepped : world.Stepped me thread next after)
    (secluded : world.Secluded) (supports : world.Supports thread)
    (steady : ∀ key, world.Steady thread key) (returns : world.Returns me thread)
    (candid : thread.Candid) (errand : world.Errand aim thread) :
    next.Errand aim after := by
  have onward := onward_stepped stepped
  cases errand with
  | drives sought vouches =>
      exact errand_of_drives stepped secluded (steady _) returns sought vouches
  | carries sought =>
      exact errand_of_carries stepped secluded supports.2.1 (steady _) sought
  | initializes sought others =>
      cases stepped with
      | allActivated => exact .answersInitializer (sought.later onward) (by simp)
      | activates =>
          exact errand_ensure secluded sought
            (supports.2.1 _ List.mem_cons_self) (others _ List.mem_cons_self)
            fun other member => others other (List.mem_cons_of_mem _ member)
      | skips =>
          exact .initializes sought fun other member =>
            others other (List.mem_cons_of_mem _ member)
  | announces sought through quiet =>
      cases stepped with
      | allTold => exact .drives sought through
      | tellsRecorder =>
          exact .announces (sought.later onward)
            (through.later onward sought.known) fun listener member =>
              quiet listener (List.mem_cons_of_mem _ member)
      | tellsClient => simpa using quiet _ List.mem_cons_self
  | answersClient => cases stepped
  | answersDriver sought ends =>
      cases stepped with
      | succeeded => exact .drives sought trivial
      | abandoned => cases candid rfl
      | broke => exact .drives sought (ends _ rfl)
  | answersInitializer sought ends =>
      cases stepped with
      | initialized => exact .carries (sought.later onward)
      | uninitialized =>
          refine .answersDriver (sought.later onward) fun fault same => ?_
          exact (ends fault same).later onward sought.known
  | answersDependency sought needs others ends =>
      cases stepped with
      | activated => exact .initializes sought others
      | unactivated =>
          refine .answersInitializer sought fun fault same => ?_
          obtain ⟨known, cause, rfl, stored⟩ := ends fault same
          exact .quoted needs known stored

/-- A unit whose driver waits below another one is being activated. -/
theorem Sought.driving (sought : world.Sought aim key stack) :
    ∀ held ∈ stack.flatMap Waiting.holds,
      .active ∈ stack.flatMap (Waiting.driving held) := by
  induction sought with
  | outermost => simp
  | @within key dependency rest target actions gateLifted stack below known needs
      others ih =>
      intro held member
      simp only [List.flatMap_cons, Waiting.holds, Waiting.driving,
        List.nil_append, List.mem_append, List.mem_singleton] at member ⊢
      rcases member with rfl | lower
      · exact Or.inl (by simp)
      · exact Or.inr (ih held lower)

/-- The client asks for a unit. -/
theorem errand_asked (through : DomainKey) (known : key < world.unitCount)
    (target : Level) :
    world.Errand (some key) ⟨.ensure world through key target, []⟩ := by
  unfold Task.ensure
  split
  · rename_i fault foreign
    refine .answersClient fun root cause aimed same => ?_
    cases same
    simp only [checkDomain] at foreign
    split at foreign <;> cases foreign
  · split
    · exact .drives (.outermost rfl known) trivial
    · refine .answersClient fun root cause aimed same => ?_
      cases aimed
      cases blocks : (world.unit key).throwIfError target with
      | ok => simp [blocks, Except.map] at same
      | error fault =>
          rw [blocks] at same
          cases same
          obtain ⟨stored, kept, same⟩ := load_of_throwIfError blocks
          exact ⟨known, stored, same, kept⟩

/-- Nothing waits for the client, so it asks from outside. -/
theorem Errand.answered (errand : world.Errand aim thread)
    (turn : world.step me thread = none) : ∃ reply, thread = ⟨.answer reply, []⟩ := by
  rcases turn_cases turn with
    ⟨callback, stack, rfl⟩ | ⟨reply, rfl⟩ | ⟨reply, callback, stack, rfl⟩
  · cases errand
  · exact ⟨reply, rfl⟩
  · cases errand

theorem errand_call {operation : Operation} {task : Task}
    (turn : world.step me thread = none)
    (asked : Repertoire.secluded world operation)
    (granted : operation.refusal? world = none)
    (loads : operation.task? world = some task)
    (errand : world.Errand aim thread) :
    ∃ aim, world.Errand aim (thread.call task) := by
  obtain ⟨reply, rfl⟩ := errand.answered turn
  cases operation with
  | ensure through key target =>
      cases loads
      exact ⟨some key, errand_asked through (known_of_granted granted rfl) target⟩
  | incremental => exact asked.elim
  | _ => simp [Operation.task?] at loads

theorem errand_act (act : world.Act .secluded me thread deeds next after)
    (secluded : world.Secluded) (supports : world.Supports thread)
    (steady : ∀ key, world.Steady thread key) (returns : world.Returns me thread)
    (candid : thread.Candid) (errand : world.Errand aim thread) :
    (∃ aim, next.Errand aim after) ∧
      ((∀ reply, thread ≠ ⟨.answer reply, []⟩) → next.Errand aim after) := by
  have onward := onward_act act
  cases act with
  | step step =>
      have later := errand_stepped (stepped_of_step step) secluded supports steady
        returns candid errand
      exact ⟨⟨aim, later⟩, fun _ => later⟩
  | operate => exact ⟨⟨aim, errand.later onward⟩, fun _ => errand.later onward⟩
  | call operation turn asked granted loads =>
      refine ⟨errand_call turn asked granted loads errand, fun unanswered => ?_⟩
      obtain ⟨reply, same⟩ := errand.answered turn
      exact absurd same (unanswered reply)
  | resume answered =>
      subst answered
      cases errand
  | finish result called =>
      subst called
      cases errand

end World

namespace Crew

variable {setups : List Setup} {members : Nat} {crew next : Crew}
  {deeds : List Deed} {key : UnitKey} {me : ThreadId}

theorem Run.delegating {first : Crew} (run : Run .secluded first deeds crew) :
    Run .delegating first deeds crew :=
  run.mono fun _ _ => Repertoire.delegating_of_secluded

/-- Every thread of a crew is on an errand, and the load entries say who holds and
who waits for what. -/
structure Errands (crew : Crew) : Prop where
  secluded : crew.world.Secluded
  errand : ∀ me, ∃ aim, crew.world.Errand aim (crew.thread me)
  sound : crew.contention.Sound

/-- Who is told that it is in its own way has asked for an entry that is its own, or
that belongs to somebody who waits. -/
theorem exists_owner_of_refused {entries table : Entries} {unit : UnitId}
    {verdict : Verdict} (request : table.request me unit = (entries, verdict))
    (own : verdict = .reentrant ∨ verdict = .wouldDeadlock) :
    ∃ you, table.owner? unit = some you ∧
      (you = me ∨ ∃ awaited, table.waitsFor? you = some awaited) := by
  rcases table.request_cases me unit with
    ⟨-, result⟩ | ⟨owned, -⟩ | ⟨closes, -⟩ | ⟨-, -, result⟩
  · rw [request] at result
    rcases own with rfl | rfl <;> cases result
  · exact ⟨me, owned, Or.inl rfl⟩
  · obtain ⟨hops, meets⟩ := Entries.wouldDeadlock_iff_meets.mp closes
    cases hops with
    | zero => exact ⟨me, Entries.meets_zero.mp meets, Or.inl rfl⟩
    | succ hops =>
        obtain ⟨awaited, hop, -⟩ := Entries.meets_succ.mp meets
        obtain ⟨you, owned, waits⟩ := Option.bind_eq_some_iff.mp hop
        exact ⟨you, owned, Or.inr ⟨awaited, waits⟩⟩
  · rw [request] at result
    rcases own with rfl | rfl <;> cases result

/-- Whoever owns the entry of a unit holds it. -/
theorem holds_of_owner (run : Run .secluded (idle setups members) deeds crew)
    (errands : crew.Errands) (known : key < crew.world.unitCount)
    (owned : (crew.world.homeOf key).entries.owner? (crew.world.unit key).id =
      some me) : key ∈ (crew.thread me).holds := by
  have supports := (framed_run framed_idle run).supports me
  have numbered := numbered_run run
  rw [errands.secluded.homeOf known] at owned
  obtain ⟨held, holds, same⟩ :=
    List.mem_map.mp ((errands.sound.owns _ me).mp owned)
  have there := World.known_of_holds supports holds
  have slots : crew.world.slot held = crew.world.slot key := by
    rw [World.slot, World.slot, errands.secluded.home held there,
      errands.secluded.home key known, same]
  exact numbered.apart held there key known slots ▸ holds

/-- A unit whose entry a thread holds that drives something else is loaded. -/
theorem loaded_of_waiting (run : Run .secluded (idle setups members) deeds crew)
    {driven : UnitKey} {target : Level} {phase : Phase} {stack : List Waiting}
    {aim : Option UnitKey}
    (errand : crew.world.Errand aim (crew.thread me))
    (current : crew.thread me = ⟨.drive driven target phase, stack⟩)
    (outside : Task.holds (.drive driven target phase) = [])
    (holds : key ∈ (crew.thread me).holds) :
    .loaded ≤ (crew.world.unit key).level := by
  have steady := steady_of_delegating run.delegating me key
  rw [current] at errand holds steady
  cases errand with
  | drives sought vouches =>
      simp only [Thread.holds, outside, List.nil_append] at holds
      have driving := List.mem_append_right
        (Task.driving key (.drive driven target phase))
        (sought.driving key holds)
      exact Nat.le_of_eq
        (congrArg Level.rank (World.loaded_of_driving_active steady driving)).symm

theorem returns_of_errands (run : Run .secluded (idle setups members) deeds crew)
    (errands : crew.Errands) (me : ThreadId) :
    crew.world.Returns me (crew.thread me) := by
  intro key target phase stack entries verdict current asked own
  obtain ⟨aim, errand⟩ := errands.errand me
  have known : key < crew.world.unitCount := by
    rw [current] at errand
    cases errand with
    | drives sought => exact sought.known
  rw [errands.secluded.homeOf known] at asked
  have waits := errands.sound.waits
  have finish (table : Entries)
      (outside : Task.holds (.drive key target phase) = [])
      (owners : table.owners = (crew.world.domain 0).entries.owners)
      (sleeps : ∀ you id, table.waitsFor? you = some id →
        crew.contention.asleep you = some id)
      (request : table.request me (crew.world.unit key).id =
        (entries, verdict)) : .loaded ≤ (crew.world.unit key).level := by
    obtain ⟨you, owned, stays⟩ := exists_owner_of_refused request own
    have holds : key ∈ (crew.thread you).holds := by
      refine holds_of_owner run errands known ?_
      rw [errands.secluded.homeOf known]
      simpa only [Entries.owner?, owners] using owned
    rcases stays with rfl | ⟨id, awaits⟩
    · exact loaded_of_waiting run errand current outside holds
    · obtain ⟨other, drives, -⟩ :=
        Option.map_eq_some_iff.mp (sleeps you id awaits)
      obtain ⟨top, below, blocked⟩ := blocked_of_asleep drives
      obtain ⟨aim, errand⟩ := errands.errand you
      exact loaded_of_waiting run errand blocked rfl holds
  cases phase with
  | acquire =>
      exact finish _ rfl rfl
        (fun you id sleeps => (waits you).symm.trans sleeps)
        (Option.some.inj asked)
  | blocked =>
      refine finish ((crew.world.domain 0).entries.stopWaiting me) rfl rfl
        (fun you id sleeps => ?_) (Option.some.inj asked)
      rw [Entries.waitsFor?_stopWaiting] at sleeps
      split at sleeps
      · contradiction
      · exact (waits you).symm.trans sleeps
  | _ => cases asked

/-- What leaves the entries, and what the threads hold and sleep for, leaves the
contention. -/
theorem contention_of_same (framed : crew.Framed)
    (entries : (next.world.domain 0).entries = (crew.world.domain 0).entries)
    (grows : crew.world.Grows next.world)
    (asleep : ∀ me, (next.thread me).asleep = (crew.thread me).asleep)
    (holds : ∀ me, (next.thread me).holds = (crew.thread me).holds) :
    next.contention = crew.contention := by
  have ids {key : UnitKey} (known : key < crew.world.unitCount) :
      (next.world.unit key).id = (crew.world.unit key).id :=
    (grows.unit key known).id
  rw [contention, contention, entries]
  congr 1
  · funext me
    rw [asleep]
    cases sleeps : (crew.thread me).asleep with
    | none => rfl
    | some key =>
        obtain ⟨target, stack, current⟩ := blocked_of_asleep sleeps
        have supports := framed.supports me
        rw [current] at supports
        exact congrArg some (ids supports.1)
  · funext me
    rw [holds]
    exact List.map_congr_left fun key member =>
      ids (World.known_of_holds (framed.supports me) member)

theorem errands_idle {setup : Setup} (quiet : setup.hook.client = false)
    (recorded : ∀ listener ∈ setup.listeners, listener = .recorder) :
    (idle [setup] members).Errands where
  secluded := ⟨fun _ known => absurd known (Nat.not_lt_zero _), quiet, recorded,
    fun _ known => absurd known (Nat.not_lt_zero _)⟩
  errand := fun me => by
    rw [thread_idle]
    exact ⟨none, .answersClient fun root cause aimed => by cases aimed⟩
  sound := by
    have nothing : (idle [setup] members).contention = {} := by
      simp [contention, Thread.asleep, Thread.holds, Task.holds]
      rfl
    rw [nothing]
    exact Contention.sound_initial

theorem sound_acted (run : Run .secluded (idle setups members) deeds crew)
    (errands : crew.Errands) {world : World} {thread : Thread} {more : List Deed}
    (member : me < crew.threads.length)
    (act : World.Act .secluded me crew.world (crew.thread me) more world thread) :
    ({ crew with world }.setThread me thread).contention.Sound := by
  have framed := framed_run framed_idle run
  have grows := World.grows_act act
  have asks (entries : (world.domain 0).entries =
        (crew.world.domain 0).entries)
      (asleep : thread.asleep = (crew.thread me).asleep)
      (holds : thread.holds = (crew.thread me).holds) :
      ({ crew with world }.setThread me thread).contention.Sound := by
    have same : ({ crew with world }.setThread me thread).contention =
        crew.contention := by
      refine contention_of_same framed entries grows (fun you => ?_) fun you => ?_
      all_goals
        rw [thread_acted member]
        split
        · rename_i here
          subst here
          assumption
        · rfl
    rw [same]
    exact errands.sound
  obtain ⟨aim, errand⟩ := errands.errand me
  cases act with
  | step step =>
      rcases contention_stepped errands.secluded.home (framed.supports me) member
        (World.stepped_of_step step) with same | step
      · rw [same]
        exact errands.sound
      · exact Contention.sound_step step errands.sound
  | operate operation =>
      exact asks (World.entries_complete operation 0) rfl rfl
  | call operation turn asked granted loads =>
      obtain ⟨reply, current⟩ := errand.answered turn
      rw [current] at asks ⊢
      cases operation with
      | ensure through key target =>
          cases loads
          refine asks rfl (World.asleep_ensure ..) ?_
          change (Task.ensure crew.world through key target).holds ++ [] = []
          rw [World.holds_ensure, List.nil_append]
      | incremental => exact asked.elim
      | _ => simp [Operation.task?] at loads
  | resume answered =>
      rw [answered] at errand
      cases errand
  | finish result called =>
      rw [called] at errand
      cases errand

theorem errands_move (run : Run .secluded (idle setups members) deeds crew)
    {more : List Deed} (move : Move .secluded crew more next)
    (errands : crew.Errands) : next.Errands := by
  have framed := framed_run framed_idle run
  cases move with
  | collect =>
      have onward := World.onward_collect crew.world crew.pinned
      refine ⟨World.secluded_collect errands.secluded crew.pinned, fun me => ?_, ?_⟩
      · obtain ⟨aim, errand⟩ := errands.errand me
        exact ⟨aim, errand.later onward⟩
      · have alike := World.alike_collect crew.world crew.pinned
        have same : contention
            { crew with world := crew.world.collect crew.pinned } =
              crew.contention :=
          contention_of_same framed (alike.domain 0).entries onward.toGrows
            (fun _ => rfl) fun _ => rfl
        rw [same]
        exact errands.sound
  | @act actor world thread deeds member act =>
      have onward := World.onward_act act
      refine ⟨World.secluded_act act errands.secluded, fun me => ?_, ?_⟩
      · obtain ⟨aim, errand⟩ := errands.errand me
        rw [thread_acted member]
        split
        · rename_i same
          subst same
          exact (World.errand_act act errands.secluded (framed.supports actor)
            (steady_of_delegating run.delegating actor)
            (returns_of_errands run errands actor) (candid_run run actor)
            errand).1
        · exact ⟨aim, errand.later onward⟩
      · exact sound_acted run errands member act

theorem errands_run {setup : Setup} (quiet : setup.hook.client = false)
    (recorded : ∀ listener ∈ setup.listeners, listener = .recorder)
    (run : Run .secluded (idle [setup] members) deeds crew) : crew.Errands := by
  induction run with
  | start => exact errands_idle quiet recorded
  | snoc run move ih => exact errands_move run move ih

end Crew

end LoadLadder
