import LoadLadder.Proofs.EntryOwnership

/-!
# The numbers of units

A domain numbers its units in the order in which it makes them, and never uses a
number twice.  So the entry tables, which know units by number, never take one unit
for another.
-/

namespace LoadLadder

namespace World

variable {world next : World} {repertoire : Repertoire} {me : ThreadId}
  {thread after : Thread} {deeds : List Deed} {key : UnitKey}

theorem nextUnit_modifyDomain (world : World) (home : DomainKey)
    {other : DomainKey} {change : Domain → Domain}
    (same : (change (world.domain home)).nextUnit =
      (world.domain home).nextUnit) :
    ((world.modifyDomain home change).domain other).nextUnit =
      (world.domain other).nextUnit := by
  rw [domain_modifyDomain]
  split
  · rename_i here
    rw [← here]
    exact same
  · rfl

theorem nextUnit_registerUnit (world : World) (key : UnitKey)
    (home : DomainKey) :
    ((world.registerUnit key).domain home).nextUnit =
      (world.domain home).nextUnit := by
  apply nextUnit_modifyDomain
  unfold Domain.register
  split <;> rfl

theorem nextUnit_perform (world : World) (key : UnitKey) (action : Action)
    (home : DomainKey) :
    ((world.perform key action).1.domain home).nextUnit =
      (world.domain home).nextUnit := by
  by_cases registers : action = .register
  · subst registers
    exact nextUnit_registerUnit world key home
  · rw [domain_perform world key registers]

theorem nextUnit_stepped (stepped : world.Stepped me thread next after)
    (home : DomainKey) :
    (next.domain home).nextUnit = (world.domain home).nextUnit := by
  cases stepped with
  | entered | refused | releasedAgain | releasedStop | releasedRaise =>
      exact nextUnit_modifyDomain world _ rfl
  | failed => rw [recordFailure_fst, domain_setError]
  | @performed key level action rest next stack ordinary done =>
      have same := nextUnit_perform world key action home
      rwa [done] at same
  | @faulted key level action rest next fault stack done =>
      have same := nextUnit_perform world key action home
      rwa [done] at same
  | reported => split <;> rfl
  | _ => rfl

theorem nextUnit_collect (world : World) (pinned : List UnitKey)
    (home : DomainKey) :
    ((world.collect pinned).domain home).nextUnit =
      (world.domain home).nextUnit := by
  have closed : ((world.closeDomains pinned).domain home).nextUnit =
      (world.domain home).nextUnit := by
    unfold closeDomains
    induction List.range world.domainCount generalizing world with
    | nil => rfl
    | cons other others ih =>
        rw [List.foldl_cons, ih]
        split
        · rfl
        · exact nextUnit_modifyDomain world other rfl
  rw [← closed]
  unfold collect destroyUnits
  generalize world.closeDomains pinned = world
  induction List.range world.unitCount generalizing world with
  | nil => rfl
  | cons key keys ih =>
      rw [List.foldl_cons, ih]
      split <;> rfl

theorem domain_notifyDebuggerLoad (world : World) (key : UnitKey)
    (flags : AttachFlags) (attaching : Bool) (home : DomainKey) :
    (world.notifyDebuggerLoad key flags attaching).1.domain home =
      world.domain home := by
  simp only [notifyDebuggerLoad]
  split
  · rfl
  split
  · rfl
  split
  · rfl
  split <;> split <;> simp [domain_containerDebuggerLoad] <;> rfl

theorem domain_notifyDebuggerUnload (world : World) (key : UnitKey)
    (home : DomainKey) :
    (world.notifyDebuggerUnload key).domain home = world.domain home := by
  unfold notifyDebuggerUnload containerDebuggerUnload
  split <;> simp [*]

theorem domain_callContainer (world : World) (key : UnitKey)
    (call : ContainerCall) (home : DomainKey) :
    (world.callContainer key call).1.domain home = world.domain home := by
  cases call with
  | tracing code => exact domain_tellTracing world key home code
  | profiler code => exact domain_tellProfiler world key home code
  | debuggerLoad flags => exact domain_containerDebuggerLoad world key flags home
  | debuggerUnload =>
      simp only [callContainer, containerDebuggerUnload]
      split <;> rfl
  | _ => rfl

theorem nextUnit_unloadUnit (world : World) (through : DomainKey)
    (key : UnitKey) (home : DomainKey) :
    ((world.unloadUnit through key).1.domain home).nextUnit =
      (world.domain home).nextUnit := by
  simp only [unloadUnit]
  split
  · rfl
  · split
    · rfl
    · rw [domain_modifyUnit, domain_notifyDebuggerUnload]
      exact nextUnit_modifyDomain world through rfl

/-- No operation that completes at once takes a number back. -/
theorem nextUnit_complete (operation : Operation) (home : DomainKey) :
    (world.domain home).nextUnit ≤
      ((operation.complete world me).1.domain home).nextUnit := by
  cases operation with
  | create made image container =>
      rw [complete_create, domain_createUnit]
      split
      · rename_i same
        rw [← same]
        exact Nat.le_succ _
      · exact Nat.le_refl _
  | addDependency unit dependency =>
      simp only [Operation.complete, addDependency]
      split <;> exact Nat.le_refl _
  | unload through unit =>
      exact Nat.le_of_eq (nextUnit_unloadUnit world through unit home).symm
  | setError unit cause =>
      rw [complete_setError, domain_setError]
  | debugging unit =>
      rw [complete_debugging]
      exact Nat.le_refl _
  | debuggerLoad unit flags attaching =>
      exact Nat.le_of_eq (congrArg Domain.nextUnit
        (domain_notifyDebuggerLoad world unit flags attaching home)).symm
  | debuggerUnload unit =>
      exact Nat.le_of_eq (congrArg Domain.nextUnit
        (domain_notifyDebuggerUnload world unit home)).symm
  | container unit call =>
      exact Nat.le_of_eq (congrArg Domain.nextUnit
        (domain_callContainer world unit call home)).symm
  | subscribe subscribed listener =>
      exact Nat.le_of_eq (nextUnit_modifyDomain world subscribed rfl).symm
  | dropUnit unit =>
      simp only [Operation.complete, dropUnit]
      split <;> exact Nat.le_refl _
  | dropDomain dropped =>
      simp only [Operation.complete, dropDomain]
      split
      · exact Nat.le_of_eq (nextUnit_modifyDomain world dropped rfl).symm
      · exact Nat.le_refl _
  | _ => exact Nat.le_refl _

/-- The units of a domain have numbers of their own, all of them below the next. -/
structure Numbered (world : World) : Prop where
  below : ∀ key < world.unitCount,
    (world.unit key).id.number < (world.domain (world.unit key).home).nextUnit
  apart : ∀ key < world.unitCount, ∀ other < world.unitCount,
    world.slot key = world.slot other → key = other

theorem Numbered.grows (numbered : world.Numbered) (grows : world.Grows next)
    (count : next.unitCount = world.unitCount)
    (further : ∀ home, (world.domain home).nextUnit ≤ (next.domain home).nextUnit) :
    next.Numbered := by
  constructor
  · intro key known
    rw [count] at known
    rw [(grows.unit key known).id, (grows.unit key known).home]
    exact Nat.lt_of_lt_of_le (numbered.below key known) (further _)
  · intro key known other knownOther same
    rw [count] at known knownOther
    rw [slot_of_grows grows known, slot_of_grows grows knownOther] at same
    exact numbered.apart key known other knownOther same

theorem numbered_createUnit (numbered : world.Numbered) (home : DomainKey)
    (image : Image) (container : Container) :
    (world.createUnit home image container).1.Numbered := by
  have fresh : ∀ key < world.unitCount,
      world.slot key ≠ (home, ⟨(world.domain home).nextUnit⟩) := by
    intro key known same
    have below := numbered.below key known
    have here : (world.unit key).home = home := congrArg Prod.fst same
    have number : (world.unit key).id = ⟨(world.domain home).nextUnit⟩ :=
      congrArg Prod.snd same
    rw [here, number] at below
    exact Nat.lt_irrefl _ below
  have slots (key : UnitKey) : (world.createUnit home image container).1.slot key =
      if world.unitCount = key then (home, ⟨(world.domain home).nextUnit⟩)
      else world.slot key := by
    rw [slot, unit_createUnit]
    split <;> rfl
  constructor
  · intro key known
    rw [unitCount_createUnit] at known
    rw [unit_createUnit]
    split
    · rw [domain_createUnit, if_pos rfl]
      exact Nat.lt_succ_self _
    · have earlier := numbered.below key (by omega)
      rw [domain_createUnit]
      split
      · rename_i same
        rw [← same] at earlier
        exact Nat.lt_succ_of_lt earlier
      · exact earlier
  · intro key known other knownOther same
    rw [unitCount_createUnit] at known knownOther
    rw [slots, slots] at same
    split at same <;> split at same
    · omega
    · exact absurd same.symm (fresh other (by omega))
    · exact absurd same (fresh key (by omega))
    · exact numbered.apart key (by omega) other (by omega) same

theorem numbered_act (act : world.Act repertoire me thread deeds next after)
    (numbered : world.Numbered) : next.Numbered := by
  cases act with
  | step step =>
      have stepped := stepped_of_step step
      exact numbered.grows (grows_stepped stepped) (unitCount_stepped stepped)
        fun home => Nat.le_of_eq (nextUnit_stepped stepped home).symm
  | operate operation =>
      rcases complete_moves world me operation with
        still | ⟨home, image, container, -, result⟩ |
        ⟨key, dependency, -, -, result⟩ | ⟨key, cause, -, result⟩
      · exact numbered.grows (.of_unitsStill still) still.count
          (nextUnit_complete operation)
      · rw [result]
        exact numbered_createUnit numbered home image container
      · exact numbered.grows (grows_complete world me operation)
          (by rw [result]; rfl) (nextUnit_complete operation)
      · exact numbered.grows (grows_complete world me operation)
          (by rw [result, unitCount_setError]) (nextUnit_complete operation)
  | call | resume | finish => exact numbered

end World

namespace Crew

theorem numbered_run {repertoire : Repertoire} {setups : List Setup}
    {members : Nat} {crew : Crew} {deeds : List Deed}
    (run : Run repertoire (idle setups members) deeds crew) :
    crew.world.Numbered := by
  induction run with
  | start =>
      have none (key : UnitKey) :
          ¬ key < (idle setups members).world.unitCount := by
        change ¬ key < (World.ofSetups setups).unitCount
        rw [(World.ofSetups_units setups).2.1]
        exact Nat.not_lt_zero key
      exact ⟨fun key known => absurd known (none key),
        fun key known => absurd known (none key)⟩
  | @snoc crew next before deeds run move ih =>
      cases move with
      | collect =>
          have still := (World.alike_collect crew.world crew.pinned).still
          exact ih.grows (.of_still still) still.count fun home =>
            Nat.le_of_eq (World.nextUnit_collect crew.world crew.pinned home).symm
      | act member act => exact World.numbered_act act ih

end Crew

end LoadLadder
