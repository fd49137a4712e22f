import LoadLadder.Proofs.SubStepOrder

/-!
# Loads that are left to the drivers

A client may leave everything that moves a unit to the drivers: it asks for no
sub-step, stores no cause, and does not call containers.  It may still have any
number of threads, and callbacks that load whatever they like.  Then only the driver
that holds the entry of a unit stores a cause for it, so whatever is driven has not
failed and stands right below the level that it is driven to.
-/

namespace LoadLadder

/-- A client that leaves sub-steps, causes and containers to the drivers. -/
def Repertoire.delegating : Repertoire := fun _ operation =>
  match operation with
  | .incremental .. => False
  | .setError .. => False
  | .container .. => False
  | _ => True

theorem Repertoire.undirected_of_delegating {world : World}
    {operation : Operation} (asked : Repertoire.delegating world operation) :
    Repertoire.undirected world operation := by
  cases operation with
  | incremental => exact asked
  | _ => trivial

namespace World

variable {world next : World} {repertoire : Repertoire} {me : ThreadId}
  {thread after : Thread} {deeds : List Deed} {key : UnitKey} {level : Level}

theorem config_modifyDomain (home other : DomainKey) {change : Domain → Domain}
    (same : (change (world.domain home)).config = (world.domain home).config) :
    ((world.modifyDomain home change).domain other).config =
      (world.domain other).config := by
  rw [domain_modifyDomain]
  split
  · rename_i here
    rw [same, here]
  · rfl

theorem config_stepped (stepped : world.Stepped me thread next after)
    (home : DomainKey) : (next.domain home).config = (world.domain home).config := by
  cases stepped with
  | entered | refused | releasedAgain | releasedStop | releasedRaise =>
      exact config_modifyDomain _ home rfl
  | failed => rw [recordFailure_fst, domain_setError]
  | @performed unit level action rest next stack ordinary done =>
      by_cases publishes : action = .publish
      · subst publishes
        cases done
        rfl
      · have still := still_perform world unit publishes
        rw [done] at still
        exact (still.domain home).config
  | @faulted unit level action rest next fault stack done =>
      have alike := alike_of_mayStop world unit (mayStop_of_fault world unit done)
      rw [done] at alike
      exact (alike.domain home).config
  | reported => split <;> rfl
  | _ => rfl

theorem config_complete (world : World) (me : ThreadId) (operation : Operation)
    (home : DomainKey) :
    ((operation.complete world me).1.domain home).config =
      (world.domain home).config := by
  cases operation with
  | create made image container =>
      rw [complete_create, domain_createUnit]
      split
      · rename_i same
        rw [← same]
      · rfl
  | addDependency key dependency =>
      simp only [Operation.complete, addDependency]
      split <;> rfl
  | setError key cause => rw [complete_setError, domain_setError]
  | subscribe through listener => exact config_modifyDomain through home rfl
  | _ => exact ((still_complete world me rfl).domain home).config

/-- The settings of a domain stay as they were made. -/
theorem config_act (act : world.Act repertoire me thread deeds next after)
    (home : DomainKey) : (next.domain home).config = (world.domain home).config := by
  cases act with
  | step step => exact config_stepped (stepped_of_step step) home
  | operate operation => exact config_complete world me operation home
  | call | resume | finish => rfl

end World

namespace Crew

variable {setups : List Setup} {members : Nat} {crew next : Crew}
  {deeds : List Deed} {key : UnitKey} {level : Level}

/-- What is driven has not failed. -/
theorem healthy_of_driving (run : Run .delegating (idle setups members) deeds crew)
    (me : ThreadId) (driving : level ∈ (crew.thread me).driving key) :
    (crew.world.unit key).isError = false := by
  induction run generalizing me level with
  | start => simp [Thread.driving, Task.driving] at driving
  | @snoc crew next before deeds run move ih =>
      have exclusive := exclusive_run run
      cases move with
      | collect =>
          have still := (World.alike_collect crew.world crew.pinned).unit key
          change ((crew.world.collect crew.pinned).unit key).isError = false
          rw [LoadUnit.isError, still.failure]
          exact ih me driving
      | @act actor world thread deeds member act =>
          have healthy : (crew.world.unit key).isError = false := by
            rw [thread_acted member] at driving
            split at driving
            · rcases World.driving_act act driving with before | ⟨-, healthy, -⟩
              · exact ih actor before
              · exact healthy
            · exact ih me driving
          by_contra failed
          obtain ⟨cause, stored⟩ :=
            Option.isSome_iff_exists.mp (Bool.eq_true_of_not_eq_false failed)
          rcases World.cause_act act stored with
            before | ⟨target, level, fault, stack, fails, -⟩ | blamed
          · simp [LoadUnit.isError, CauseCell.isSet, before] at healthy
          · rw [undriven_of_resolving exclusive member act fails
              (by simp [Task.driving]) me] at driving
            contradiction
          · exact blamed

/-- Whatever is driven stands right below the level that it is driven to, or at it if
it has been published, and has not failed. -/
theorem steady_of_delegating
    (run : Run .delegating (idle setups members) deeds crew) (me : ThreadId)
    (key : UnitKey) : crew.world.Steady (crew.thread me) key := by
  refine ⟨fun level driving => healthy_of_driving run me driving, ?_⟩
  intro level driving
  have known := World.known_of_holds ((framed_run framed_idle run).supports me)
    (Thread.holds_of_driving driving)
  obtain ⟨past, history⟩ := exists_history_of_run
    (run.mono fun _ _ => Repertoire.undirected_of_delegating)
  obtain ⟨top, abreast⟩ := (paced_of_history history).abreast key known
  obtain ⟨rfl, published⟩ := abreast.driven me level driving
  rcases abreast.standing with reached | below
  · exact Or.inr ⟨published reached, reached.trans (published reached)⟩
  · exact Or.inl below

theorem steered_of_delegating
    (run : Run .delegating (idle setups members) deeds crew) (me : ThreadId) :
    (crew.thread me).Steered := by
  obtain ⟨past, history⟩ := exists_history_of_run
    (run.mono fun _ _ => Repertoire.undirected_of_delegating)
  exact steered_of_history history me

end Crew

end LoadLadder
