import LoadLadder.Proofs.EntryOwnership

/-!
# A thread that only loads

One thread, and one domain whose recorder is also the hook and the listener.  The
client makes units, which depend on each other, has them loaded, and stores causes
between the loads.  Nobody calls the client back, so the stack is a chain of
drivers, each of which waits until the dependencies of its unit are active.
-/

namespace LoadLadder

/-- The choices for a domain whose recorder stands in for the hook, for a listener
and for every sink that there is. -/
def Setup.watched (config : LoaderConfig) (sinks : Sinks) : Setup where
  config := config
  sinks := sinks
  hook := { records := true }
  listeners := [.recorder]

/-- The names by which events know a unit. -/
def LoadUnit.names (unit : LoadUnit) : List String :=
  [unit.name, unit.container.name]

/-- A client of the first domain that makes units with names of their own and
without code of its own, makes them depend on each other, loads them, and stores
causes. -/
def Repertoire.loading : Repertoire := fun world operation =>
  match operation with
  | .create home image container =>
      home = 0 ∧ container.initializer ≠ .client ∧
        ∀ key < world.unitCount, ∀ name ∈ (world.unit key).names,
          name ≠ image.name ∧ name ≠ container.name
  | .addDependency _ _ => True
  | .ensure through _ _ => through = 0
  | .setError _ _ => True
  | _ => False

/-- The same domain as far as its consumers are concerned. -/
structure Domain.SamePlugs (before after : Domain) : Prop where
  sinks : after.sinks = before.sinks
  hook : after.hook = before.hook
  listeners : after.listeners = before.listeners

theorem Domain.SamePlugs.refl (domain : Domain) : domain.SamePlugs domain :=
  ⟨rfl, rfl, rfl⟩

theorem Domain.SamePlugs.of_alike {before after : Domain}
    (alike : before.Alike after) : before.SamePlugs after :=
  ⟨alike.sinks, alike.hook, alike.listeners⟩

namespace World

/-- All units belong to the first domain, call nobody back, and have names of
their own; the domain's recorder is its hook and its listener. -/
structure Watched (world : World) (sinks : Sinks) : Prop where
  sinks : (world.domain 0).sinks = sinks
  hook : (world.domain 0).hook = { records := true }
  listeners : (world.domain 0).listeners = [.recorder]
  home : ∀ key < world.unitCount, (world.unit key).home = 0
  initializer : ∀ key < world.unitCount,
    (world.unit key).container.initializer ≠ .client
  apart : ∀ key < world.unitCount, ∀ other < world.unitCount, key ≠ other →
    ∀ name ∈ (world.unit key).names, name ∉ (world.unit other).names

variable {world next : World} {me : ThreadId} {thread after : Thread}
  {deeds : List Deed} {key : UnitKey} {sinks : Sinks}

theorem samePlugs_modifyEntries (change : Entries → Entries)
    (home : DomainKey) :
    (world.domain home).SamePlugs
      ((world.modifyEntries key change).domain home) := by
  rw [modifyEntries, domain_modifyDomain]
  split
  · rename_i same
    rw [← same]
    exact ⟨rfl, rfl, rfl⟩
  · exact .refl _

theorem samePlugs_stepped (stepped : world.Stepped me thread next after)
    (home : DomainKey) :
    (world.domain home).SamePlugs (next.domain home) := by
  cases stepped with
  | entered | refused | releasedAgain | releasedStop | releasedRaise =>
      exact samePlugs_modifyEntries _ home
  | failed =>
      rw [recordFailure_fst, domain_setError]
      exact .refl _
  | @performed key level action rest next stack ordinary done =>
      by_cases publishes : action = .publish
      · subst publishes
        cases done
        exact .refl _
      · have still := still_perform world key publishes
        rw [done] at still
        exact .of_alike (still.domain home)
  | @faulted key level action rest next fault stack done =>
      have quiet : action ≠ .publish := by
        rintro rfl
        simp [perform] at done
      have still := still_perform world key quiet
      rw [done] at still
      exact .of_alike (still.domain home)
  | reported => split <;> exact .refl _
  | _ => exact .refl _

theorem Watched.homeOf (watched : world.Watched sinks)
    (known : key < world.unitCount) : world.homeOf key = world.domain 0 := by
  rw [World.homeOf, watched.home key known]

theorem Watched.sinksOf (watched : world.Watched sinks)
    (known : key < world.unitCount) : world.sinksOf key = sinks := by
  rw [World.sinksOf, watched.homeOf known, watched.sinks]

theorem names_of_grows (grows : world.Grows next)
    (known : key < world.unitCount) :
    (next.unit key).names = (world.unit key).names := by
  have unit := grows.unit key known
  rw [LoadUnit.names, LoadUnit.names, LoadUnit.name, LoadUnit.name, unit.image,
    unit.container]

theorem Watched.of_grows (watched : world.Watched sinks)
    (grows : world.Grows next) (count : next.unitCount = world.unitCount)
    (plugs : (world.domain 0).SamePlugs (next.domain 0)) :
    next.Watched sinks where
  sinks := plugs.sinks.trans watched.sinks
  hook := plugs.hook.trans watched.hook
  listeners := plugs.listeners.trans watched.listeners
  home := by
    intro key known
    rw [count] at known
    rw [(grows.unit key known).home]
    exact watched.home key known
  initializer := by
    intro key known
    rw [count] at known
    rw [(grows.unit key known).container]
    exact watched.initializer key known
  apart := by
    intro key known other knownOther
    rw [count] at known knownOther
    rw [names_of_grows grows known, names_of_grows grows knownOther]
    exact watched.apart key known other knownOther

end World

/-- The stack is a chain of drivers that wait for dependencies. -/
inductive Chained : Seat → List Waiting → Prop
  | bottom : Chained .drive []
  | driven {key : UnitKey} {target level : Level} {stack : List Waiting}
      (below : Chained .drive stack) :
      Chained (.subStep key level) (.onSubStep key target level :: stack)
  | initializing {key : UnitKey} {rest : List Action} {gateLifted : Bool}
      {stack : List Waiting}
      (remains : .runInitializer :: rest <:+ Level.active.actions)
      (below : Chained (.subStep key .active) stack) :
      Chained (.dependencies key)
        (.onInitializer key .active rest gateLifted :: stack)
  | depending {key : UnitKey} {rest : List UnitKey} {stack : List Waiting}
      (below : Chained (.dependencies key) stack) :
      Chained .drive (.onDependency key rest :: stack)

namespace World

/-- A thread only loads: it is not in a callback, whatever it works on stands on a
chain of drivers, and it tells the recorder only. -/
def Chains (world : World) (thread : Thread) : Prop :=
  match thread.task with
  | .drive _ _ _ => Chained .drive thread.stack
  | .subStep key level rest =>
      rest <:+ level.actions ∧ Chained (.subStep key level) thread.stack
  | .activateDependencies key _ => Chained (.dependencies key) thread.stack
  | .announce key _ snapshot rest =>
      rest <:+ [.recorder] ∧ snapshot.name = (world.unit key).name ∧
        Chained .drive thread.stack
  | .callback _ => False
  | .answer _ => ∃ seat, Chained seat thread.stack

variable {world next : World} {me : ThreadId} {thread after : Thread}
  {deeds : List Deed} {key : UnitKey} {sinks : Sinks}

theorem chains_ensure {through : DomainKey} {target : Level}
    {stack : List Waiting} (chained : Chained .drive stack) :
    next.Chains ⟨.ensure world through key target, stack⟩ := by
  unfold Task.ensure
  split
  · exact ⟨.drive, chained⟩
  · split
    · exact chained
    · exact ⟨.drive, chained⟩

theorem Chains.grows (chains : world.Chains thread)
    (supports : world.Supports thread) (grows : world.Grows next) :
    next.Chains thread := by
  obtain ⟨task, stack⟩ := thread
  cases task with
  | announce key target snapshot rest =>
      obtain ⟨recorder, named, chained⟩ := chains
      refine ⟨recorder, ?_, chained⟩
      rw [named, LoadUnit.name, LoadUnit.name, (grows.unit key supports.1).image]
  | _ => exact chains

theorem chains_stepped (stepped : world.Stepped me thread next after)
    (watched : world.Watched sinks) (supports : world.Supports thread)
    (chains : world.Chains thread) : next.Chains after := by
  have grows := grows_stepped stepped
  cases stepped with
  | climbs => exact ⟨List.suffix_rfl, .driven chains⟩
  | @announces key target stack active untold =>
      refine ⟨?_, ?_, chains⟩
      · have known : key < (world.claim key .hostLoadEvent).1.unitCount :=
          supports.1
        have listeners := (watched.of_grows grows rfl (.refl _)).homeOf known
        rw [listeners, domain_claim, watched.listeners]
      · rfl
  | releasedRaise | blames | required => exact ⟨.drive, chains⟩
  | completed | faulted => exact ⟨_, chains.2⟩
  | performed => exact ⟨(List.suffix_cons _ _).trans chains.1, chains.2⟩
  | @initializes key level rest task stack runs =>
      obtain ⟨remains, chained⟩ := chains
      cases active_of_runInitializer remains
      rcases runs with ⟨-, rfl⟩ | ⟨client, -⟩
      · exact .initializing remains chained
      · exact absurd client (watched.initializer key supports.1)
  | @reported key level rest after stack goes =>
      rcases goes with ⟨-, rfl⟩ | ⟨client, -⟩
      · exact ⟨(List.suffix_cons _ _).trans chains.1, chains.2⟩
      · rw [watched.homeOf supports.1, watched.hook] at client
        contradiction
  | allActivated => exact ⟨_, chains⟩
  | activates => exact chains_ensure (.depending chains)
  | allTold => exact chains.2.2
  | tellsRecorder =>
      exact ⟨(List.suffix_cons _ _).trans chains.1, chains.2.1, chains.2.2⟩
  | tellsClient =>
      have member := chains.1.subset List.mem_cons_self
      simp at member
  | succeeded | abandoned | broke =>
      obtain ⟨seat, chained⟩ := chains
      cases chained with
      | driven below => exact below
  | initialized =>
      obtain ⟨seat, chained⟩ := chains
      cases chained with
      | initializing remains below =>
          exact ⟨(List.suffix_cons _ _).trans remains, below⟩
  | uninitialized =>
      obtain ⟨seat, chained⟩ := chains
      cases chained with
      | initializing remains below => exact ⟨_, below⟩
  | activated =>
      obtain ⟨seat, chained⟩ := chains
      cases chained with
      | depending below => exact below
  | unactivated =>
      obtain ⟨seat, chained⟩ := chains
      cases chained with
      | depending below => exact ⟨_, below⟩
  | hooked | listened =>
      obtain ⟨seat, chained⟩ := chains
      cases chained
  | _ => exact chains

/-- Between loads the thread has answered and nothing waits. -/
theorem atRest_of_turn (turn : world.step me thread = none)
    (chains : world.Chains thread) : ∃ reply, thread = ⟨.answer reply, []⟩ := by
  rcases turn_cases turn with
    ⟨callback, stack, rfl⟩ | ⟨reply, rfl⟩ | ⟨reply, callback, stack, rfl⟩
  · exact chains.elim
  · exact ⟨reply, rfl⟩
  · obtain ⟨seat, chained⟩ := chains
    cases chained

/-- What such a thread may do: a step, or between loads the beginning of a load,
the making of a unit, the adding of a dependency, or the storing of a cause; and
at any time whatever nothing refers to may be freed. -/
inductive Loading (world : World) (me : ThreadId) :
    Thread → List Deed → World → Thread → Prop
  | steps {thread after : Thread} {next : World}
      (stepped : world.Stepped me thread next after) :
      Loading world me thread (world.deeds thread) next after
  | begins {reply : Reply} {key : UnitKey} {target : Level}
      (known : key < world.unitCount) :
      Loading world me ⟨.answer reply, []⟩ [] world
        ⟨.ensure world 0 key target, []⟩
  | makes {reply : Reply} {image : Image} {container : Container}
      (apart : Repertoire.loading world (.create 0 image container)) :
      Loading world me ⟨.answer reply, []⟩ []
        (world.createUnit 0 image container).1 ⟨.answer reply, []⟩
  | links {reply : Reply} {key dependency : UnitKey} :
      Loading world me ⟨.answer reply, []⟩ []
        (world.addDependency key dependency).1 ⟨.answer reply, []⟩
  | blames {reply : Reply} {key : UnitKey} {cause : Cause}
      (known : key < world.unitCount) :
      Loading world me ⟨.answer reply, []⟩
        ((world.causeNotices key cause).map (.told key))
        (world.setError key cause).1 ⟨.answer reply, []⟩
  | frees {thread : Thread} {pinned : List UnitKey} :
      Loading world me thread [] (world.collect pinned) thread

theorem loading_of_act (act : world.Act .loading me thread deeds next after)
    (chains : world.Chains thread) :
    world.Loading me thread deeds next after := by
  cases act with
  | step step => exact .steps (stepped_of_step step)
  | operate operation turn asked granted instant =>
      obtain ⟨reply, rfl⟩ := atRest_of_turn turn chains
      cases operation with
      | create home image container =>
          obtain ⟨rfl, apart⟩ := asked
          rw [complete_create]
          exact .makes ⟨rfl, apart⟩
      | addDependency key dependency => exact .links
      | ensure through key target => simp [Operation.task?] at instant
      | setError key cause =>
          rw [complete_setError]
          exact .blames (known_of_granted granted rfl)
      | _ => exact asked.elim
  | @call operation task turn asked granted loads =>
      obtain ⟨reply, rfl⟩ := atRest_of_turn turn chains
      cases operation with
      | ensure through key target =>
          cases asked
          cases loads
          exact .begins (known_of_granted granted rfl)
      | incremental through key level => exact asked.elim
      | _ => simp [Operation.task?] at loads
  | resume answered =>
      subst answered
      obtain ⟨seat, chained⟩ := chains
      cases chained
  | finish result called =>
      subst called
      exact chains.elim

theorem chains_loading (loading : world.Loading me thread deeds next after)
    (watched : world.Watched sinks) (supports : world.Supports thread)
    (chains : world.Chains thread) : next.Chains after := by
  cases loading with
  | steps stepped => exact chains_stepped stepped watched supports chains
  | begins => exact chains_ensure .bottom
  | makes | links | blames => exact chains
  | frees => exact chains.grows supports (.of_still (alike_collect _ _).still)

/-- A unit that is there after a move and was not there before is new. -/
theorem made_of_loading (loading : world.Loading me thread deeds next after)
    (known : key < next.unitCount) (unknown : ¬ key < world.unitCount) :
    ∃ reply image container,
      Repertoire.loading world (.create 0 image container) ∧
        next = (world.createUnit 0 image container).1 ∧
        after = ⟨.answer reply, []⟩ ∧ key = world.unitCount := by
  cases loading with
  | steps stepped =>
      rw [unitCount_stepped stepped] at known
      exact absurd known unknown
  | begins => exact absurd known unknown
  | makes fresh =>
      rw [unitCount_createUnit] at known
      exact ⟨_, _, _, fresh, rfl, rfl,
        Nat.eq_of_lt_succ_of_not_lt known unknown⟩
  | @links reply unit dependency =>
      have same : (world.addDependency unit dependency).1.unitCount =
          world.unitCount := by
        unfold addDependency
        split <;> rfl
      rw [same] at known
      exact absurd known unknown
  | blames =>
      rw [unitCount_setError] at known
      exact absurd known unknown
  | frees =>
      rw [(alike_collect world _).count] at known
      exact absurd known unknown

theorem watched_createUnit (watched : world.Watched sinks) {image : Image}
    {container : Container}
    (fresh : Repertoire.loading world (.create 0 image container)) :
    (world.createUnit 0 image container).1.Watched sinks := by
  obtain ⟨-, calls, apart⟩ := fresh
  have plugs : (world.domain 0).SamePlugs
      ((world.createUnit 0 image container).1.domain 0) := by
    rw [domain_createUnit, if_pos rfl]
    exact ⟨rfl, rfl, rfl⟩
  have split (key : UnitKey)
      (known : key < (world.createUnit 0 image container).1.unitCount) :
      world.unitCount = key ∨ key < world.unitCount := by
    rw [unitCount_createUnit] at known
    exact (Nat.lt_succ_iff_lt_or_eq.mp known).symm.imp_left Eq.symm
  have old (key : UnitKey) (known : key < world.unitCount) :
      (world.createUnit 0 image container).1.unit key = world.unit key := by
    rw [unit_createUnit, if_neg (Nat.ne_of_gt known)]
  have made : ((world.createUnit 0 image container).1.unit
      world.unitCount).names = [image.name, container.name] := by
    rw [unit_createUnit, if_pos rfl]
    rfl
  refine ⟨plugs.sinks.trans watched.sinks, plugs.hook.trans watched.hook,
    plugs.listeners.trans watched.listeners, ?_, ?_, ?_⟩
  · intro key known
    rcases split key known with rfl | known
    · rw [unit_createUnit, if_pos rfl]
    · rw [old key known]
      exact watched.home key known
  · intro key known
    rcases split key known with rfl | known
    · rw [unit_createUnit, if_pos rfl]
      exact calls
    · rw [old key known]
      exact watched.initializer key known
  · intro key known other knownOther different name own
    rcases split key known with rfl | known <;>
      rcases split other knownOther with rfl | knownOther
    · exact absurd rfl different
    · rw [made] at own
      rw [old other knownOther]
      intro same
      have clash := apart other knownOther name same
      simp_all
    · rw [old key known] at own
      rw [made]
      have clash := apart key known name own
      simp [clash]
    · rw [old key known] at own
      rw [old other knownOther]
      exact watched.apart key known other knownOther different name own

theorem watched_loading (loading : world.Loading me thread deeds next after)
    (watched : world.Watched sinks) : next.Watched sinks := by
  cases loading with
  | steps stepped =>
      exact watched.of_grows (grows_stepped stepped)
        (unitCount_stepped stepped) (samePlugs_stepped stepped 0)
  | begins => exact watched
  | makes fresh => exact watched_createUnit watched fresh
  | @links reply key dependency =>
      unfold addDependency
      split
      · exact watched.of_grows (grows_extended world key dependency) rfl
          (.refl _)
      · exact watched
  | @blames reply key cause =>
      refine watched.of_grows (grows_setError world key cause)
        (unitCount_setError world key cause) ?_
      rw [domain_setError]
      exact .refl _
  | @frees _ pinned =>
      have alike := alike_collect world pinned
      exact watched.of_grows (.of_still alike.still) alike.count
        (.of_alike (alike.domain 0))

end World

end LoadLadder
