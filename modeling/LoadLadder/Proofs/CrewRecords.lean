import LoadLadder.Proofs.CanonicalTrace
import LoadLadder.Proofs.CrewDescents

/-!
# What a crew records

When several threads load the units of a plan, a unit is carried up by one of them
at a time, and maybe by another one later.  Whatever has been recorded about it is
what the climb told so far in the thread that had it last, as if this thread had
been alone.
-/

namespace LoadLadder

/-- The thread is neither in a sub-step of a unit nor about to tell of it. -/
structure Thread.Quiet (key : UnitKey) (thread : Thread) : Prop where
  midway : thread.midway key = none
  untold : thread.untold key = []

namespace World

/-- What has been recorded about a unit is what one thread knows of its climb. -/
structure Speaks (world : World) (sinks : Sinks) (thread : Thread)
    (key : UnitKey) : Prop where
  told : ∃ telling, world.Told sinks thread key telling
  heard : world.Heard thread key

variable {world next : World} {me : ThreadId} {thread after other : Thread}
  {key : UnitKey} {sinks : Sinks} {said : List Notice} {telling : Telling}

/-- Of two threads that are quiet about a unit, one tells as much as the other. -/
theorem told_of_quiet (told : world.Told sinks other key telling)
    (quietOther : other.Quiet key) (quiet : thread.Quiet key) :
    world.Told sinks thread key telling :=
  told_of_rest rfl (by simp) told (.of_alike (.refl _))
    (quiet.midway.trans quietOther.midway.symm)
    (quiet.untold.trans quietOther.untold.symm) rfl

theorem untold_of_free (heard : world.Heard thread key)
    (free : (world.unit key).latches.isSet .hostLoadEvent = false) :
    thread.untold key = [] := by
  by_contra pending
  have told := (heard.announcing pending).1
  rw [free] at told
  contradiction

/-- A step of another thread leaves the word to the thread that has it, or takes it
over. -/
theorem speaks_beside (advances : world.Advances next thread after key said)
    (record : next.record key = world.record key)
    (events : next.eventsOf key =
      world.eventsOf key ++ said.flatMap (world.record key))
    (known : world.sinksOf key = sinks) (recorded : sinks.tracing = .recorder)
    (chains : next.Chains after) (steady : world.Steady thread key)
    (chainsOther : world.Chains other) (steadyOther : world.Steady other key)
    (quiet : thread.Quiet key)
    (awake : ∀ reply, thread ≠ ⟨.answer reply, []⟩)
    (apart : ∀ level,
      level ∈ thread.driving key ∨ level ∈ after.driving key →
        other.midway key = none)
    (speaks : world.Speaks sinks other key) :
    (next.Speaks sinks other key ∧ after.Quiet key) ∨
      (next.Speaks sinks after key ∧ other.Quiet key) := by
  obtain ⟨⟨telling, told⟩, heard⟩ := speaks
  cases advances with
  | rests unmoved midway untold nears silent =>
      refine Or.inl ⟨⟨⟨_, told_of_rest record events told unmoved rfl rfl
        silent⟩, ?_⟩, midway.trans quiet.midway, untold.trans quiet.untold⟩
      have healthy : (next.unit key).isError = (world.unit key).isError := by
        rw [LoadUnit.isError, unmoved.failure]
        rfl
      refine ⟨?_, ?_, ?_⟩
      · rw [unmoved.latches, unmoved.level]
        exact heard.active
      · rw [unmoved.latches, unmoved.level, healthy]
        exact heard.unannounced
      · rw [unmoved.latches, healthy]
        exact heard.announcing
  | begins before now untold healthy above same silent =>
      have low := Level.ne_active_of_next above
      have free := untold_of_low heard low
      have resting := apart _ (Or.inr (driving_of_midway chains now))
      have quietOther : other.Quiet key := ⟨resting, untold_of_free heard free⟩
      have mine := told_of_quiet told quietOther quiet
      refine Or.inr ⟨⟨⟨_, told_of_begin record events mine before now above same
        silent free healthy⟩, heard_of_low ?_ ?_ untold⟩, quietOther⟩
      · rwa [same]
      · rwa [same]
  | performs before | stops before | raises before =>
      rw [quiet.midway] at before
      contradiction
  | resumes before now untold remains driven alike silent =>
      have low := not_active_of_driving steady driven
      have free := untold_of_low heard low
      have healthy := steady.healthy _ driven
      have standing := standing_of_mayStop steady driven
        (remains.subset List.mem_cons_self) rfl
      have quietOther : other.Quiet key :=
        ⟨apart _ (Or.inl driven), untold_of_free heard free⟩
      have mine := told_of_quiet told quietOther quiet
      refine Or.inr ⟨⟨⟨_, told_of_resumption record events mine before now remains
        standing alike silent free healthy⟩, heard_of_low ?_ ?_ untold⟩,
        quietOther⟩
      · rwa [alike.level]
      · rwa [alike.latches]
  | @fails cause before now untold far nears drives unit spoken =>
      rcases drives with ⟨level, driven⟩ | ⟨reply, rests⟩
      · have low := not_active_of_driving steady driven
        have free := untold_of_low heard low
        have resting := apart _ (Or.inl driven)
        have silent := untold_of_free heard free
        refine Or.inl ⟨⟨⟨_, told_of_failure record events told known recorded
          resting resting silent silent unit spoken⟩,
          heard_of_low ?_ ?_ silent⟩, now, untold⟩
        · rw [unit, level_setError]
          exact low
        · rw [unit, unit_setError]
          split <;> simp [free]
      · exact absurd rests (awake reply)
  | announces before now silent untold active free unit quietly =>
      have resting : other.midway key = none := by
        rw [Option.eq_none_iff_forall_ne_some]
        rintro ⟨level, rest⟩ standing
        exact not_active_of_driving steadyOther
          (driving_of_midway chainsOther standing) active
      have healthy := (heard.unannounced active free).2
      have quietOther : other.Quiet key := ⟨resting, untold_of_free heard free⟩
      have mine := told_of_quiet told quietOther quiet
      refine Or.inr ⟨⟨⟨_, told_of_announcing record events mine before now untold
        free unit healthy quietly⟩, ?_⟩, quietOther⟩
      rw [unit_claim, if_pos rfl] at unit
      have claimed : (next.unit key).latches.isSet .hostLoadEvent = true := by
        simp [unit]
      refine ⟨fun _ => ?_, fun _ unclaimed => ?_, fun _ => ⟨claimed, ?_⟩⟩
      · rw [unit]
        exact active
      · rw [claimed] at unclaimed
        contradiction
      · rw [unit]
        exact healthy
  | tells before now untold =>
      rw [quiet.untold] at untold
      contradiction

end World

namespace Crew

/-- Everything recorded is about some unit, and for each unit one thread knows all
that has been recorded about it. -/
structure Recounted (crew : Crew) (sinks : Sinks) : Prop where
  named : crew.world.Named
  decoded : crew.world.AllUnits LoadUnit.Decoded
  spoken : ∀ key < crew.world.unitCount, ∃ me,
    crew.world.Speaks sinks (crew.thread me) key ∧
      ∀ you, you ≠ me → (crew.thread you).Quiet key

variable {crew : Crew} {world : World} {me you : ThreadId} {after : Thread}
  {key : UnitKey} {goal : Level} {sinks : Sinks}
  {aims : ThreadId → Option UnitKey}

/-- The thread that has the word about a unit, once a step has been taken. -/
theorem spoken_stepped (orderly : crew.Orderly sinks goal aims)
    (recounted : crew.Recounted sinks) (member : me < crew.threads.length)
    (stepped : crew.world.Stepped me (crew.thread me) world after)
    (later : ({ crew with world }.setThread me after).Orderly sinks goal aims)
    (known : key < crew.world.unitCount) :
    let next := { crew with world }.setThread me after
    ∃ me, world.Speaks sinks (next.thread me) key ∧
      ∀ you, you ≠ me → (next.thread you).Quiet key := by
  intro next
  have planned := orderly.planned
  have chains := orderly.chains me
  have steady := orderly.steady me key
  have supports := orderly.supports me
  have advances : crew.world.Advances world (crew.thread me) after key _ :=
    World.advances_stepped stepped planned.watched supports chains
  have loading := World.Loading.steps stepped
  have record := World.record_loading loading planned.watched known
  have events := World.eventsOf_loading loading planned.watched supports chains
    known
  have recorded := planned.recorded
  have sinksOf := planned.watched.sinksOf known
  have acted (you : ThreadId) : next.thread you =
      if me = you then after else crew.thread you :=
    thread_acted member world after you
  obtain ⟨teller, speaks, others⟩ := recounted.spoken key known
  -- Another thread than the teller takes the word only when the teller is at rest.
  by_cases same : teller = me
  · subst same
    refine ⟨teller, ?_, fun you apart => ?_⟩
    · rw [acted, if_pos rfl]
      exact ⟨World.told_advances advances record events sinksOf recorded
        (LoadUnit.sentConfig_of_decoded (recounted.decoded key known)) chains
        steady speaks.heard speaks.told,
        World.heard_advances advances chains steady speaks.heard⟩
    · rw [acted, if_neg (Ne.symm apart)]
      exact others you apart
  · have actor : next.thread me = after := (acted me).trans (if_pos rfl)
    have bystander {you : ThreadId} (apart : you ≠ me) :
        next.thread you = crew.thread you :=
      (acted you).trans (if_neg (Ne.symm apart))
    have after_chains : world.Chains after := actor ▸ later.chains me
    have apart (level : Level) (drives : level ∈ (crew.thread me).driving key ∨
        level ∈ after.driving key) : (crew.thread teller).midway key = none := by
      rw [Option.eq_none_iff_forall_ne_some]
      rintro ⟨top, rest⟩ standing
      have holds := Thread.holds_of_driving
        (World.driving_of_midway (orderly.chains teller) standing)
      rcases drives with before | now
      · exact same (orderly.same_thread holds
          (Thread.holds_of_driving before))
      · rw [← actor] at now
        rw [← bystander same] at holds
        exact same (later.same_thread holds (Thread.holds_of_driving now))
    have awake (reply : Reply) : crew.thread me ≠ ⟨.answer reply, []⟩ := by
      intro rests
      rw [rests] at stepped
      cases stepped
    rcases World.speaks_beside advances record events sinksOf recorded
      after_chains steady (orderly.chains teller) (orderly.steady teller key)
      (others me (Ne.symm same)) awake apart speaks with
      ⟨speaks, quiet⟩ | ⟨speaks, quiet⟩
    · refine ⟨teller, (bystander same).symm ▸ speaks, fun you other => ?_⟩
      by_cases mine : you = me
      · rw [mine, actor]
        exact quiet
      · rw [bystander mine]
        exact others you other
    · refine ⟨me, actor.symm ▸ speaks, fun you other => ?_⟩
      rw [bystander other]
      by_cases told : you = teller
      · rw [told]
        exact quiet
      · exact others you told

theorem recounted_act (orderly : crew.Orderly sinks goal aims)
    (recounted : crew.Recounted sinks) (me : ThreadId) :
    (crew.act me).Recounted sinks := by
  have later := orderly_act orderly me
  rcases act_cases crew me with
    ⟨idle, -⟩ | ⟨world, after, member, stepped, acted⟩
  · rwa [idle]
  rw [acted] at later ⊢
  refine ⟨?_, ?_, fun key known => ?_⟩
  · exact World.named_loading (.steps stepped) (orderly.supports me)
      (orderly.chains me) recounted.named
  · exact World.allUnits_stepped LoadUnit.invariant_decoded recounted.decoded
      stepped
  · exact spoken_stepped orderly recounted member stepped later
      (World.unitCount_stepped stepped ▸ known)

end Crew

/-- Whoever has actions of a sub-step left is carrying them out. -/
theorem Thread.subStep_of_midway {thread : Thread} {key : UnitKey}
    {level : Level} {action : Action} {rest : List Action}
    (standing : thread.midway key = some (level, action :: rest)) :
    ∃ stack, thread = ⟨.subStep key level (action :: rest), stack⟩ := by
  unfold Thread.midway at standing
  split at standing
  · split at standing
    · rename_i same
      subst same
      cases standing
      exact ⟨_, rfl⟩
    · contradiction
  · split at standing
    · cases standing
    · contradiction
  · split at standing
    · cases standing
    · contradiction
  · contradiction

theorem Level.eq_begun_of_next {level above : Level}
    (step : level.next = some above) (low : ¬ .begun ≤ level) :
    above = .begun := by
  have rank := Level.rank_of_next step
  apply Level.rank_injective
  change ¬ 1 ≤ level.rank at low
  change above.rank = 1
  omega

namespace Domain

theorem insertByNumber_perm (id : UnitId) (unit : UnitKey)
    (entries : List (UnitId × UnitKey)) :
    (insertByNumber id unit entries).Perm ((id, unit) :: entries) := by
  induction entries with
  | nil => exact List.Perm.refl _
  | cons entry entries ih =>
      rw [insertByNumber]
      split
      · exact List.Perm.refl _
      · exact (ih.cons entry).trans (List.Perm.swap ..)

/-- A registered number stays with its unit, and a new one is added. -/
theorem registry_register (domain : Domain) (id : UnitId) (unit : UnitKey) :
    ((domain.registry.lookup id).isSome = true ∧
      (domain.register id unit).registry = domain.registry) ∨
    (domain.registry.lookup id = none ∧
      (domain.register id unit).registry.Perm
        ((id, unit) :: domain.registry)) := by
  unfold register
  split
  · exact Or.inl ⟨‹_›, rfl⟩
  · rename_i unknown
    exact Or.inr ⟨Option.not_isSome_iff_eq_none.mp unknown,
      insertByNumber_perm id unit domain.registry⟩

end Domain

namespace World

/-- The registry has the unit under its number. -/
def Enlists (world : World) (key : UnitKey) : Prop :=
  (⟨key + 1⟩, key) ∈ (world.domain 0).registry

variable {world next : World} {me : ThreadId} {thread after : Thread}
  {key : UnitKey} {sinks : Sinks}

/-- The registry changes when a unit is registered, and then only. -/
theorem registry_stepped (stepped : world.Stepped me thread next after)
    (home : DomainKey) :
    (next.domain home).registry = (world.domain home).registry ∨
      ∃ key level rest stack,
        thread = ⟨.subStep key level (.register :: rest), stack⟩ ∧
        after = ⟨.subStep key level rest, stack⟩ ∧
        next = world.registerUnit key := by
  have elsewhere {key : UnitKey} {change : Entries → Entries} :
      ((world.modifyEntries key change).domain home).registry =
        (world.domain home).registry := by
    rw [modifyEntries, domain_modifyDomain]
    split
    · rename_i same
      rw [same]
    · rfl
  cases stepped with
  | entered | refused | releasedAgain | releasedStop | releasedRaise =>
      exact Or.inl elsewhere
  | failed =>
      rw [recordFailure_fst, domain_setError]
      exact Or.inl rfl
  | @performed key level action rest next stack ordinary done =>
      by_cases registers : action = .register
      · subst registers
        cases done
        exact Or.inr ⟨_, _, _, _, rfl, rfl, rfl⟩
      · have same := domain_perform world key registers home
        rw [done] at same
        exact Or.inl (congrArg Domain.registry same)
  | @faulted key level action rest next fault stack done =>
      have registers : action ≠ .register := by
        rintro rfl
        simp [perform] at done
      have same := domain_perform world key registers home
      rw [done] at same
      exact Or.inl (congrArg Domain.registry same)
  | reported => exact Or.inl (by split <;> rfl)
  | _ => exact Or.inl rfl

/-- Registering a unit adds it to the registry, unless it is there. -/
theorem registry_registerUnit (planned : world.Planned sinks)
    (known : key < world.unitCount)
    (proper : ∀ entry ∈ (world.domain 0).registry, ∃ other,
      entry = (⟨other + 1⟩, other)) :
    (world.Enlists key ∧ ((world.registerUnit key).domain 0).registry =
      (world.domain 0).registry) ∨
    (¬ world.Enlists key ∧ ((world.registerUnit key).domain 0).registry.Perm
      ((⟨key + 1⟩, key) :: (world.domain 0).registry)) := by
  have domain : (world.registerUnit key).domain 0 =
      (world.domain 0).register ⟨key + 1⟩ key := by
    simp [registerUnit, planned.watched.home key known,
      planned.numbered key known]
  rw [domain]
  rcases Domain.registry_register (world.domain 0) ⟨key + 1⟩ key with
    ⟨found, same⟩ | ⟨missing, added⟩
  · refine Or.inl ⟨?_, same⟩
    obtain ⟨unit, found⟩ := Option.isSome_iff_exists.mp found
    obtain ⟨before, after, registry, -⟩ := List.lookup_eq_some_iff.mp found
    have member : (⟨key + 1⟩, unit) ∈ (world.domain 0).registry := by
      rw [registry]
      simp
    obtain ⟨other, entry⟩ := proper _ member
    cases entry
    exact member
  · refine Or.inr ⟨fun enlisted => ?_, added⟩
    have apart := List.lookup_eq_none_iff.mp missing _ enlisted
    simp at apart

theorem enlists_of_registering {level : Level} {rest : List Action}
    {stack : List Waiting}
    (stepped : world.Stepped me ⟨.subStep key level (.register :: rest), stack⟩
      next after)
    (planned : world.Planned sinks) (known : key < world.unitCount)
    (proper : ∀ entry ∈ (world.domain 0).registry, ∃ other,
      entry = (⟨other + 1⟩, other)) : next.Enlists key := by
  cases stepped with
  | performed ordinary done =>
      cases done
      rw [Enlists]
      rcases registry_registerUnit planned known proper with
        ⟨there, same⟩ | ⟨-, added⟩
      · exact same.symm ▸ there
      · exact added.mem_iff.mpr List.mem_cons_self
  | faulted done => simp [perform] at done

/-- A unit that has failed has begun its climb. -/
theorem begun_of_isError (planned : world.Planned sinks)
    (grounded : world.Grounded key)
    (failed : (world.unit key).isError = true) :
    .begun ≤ (world.unit key).level := by
  rw [LoadUnit.isError, CauseCell.isSet, Option.isSome_iff_exists] at failed
  obtain ⟨cause, stored⟩ := failed
  obtain ⟨level, fault, accounts, -, step⟩ := grounded.accounted cause stored
  by_contra low
  have first := Level.eq_begun_of_next step low
  cases accounts with
  | injected fails =>
      have failing := planned.failing key level fails
      simp [first, Level.failurePoints] at failing
  | inherited => contradiction

end World

namespace Crew

/-- The registry has the units whose climb has begun, and each of them once. -/
structure Enlisted (crew : Crew) : Prop where
  proper : ∀ entry ∈ (crew.world.domain 0).registry,
    ∃ key < crew.world.unitCount, entry = (⟨key + 1⟩, key)
  once : (crew.world.domain 0).registry.Nodup
  started : ∀ key, crew.world.Enlists key →
    .begun ≤ (crew.world.unit key).level ∨
      ∃ me, .begun ∈ (crew.thread me).driving key
  begun : ∀ key, .begun ≤ (crew.world.unit key).level → crew.world.Enlists key
  midway : ∀ me key rest,
    (crew.thread me).midway key = some (.begun, rest) →
      .register ∈ rest ∨ crew.world.Enlists key

variable {crew : Crew} {world : World} {me : ThreadId} {after : Thread}
  {key : UnitKey} {goal : Level} {sinks : Sinks}
  {aims : ThreadId → Option UnitKey}

/-- What the registry has it keeps, and a unit that is registered is the one whose
climb the thread begins. -/
theorem registry_act (orderly : crew.Orderly sinks goal aims)
    (enlisted : crew.Enlisted)
    (stepped : crew.world.Stepped me (crew.thread me) world after) :
    (world.domain 0).registry = (crew.world.domain 0).registry ∨
      ∃ key rest stack,
        crew.thread me = ⟨.subStep key .begun (.register :: rest), stack⟩ ∧
        .begun ∈ after.driving key ∧ ¬ crew.world.Enlists key ∧
        key < crew.world.unitCount ∧
        (world.domain 0).registry.Perm
          ((⟨key + 1⟩, key) :: (crew.world.domain 0).registry) := by
  rcases World.registry_stepped stepped 0 with
    same | ⟨key, level, rest, stack, current, rfl, rfl⟩
  · exact Or.inl same
  have supports := orderly.supports me
  have chains := orderly.chains me
  rw [current] at supports chains
  have begun : level = .begun := by
    have member := chains.1.subset List.mem_cons_self
    cases level <;> simp [Level.actions] at member ⊢
  subst begun
  rcases World.registry_registerUnit orderly.planned supports.1 fun entry member =>
    (enlisted.proper entry member).imp fun _ proper => proper.2 with
    ⟨-, same⟩ | ⟨fresh, added⟩
  · exact Or.inl same
  · have remains : crew.world.Chains ⟨.subStep key .begun rest, stack⟩ :=
      ⟨(List.suffix_cons _ _).trans chains.1, chains.2⟩
    have driving := World.driving_of_midway remains
      ((midway_subStep ..).trans (if_pos rfl))
    exact Or.inr ⟨key, rest, stack, current, driving, fresh, supports.1, added⟩

/-- A unit whose level is above the bottom after a step is in the registry. -/
theorem enlists_of_begun (orderly : crew.Orderly sinks goal aims)
    (enlisted : crew.Enlisted)
    (stepped : crew.world.Stepped me (crew.thread me) world after)
    (begun : .begun ≤ (world.unit key).level) : crew.world.Enlists key := by
  by_contra missing
  have low : ¬ .begun ≤ (crew.world.unit key).level :=
    fun high => missing (enlisted.begun key high)
  have steady := orderly.steady me key
  have enlisting := enlisted.midway me key
  have chains := orderly.chains me
  rcases World.unit_moves_stepped stepped key with
    still | ⟨target, level, stack, current, -⟩ |
    ⟨level, rest, stack, current, -⟩ |
    ⟨target, level, fault, stack, -, moved⟩
  · rw [still.level] at begun
    exact low begun
  · rw [current] at steady enlisting
    rcases steady.standing level (by simp [Thread.driving, Task.driving]) with
      step | ⟨-, loaded⟩
    · cases Level.eq_begun_of_next step low
      rcases enlisting [] ((midway_raise ..).trans (if_pos rfl)) with
        pending | there
      · simp at pending
      · exact missing there
    · rw [loaded] at low
      exact low (by decide)
  · rw [current] at steady chains
    have top := loaded_of_publish chains.1
    subst top
    rcases steady.standing .loaded
      (World.driving_of_midway chains (if_pos rfl)) with step | ⟨-, loaded⟩
    · exact absurd (Level.eq_begun_of_next step low) (by decide)
    · rw [loaded] at low
      exact low (by decide)
  · rw [moved, World.level_setError] at begun
    exact low begun

/-- A thread in the sub-step that registers a unit has still to do it, or the
registry has the unit. -/
theorem enlists_of_midway (orderly : crew.Orderly sinks goal aims)
    (enlisted : crew.Enlisted)
    (stepped : crew.world.Stepped me (crew.thread me) world after)
    {rest : List Action} (midway : after.midway key = some (.begun, rest)) :
    .register ∈ rest ∨ crew.world.Enlists key ∨
      ∃ level stack,
        crew.thread me = ⟨.subStep key level (.register :: rest), stack⟩ := by
  have advances : crew.world.Advances world (crew.thread me) after key _ :=
    World.advances_stepped stepped orderly.planned.watched (orderly.supports me)
      (orderly.chains me)
  cases advances with
  | rests unmoved same =>
      rw [same] at midway
      exact (enlisted.midway me key rest midway).imp_right Or.inl
  | begins before now =>
      rw [now] at midway
      cases midway
      exact Or.inl (by decide)
  | @performs level action remaining before now =>
      rw [now] at midway
      cases midway
      rcases enlisted.midway me key _ before with pending | there
      · rcases List.mem_cons.mp pending with same | pending
        · subst same
          obtain ⟨stack, current⟩ := Thread.subStep_of_midway before
          exact Or.inr (Or.inr ⟨_, stack, current⟩)
        · exact Or.inl pending
      · exact Or.inr (Or.inl there)
  | resumes before now =>
      rw [now] at midway
      cases midway
  | _ => simp_all

theorem enlisted_act (orderly : crew.Orderly sinks goal aims)
    (enlisted : crew.Enlisted) (me : ThreadId) : (crew.act me).Enlisted := by
  have later := orderly_act orderly me
  rcases act_cases crew me with
    ⟨idle, -⟩ | ⟨world, after, member, stepped, acted⟩
  · rwa [idle]
  rw [acted] at later ⊢
  have acted (you : ThreadId) :
      ({ crew with world }.setThread me after).thread you =
        if me = you then after else crew.thread you :=
    thread_acted member world after you
  have registry := registry_act orderly enlisted stepped
  have kept {key : UnitKey} (there : crew.world.Enlists key) :
      world.Enlists key := by
    rw [World.Enlists]
    rcases registry with same | ⟨_, _, _, _, _, _, _, added⟩
    · rwa [same]
    · exact added.mem_iff.mpr (List.mem_cons_of_mem _ there)
  have count := World.unitCount_stepped stepped
  refine ⟨?_, ?_, ?_, ?_, ?_⟩
  · intro entry there
    change ∃ key < world.unitCount, _
    rw [count]
    rcases registry with same | ⟨key, -, -, -, -, -, known, added⟩
    · exact enlisted.proper entry (same ▸ there)
    · rcases List.mem_cons.mp (added.mem_iff.mp there) with new | old
      · exact ⟨key, known, new⟩
      · exact enlisted.proper entry old
  · change (world.domain 0).registry.Nodup
    rcases registry with same | ⟨key, -, -, -, -, fresh, -, added⟩
    · exact same.symm ▸ enlisted.once
    · exact added.nodup_iff.mpr (List.nodup_cons.mpr ⟨fresh, enlisted.once⟩)
  · intro key there
    have old (before : crew.world.Enlists key) :
        .begun ≤ (world.unit key).level ∨ ∃ you, .begun ∈
          (({ crew with world }.setThread me after).thread you).driving key := by
      rcases enlisted.started key before with high | ⟨you, driving⟩
      · exact Or.inl (Nat.le_trans high
          (World.unit_grows_stepped stepped key).level)
      · by_cases mine : me = you
        · subst mine
          rcases World.driving_resolves stepped (orderly.delving me) driving with
            still | reached | failed
          · exact Or.inr ⟨me, by rwa [acted, if_pos rfl]⟩
          · exact Or.inl reached
          · exact Or.inl (World.begun_of_isError later.planned
              (later.grounded key) failed)
        · exact Or.inr ⟨you, by rwa [acted, if_neg mine]⟩
    rcases registry with same | ⟨entered, -, -, -, driving, -, -, added⟩
    · refine old ?_
      rwa [World.Enlists, ← same]
    · rcases List.mem_cons.mp (added.mem_iff.mp there) with new | before
      · cases new
        exact Or.inr ⟨me, by rwa [acted, if_pos rfl]⟩
      · exact old before
  · exact fun key high => kept (enlists_of_begun orderly enlisted stepped high)
  · intro you key rest midway
    rw [acted] at midway
    split at midway
    · rcases enlists_of_midway orderly enlisted stepped midway with
        pending | there | ⟨level, stack, current⟩
      · exact Or.inl pending
      · exact Or.inr (kept there)
      · have supports := orderly.supports me
        rw [current] at stepped supports
        exact Or.inr (World.enlists_of_registering stepped orderly.planned
          supports.1 fun entry member =>
            (enlisted.proper entry member).imp fun _ proper => proper.2)
    · exact (enlisted.midway you key rest midway).imp_right kept

end Crew

end LoadLadder
