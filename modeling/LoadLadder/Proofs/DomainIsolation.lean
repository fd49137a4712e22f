import LoadLadder.Proofs.CauseReplays
import LoadLadder.Proofs.HostTies
import LoadLadder.Proofs.Registries

/-!
# Domains keep their units to themselves

Every domain numbers its units from one and keeps a registry and a table of entries of
its own, so a number alone does not tell whose unit it is.  A domain that is asked for
a unit of another one looks at the unit's home before it does anything, and rejects the
request whatever the unit is like; the same holds for units that an initializer asks
for.  So what a client has done to the units of one domain leaves all others alone.
-/

namespace LoadLadder

/-- What a domain answers when it is to load a unit of another domain. -/
def World.trespass (world : World) (through : DomainKey) (key : UnitKey) : Fault :=
  .contract (.foreignDomain (world.unit key).name (World.domainId (world.unit key).home)
    (World.domainId through))

/-- Operations that a domain carries out on a unit of its own. -/
inductive Operation.Seeks (through : DomainKey) (key : UnitKey) : Operation → Prop
  | ensure (target : Level) : Seeks through key (.ensure through key target)
  | incremental (level : Level) : Seeks through key (.incremental through key level)
  | checkLevel (required : Level) (tolerant : Bool) :
      Seeks through key (.checkLevel through key required tolerant)
  | unload : Seeks through key (.unload through key)

namespace World

variable {world next : World} {me : ThreadId} {thread after : Thread}
  {through : DomainKey} {key other : UnitKey} {operation : Operation}

/-- How a request is rejected: a load ends with the fault, and anything else is answered
in the negative. -/
inductive Rejects (world : World) (me : ThreadId) (thread : Thread) (fault : Fault)
    (operation : Operation) : Thread → Prop
  | loads (begins : operation.task? world = some (.answer (.error fault))) :
      Rejects world me thread fault operation (thread.call (.answer (.error fault)))
  | completes (instant : operation.task? world = none)
      (answers : (operation.complete world me).2 = .flag false) :
      Rejects world me thread fault operation thread

theorem checkDomain_of_foreign (foreign : (world.unit key).home ≠ through) :
    world.checkDomain through key = .error (world.trespass through key) := by
  simp [checkDomain, foreign, trespass]

theorem ensure_of_foreign (foreign : (world.unit key).home ≠ through)
    (target : Level) :
    Task.ensure world through key target =
      .answer (.error (world.trespass through key)) := by
  rw [Task.ensure, checkDomain_of_foreign foreign]

theorem incremental_of_foreign (foreign : (world.unit key).home ≠ through)
    (level : Level) :
    Task.incremental world through key level =
      .answer (.error (world.trespass through key)) := by
  rw [Task.incremental, checkDomain_of_foreign foreign]

/-- A rejected request is answered at once, changes nothing and is not noted
anywhere. -/
theorem rejected_of_foreign (foreign : (world.unit key).home ≠ through)
    (seeks : operation.Seeks through key) (turn : world.step me thread = none)
    (granted : operation.refusal? world = none) :
    ∃ after, world.play me thread (some (.asks operation)) = some (world, after) ∧
      world.played thread (some (.asks operation)) = [] ∧
      world.Rejects me thread (world.trespass through key) operation after := by
  have loads {fault : Fault}
      (begins : operation.task? world = some (.answer (.error fault))) :
      ∃ after, world.play me thread (some (.asks operation)) = some (world, after) ∧
        world.played thread (some (.asks operation)) = [] ∧
        world.Rejects me thread fault operation after :=
    ⟨_, by simp [play, turn, granted, begins], by simp [played, begins], .loads begins⟩
  cases seeks with
  | ensure target => exact loads (congrArg some (ensure_of_foreign foreign target))
  | incremental level =>
      exact loads (congrArg some (incremental_of_foreign foreign level))
  | checkLevel required tolerant =>
      exact ⟨thread, by simp [play, turn, granted, Operation.task?, Operation.complete],
        rfl, .completes rfl (by simp [Operation.complete, checkLoadLevel, foreign])⟩
  | unload =>
      have same : world.unloadUnit through key = (world, false) := by
        simp [unloadUnit, foreign]
      exact ⟨thread,
        by simp [play, turn, granted, Operation.task?, Operation.complete, same],
        by simp [played, Operation.task?, Operation.deeds, foreign],
        .completes rfl (by simp [Operation.complete, same])⟩

/-- An initializer that comes to a unit of another domain ends with the same fault. -/
theorem step_of_foreign {rest : List UnitKey} {stack : List Waiting}
    (foreign : (world.unit other).home ≠ (world.unit key).home)
    (alive : (world.unit other).isAlive = true) :
    world.step me ⟨.activateDependencies key (other :: rest), stack⟩ =
      some (world, ⟨.answer (.error (world.trespass (world.unit key).home other)),
        .onDependency key rest :: stack⟩) := by
  simp [step, stepDependencies, alive, ensure_of_foreign foreign]

/-- A step changes no unit that the thread does not work on. -/
theorem unit_stepped_of_unpinned (stepped : world.Stepped me thread next after)
    (apart : key ∉ thread.pinned) : next.unit key = world.unit key := by
  have own {unit : UnitKey} (works : thread.task.unit? = some unit) : unit ≠ key := by
    rintro rfl
    exact apart (List.mem_append_left _ (Option.mem_toList.mpr works))
  cases stepped with
  | raised => rw [unit_modifyUnit, if_neg (own rfl)]
  | failed =>
      rw [recordFailure_fst, unit_setError, if_neg fun fresh => own rfl fresh.1]
  | announces | announcedBefore => rw [unit_claim, if_neg (own rfl)]
  | @performed unit level action rest next stack ordinary done =>
      have kept : (world.perform unit action).1.unit key = world.unit key :=
        unit_perform_of_ne world unit key (own rfl)
      rwa [done] at kept
  | @faulted unit level action rest next fault stack done =>
      have kept : (world.perform unit action).1.unit key = world.unit key :=
        unit_perform_of_ne world unit key (own rfl)
      rwa [done] at kept
  | initializes | allActivated => rw [unit_modifyUnit, if_neg (own rfl)]
  | initialized | uninitialized =>
      refine (unit_modifyUnit ..).trans (if_neg ?_)
      rintro rfl
      exact apart (by simp [Thread.pinned, Waiting.unit?])
  | reported => split <;> rfl
  | _ => rfl

/-- A step changes no domain but that of the unit the thread works on. -/
theorem domain_stepped_of_unpinned (stepped : world.Stepped me thread next after)
    {there : DomainKey} (apart : ∀ unit ∈ thread.pinned, (world.unit unit).home ≠ there) :
    next.domain there = world.domain there := by
  have own {unit : UnitKey} (works : thread.task.unit? = some unit) :
      (world.unit unit).home ≠ there :=
    apart unit (List.mem_append_left _ (Option.mem_toList.mpr works))
  have performed {unit : UnitKey} {action : Action}
      (works : thread.task.unit? = some unit) :
      (world.perform unit action).1.domain there = world.domain there := by
    by_cases registers : action = .register
    · subst registers
      exact (domain_modifyDomain ..).trans (if_neg (own works))
    · exact domain_perform world unit registers there
  cases stepped with
  | entered | refused | releasedAgain | releasedStop | releasedRaise =>
      exact (domain_modifyDomain ..).trans (if_neg (own rfl))
  | failed =>
      rw [recordFailure_fst, domain_setError]
  | @performed unit level action rest next stack ordinary done =>
      have kept := @performed unit action rfl
      rwa [done] at kept
  | @faulted unit level action rest next fault stack done =>
      have kept := @performed unit action rfl
      rwa [done] at kept
  | reported => split <;> rfl
  | _ => rfl

/-- A load that begins works on a unit of the domain it goes through. -/
theorem home_of_ensure {target : Level}
    (works : (Task.ensure world through key target).unit? = some other) :
    other = key ∧ (world.unit key).home = through := by
  refine ⟨eq_of_begins (begins_ensure world through key target) works, ?_⟩
  by_contra foreign
  rw [ensure_of_foreign foreign] at works
  contradiction

/-- A thread turns to units of the domains whose units it works on. -/
theorem home_of_pinned_stepped (stepped : world.Stepped me thread next after)
    (pinned : other ∈ after.pinned) :
    other ∈ thread.pinned ∨
      ∃ unit ∈ thread.pinned, (world.unit other).home = (world.unit unit).home := by
  refine (turns_of_pinned_stepped stepped pinned).imp_right ?_
  rintro ⟨unit, rest, stack, rfl, -, works⟩
  exact ⟨unit, List.mem_cons_self, (home_of_ensure works).2⟩

/-- What a step does is done to the unit the thread works on. -/
theorem unit_of_deeds_pinned {deed : Deed} (done : deed ∈ world.deeds thread) :
    deed.unit ∈ thread.pinned := by
  obtain ⟨task, stack⟩ := thread
  refine List.mem_append_left _ (Option.mem_toList.mpr ?_)
  simp only [deeds] at done
  split at done
  · obtain ⟨notice, -, rfl⟩ := List.mem_map.mp done
    rfl
  · rw [List.mem_singleton.mp done]
    rfl
  · rw [unit_of_actionDeeds done]
    rfl
  · rw [List.mem_singleton.mp done]
    rfl
  · simp at done

end World

/-- The client loads units of one domain, and asks for others only where they do not
belong. -/
def Conduct.within (here : DomainKey) : Conduct := fun crew _ request =>
  match request with
  | .asks (.ensure through key _) =>
      (crew.world.unit key).home = here ∨ (crew.world.unit key).home ≠ through
  | .asks _ => False
  | _ => True

instance (here : DomainKey) (crew : Crew) (me : ThreadId) (request : Request) :
    Decidable (Conduct.within here crew me request) := by
  unfold Conduct.within
  split <;> infer_instance

namespace Crew

variable {conduct : Conduct} {first crew next : Crew} {here : DomainKey}
  {deeds past : List Deed}

/-- What became of a crew that only works on units of one domain. -/
structure Confined (here : DomainKey) (first crew : Crew) (past : List Deed) :
    Prop where
  homes : ∀ key, (crew.world.unit key).home = (first.world.unit key).home
  pinned : ∀ me, ∀ key ∈ (crew.thread me).pinned, (crew.world.unit key).home = here
  /-- Units of other domains at most cease to exist when nothing holds them. -/
  units : ∀ key, (first.world.unit key).home ≠ here →
    crew.world.unit key = first.world.unit key ∨
      (crew.world.unit key).presence = .destroyed
  domains : ∀ there, there ≠ here → (first.world.domain there).held = true →
    crew.world.domain there = first.world.domain there
  deeds : ∀ deed ∈ past, (first.world.unit deed.unit).home = here

theorem Confined.start
    (pinned : ∀ me, ∀ key ∈ (first.thread me).pinned,
      (first.world.unit key).home = here) : Confined here first first [] where
  homes := fun _ => rfl
  pinned := pinned
  units := fun _ _ => Or.inl rfl
  domains := fun _ _ _ => rfl
  deeds := by simp

/-- What the loader does in one domain stays there. -/
theorem Confined.step {me : ThreadId} {world : World} {thread : Thread}
    (confined : Confined here first crew past) (member : me < crew.threads.length)
    (supports : crew.world.Supports (crew.thread me))
    (step : crew.world.step me (crew.thread me) = some (world, thread)) :
    Confined here first ({ crew with world }.setThread me thread)
      (past ++ crew.world.deeds (crew.thread me)) := by
  have stepped := World.stepped_of_step step
  have own := confined.pinned me
  have homes (key : UnitKey) : (world.unit key).home = (crew.world.unit key).home := by
    by_cases pinned : key ∈ (crew.thread me).pinned
    · exact ((World.grows_stepped stepped).unit key
        (supports.known_of_pinned pinned)).home
    · rw [World.unit_stepped_of_unpinned stepped pinned]
  refine ⟨fun key => (homes key).trans (confined.homes key), fun you key pinned => ?_,
    fun key foreign => ?_, fun there apart held => ?_, fun deed done => ?_⟩
  · rw [thread_acted member] at pinned
    refine (homes key).trans ?_
    split at pinned
    · rcases World.home_of_pinned_stepped stepped pinned with before | ⟨unit, works, same⟩
      · exact own key before
      · exact same.trans (own unit works)
    · exact confined.pinned you key pinned
  · have kept : world.unit key = crew.world.unit key :=
      World.unit_stepped_of_unpinned stepped fun pinned =>
        foreign ((confined.homes key).symm.trans (own key pinned))
    simpa only [setThread, kept] using confined.units key foreign
  · have kept : world.domain there = crew.world.domain there :=
      World.domain_stepped_of_unpinned stepped fun unit pinned same =>
        apart (same.symm.trans (own unit pinned))
    exact kept.trans (confined.domains there apart held)
  · rcases List.mem_append.mp done with before | now
    · exact confined.deeds deed before
    · exact (confined.homes _).symm.trans (own _ (World.unit_of_deeds_pinned now))

/-- A request that is within bounds only turns a thread to a unit of the domain. -/
theorem Confined.request {me : ThreadId} {world : World} {thread : Thread}
    {requested : Request} (confined : Confined here first crew past)
    (member : me < crew.threads.length)
    (conducted : Conduct.within here crew me requested)
    (plays : crew.world.play me (crew.thread me) (some requested) =
      some (world, thread)) :
    Confined here first ({ crew with world }.setThread me thread)
      (past ++ crew.world.played (crew.thread me) (some requested)) := by
  have turns (next : Thread) (within : ∀ key ∈ next.pinned,
      key ∈ (crew.thread me).pinned ∨ (crew.world.unit key).home = here) :
      Confined here first (crew.setThread me next) past := by
    refine ⟨confined.homes, fun you key pinned => ?_, confined.units,
      confined.domains, confined.deeds⟩
    change key ∈ (({ crew with world := crew.world }.setThread me next).thread you).pinned
      at pinned
    rw [thread_acted member] at pinned
    split at pinned
    · exact (within key pinned).elim (confined.pinned me key) id
    · exact confined.pinned you key pinned
  cases World.granted_of_play plays with
  | operate operation turn granted instant =>
      cases operation with
      | ensure => simp [Operation.task?] at instant
      | _ => exact conducted.elim
  | call operation turn granted loads =>
      cases operation with
      | ensure through key target =>
          cases loads
          simp only [World.played, Operation.task?, List.append_nil]
          refine turns _ fun other pinned => (World.pinned_call pinned).imp_right ?_
          intro works
          obtain ⟨rfl, home⟩ := World.home_of_ensure works
          exact conducted.elim id fun foreign => absurd home foreign
      | _ => exact conducted.elim
  | resume answered =>
      simp only [World.played, List.append_nil]
      refine turns _ fun key pinned => Or.inl ?_
      rw [answered]
      simpa [Thread.pinned, Task.unit?, Waiting.unit?] using pinned
  | finish result called =>
      simp only [World.played, List.append_nil]
      refine turns _ fun key pinned => Or.inl ?_
      rw [called] at pinned ⊢
      exact pinned

theorem Confined.collect (confined : Confined here first crew past) :
    Confined here first { crew with world := crew.world.collect crew.pinned } past := by
  have still := (World.alike_collect crew.world crew.pinned).still.unit
  refine ⟨fun key => (still key).home.trans (confined.homes key),
    fun me key pinned => (still key).home.trans (confined.pinned me key pinned),
    fun key foreign => ?_, fun there apart held => ?_, confined.deeds⟩
  · rcases World.unit_collect crew.world crew.pinned key with spared | ⟨-, destroyed⟩
    · rw [spared]
      exact confined.units key foreign
    · rw [destroyed]
      exact Or.inr rfl
  · have kept := confined.domains there apart held
    rw [World.domain_collect_of_held crew.pinned (kept ▸ held)]
    exact kept

/-- Loads of one domain's units leave everything of another domain alone. -/
theorem confined_of_account (framed : first.Framed)
    (pinned : ∀ me, ∀ key ∈ (first.thread me).pinned,
      (first.world.unit key).home = here)
    (account : Account (.within here) (fun world _ => world.played) first past crew) :
    Confined here first crew past := by
  induction account with
  | start => exact .start pinned
  | collect account ih => exact ih.collect
  | @play crew past me request world thread account member conducted plays ih =>
      cases request with
      | none =>
          obtain ⟨deeds, run⟩ := account.run
          exact ih.step member ((framed_run framed run).supports me) plays
      | some requested => exact ih.request member (conducted _ rfl) plays

end Crew

end LoadLadder
