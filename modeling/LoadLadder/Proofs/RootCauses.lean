import LoadLadder.Proofs.Errands

/-!
# Every failure has a root

A unit that fails because a dependency has failed quotes the cause of the
dependency.  As a quotation is longer than what it quotes, following the quotations
comes to an end, at a unit that failed on its own.  So whoever is told that a load
failed can be told why, however the units depend on each other and in whatever order
they were asked for.
-/

namespace LoadLadder

namespace World

variable {world next : World} {me : ThreadId} {thread after : Thread}
  {deeds : List Deed} {key : UnitKey} {cause : Cause} {aim : Option UnitKey}

/-- The cause of a unit is that of a dependency, quoted. -/
structure Quotes (world : World) (user quoted : UnitKey × Cause) : Prop where
  needs : quoted.1 ∈ (world.unit user.1).dependencies
  level : user.2.level = .active
  message : user.2.message = "Load failed: " ++ quoted.2.display

/-- A unit failed on its own: it was made to, or its image is not mapped. -/
def FailedItself (world : World) (failed : UnitKey × Cause) : Prop :=
  ∃ fault, world.OwnFault failed.1 failed.2.level fault ∧
    failed.2 = .capture fault (world.unit failed.1).name failed.2.level

/-- Failed units, each of which quotes the next one, down to one that failed on its
own. -/
structure Traces (world : World) (code : ResultCode)
    (chain : List (UnitKey × Cause)) : Prop where
  distinct : (chain.map Prod.fst).Nodup
  stored : ∀ failed ∈ chain,
    (world.unit failed.1).failure.cause = some failed.2
  named : ∀ failed ∈ chain, failed.2.unit = (world.unit failed.1).name
  coded : ∀ failed ∈ chain, failed.2.code = code
  quotes : chain.IsChain world.Quotes
  root : ∀ last ∈ chain.getLast?, world.FailedItself last

/-- A quotation is longer than what is quoted. -/
theorem Quotes.shorter {user quoted : UnitKey × Cause}
    (quotes : world.Quotes user quoted) :
    quoted.2.message.length < user.2.message.length := by
  have lead : "Load failed: ".length = 13 := rfl
  rw [quotes.message]
  simp only [Cause.display, String.length_append, lead]
  omega

/-- No unit is met twice, since it keeps one cause and the causes get shorter. -/
theorem nodup_of_quotes {chain : List (UnitKey × Cause)}
    (stored : ∀ failed ∈ chain,
      (world.unit failed.1).failure.cause = some failed.2)
    (quotes : chain.IsChain world.Quotes) : (chain.map Prod.fst).Nodup := by
  have falls : (chain.map fun failed => failed.2.message.length).Pairwise (· > ·) :=
    ((List.isChain_map _).mpr (quotes.imp fun _ _ quotes => quotes.shorter)).pairwise
  refine List.pairwise_map.mpr ((List.pairwise_map.mp falls).imp_of_mem ?_)
  intro user quoted member below shorter same
  have one := stored user member
  rw [same, stored quoted below] at one
  rw [Option.some.inj one] at shorter
  exact Nat.lt_irrefl _ shorter

/-- Every cause that a unit keeps goes back to its own work or to a dependency. -/
def Reasoned (world : World) : Prop :=
  ∀ key < world.unitCount, ∀ cause,
    (world.unit key).failure.cause = some cause → ∃ level fault,
      world.Blames key level fault ∧
        cause = .capture fault (world.unit key).name level

/-- Following the quotations comes to an end. -/
theorem exists_traces (reasoned : world.Reasoned)
    (known : key < world.unitCount)
    (stored : (world.unit key).failure.cause = some cause) :
    ∃ rest, world.Traces cause.code ((key, cause) :: rest) := by
  -- By induction on the length of the message, which falls from each cause to the
  -- one that it quotes.
  induction size : cause.message.length using Nat.strong_induction_on
    generalizing key cause with
  | _ size ih =>
      obtain ⟨level, fault, blames, rfl⟩ := reasoned key known cause stored
      cases blames with
      | own own =>
          exact ⟨[], by simp, by simpa using stored, by simp [Cause.capture],
            by simp, .singleton _, by simpa using ⟨fault, own, rfl⟩⟩
      | @quoted dependency quoted needs there kept =>
          have quotes : world.Quotes
              (key, .capture (.load quoted) (world.unit key).name .active)
              (dependency, quoted) := ⟨needs, rfl, rfl⟩
          obtain ⟨rest, traces⟩ := ih _ (size ▸ quotes.shorter) there kept rfl
          have all : ∀ failed ∈ (key, Cause.capture (.load quoted)
              (world.unit key).name .active) :: (dependency, quoted) :: rest,
              (world.unit failed.1).failure.cause = some failed.2 :=
            List.forall_mem_cons.mpr ⟨stored, traces.stored⟩
          have chain := List.IsChain.cons_cons quotes traces.quotes
          exact ⟨(dependency, quoted) :: rest, nodup_of_quotes all chain, all,
            List.forall_mem_cons.mpr ⟨rfl, traces.named⟩,
            List.forall_mem_cons.mpr ⟨rfl, traces.coded⟩, chain, traces.root⟩

/-- A cause that is there after a step was there before, or the thread has just
stored it. -/
theorem cause_stepped (stepped : world.Stepped me thread next after)
    (stored : (next.unit key).failure.cause = some cause) :
    (world.unit key).failure.cause = some cause ∨
      ∃ target level fault stack,
        thread = ⟨.drive key target (.fail level fault), stack⟩ ∧
          cause = .capture fault (world.unit key).name level := by
  rcases unit_moves_stepped stepped key with
    still | ⟨target, level, stack, -, moved⟩ | ⟨level, rest, stack, -, moved⟩ |
    ⟨target, level, fault, stack, rfl, moved⟩
  · rw [still.failure] at stored
    exact Or.inl stored
  · rw [moved] at stored
    exact Or.inl stored
  · rw [moved] at stored
    exact Or.inl stored
  · rw [moved] at stored
    rcases cause_setError stored with before | ⟨-, rfl⟩
    · exact Or.inl before
    · exact Or.inr ⟨target, level, fault, stack, rfl, rfl⟩

theorem Reasoned.later (reasoned : world.Reasoned) (onward : world.Onward next)
    (fresh : ∀ key < next.unitCount, ∀ cause,
      (next.unit key).failure.cause = some cause →
        key < world.unitCount ∧ ((world.unit key).failure.cause = some cause ∨
          ∃ level fault, world.Blames key level fault ∧
            cause = .capture fault (world.unit key).name level)) :
    next.Reasoned := by
  intro key known cause stored
  obtain ⟨there, before⟩ := fresh key known cause stored
  have name : (next.unit key).name = (world.unit key).name :=
    congrArg Image.name (onward.unit key there).image
  obtain ⟨level, fault, blames, same⟩ :=
    before.elim (reasoned key there cause) id
  rw [name]
  exact ⟨level, fault, blames.later onward there, same⟩

theorem reasoned_act (act : world.Act .secluded me thread deeds next after)
    (errand : world.Errand aim thread) (reasoned : world.Reasoned) :
    next.Reasoned := by
  refine reasoned.later (onward_act act) fun key known cause stored => ?_
  have there : key < world.unitCount := by
    by_contra unknown
    obtain ⟨home, image, container, made⟩ := unit_of_new act unknown known
    rw [made] at stored
    cases stored
  refine ⟨there, ?_⟩
  cases act with
  | step step =>
      rcases cause_stepped (stepped_of_step step) stored with
        before | ⟨target, level, fault, stack, rfl, rfl⟩
      · exact Or.inl before
      · cases errand with
        | drives sought vouches => exact Or.inr ⟨level, fault, vouches, rfl⟩
  | operate operation turn asked =>
      rcases cause_complete stored with before | rfl
      · exact Or.inl before
      · exact asked.elim
  | call | resume | finish => exact Or.inl stored

end World

/-- A thread that has failed has answered with its fault. -/
theorem Thread.eq_of_outcome {thread : Thread} {fault : Fault}
    (done : thread.isDone = true) (outcome : thread.outcome = .error fault) :
    thread = ⟨.answer (.error fault), []⟩ := by
  obtain ⟨task, stack⟩ := thread
  cases task with
  | answer reply =>
      cases List.isEmpty_iff.mp done
      cases reply with
      | ok => cases outcome
      | error raised =>
          cases outcome
          rfl
  | _ => cases done

namespace Crew

variable {setup : Setup} {members : Nat} {crew first later next : Crew}
  {deeds : List Deed} {key : UnitKey} {me : ThreadId} {cause : Cause}

theorem reasoned_run (quiet : setup.hook.client = false)
    (recorded : ∀ listener ∈ setup.listeners, listener = .recorder)
    (run : Run .secluded (idle [setup] members) deeds crew) :
    crew.world.Reasoned := by
  induction run with
  | start => exact fun key known => absurd known (Nat.not_lt_zero key)
  | @snoc crew next before deeds run move ih =>
      cases move with
      | collect =>
          have alike := World.alike_collect crew.world crew.pinned
          refine ih.later (World.onward_collect _ _) fun key known cause stored => ?_
          rw [alike.count] at known
          rw [(alike.unit key).failure] at stored
          exact ⟨known, Or.inl stored⟩
      | @act actor world thread deeds member act =>
          obtain ⟨aim, errand⟩ := (errands_run quiet recorded run).errand actor
          exact World.reasoned_act act errand ih

/-- What happens from a state of a crew on, until a thread has answered its
client. -/
inductive Awaits (me : ThreadId) (first : Crew) : Crew → Prop
  | start : Awaits me first first
  | snoc {crew next : Crew} {deeds : List Deed} (awaits : Awaits me first crew)
      (unanswered : ∀ reply, crew.thread me ≠ ⟨.answer reply, []⟩)
      (move : Move .secluded crew deeds next) : Awaits me first next

/-- As long as the thread has not answered, it is on the errand that it was sent
on. -/
theorem errand_awaits (quiet : setup.hook.client = false)
    (recorded : ∀ listener ∈ setup.listeners, listener = .recorder)
    (run : Run .secluded (idle [setup] members) deeds first)
    (errand : first.world.Errand (some key) (first.thread me))
    (awaits : Awaits me first later) :
    (∃ deeds, Run .secluded (idle [setup] members) deeds later) ∧
      later.world.Errand (some key) (later.thread me) := by
  induction awaits with
  | start => exact ⟨⟨_, run⟩, errand⟩
  | @snoc crew next more awaits unanswered move ih =>
      obtain ⟨⟨before, run⟩, errand⟩ := ih
      refine ⟨⟨_, run.snoc move⟩, ?_⟩
      cases move with
      | collect => exact errand.later (World.onward_collect _ _)
      | @act actor world thread deeds member act =>
          rw [thread_acted member]
          split
          · rename_i same
            subst same
            have errands := errands_run quiet recorded run
            exact (World.errand_act act errands.secluded
              ((framed_run framed_idle run).supports actor)
              (steady_of_delegating run.delegating actor)
              (returns_of_errands run errands actor) (candid_run run actor)
              errand).2 unanswered
          · exact errand.later (World.onward_act act)

/-- Whoever is told that the load of a unit failed can be told why: the unit has
failed, and following the causes leads to a unit that failed on its own. -/
theorem traces_of_failed (quiet : setup.hook.client = false)
    (recorded : ∀ listener ∈ setup.listeners, listener = .recorder)
    (run : Run .secluded (idle [setup] members) deeds crew)
    {through : DomainKey} {target : Level}
    (may : crew.mayAsk me (.ensure through key target) = true)
    (awaits : Awaits me (crew.ask me (.ensure through key target)) later)
    (failed : later.thread me = ⟨.answer (.error (.load cause)), []⟩) :
    ∃ rest, later.world.Traces cause.code ((key, cause) :: rest) := by
  have sent := run.trans (run_ask may trivial)
  have errand : (crew.ask me (.ensure through key target)).world.Errand (some key)
      ((crew.ask me (.ensure through key target)).thread me) := by
    simp only [mayAsk, Bool.and_eq_true, decide_eq_true_eq,
      Option.isNone_iff_eq_none] at may
    obtain ⟨⟨member, turn⟩, granted⟩ := may
    obtain ⟨aim, before⟩ := (errands_run quiet recorded run).errand me
    obtain ⟨reply, current⟩ := before.answered turn
    have asked : (crew.ask me (.ensure through key target)).thread me =
        ⟨.ensure crew.world through key target, []⟩ := by
      refine (thread_acted member crew.world _ me).trans ?_
      rw [if_pos rfl, current]
      rfl
    rw [asked]
    exact World.errand_asked through (World.known_of_granted granted rfl) target
  obtain ⟨⟨_, run⟩, errand⟩ := errand_awaits quiet recorded sent errand awaits
  rw [failed] at errand
  cases errand with
  | answersClient ends =>
      obtain ⟨known, kept, same, stored⟩ := ends key cause rfl rfl
      cases same
      exact World.exists_traces (reasoned_run quiet recorded run) known stored

theorem awaits_act (awaits : Awaits me first crew)
    (busy : (crew.thread me).isDone = false) : Awaits me first (crew.act me) := by
  have unanswered (reply : Reply) : crew.thread me ≠ ⟨.answer reply, []⟩ := by
    intro answered
    rw [answered] at busy
    cases busy
  have member : me < crew.threads.length := by
    by_contra spare
    have idle : crew.thread me = {} := by
      simp [thread, List.getElem?_eq_none (Nat.not_lt.mp spare)]
    exact unanswered _ idle
  unfold act
  cases step : crew.world.step me (crew.thread me) with
  | none => exact awaits
  | some moved => exact .snoc awaits unanswered (.act member (.step step))

theorem awaits_advance (alone : crew.threads.length = 1)
    (awaits : Awaits 0 first crew) (rounds : Nat) :
    Awaits 0 first (crew.advance rounds) := by
  induction rounds generalizing crew with
  | zero => exact awaits
  | succ rounds ih =>
      unfold advance
      split
      · exact awaits
      · rename_i busy
        have acted : crew.follow crew.members = crew.act 0 := by
          simp [members, alone, follow]
        rw [acted]
        refine ih ((length_act crew 0).trans alone) (awaits_act awaits ?_)
        obtain ⟨only, same⟩ := List.length_eq_one_iff.mp alone
        simpa [isDone, thread, same] using busy

/-- Three units that depend on each other in a ring, of which the last is made to
fail. -/
def ring : Crew :=
  ((((((idle [.observed] 1).ask 0 (.create 0 { name := "App" }
      { name := "App", initializer := .dependencies })).ask 0
    (.create 0 { name := "Lib" }
      { name := "Lib", initializer := .dependencies })).ask 0
    (.create 0 { name := "Sys" }
      { name := "Sys", failAt := some .vtableFixups, initializer := .dependencies })
    ).ask 0 (.addDependency 0 1)).ask 0 (.addDependency 1 2)).ask 0
    (.addDependency 2 0)

/-- The first of them was asked for. -/
def ringFailed : Crew :=
  (ring.ask 0 (.ensure 0 0 .active)).advance 400

def ringCause : Cause where
  code := .fail
  message := "Load failed: Lib failed at active (0x80004005): Load failed: Sys failed "
    ++ "at vtable-fixups (0x80004005): vtable-fixups step failed: injected failure in "
    ++ "Sys"
  unit := "App"
  level := .active

theorem ring_reached :
    ∃ deeds, Run .secluded (idle [.observed] 1) deeds ring :=
  ⟨_, (((((run_ask (by decide +kernel) ⟨rfl, by decide⟩).trans
    (run_ask (by decide +kernel) ⟨rfl, by decide⟩)).trans
    (run_ask (by decide +kernel) ⟨rfl, by decide⟩)).trans
    (run_ask (by decide +kernel) trivial)).trans
    (run_ask (by decide +kernel) trivial)).trans
    (run_ask (by decide +kernel) trivial)⟩

theorem traces_of_ringFailed :
    ringFailed.thread 0 = ⟨.answer (.error (.load ringCause)), []⟩ ∧
      ∃ rest, ringFailed.world.Traces .fail ((0, ringCause) :: rest) := by
  obtain ⟨_, run⟩ := ring_reached
  have failed : ringFailed.thread 0 = ⟨.answer (.error (.load ringCause)), []⟩ :=
    Thread.eq_of_outcome (by decide +kernel) (by decide +kernel)
  exact ⟨failed, traces_of_failed rfl (by decide) run (by decide +kernel)
    (awaits_advance (by decide +kernel) .start 400) failed⟩

end Crew

end LoadLadder
