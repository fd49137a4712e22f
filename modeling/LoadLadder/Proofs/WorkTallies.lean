import LoadLadder.Proofs.UnitWork

/-!
# No work is done twice

Between two sub-steps of a unit the counts of its work are decided by its level and
by the cause of its failure; in the middle of a sub-step also by the actions that
are left of it.  No piece of work is done twice, however many threads drive the unit
and whatever their callbacks load meanwhile.
-/

namespace LoadLadder

namespace World

variable {world next : World} {me : ThreadId} {thread after : Thread}
  {deeds : List Deed} {key : UnitKey} {level : Level} {stack : List Waiting}
  {seat : Seat}

/-- What a unit has had done was done once, as far as a thread knows that may be in
the middle of a sub-step of it. -/
def Tallied (world : World) (thread : Thread) (key : UnitKey) : Prop :=
  (world.unit key).Tallies (world.homeOf key).config
    (thread.hasDone key (world.unit key))

theorem stints_answer_of_drive (seated : world.Seated .drive stack) (reply : Reply) :
    Thread.stints key ⟨.answer reply, stack⟩ =
      stack.flatMap (Waiting.stint key) := by
  cases seated with
  | initializing known runs => rcases runs with same | same <;> cases same
  | _ => rfl

theorem stints_ensure (through : DomainKey) (other : UnitKey) (target : Level)
    {waits : List Waiting} (idle : ∀ waiting ∈ waits.head?, ∀ reply,
      waiting.stintOn key reply = waiting.stint key) :
    Thread.stints key ⟨.ensure world through other target, waits⟩ =
      waits.flatMap (Waiting.stint key) := by
  have begins := begins_ensure world through other target
  have apart := @ensure_ne_subStep world through other other target
  generalize Task.ensure world through other target = task at begins apart
  cases begins with
  | answers reply =>
      cases waits with
      | nil => rfl
      | cons waiting stack =>
          rw [stints_answer, idle waiting rfl reply, List.flatMap_cons]
  | drives => rfl
  | runs level => exact absurd rfl (apart level level.actions)

/-- A driver that begins a sub-step has done the work of the levels up to its
unit's. -/
theorem hasDone_of_climb (healthy : (world.unit key).isError = false)
    (above : (world.unit key).level.next = some level) (chore : Chore) :
    (Stint.working level level.actions).hasDone chore =
      (world.unit key).hasDone chore := by
  have rank := Level.rank_of_next above
  have none : (world.unit key).failure.cause = none := by
    simpa [LoadUnit.isError, CauseCell.isSet] using healthy
  have step : chore.level ≤ (world.unit key).level ↔ chore.level < level := by
    rw [Level.le_def, Level.lt_def]
    omega
  simp [Stint.hasDone, LoadUnit.hasDone, none, step, chore.action_mem_actions]

/-- A unit that is raised to a level has done the work of this level. -/
theorem hasDone_of_raise (healthy : (world.unit key).isError = false)
    (standing : (world.unit key).level.next = some level ∨
      level = .loaded ∧ (world.unit key).level = .loaded) (chore : Chore) :
    ((world.unit key).raiseLevel level).hasDone chore =
      (Stint.working level []).hasDone chore := by
  have none : (world.unit key).failure.cause = none := by
    simpa [LoadUnit.isError, CauseCell.isSet] using healthy
  have step : chore.level ≤ level ↔
      chore.level < level ∨ chore.level = level := by
    have same : chore.level = level ↔ chore.level.rank = level.rank :=
      ⟨congrArg Level.rank, fun ranks => Level.rank_injective ranks⟩
    rw [Level.le_def, Level.lt_def, same]
    omega
  simp [Stint.hasDone, LoadUnit.hasDone, LoadUnit.raiseLevel, none,
    Level.max_eq_of_standing standing, step]

/-- A unit that keeps the cause of a failure has done what could have failed. -/
theorem hasDone_of_failure
    (standing : (world.unit key).level.next = some level ∨
      level = .loaded ∧ (world.unit key).level = .loaded)
    {failed : LoadUnit} {cause : Cause}
    (same : failed.level = (world.unit key).level)
    (stored : failed.failure.cause = some cause) (at_level : cause.level = level)
    (chore : Chore) :
    failed.hasDone chore = (Stint.broken level).hasDone chore := by
  have step : chore.level ≤ (world.unit key).level ↔ chore.level < level := by
    rcases standing with above | ⟨rfl, reached⟩
    · have rank := Level.rank_of_next above
      rw [Level.le_def, Level.lt_def]
      omega
    · rw [reached, chore.le_loaded_iff]
  simp [Stint.hasDone, LoadUnit.hasDone, same, stored, at_level, step]

/-- The sub-step that a driver asked for lies below its answer as it does below the
last of its actions. -/
theorem stints_answer_of_driven {unit : UnitKey}
    (seated : world.Seated (.subStep unit level) stack)
    (driven : isDriven stack = true) (reply : Reply) (key : UnitKey) :
    Thread.stints key ⟨.answer reply, stack⟩ =
      (if unit = key then [.heard reply level []] else []) ++
        stack.flatMap (Waiting.stint key) := by
  obtain ⟨target, below, rfl, -⟩ := exists_driver seated driven
  rfl

/-- The sub-step whose initializer ran lies below the answer of the initializer. -/
theorem exists_initializing {unit : UnitKey}
    (seated : world.Seated (.dependencies unit) stack) :
    ∃ level rest gateLifted below,
      stack = .onInitializer unit level rest gateLifted :: below ∧
      .runInitializer :: rest <:+ level.actions := by
  cases seated with
  | @initializing key level rest gateLifted seat below known runs remains =>
      rcases runs with same | same
      · cases same
        exact ⟨level, rest, gateLifted, below, rfl, remains⟩
      · cases same

theorem stints_subStep (key : UnitKey) (level : Level) (rest : List Action)
    (stack : List Waiting) :
    Thread.stints key ⟨.subStep key level rest, stack⟩ =
      .working level rest :: stack.flatMap (Waiting.stint key) := by
  simp [Thread.stints, Task.stint]

theorem stints_subStep_of_ne {unit : UnitKey} (apart : ¬ unit = key)
    (level : Level) (rest : List Action) (stack : List Waiting) :
    Thread.stints key ⟨.subStep unit level rest, stack⟩ =
      stack.flatMap (Waiting.stint key) := by
  simp [Thread.stints, Task.stint, apart]

theorem stints_raise (key : UnitKey) (target level : Level)
    (stack : List Waiting) :
    Thread.stints key ⟨.drive key target (.raise level), stack⟩ =
      .working level [] :: stack.flatMap (Waiting.stint key) := by
  simp [Thread.stints, Task.stint]

theorem stints_fail (key : UnitKey) (target level : Level) (fault : Fault)
    (stack : List Waiting) :
    Thread.stints key ⟨.drive key target (.fail level fault), stack⟩ =
      .broken level :: stack.flatMap (Waiting.stint key) := by
  simp [Thread.stints, Task.stint]

theorem stint_initializer (key : UnitKey) (level : Level) (rest : List Action)
    (gateLifted : Bool) (below : List Waiting) :
    (Waiting.onInitializer key level rest gateLifted :: below).flatMap
        (Waiting.stint key) =
      .working level (.runInitializer :: rest) ::
        below.flatMap (Waiting.stint key) := by
  simp [Waiting.stint]

theorem stints_answer_initializer (key : UnitKey) (level : Level)
    (rest : List Action) (gateLifted : Bool) (below : List Waiting)
    (reply : Reply) :
    Thread.stints key
        ⟨.answer reply, .onInitializer key level rest gateLifted :: below⟩ =
      .heard reply level rest :: below.flatMap (Waiting.stint key) := by
  simp [Thread.stints, Waiting.stintOn]

theorem hasDone_of_stints {stint : Stint} {stints : List Stint}
    (under : thread.stints key = stint :: stints) (unit : LoadUnit) :
    thread.hasDone key unit = stint.hasDone := by
  rw [Thread.hasDone, under]

theorem hasDone_of_idle (none : thread.stints key = []) (unit : LoadUnit) :
    thread.hasDone key unit = unit.hasDone := by
  rw [Thread.hasDone, none]

variable (tallied : world.Tallied thread key)
  (settings : (next.homeOf key).config = (world.homeOf key).config)

include tallied settings

/-- A step that does no work for a unit, and leaves its sub-step where it is. -/
theorem tallied_of_rests (rests : (world.unit key).Rests (next.unit key))
    (same : after.stints key = thread.stints key) : next.Tallied after key := by
  rw [Tallied, settings]
  refine LoadUnit.Tallies.congr tallied rests.toUnworked fun chore _ => ?_
  rw [Thread.hasDone, Thread.hasDone, same]
  cases thread.stints key with
  | nil => exact rests.hasDone chore
  | cons stint stints => rfl

/-- A step that does no work for a unit, and knows as much to be done as before. -/
theorem tallied_of_unworked (unworked : (world.unit key).Unworked (next.unit key))
    (same : ∀ chore, after.hasDone key (next.unit key) chore =
      thread.hasDone key (world.unit key) chore) : next.Tallied after key := by
  rw [Tallied, settings]
  exact LoadUnit.Tallies.congr tallied unworked fun chore _ => same chore

omit tallied settings

theorem settings_stepped (stepped : world.Stepped me thread next after)
    (key : UnitKey) : (next.homeOf key).config = (world.homeOf key).config := by
  unfold homeOf
  rw [(unit_grows_stepped stepped key).home]
  exact config_stepped stepped _

section

variable {unit : UnitKey} {target : Level} {action : Action} {rest : List Action}
  {fault : Fault}

/-- A driver that begins a sub-step. -/
theorem tallied_climbs
    (below : unit = key → stack.flatMap (Waiting.stint key) = [])
    (healthy : (world.unit unit).isError = false)
    (step : (world.unit unit).level.next = some level)
    (tallied : world.Tallied ⟨.drive unit target .recheck, stack⟩ key) :
    world.Tallied
      ⟨.subStep unit level level.actions, .onSubStep unit target level :: stack⟩
      key := by
  by_cases here : unit = key
  · subst here
    have idle : Thread.stints unit ⟨.drive unit target .recheck, stack⟩ = [] :=
      below rfl
    refine tallied_of_unworked tallied rfl ⟨rfl, rfl, rfl⟩ fun chore => ?_
    rw [hasDone_of_idle idle,
      hasDone_of_stints (stints_subStep ..),
      hasDone_of_climb healthy step]
  · exact tallied_of_rests tallied rfl (.refl _) (by
      simp [Thread.stints, Task.stint, Waiting.stint, here])

/-- A driver that raises the level of its unit. -/
theorem tallied_raises
    (below : unit = key → stack.flatMap (Waiting.stint key) = [])
    (steady : world.Steady ⟨.drive unit target (.raise level), stack⟩ key)
    (settings : (next.homeOf key).config = (world.homeOf key).config)
    (raised : ∀ other, next.unit other =
      if unit = other then (world.unit unit).raiseLevel level
      else world.unit other)
    (tallied : world.Tallied ⟨.drive unit target (.raise level), stack⟩ key) :
    next.Tallied ⟨.drive unit target (.release .again), stack⟩ key := by
  by_cases here : unit = key
  · subst here
    have driving : level ∈ Thread.driving unit
        ⟨.drive unit target (.raise level), stack⟩ := by
      simp [Thread.driving, Task.driving]
    have idle : Thread.stints unit
        ⟨.drive unit target (.release .again), stack⟩ = [] :=
      below rfl
    have same := (raised unit).trans (if_pos rfl)
    refine tallied_of_unworked tallied settings ?_ fun chore => ?_
    · rw [same]
      exact ⟨rfl, rfl, rfl⟩
    · rw [hasDone_of_idle idle,
        hasDone_of_stints (stints_raise ..), same,
        hasDone_of_raise (steady.healthy level driving)
          (steady.standing level driving)]
  · refine tallied_of_rests tallied settings ?_ (by
      simp [Thread.stints, Task.stint, here])
    rw [raised, if_neg here]
    exact .refl _

/-- A driver that stores the cause of a failure. -/
theorem tallied_fails
    (below : unit = key → stack.flatMap (Waiting.stint key) = [])
    (steady : world.Steady ⟨.drive unit target (.fail level fault), stack⟩ key)
    (settings : (next.homeOf key).config = (world.homeOf key).config)
    {surfaced : Fault} (stored : next = (world.setError unit
      (.capture fault (world.unit unit).name level)).1)
    (tallied : world.Tallied ⟨.drive unit target (.fail level fault), stack⟩ key) :
    next.Tallied ⟨.drive unit target (.release (.raise surfaced)), stack⟩ key := by
  by_cases here : unit = key
  · subst here
    have driving : level ∈ Thread.driving unit
        ⟨.drive unit target (.fail level fault), stack⟩ := by
      simp [Thread.driving, Task.driving]
    have idle : Thread.stints unit
        ⟨.drive unit target (.release (.raise surfaced)), stack⟩ = [] :=
      below rfl
    have same : next.unit unit = { world.unit unit with
        failure := ⟨some (.capture fault (world.unit unit).name level)⟩
        latches := (world.unit unit).latches.claim .profiler } := by
      rw [stored, unit_setError, if_pos ⟨rfl, steady.healthy level driving⟩]
    refine tallied_of_unworked tallied settings ?_ fun chore => ?_
    · rw [same]
      exact ⟨rfl, rfl, rfl⟩
    · rw [hasDone_of_idle idle,
        hasDone_of_stints (stints_fail ..)]
      exact hasDone_of_failure (steady.standing level driving) (by rw [same])
        (by rw [same]) rfl chore
  · refine tallied_of_rests tallied settings ?_ (by
      simp [Thread.stints, Task.stint, here])
    rw [stored, unit_setError, if_neg fun both => here both.1]
    exact .refl _

/-- A sub-step that does its next piece of work, and goes on or stops with it. -/
theorem tallied_works {stint : Stint} {stints : List Stint}
    (remains : action :: rest <:+ level.actions)
    (settings : (next.homeOf key).config = (world.homeOf key).config)
    (container : (next.unit key).container = (world.unit key).container)
    (counted : ∀ chore, (next.unit key).tally chore =
      (world.unit key).tally chore +
        ((world.unit key).owes (world.homeOf key).config chore &&
          decide (chore.action = action)).toNat)
    (under : thread.stints key = .working level (action :: rest) :: stints)
    (ongoing : after.stints key = stint :: stints)
    (same : ∀ chore, stint.hasDone chore =
      ((Stint.working level (action :: rest)).hasDone chore ||
        decide (chore.action = action)))
    (tallied : world.Tallied thread key) : next.Tallied after key := by
  rw [Tallied, hasDone_of_stints under] at tallied
  rw [Tallied, settings, hasDone_of_stints ongoing]
  exact tallied.advance container counted
    (fun chore here => Stint.fresh_head remains here) same

/-- A sub-step that carries out its next action. -/
theorem tallied_performs {stint : Stint}
    (remains : action :: rest <:+ level.actions)
    (settings : (next.homeOf key).config = (world.homeOf key).config)
    (container : (next.unit key).container = (world.unit key).container)
    (done : (world.perform unit action).1 = next)
    (absent : unit = key → action = .runInitializer →
      (world.unit unit).container.initializer = .absent)
    (ongoing : after.stints key = (if unit = key then [stint] else []) ++
      stack.flatMap (Waiting.stint key))
    (same : unit = key → ∀ chore, stint.hasDone chore =
      ((Stint.working level (action :: rest)).hasDone chore ||
        decide (chore.action = action)))
    (tallied : world.Tallied ⟨.subStep unit level (action :: rest), stack⟩ key) :
    next.Tallied after key := by
  by_cases here : unit = key
  · subst here
    rw [if_pos rfl] at ongoing
    refine tallied_works remains settings container ?_ (stints_subStep ..)
      ongoing (same rfl) tallied
    rw [← done]
    exact tally_perform world unit (absent rfl)
  · rw [if_neg here, List.nil_append] at ongoing
    refine tallied_of_rests tallied settings ?_
      (ongoing.trans (stints_subStep_of_ne here ..).symm)
    rw [← done, unit_perform_of_ne world unit key here]
    exact .refl _

/-- Work that stops the sub-step of a driver is counted, and is not the check that
its unit is loaded. -/
theorem checked_of_fault (done : world.perform key action = (next, some fault))
    (member : action ∈ level.actions)
    (driving : level ∈ thread.driving key) (steady : world.Steady thread key) :
    action ≠ .requireLoaded ∧ action ≠ .runInitializer := by
  constructor
  · rintro rfl
    have stands := standing_of_mayStop steady driving member rfl
    have top : level = .active := by
      cases level <;> first | rfl | (exact absurd member (by decide))
    subst top
    have loaded : (world.unit key).isLoaded = true :=
      decide_eq_true (Level.le_def.mpr (by
        have rank := Level.rank_of_next stands
        change 6 ≤ _
        change 7 = _ at rank
        omega))
    simp [perform, loaded] at done
  · rintro rfl
    simp [perform] at done

end

theorem tallied_stepped (stepped : world.Stepped me thread next after)
    (supports : world.Supports thread) (steered : thread.Steered)
    (candid : thread.Candid) (authentic : world.Authentic thread)
    (once : thread.holds.count key ≤ 1) (steady : world.Steady thread key)
    (tallied : world.Tallied thread key) : next.Tallied after key := by
  have settings := settings_stepped stepped key
  have container := (unit_grows_stepped stepped key).container
  cases stepped with
  | entered asks =>
      rcases asks with rfl | rfl <;>
        exact tallied_of_rests tallied settings (.refl _) rfl
  | refused asks kept goes =>
      rcases asks with rfl | rfl <;> rcases goes with rfl | rfl <;>
        exact tallied_of_rests tallied settings (.refl _) rfl
  | climbs short healthy above =>
      exact tallied_climbs (fun here => stints_below supports.2 steered.stack once
        (here ▸ List.mem_singleton_self _)) healthy above tallied
  | raised =>
      exact tallied_raises (fun here => stints_below supports.2 steered.stack once
        (here ▸ List.mem_singleton_self _)) steady settings
        (fun other => unit_modifyUnit _ _ other _) tallied
  | failed =>
      exact tallied_fails (fun here => stints_below supports.2 steered.stack once
        (here ▸ List.mem_singleton_self _)) steady settings
        (recordFailure_fst ..) tallied
  | @performed unit level action rest next stack ordinary done absent =>
      exact tallied_performs supports.2.1 settings container (by rw [done])
        (fun _ => absent) rfl (fun _ => Stint.hasDone_tail supports.2.1) tallied
  | @faulted unit level action rest next fault stack done =>
      obtain ⟨-, remains, -, seated⟩ := supports
      have driven := steered.task _ _ _ rfl
      have counted (here : unit = key) :
          action ≠ .requireLoaded ∧ action ≠ .runInitializer := by
        subst here
        have driving : level ∈ Thread.driving unit
            ⟨.subStep unit level (action :: rest), stack⟩ := by
          obtain ⟨target, below, rfl, -⟩ := exists_driver seated driven
          simp [Thread.driving, Waiting.driving]
        exact checked_of_fault done (remains.subset List.mem_cons_self) driving
          steady
      exact tallied_performs remains settings container (by rw [done])
        (fun here same => absurd same (counted here).2)
        (stints_answer_of_driven seated driven (.error fault) key)
        (fun here => Stint.hasDone_broken remains
          (mayStop_of_fault world unit done) (counted here).1 (counted here).2)
        tallied
  | initializes runs =>
      rcases runs with ⟨-, rfl⟩ | ⟨-, rfl⟩ <;>
        exact tallied_of_rests tallied settings (rests_liftGate ..) rfl
  | @reported unit level rest after stack goes =>
      have idle : (world.unit key).Rests ((if (world.homeOf unit).hook.records
          then world.emit (.transition (world.unit unit).name level)
          else world).unit key) := by
        split <;> exact .refl _
      have ongoing : after.stints key =
          Thread.stints key ⟨.subStep unit level rest, stack⟩ := by
        rcases goes with ⟨-, rfl⟩ | ⟨-, rfl⟩ <;> rfl
      by_cases here : unit = key
      · subst here
        refine tallied_of_unworked tallied settings idle.toUnworked
          fun chore => ?_
        rw [hasDone_of_stints (ongoing.trans (stints_subStep ..)),
          hasDone_of_stints (stints_subStep ..),
          Stint.hasDone_tail supports.2.1]
        cases chore <;> simp [Chore.action]
      · exact tallied_of_rests tallied settings idle
          (ongoing.trans ((stints_subStep_of_ne here ..).trans
            (stints_subStep_of_ne here ..).symm))
  | @allActivated unit stack =>
      obtain ⟨level, rest, gateLifted, below, rfl, remains⟩ :=
        exists_initializing supports.2.2
      by_cases here : unit = key
      · subst here
        have under : Thread.stints unit ⟨.activateDependencies unit [],
            .onInitializer unit level rest gateLifted :: below⟩ = _ :=
          stint_initializer unit level rest gateLifted below
        refine tallied_works remains settings container (fun chore => ?_) under
          (stints_answer_initializer ..) (Stint.hasDone_tail remains) tallied
        have initializer := (authentic (unit, .dependencies)
          (List.mem_append_left _ (List.mem_singleton_self _))).2
        rw [unit_modifyUnit, if_pos rfl]
        cases chore <;>
          simp [LoadUnit.tally, LoadUnit.owes, Chore.action, initializer]
      · refine tallied_of_rests tallied settings ?_ (by
          simp [Thread.stints, Task.stint, Waiting.stint, Waiting.stintOn, here])
        rw [unit_modifyUnit, if_neg here]
        exact .refl _
  | @unactivated unit more fault stack =>
      have seated : world.Seated (.dependencies unit) stack := by
        obtain ⟨seat, seated⟩ := supports
        cases seated
        assumption
      obtain ⟨level, rest, gateLifted, below, rfl, remains⟩ :=
        exists_initializing seated
      by_cases here : unit = key
      · subst here
        refine tallied_of_unworked tallied settings ⟨rfl, rfl, rfl⟩
          fun chore => ?_
        have under : Thread.stints unit ⟨.answer (.error fault),
            .onDependency unit more :: .onInitializer unit level rest gateLifted ::
              below⟩ = _ :=
          stint_initializer unit level rest gateLifted below
        rw [hasDone_of_stints (stints_answer_initializer ..),
          hasDone_of_stints under]
        exact Stint.hasDone_uninitialized remains chore
      · exact tallied_of_rests tallied settings (.refl _) (by
          simp [Thread.stints, Waiting.stint, Waiting.stintOn, here])
  | @completed unit level stack =>
      obtain ⟨-, remains, -, seated⟩ := supports
      have driven := steered.task _ _ _ rfl
      exact tallied_of_rests tallied settings (.refl _)
        (stints_answer_of_driven seated driven (.ok true) key)
  | @uninitialized unit level rest gateLifted fault stack =>
      have driven := steered.stack.1
      have seated : world.Seated (.subStep unit level) stack := by
        obtain ⟨seat, seated⟩ := supports
        cases seated
        assumption
      exact tallied_of_rests tallied settings (rests_liftGate ..)
        (stints_answer_of_driven seated driven (.error fault) key)
  | activates =>
      exact tallied_of_rests tallied settings (.refl _)
        (stints_ensure _ _ _ (by rintro waiting ⟨⟩ reply; rfl))
  | blames =>
      exact tallied_of_rests tallied settings (.refl _)
        (stints_answer_of_drive supports.2 _)
  | required =>
      exact tallied_of_rests tallied settings (.refl _)
        (stints_answer_of_drive supports.2 _)
  | releasedRaise =>
      exact tallied_of_rests tallied settings (.refl _)
        (stints_answer_of_drive supports.2 _)
  | abandoned => cases candid rfl
  | announces | announcedBefore =>
      exact tallied_of_rests tallied settings (rests_claim ..) rfl
  | initialized =>
      exact tallied_of_rests tallied settings (rests_liftGate ..) rfl
  | _ => exact tallied_of_rests tallied settings (.refl _) rfl

theorem stints_call {task : Task} (turn : world.step me thread = none)
    {operation : Operation} (asked : Repertoire.delegating world operation)
    (loads : operation.task? world = some task) :
    (thread.call task).stints key = thread.stints key := by
  cases operation with
  | ensure through unit target =>
      cases loads
      rcases turn_cases turn with
        ⟨callback, stack, rfl⟩ | ⟨reply, rfl⟩ | ⟨reply, callback, stack, rfl⟩
      · exact stints_ensure _ _ _ (by rintro waiting ⟨⟩ reply; rfl)
      · exact stints_ensure _ _ _ (by simp)
      · exact stints_ensure _ _ _ (by rintro waiting ⟨⟩ reply; rfl)
  | incremental => exact asked.elim
  | _ => simp [Operation.task?] at loads

/-- The client's own initializers are not counted. -/
theorem tallied_finish {callback : Callback} (result : Except Fault Unit)
    (supports : world.Supports ⟨.callback callback, stack⟩)
    (authentic : world.Authentic ⟨.callback callback, stack⟩)
    (tallied : world.Tallied ⟨.callback callback, stack⟩ key) :
    world.Tallied (Thread.finish ⟨.callback callback, stack⟩ result) key := by
  cases supports with
  | hooked | listening => exact tallied_of_rests tallied rfl (.refl _) rfl
  | @initializing unit level rest gateLifted seat stack known runs remains =>
      rcases runs with same | same
      · cases same
      cases same
      by_cases here : unit = key
      · subst here
        have under : Thread.stints unit ⟨.callback (.initializer unit),
            .onInitializer unit level rest gateLifted :: stack⟩ = _ :=
          stint_initializer unit level rest gateLifted stack
        have ongoing : Thread.stints unit (Thread.finish
            ⟨.callback (.initializer unit),
              .onInitializer unit level rest gateLifted :: stack⟩ result) = _ :=
          stints_answer_initializer unit level rest gateLifted stack
            (result.map fun _ => true)
        cases result with
        | error fault =>
            refine tallied_of_unworked tallied rfl ⟨rfl, rfl, rfl⟩
              fun chore => ?_
            rw [hasDone_of_stints under, hasDone_of_stints ongoing]
            exact Stint.hasDone_uninitialized remains chore
        | ok answer =>
            have initializer := (authentic (unit, .client)
              (List.mem_append_left _ (List.mem_singleton_self _))).2
            refine LoadUnit.Tallies.congr tallied ⟨rfl, rfl, rfl⟩
              fun chore owed => ?_
            rw [hasDone_of_stints under, hasDone_of_stints ongoing]
            refine (Stint.hasDone_tail remains chore).trans ?_
            have other : chore.action ≠ .runInitializer := by
              rintro same
              cases chore <;> simp [Chore.action] at same
              simp [LoadUnit.owes, initializer] at owed
            simp [other]
      · refine tallied_of_rests tallied rfl (.refl _) ?_
        simp [Thread.finish, Thread.stints, Task.stint, Waiting.stint,
          Waiting.stintOn, here]

theorem tallied_act (act : world.Act .delegating me thread deeds next after)
    (supports : world.Supports thread) (steered : thread.Steered)
    (candid : thread.Candid) (authentic : world.Authentic thread)
    (once : thread.holds.count key ≤ 1) (steady : world.Steady thread key)
    (known : key < world.unitCount) (tallied : world.Tallied thread key) :
    next.Tallied after key := by
  have settings : (next.homeOf key).config = (world.homeOf key).config := by
    unfold homeOf
    rw [((grows_act act).unit key known).home]
    exact config_act act _
  cases act with
  | step step =>
      exact tallied_stepped (stepped_of_step step) supports steered candid
        authentic once steady tallied
  | operate operation turn asked =>
      exact tallied_of_rests tallied settings (rests_complete asked me known) rfl
  | call operation turn asked granted loads =>
      exact tallied_of_rests tallied settings (.refl _)
        (stints_call turn asked loads)
  | resume answered =>
      subst answered
      exact tallied_of_rests tallied settings (.refl _) rfl
  | finish result called =>
      subst called
      exact tallied_finish result supports authentic tallied

/-- Whoever does work for a unit is in the middle of a sub-step of it. -/
theorem rests_stepped (stepped : world.Stepped me thread next after)
    (supports : world.Supports thread) (idle : thread.stints key = []) :
    (world.unit key).Rests (next.unit key) := by
  cases stepped with
  | @raised unit target level stack =>
      by_cases here : unit = key
      · subst here
        rw [stints_raise] at idle
        contradiction
      · rw [unit_modifyUnit, if_neg here]
        exact .refl _
  | @failed unit target level fault stack =>
      by_cases here : unit = key
      · subst here
        rw [stints_fail] at idle
        contradiction
      · rw [recordFailure_fst, unit_setError, if_neg fun both => here both.1]
        exact .refl _
  | @performed unit level action rest next stack ordinary done
  | @faulted unit level action rest next fault stack done =>
      have same : (world.perform unit action).1 = next := by rw [done]
      by_cases here : unit = key
      · subst here
        rw [stints_subStep] at idle
        contradiction
      · rw [← same, unit_perform_of_ne world unit key here]
        exact .refl _
  | @allActivated unit stack =>
      obtain ⟨level, rest, gateLifted, below, rfl, remains⟩ :=
        exists_initializing supports.2.2
      by_cases here : unit = key
      · subst here
        have under : Thread.stints unit ⟨.activateDependencies unit [],
            .onInitializer unit level rest gateLifted :: below⟩ = _ :=
          stint_initializer unit level rest gateLifted below
        rw [under] at idle
        contradiction
      · rw [unit_modifyUnit, if_neg here]
        exact .refl _
  | initializes | initialized | uninitialized => exact rests_liftGate ..
  | reported => split <;> exact .refl _
  | announces | announcedBefore => exact rests_claim ..
  | _ => exact .refl _

theorem rests_act (act : world.Act .delegating me thread deeds next after)
    (supports : world.Supports thread) (known : key < world.unitCount)
    (idle : thread.stints key = []) : (world.unit key).Rests (next.unit key) := by
  cases act with
  | step step => exact rests_stepped (stepped_of_step step) supports idle
  | operate operation turn asked => exact rests_complete asked me known
  | call | resume | finish => exact .refl _

end World

namespace LoadUnit

/-- A unit has failed at a level. -/
abbrev FailedAt (unit : LoadUnit) (level : Level) : Prop :=
  unit.failure.cause.map Cause.level = some level

/-- The counts of a unit are what its level and its cause say. -/
structure WorkMatches (unit : LoadUnit) (config : LoaderConfig) : Prop where
  eagerFixups : unit.work.eagerFixups =
    if unit.container.hasPrecompiledFixups = true ∧
      (.eagerFixups ≤ unit.level ∨ unit.FailedAt .eagerFixups) then 1 else 0
  vtableFixups : unit.work.vtableFixups =
    if .vtableFixups ≤ unit.level ∨ unit.FailedAt .vtableFixups then 1 else 0
  exceptionPlans : unit.work.exceptionPlans =
    if unit.level = .active ∨ unit.FailedAt .active then 1 else 0
  expansions : unit.work.expansions =
    if unit.level = .active ∧ config.expandModulesOnLoad = true then 1 else 0
  registrations : unit.work.registrations =
    if unit.level = .active ∧ unit.container.hasPrecompiledFixups = true then 1
    else 0
  completedRuns : unit.completedRuns =
    if unit.level = .active ∧ unit.container.initializer = .dependencies then 1
    else 0

variable {unit : LoadUnit} {config : LoaderConfig} {chore : Chore}

/-- The work that may be made to fail is done when its level is reached or has
failed. -/
theorem hasDone_of_work (unit : LoadUnit)
    (fails : chore.level.work? = some chore.action) :
    unit.hasDone chore = true ↔
      chore.level ≤ unit.level ∨ unit.FailedAt chore.level := by
  have same (level : Level) :
      level.work? = some chore.action ↔ level = chore.level := by
    cases chore <;> first
      | (cases level <;> decide)
      | contradiction
  cases stored : unit.failure.cause <;> simp [hasDone, FailedAt, stored, same]

/-- Any other work is done when its level is reached. -/
theorem hasDone_of_sound (sound : chore.level.work? ≠ some chore.action) :
    unit.hasDone chore = true ↔ chore.level ≤ unit.level := by
  have never (level : Level) : level.work? ≠ some chore.action := by
    cases chore <;> first
      | (cases level <;> decide)
      | exact absurd rfl sound
  cases stored : unit.failure.cause <;> simp [hasDone, stored, never]

theorem active_le_iff : .active ≤ unit.level ↔ unit.level = .active := by
  cases unit.level <;> decide

theorem tally_of_tallies (tallies : unit.Tallies config unit.hasDone)
    (chore : Chore) {condition : Prop} [Decidable condition]
    (same : unit.owes config chore = true ∧ unit.hasDone chore = true ↔
      condition) : unit.tally chore = if condition then 1 else 0 := by
  rw [tallies chore, ← if_congr same rfl rfl]
  cases unit.owes config chore <;> cases unit.hasDone chore <;> rfl

theorem workMatches_of_tallies (tallies : unit.Tallies config unit.hasDone) :
    unit.WorkMatches config := by
  have work {chore : Chore} (fails : chore.level.work? = some chore.action) :=
    hasDone_of_work unit fails
  have activation {chore : Chore} (top : chore.level = .active)
      (sound : chore.level.work? ≠ some chore.action) :
      unit.hasDone chore = true ↔ unit.level = .active := by
    rw [hasDone_of_sound sound, top, active_le_iff]
  constructor
  · exact tally_of_tallies tallies .eagerFixups (by
      rw [work rfl]
      rfl)
  · exact tally_of_tallies tallies .vtableFixups (by
      rw [work rfl]
      simp [owes, Chore.level])
  · exact tally_of_tallies tallies .exceptionPlan (by
      rw [work rfl, Chore.level, active_le_iff]
      simp [owes])
  · exact tally_of_tallies tallies .expansion (by
      rw [activation rfl (by decide), and_comm]
      rfl)
  · exact tally_of_tallies tallies .registration (by
      rw [activation rfl (by decide), and_comm]
      rfl)
  · exact tally_of_tallies tallies .initializer (by
      rw [activation rfl (by decide), and_comm]
      simp [owes])

end LoadUnit

/-- Nothing has been done for a unit that was just made. -/
theorem LoadUnit.tallies_fresh {unit : LoadUnit} {config : LoaderConfig}
    (level : unit.level = .created) (failure : unit.failure = {})
    (work : unit.work = {}) (runs : unit.completedRuns = 0) :
    unit.Tallies config unit.hasDone := by
  intro chore
  cases chore <;>
    simp [tally, hasDone, Chore.level, Level.le_def, Level.rank, level, failure,
      work, runs]

namespace Crew

variable {repertoire : Repertoire} {setups : List Setup} {members : Nat}
  {crew next : Crew} {deeds : List Deed} {key : UnitKey} {me : ThreadId}

theorem authentic_run (run : Run repertoire (idle setups members) deeds crew)
    (me : ThreadId) : crew.world.Authentic (crew.thread me) := by
  induction run generalizing me with
  | start => simp [World.Authentic, Thread.initializers, Task.initializers]
  | @snoc crew next before deeds run move ih =>
      have grows := grows_move move
      cases move with
      | collect => exact (ih me).grows grows
      | @act actor world thread deeds member act =>
          rw [thread_acted member]
          split
          · exact World.authentic_act act
              ((framed_run framed_idle run).supports actor) (ih actor)
          · exact (ih me).grows grows

/-- A thread beside which no other thread is in the middle of a sub-step of a unit
knows what the unit has had done. -/
def Tallied (crew : Crew) : Prop :=
  ∀ key < crew.world.unitCount, ∀ me,
    (∀ you ≠ me, (crew.thread you).stints key = []) →
      crew.world.Tallied (crew.thread me) key

/-- No other thread is in the middle of a sub-step of a unit. -/
theorem stints_of_apart
    (run : Run .delegating (idle setups members) deeds crew)
    (under : (crew.thread me).stints key ≠ []) {you : ThreadId}
    (apart : you ≠ me) : (crew.thread you).stints key = [] := by
  have framed := framed_run framed_idle run
  by_contra busy
  exact apart ((exclusive_run run).same_thread
    (World.holds_of_stints (framed.supports you) (steered_of_delegating run you)
      busy)
    (World.holds_of_stints (framed.supports me) (steered_of_delegating run me)
      under))

/-- Nobody is in the middle of a sub-step of a unit that was just made. -/
theorem stints_of_new (run : Run .delegating (idle setups members) deeds crew)
    {world : World} {thread : Thread} {more : List Deed}
    (member : me < crew.threads.length)
    (act : World.Act .delegating me crew.world (crew.thread me) more world thread)
    (new : ¬ key < crew.world.unitCount) (you : ThreadId) :
    (({ crew with world }.setThread me thread).thread you).stints key = [] := by
  have framed := framed_run framed_idle run
  have whole := run.snoc (.act member act)
  by_contra busy
  have holds := World.holds_of_stints
    ((framed_run framed_idle whole).supports you)
    (steered_of_delegating whole you) busy
  rw [thread_acted member] at holds
  split at holds
  · exact new (World.known_of_passes (World.passes_act act) (framed.supports me)
      holds)
  · exact new (World.known_of_holds (framed.supports you) holds)

theorem tallied_move (run : Run .delegating (idle setups members) deeds crew)
    {more : List Deed} (move : Move .delegating crew more next)
    (tallied : crew.Tallied) : next.Tallied := by
  have framed := framed_run framed_idle run
  intro key known me alone
  cases move with
  | collect =>
      have alike := World.alike_collect crew.world crew.pinned
      have before := tallied key (Nat.lt_of_lt_of_eq known alike.count) me alone
      refine World.tallied_of_rests before ?_ (World.rests_collect ..) rfl
      unfold World.homeOf
      rw [(alike.unit key).home]
      exact (alike.domain _).config
  | @act actor world thread deeds member act =>
      have grows := World.grows_act act
      by_cases old : key < crew.world.unitCount
      · have acts (before : crew.world.Tallied (crew.thread actor) key) :
            world.Tallied thread key :=
          World.tallied_act act (framed.supports actor)
            (steered_of_delegating run actor) (candid_run run actor)
            (authentic_run run actor) ((exclusive_run run).count_le actor key)
            (steady_of_delegating run actor key) old before
        have others {you : ThreadId} (apart : you ≠ me) (still : you ≠ actor) :
            (crew.thread you).stints key = [] := by
          have idle := alone you apart
          rwa [thread_acted member, if_neg still.symm] at idle
        rw [thread_acted member]
        split
        · rename_i mine
          subst mine
          exact acts (tallied key old actor fun you apart => others apart apart)
        · rename_i bystander
          have idling : thread.stints key = [] := by
            have idle := alone actor bystander
            rwa [thread_acted member, if_pos rfl] at idle
          by_cases idle : (crew.thread actor).stints key = []
          · refine World.tallied_of_rests (tallied key old me fun you apart => ?_)
              ?_ (World.rests_act act (framed.supports actor) old idle) rfl
            · by_cases still : you = actor
              · rw [still]
                exact idle
              · exact others apart still
            · change (world.homeOf key).config = _
              unfold World.homeOf
              rw [(grows.unit key old).home]
              exact World.config_act act _
          · have after := acts (tallied key old actor fun you apart =>
              stints_of_apart run idle apart)
            have mine := stints_of_apart run idle fun same => bystander same.symm
            rw [World.Tallied, World.hasDone_of_idle idling] at after
            rw [World.Tallied, World.hasDone_of_idle mine]
            exact after
      · obtain ⟨home, image, container, same⟩ := World.unit_of_new act old known
        change LoadUnit.Tallies (world.unit key) _
          (Thread.hasDone _ key (world.unit key))
        rw [World.hasDone_of_idle (stints_of_new run member act old me), same]
        exact LoadUnit.tallies_fresh rfl rfl rfl rfl

theorem tallied_run (run : Run .delegating (idle setups members) deeds crew) :
    crew.Tallied := by
  induction run with
  | start =>
      intro key known
      exact absurd known (by
        change ¬ key < (World.ofSetups setups).unitCount
        rw [(World.ofSetups_units setups).2.1]
        exact Nat.not_lt_zero key)
  | snoc run move ih => exact tallied_move run move ih

/-- As long as no driver holds the entry of a unit, its container has worked exactly
as often as the unit's level and cause say. -/
theorem workMatches_of_delegating
    (run : Run .delegating (idle setups members) deeds crew)
    (known : key < crew.world.unitCount)
    (free : ∀ me, key ∉ (crew.thread me).holds) :
    (crew.world.unit key).WorkMatches (crew.world.homeOf key).config := by
  have framed := framed_run framed_idle run
  have idle (me : ThreadId) : (crew.thread me).stints key = [] := by
    by_contra busy
    exact free me (World.holds_of_stints (framed.supports me)
      (steered_of_delegating run me) busy)
  have tallied := tallied_run run key known 0 fun you _ => idle you
  rw [World.Tallied, World.hasDone_of_idle (idle 0)] at tallied
  exact LoadUnit.workMatches_of_tallies tallied

/-- A unit with precompiled fixups has been loaded, and its dependency failed. -/
def bereft : Crew :=
  (((((idle [.observed] 1).ask 0 (.create 0 { name := "App" }
      { name := "App", precompiled := true, initializer := .dependencies })).ask 0
    (.create 0 { name := "Lib" } { name := "Lib", failAt := some .active })).ask 0
    (.addDependency 0 1)).ask 0 (.ensure 0 0 .active)).follow
    (List.replicate 160 0)

theorem bereft_reached :
    ∃ deeds, Run .delegating (idle [.observed] 1) deeds bereft :=
  ⟨_, ((((run_ask (by decide +kernel) trivial).trans
    (run_ask (by decide +kernel) trivial)).trans
    (run_ask (by decide +kernel) trivial)).trans
    (run_ask (by decide +kernel) trivial)).trans
    (run_follow (by decide +kernel))⟩

/-- The initializer of the unit did not run to its end. -/
theorem workMatches_bereft :
    (bereft.thread 0).isDone = true ∧
    ((bereft.world.unit 0).failure.cause.map Cause.level = some .active ∧
      (bereft.world.unit 0).work =
        { eagerFixups := 1, vtableFixups := 1, exceptionPlans := 1 } ∧
      (bereft.world.unit 0).completedRuns = 0) ∧
    (bereft.world.unit 0).WorkMatches (bereft.world.homeOf 0).config := by
  obtain ⟨_, run⟩ := bereft_reached
  have free (me : ThreadId) : 0 ∉ (bereft.thread me).holds := by
    cases me with
    | zero => decide +kernel
    | succ me =>
        have alone : bereft.threads.length = 1 := by decide +kernel
        have spare : bereft.thread (me + 1) = {} := by
          simp [thread, alone]
        simp [spare, Thread.holds, Task.holds]
  exact ⟨by decide +kernel, by decide +kernel,
    workMatches_of_delegating run (by decide +kernel) free⟩

end Crew

end LoadLadder
