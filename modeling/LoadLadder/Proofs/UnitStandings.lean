import LoadLadder.Proofs.UnitAdvances

/-!
# Where a unit stands

A driver that is driven to a level finds its unit right below this level and
healthy, and an active unit is announced before anything else happens to it.  Both
hold of a thread that only loads, whatever it does next.
-/

namespace LoadLadder

@[simp]
theorem LoadUnit.isError_raiseLevel (unit : LoadUnit) (level : Level) :
    (unit.raiseLevel level).isError = unit.isError :=
  rfl

namespace Level

theorem ne_active_of_next {level above : Level}
    (step : level.next = some above) : level ≠ .active := by
  rintro rfl
  simp [Level.next, Level.ofRank?, Level.rank] at step

theorem eq_of_next {below level above : Level}
    (below_next : below.next = some above)
    (level_next : level.next = some above) : below = level := by
  have one := rank_of_next below_next
  have two := rank_of_next level_next
  exact rank_injective (by omega)

theorem max_eq_of_next {level above : Level}
    (step : level.next = some above) : max level above = above := by
  have rank := rank_of_next step
  exact if_pos (le_def.mpr (by omega))

/-- Raising a unit to the level that it is driven to brings it there, whether or not
it has been published. -/
theorem max_eq_of_standing {current level : Level}
    (standing : current.next = some level ∨
      level = .loaded ∧ current = .loaded) : max current level = level := by
  rcases standing with step | ⟨rfl, rfl⟩
  · exact max_eq_of_next step
  · rfl

end Level

namespace World

/-- Whatever a driver is driven to, it stands right below it, or at it if it has
been published, and it has not failed. -/
structure Steady (world : World) (thread : Thread) (key : UnitKey) : Prop where
  healthy : ∀ level ∈ thread.driving key, (world.unit key).isError = false
  standing : ∀ level ∈ thread.driving key,
    (world.unit key).level.next = some level ∨
      level = .loaded ∧ (world.unit key).level = .loaded

/-- A unit is announced when it becomes active, before anything else happens to
it. -/
structure Heard (world : World) (thread : Thread) (key : UnitKey) : Prop where
  active : (world.unit key).latches.isSet .hostLoadEvent = true →
    (world.unit key).level = .active
  unannounced : (world.unit key).level = .active →
    (world.unit key).latches.isSet .hostLoadEvent = false →
    thread.nears key = true ∧ (world.unit key).isError = false
  announcing : thread.untold key ≠ [] →
    (world.unit key).latches.isSet .hostLoadEvent = true ∧
      (world.unit key).isError = false

variable {world next : World} {me : ThreadId} {thread after : Thread}
  {deeds : List Deed} {key : UnitKey} {said : List Notice}

theorem not_active_of_driving (steady : world.Steady thread key) {level : Level}
    (driving : level ∈ thread.driving key) :
    (world.unit key).level ≠ .active := by
  intro active
  rcases steady.standing level driving with step | ⟨-, loaded⟩
  · exact Level.ne_active_of_next step active
  · rw [active] at loaded
    contradiction

/-- Whoever is in the middle of a sub-step of a unit drives the unit. -/
theorem driving_of_midway {level : Level} {rest : List Action}
    (chains : world.Chains thread)
    (standing : thread.midway key = some (level, rest)) :
    level ∈ thread.driving key := by
  unfold Thread.midway at standing
  split at standing
  · rename_i unit level rest stack
    split at standing
    · rename_i same
      subst same
      cases standing
      obtain ⟨-, chained⟩ := chains
      cases chained with
      | driven => simp [Thread.driving, Waiting.driving]
    · contradiction
  · split at standing
    · rename_i same
      subst same
      cases standing
      simp [Thread.driving, Waiting.driving]
    · contradiction
  · split at standing
    · rename_i same
      subst same
      cases standing
      simp [Thread.driving, Task.driving]
    · contradiction
  · contradiction

theorem length_flatMap_driving_le (stack : List Waiting) :
    (stack.flatMap (Waiting.driving key)).length ≤
      (stack.flatMap Waiting.holds).count key := by
  induction stack with
  | nil => simp
  | cons waiting stack ih =>
      have here : (waiting.driving key).length ≤ waiting.holds.count key := by
        cases waiting <;> simp only [Waiting.driving, Waiting.holds] <;>
          first | simp | (split <;> simp_all)
      simp only [List.flatMap_cons, List.length_append, List.count_append]
      omega

theorem length_driving_le (thread : Thread) :
    (thread.driving key).length ≤ thread.holds.count key := by
  have here : (thread.task.driving key).length ≤
      thread.task.holds.count key := by
    cases thread.task with
    | drive unit target phase =>
        cases phase <;> simp only [Task.driving, Task.holds] <;>
          first | simp | (split <;> simp_all)
    | _ => simp [Task.driving]
  have below : (thread.stack.flatMap (Waiting.driving key)).length ≤
      (thread.stack.flatMap Waiting.holds).count key :=
    length_flatMap_driving_le thread.stack
  simp only [Thread.driving, Thread.holds, List.length_append,
    List.count_append]
  omega

/-- A thread drives a unit once at a time. -/
theorem driving_unique (once : thread.holds.count key ≤ 1)
    {one two : Level} (first : one ∈ thread.driving key)
    (second : two ∈ thread.driving key) : one = two := by
  have short := Nat.le_trans (length_driving_le thread) once
  match drives : thread.driving key with
  | [] => simp [drives] at first
  | [level] =>
      rw [drives, List.mem_singleton] at first second
      exact first.trans second.symm
  | level :: more :: rest =>
      rw [drives] at short
      simp at short

/-- The driver on top is the only one of its unit. -/
theorem undriven_below {task : Task} {stack : List Waiting}
    (once : (Thread.holds ⟨task, stack⟩).count key ≤ 1)
    (driving : task.driving key ≠ []) :
    stack.flatMap (Waiting.driving key) = [] := by
  have short := Nat.le_trans (length_driving_le ⟨task, stack⟩) once
  have some := List.length_pos_iff.mpr driving
  simp only [Thread.driving, List.length_append] at short
  exact List.eq_nil_of_length_eq_zero (by omega)

theorem steady_stepped (stepped : world.Stepped me thread next after)
    (chains : world.Chains thread) (once : thread.holds.count key ≤ 1)
    (steady : world.Steady thread key) : next.Steady after key := by
  have both (level : Level) (driving : level ∈ after.driving key) :
      (next.unit key).isError = false ∧
        ((next.unit key).level.next = some level ∨
          level = .loaded ∧ (next.unit key).level = .loaded) := by
    rcases driving_stepped stepped driving with
      before | ⟨⟨target, stack, rfl⟩, healthy, step⟩
    · have sound := steady.healthy level before
      have standing := steady.standing level before
      rcases unit_moves_stepped stepped key with
        still | ⟨target, raised, stack, rfl, -⟩ |
        ⟨top, rest, stack, rfl, moved⟩ | ⟨target, top, fault, stack, rfl, -⟩
      · rw [LoadUnit.isError, still.failure, still.level]
        exact ⟨sound, standing⟩
      · have none := undriven_below once (by simp [Task.driving])
        cases stepped with
        | raised => simp [Thread.driving, Task.driving, none] at driving
        | entered asks | refused asks =>
            rcases asks with asks | asks <;> cases asks
      · have loaded := loaded_of_publish chains.1
        subst loaded
        have publishing : .loaded ∈ Thread.driving key
            ⟨.subStep key .loaded (.publish :: rest), stack⟩ :=
          driving_of_midway chains (if_pos rfl)
        have here := driving_unique once before publishing
        subst here
        rw [moved]
        exact ⟨sound, Or.inr ⟨rfl, Level.max_eq_of_standing standing⟩⟩
      · have none := undriven_below once (by simp [Task.driving])
        cases stepped with
        | failed => simp [Thread.driving, Task.driving, none] at driving
        | entered asks | refused asks =>
            rcases asks with asks | asks <;> cases asks
    · cases stepped <;> exact ⟨healthy, Or.inl step⟩
  exact ⟨fun level driving => (both level driving).1,
    fun level driving => (both level driving).2⟩

/-- A unit on which a sub-step may stop stands right below the sub-step's
level. -/
theorem standing_of_mayStop (steady : world.Steady thread key) {level : Level}
    {action : Action} (driving : level ∈ thread.driving key)
    (member : action ∈ level.actions) (stops : action.mayStop = true) :
    (world.unit key).level.next = some level := by
  rcases steady.standing level driving with step | ⟨rfl, -⟩
  · exact step
  · have none : ∀ action ∈ Level.loaded.actions, action.mayStop = false := by
      decide
    rw [none action member] at stops
    contradiction

theorem steady_loading (loading : world.Loading me thread deeds next after)
    (chains : world.Chains thread) (once : thread.holds.count key ≤ 1)
    (steady : world.Steady thread key) : next.Steady after key := by
  have atRest (reply : Reply) : next.Steady ⟨.answer reply, []⟩ key :=
    ⟨by simp [Thread.driving, Task.driving],
      by simp [Thread.driving, Task.driving]⟩
  cases loading with
  | steps stepped => exact steady_stepped stepped chains once steady
  | begins =>
      exact ⟨by simp [Thread.driving], by simp [Thread.driving]⟩
  | makes | links | blames => exact atRest _
  | @frees _ pinned =>
      have unit := (alike_collect world pinned).unit key
      refine ⟨fun level driving => ?_, fun level driving => ?_⟩
      · rw [LoadUnit.isError, unit.failure]
        exact steady.healthy level driving
      · rw [unit.level]
        exact steady.standing level driving

theorem level_perform_ne_active {action : Action}
    (low : (world.unit key).level ≠ .active) :
    ((world.perform key action).1.unit key).level ≠ .active := by
  by_cases publishes : action = .publish
  · subst publishes
    have raised : ((world.perform key .publish).1.unit key).level =
        max (world.unit key).level .loaded :=
      (level_raiseLevel key key .loaded).trans (if_pos rfl)
    intro active
    rcases Level.max_eq_left_or_right (world.unit key).level .loaded with
      same | same
    · exact low (same.symm.trans (raised.symm.trans active))
    · exact absurd (same.symm.trans (raised.symm.trans active)) (by decide)
  · rw [((still_perform world key publishes).unit key).level]
    exact low

theorem untold_of_low (heard : world.Heard thread key)
    (low : (world.unit key).level ≠ .active) :
    (world.unit key).latches.isSet .hostLoadEvent = false := by
  cases told : (world.unit key).latches.isSet .hostLoadEvent with
  | false => rfl
  | true => exact absurd (heard.active told) low

/-- A unit that is not active yet has nothing to announce. -/
theorem heard_of_low (low : (world.unit key).level ≠ .active)
    (free : (world.unit key).latches.isSet .hostLoadEvent = false)
    (untold : thread.untold key = []) : world.Heard thread key where
  active := by
    intro told
    rw [free] at told
    contradiction
  unannounced := fun active => absurd active low
  announcing := fun pending => absurd untold pending

theorem heard_advances (advances : world.Advances next thread after key said)
    (chains : world.Chains thread) (steady : world.Steady thread key)
    (heard : world.Heard thread key) : next.Heard after key := by
  have lowMidway {level : Level} {rest : List Action}
      (standing : thread.midway key = some (level, rest)) :
      (world.unit key).level ≠ .active :=
    not_active_of_driving steady (driving_of_midway chains standing)
  cases advances with
  | rests unmoved midway untold nears silent =>
      have healthy : (next.unit key).isError = (world.unit key).isError := by
        rw [LoadUnit.isError, unmoved.failure]
        rfl
      refine ⟨?_, ?_, ?_⟩
      · rw [unmoved.latches, unmoved.level]
        exact heard.active
      · rw [unmoved.latches, unmoved.level, healthy]
        intro active free
        have pending := heard.unannounced active free
        exact ⟨nears active free pending.1, pending.2⟩
      · rw [unmoved.latches, untold, healthy]
        exact heard.announcing
  | begins before now untold healthy above same silent =>
      have low := Level.ne_active_of_next above
      rw [← same] at low
      refine heard_of_low low ?_ untold
      rw [same]
      exact untold_of_low heard (same ▸ low)
  | performs before now untold unit spoken =>
      have low := lowMidway before
      refine heard_of_low ?_ ?_ untold
      · rw [unit]
        exact level_perform_ne_active low
      · rw [unit, isSet_host_perform]
        exact untold_of_low heard low
  | stops before now untold stop alike silent =>
      have low := lowMidway before
      refine heard_of_low ?_ ?_ untold
      · rw [alike.level]
        exact low
      · rw [alike.latches]
        exact untold_of_low heard low
  | resumes before now untold remains driven alike silent =>
      have low := not_active_of_driving steady driven
      refine heard_of_low ?_ ?_ untold
      · rw [alike.level]
        exact low
      · rw [alike.latches]
        exact untold_of_low heard low
  | raises before now untold nears unit silent =>
      have low := lowMidway before
      have free := untold_of_low heard low
      have healthy :=
        steady.healthy _ (driving_of_midway chains before)
      rw [← LoadUnit.isError_raiseLevel, ← unit] at healthy
      refine ⟨?_, fun _ _ => ⟨nears, healthy⟩, fun pending =>
        absurd untold pending⟩
      rw [unit]
      intro told
      exact absurd (free.symm.trans told) (by decide)
  | @fails cause before now untold quiet far drives unit spoken =>
      have host : (next.unit key).latches.isSet .hostLoadEvent =
          (world.unit key).latches.isSet .hostLoadEvent := by
        rw [unit, unit_setError]
        split <;> simp
      have level : (next.unit key).level = (world.unit key).level := by
        rw [unit]
        exact level_setError key key cause
      refine ⟨?_, ?_, fun pending => absurd untold pending⟩
      · rw [host, level]
        exact heard.active
      · rw [host, level]
        intro active free
        have pending := heard.unannounced active free
        rw [far] at pending
        exact absurd pending.1 (by decide)
  | announces before now quiet untold active free unit silent =>
      rw [unit_claim, if_pos rfl] at unit
      have told : (next.unit key).latches.isSet .hostLoadEvent = true := by
        simp [unit]
      have healthy : (next.unit key).isError = false := by
        rw [unit]
        exact (heard.unannounced active free).2
      refine ⟨?_, ?_, fun _ => ⟨told, healthy⟩⟩
      · rw [unit]
        exact fun _ => active
      · rw [told]
        intro _ free
        contradiction
  | tells before now quiet untold named same spoken =>
      have announced := heard.announcing (by simp [quiet])
      refine ⟨?_, ?_, fun pending => absurd untold pending⟩
      · rw [same]
        exact heard.active
      · rw [same, announced.1]
        intro _ free
        contradiction

end World

end LoadLadder
