import LoadLadder.Proofs.LevelOrder
import LoadLadder.Proofs.Tellings
import LoadLadder.Proofs.UnitTraces

/-!
# How a unit's telling advances

From the point of view of one unit, a thread that only loads does few things: it
starts a sub-step, carries it on, interrupts it for the dependencies, ends it with
a level or a cause, and announces the active unit.  Everything else leaves what was
told about the unit alone.
-/

namespace LoadLadder

/-- The level to which the thread is carrying out a sub-step of a unit right now,
and the actions that are left of it. -/
def Thread.midway (key : UnitKey) (thread : Thread) :
    Option (Level × List Action) :=
  match thread with
  | ⟨.subStep unit level rest, _⟩ =>
      if unit = key then some (level, rest) else none
  | ⟨.answer (.ok true), .onSubStep unit _ level :: _⟩ =>
      if unit = key then some (level, []) else none
  | ⟨.drive unit _ (.raise level), _⟩ =>
      if unit = key then some (level, []) else none
  | _ => none

theorem midway_subStep (key unit : UnitKey) (level : Level)
    (rest : List Action) (stack : List Waiting) :
    Thread.midway key ⟨.subStep unit level rest, stack⟩ =
      if unit = key then some (level, rest) else none :=
  rfl

theorem midway_raise (key unit : UnitKey) (target level : Level)
    (stack : List Waiting) :
    Thread.midway key ⟨.drive unit target (.raise level), stack⟩ =
      if unit = key then some (level, []) else none :=
  rfl

/-- The listeners that the thread has still to tell of a unit. -/
def Thread.untold (key : UnitKey) (thread : Thread) : List Listener :=
  match thread.task with
  | .announce unit _ _ rest => if unit = key then rest else []
  | _ => []

/-- The thread is on its way to announce a unit. -/
def Thread.nears (key : UnitKey) (thread : Thread) : Bool :=
  match thread.task with
  | .drive unit _ (.release .again) => unit == key
  | .drive unit _ .checkLevel => unit == key
  | .drive unit _ .leave => unit == key
  | _ => false

/-- A unit that has neither moved nor told any listener. -/
structure LoadUnit.Unmoved (before after : LoadUnit) : Prop where
  image : after.image = before.image
  container : after.container = before.container
  level : after.level = before.level
  failure : after.failure = before.failure
  latches : ∀ kind, after.latches.isSet kind = before.latches.isSet kind

theorem LoadUnit.Unmoved.of_alike {before after : LoadUnit}
    (alike : before.Alike after) : before.Unmoved after :=
  ⟨alike.image, alike.container, alike.level, alike.failure,
    fun kind => by rw [alike.latches]⟩

namespace World

/-- What one step does to what has been told about a unit. -/
inductive Advances (world next : World) (thread after : Thread)
    (key : UnitKey) (said : List Notice) : Prop
  /-- Nothing. -/
  | rests (unmoved : (world.unit key).Unmoved (next.unit key))
      (midway : after.midway key = thread.midway key)
      (untold : after.untold key = thread.untold key)
      (nears : (world.unit key).level = .active →
        (world.unit key).latches.isSet .hostLoadEvent = false →
        thread.nears key = true → after.nears key = true)
      (silent : said = [])
  /-- A sub-step starts. -/
  | begins {level : Level} (before : thread.midway key = none)
      (now : after.midway key = some (level, level.actions))
      (untold : after.untold key = [])
      (healthy : (world.unit key).isError = false)
      (above : (world.unit key).level.next = some level)
      (same : next.unit key = world.unit key) (silent : said = [])
  /-- An action of a sub-step is carried out. -/
  | performs {level : Level} {action : Action} {rest : List Action}
      (before : thread.midway key = some (level, action :: rest))
      (now : after.midway key = some (level, rest))
      (untold : after.untold key = [])
      (unit : next.unit key = (world.perform key action).1.unit key)
      (spoken : said = world.actionNotices key level action)
  /-- A sub-step fails, or leaves the unit for its dependencies. -/
  | stops {level : Level} {action : Action} {rest : List Action}
      (before : thread.midway key = some (level, action :: rest))
      (now : after.midway key = none) (untold : after.untold key = [])
      (stop : action.mayStop = true)
      (alike : (world.unit key).Alike (next.unit key)) (silent : said = [])
  /-- A sub-step goes on after the initializer. -/
  | resumes {rest : List Action} (before : thread.midway key = none)
      (now : after.midway key = some (.active, rest))
      (untold : after.untold key = [])
      (remains : .runInitializer :: rest <:+ Level.active.actions)
      (driven : .active ∈ thread.driving key)
      (alike : (world.unit key).Alike (next.unit key)) (silent : said = [])
  /-- The level is raised. -/
  | raises {level : Level} (before : thread.midway key = some (level, []))
      (now : after.midway key = none) (untold : after.untold key = [])
      (nears : after.nears key = true)
      (unit : next.unit key = (world.unit key).raiseLevel level)
      (silent : said = [])
  /-- A cause is stored, by the driver of the unit or by the client. -/
  | fails {cause : Cause} (before : thread.midway key = none)
      (now : after.midway key = none) (untold : after.untold key = [])
      (quiet : thread.untold key = []) (far : thread.nears key = false)
      (drives : (∃ level, level ∈ thread.driving key) ∨
        ∃ reply, thread = ⟨.answer reply, []⟩)
      (unit : next.unit key = (world.setError key cause).1.unit key)
      (spoken : said = world.causeNotices key cause)
  /-- The announcement of an active unit begins. -/
  | announces (before : thread.midway key = none)
      (now : after.midway key = none) (quiet : thread.untold key = [])
      (untold : after.untold key = [.recorder])
      (active : (world.unit key).level = .active)
      (free : (world.unit key).latches.isSet .hostLoadEvent = false)
      (unit : next.unit key = (world.claim key .hostLoadEvent).1.unit key)
      (silent : said = [])
  /-- The recorder is told that the unit is active. -/
  | tells {snapshot : Snapshot} (before : thread.midway key = none)
      (now : after.midway key = none)
      (quiet : thread.untold key = [.recorder])
      (untold : after.untold key = [])
      (named : snapshot.name = (world.unit key).name)
      (same : next.unit key = world.unit key)
      (spoken : said = [.unitLoaded .recorder snapshot])

variable {world next : World} {me : ThreadId} {thread after : Thread}
  {deeds : List Deed} {key : UnitKey} {sinks : Sinks}

/-- A step of a thread that does not concern a unit. -/
theorem Advances.of_alike {said : List Notice}
    (alike : (world.unit key).Alike (next.unit key))
    (midway : after.midway key = thread.midway key)
    (untold : after.untold key = thread.untold key)
    (nears : (world.unit key).level = .active →
      (world.unit key).latches.isSet .hostLoadEvent = false →
      thread.nears key = true → after.nears key = true)
    (silent : said = []) :
    Advances world next thread after key said :=
  .rests (.of_alike alike) midway untold nears silent

theorem Advances.elsewhere {said : List Notice}
    (alike : (world.unit key).Alike (next.unit key))
    (midway : after.midway key = thread.midway key)
    (untold : after.untold key = thread.untold key)
    (far : thread.nears key = false) (silent : said = []) :
    Advances world next thread after key said := by
  refine .of_alike alike midway untold ?_ silent
  intro _ _ nears
  rw [far] at nears
  contradiction

theorem toldAbout_map_told (unit : UnitKey) (notices : List Notice) :
    toldAbout key (notices.map (.told unit)) =
      if unit = key then notices else [] := by
  rw [toldAbout, List.filterMap_map]
  by_cases same : unit = key
  · rw [if_pos same]
    induction notices with
    | nil => rfl
    | cons notice notices ih => simp_all
  · simp [same]

theorem midway_answer {seat : Seat} {stack : List Waiting} {reply : Reply}
    (chained : Chained seat stack)
    (other : ∀ unit level, seat ≠ .subStep unit level) :
    Thread.midway key ⟨.answer reply, stack⟩ = none := by
  cases chained with
  | driven => exact absurd rfl (other _ _)
  | bottom | initializing | depending =>
      rcases reply with fault | ⟨⟨⟩⟩ <;> rfl

theorem midway_ensure {through : DomainKey} {unit : UnitKey} {target : Level}
    {stack : List Waiting} (chained : Chained .drive stack) :
    Thread.midway key ⟨.ensure world through unit target, stack⟩ = none := by
  unfold Task.ensure
  split
  · exact midway_answer chained (by simp)
  · split
    · rfl
    · exact midway_answer chained (by simp)

theorem untold_ensure {through : DomainKey} {unit : UnitKey} {target : Level}
    {stack : List Waiting} :
    Thread.untold key ⟨.ensure world through unit target, stack⟩ = [] := by
  unfold Task.ensure
  split
  · rfl
  · split <;> rfl

theorem advances_performed {unit : UnitKey} {level : Level} {action : Action}
    {rest : List Action} {stack : List Waiting}
    (performed : ∀ other, next.unit other =
      (world.perform unit action).1.unit other) :
    world.Advances next ⟨.subStep unit level (action :: rest), stack⟩
      ⟨.subStep unit level rest, stack⟩ key
      (toldAbout key (world.deeds
        ⟨.subStep unit level (action :: rest), stack⟩)) := by
  have told : toldAbout key (world.deeds
      ⟨.subStep unit level (action :: rest), stack⟩) =
      if unit = key then world.actionNotices unit level action else [] := by
    cases action with
    | publish =>
        simp only [World.deeds, actionDeeds, actionNotices]
        split <;> simp [toldAbout]
    | _ => exact toldAbout_map_told unit _
  by_cases same : unit = key
  · subst same
    refine .performs ((midway_subStep ..).trans (if_pos rfl))
      ((midway_subStep ..).trans (if_pos rfl)) rfl (performed unit) ?_
    rw [told, if_pos rfl]
  · refine .elsewhere ?_ (by simp [midway_subStep, same]) rfl
      rfl ?_
    · rw [performed, unit_perform_of_ne world unit key same]
      exact .refl _
    · rw [told, if_neg same]

theorem advances_stopped {unit : UnitKey} {level : Level} {action : Action}
    {rest : List Action} {stack : List Waiting}
    (stops : action.mayStop = true) (alike : world.Alike next)
    (left : after.midway key = none) (quiet : after.untold key = []) :
    world.Advances next ⟨.subStep unit level (action :: rest), stack⟩ after key
      (toldAbout key (world.deeds
        ⟨.subStep unit level (action :: rest), stack⟩)) := by
  have silent : toldAbout key (world.deeds
      ⟨.subStep unit level (action :: rest), stack⟩) = [] := by
    cases action <;> first | rfl | contradiction
  by_cases same : unit = key
  · subst same
    exact .stops ((midway_subStep ..).trans (if_pos rfl)) left quiet stops
      (alike.unit unit) silent
  · exact .elsewhere (alike.unit key) (by simp [midway_subStep, left, same]) quiet
      rfl silent

/-- A unit that becomes known to be active is announced to the recorder. -/
theorem advances_announcing {unit : UnitKey} {target : Level}
    {stack : List Waiting} (active : (world.unit unit).isActive = true)
    (free : (world.unit unit).latches.isSet .hostLoadEvent = false)
    (listeners : ((world.claim unit .hostLoadEvent).1.homeOf unit).listeners =
      [.recorder]) :
    world.Advances (world.claim unit .hostLoadEvent).1
      ⟨.drive unit target .leave, stack⟩
      ⟨.announce unit target
        ((world.claim unit .hostLoadEvent).1.unit unit).snapshot
        ((world.claim unit .hostLoadEvent).1.homeOf unit).listeners, stack⟩
      key [] := by
  by_cases same : unit = key
  · subst same
    exact .announces rfl rfl rfl ((if_pos rfl).trans listeners)
      (LoadUnit.eq_active_of_isActive active) free rfl rfl
  · refine .elsewhere ?_ rfl (if_neg same) ?_ rfl
    · rw [unit_claim, if_neg same]
      exact .refl _
    · exact beq_false_of_ne same

theorem advances_announcedBefore {unit : UnitKey} {target : Level}
    {stack : List Waiting}
    (told : (world.unit unit).latches.isSet .hostLoadEvent = true) :
    world.Advances (world.claim unit .hostLoadEvent).1
      ⟨.drive unit target .leave, stack⟩ ⟨.drive unit target .settle, stack⟩
      key [] := by
  have still := (still_claim world unit .hostLoadEvent).unit key
  refine .rests ⟨still.image, still.container, still.level, still.failure,
    ?_⟩ rfl rfl ?_ rfl
  · intro kind
    rw [isSet_claim]
    by_cases same : unit = key ∧ .hostLoadEvent = kind
    · rw [← same.1, ← same.2, told]
      rfl
    · simp [same]
  · intro _ free nears
    rw [← eq_of_beq nears, told] at free
    contradiction

theorem advances_heard {unit : UnitKey} {target : Level} {snapshot : Snapshot}
    {rest : List Listener} {stack : List Waiting}
    (recorder : .recorder :: rest <:+ [.recorder])
    (named : snapshot.name = (world.unit unit).name) :
    world.Advances (world.emit (.unitLoaded snapshot.name))
      ⟨.announce unit target snapshot (.recorder :: rest), stack⟩
      ⟨.announce unit target snapshot rest, stack⟩ key
      (if unit = key then [.unitLoaded .recorder snapshot] else []) := by
  have last : rest = [] := by
    rcases List.suffix_cons_iff.mp recorder with whole | empty
    · exact (List.cons.inj whole).2
    · simp at empty
  subst last
  by_cases same : unit = key
  · subst same
    exact .tells rfl rfl (if_pos rfl) (if_pos rfl) named rfl (if_pos rfl)
  · exact .elsewhere (.refl _) rfl
      ((if_neg same).trans (if_neg same).symm) rfl (if_neg same)

/-- After its initializer an activation goes on from where it stood. -/
theorem advances_initialized {unit : UnitKey} {rest : List Action}
    {gateLifted answer : Bool} {stack : List Waiting}
    (remains : .runInitializer :: rest <:+ Level.active.actions)
    (below : Chained (.subStep unit .active) stack) :
    world.Advances
      (world.modifyUnit unit fun unit => { unit with gateLifted })
      ⟨.answer (.ok answer), .onInitializer unit .active rest gateLifted :: stack⟩
      ⟨.subStep unit .active rest, stack⟩ key [] := by
  have alike := (alike_liftGate world unit gateLifted).unit key
  have before : Thread.midway key ⟨.answer (.ok answer),
      .onInitializer unit .active rest gateLifted :: stack⟩ = none := by
    cases answer <;> rfl
  by_cases same : unit = key
  · subst same
    refine .resumes before ((midway_subStep ..).trans (if_pos rfl)) rfl
      remains ?_ alike rfl
    cases below with
    | driven => simp [Thread.driving, Waiting.driving]
  · exact .elsewhere alike
      (((midway_subStep ..).trans (if_neg same)).trans before.symm) rfl rfl rfl

theorem not_active_lt (target : Level) : ¬ Level.active < target := by
  cases target <;> decide

/-- What a step of a thread that only loads does to what has been told about a
unit. -/
theorem advances_stepped (stepped : world.Stepped me thread next after)
    (watched : world.Watched sinks) (supports : world.Supports thread)
    (chains : world.Chains thread) :
    world.Advances next thread after key
      (toldAbout key (world.deeds thread)) := by
  cases stepped with
  | @below unit target stack short =>
      refine .of_alike (.refl _) rfl rfl ?_ rfl
      intro active free nears
      rw [← eq_of_beq nears] at active
      rw [active] at short
      exact absurd short (not_active_lt target)
  | arrived | releasedAgain =>
      exact .of_alike (.refl _) rfl rfl (fun _ _ nears => nears) rfl
  | barred | admitted | overtaken | settled | releasedStop | releasedRaise =>
      exact .elsewhere (.refl _) rfl rfl rfl rfl
  | entered asks =>
      rcases asks with rfl | rfl <;>
        exact .elsewhere (.refl _) rfl rfl rfl rfl
  | refused asks kept goes =>
      rcases asks with rfl | rfl <;> rcases goes with rfl | rfl <;>
        exact .elsewhere (.refl _) rfl rfl rfl rfl
  | @climbs unit target level stack short healthy above =>
      by_cases same : unit = key
      · subst same
        exact .begins rfl ((midway_subStep ..).trans (if_pos rfl)) rfl healthy
          above rfl rfl
      · exact .elsewhere (.refl _) ((midway_subStep ..).trans (if_neg same)) rfl
          rfl rfl
  | @raised unit target level stack =>
      by_cases same : unit = key
      · subst same
        refine .raises ((midway_raise ..).trans (if_pos rfl)) rfl rfl
          (beq_self_eq_true unit) ?_ rfl
        rw [unit_modifyUnit, if_pos rfl]
      · refine .elsewhere ?_ ((midway_raise ..).trans (if_neg same)).symm rfl
          rfl rfl
        rw [unit_modifyUnit, if_neg same]
        exact .refl _
  | @failed unit target level fault stack =>
      rw [recordFailure_fst]
      by_cases same : unit = key
      · subst same
        exact .fails rfl rfl rfl rfl rfl
          (Or.inl ⟨level, by simp [Thread.driving, Task.driving]⟩) rfl
          ((toldAbout_map_told unit _).trans (if_pos rfl))
      · refine .elsewhere ?_ rfl rfl rfl
          ((toldAbout_map_told unit _).trans (if_neg same))
        rw [unit_setError, if_neg fun fresh => same fresh.1]
        exact .refl _
  | @announces unit target stack active untold =>
      refine advances_announcing active untold ?_
      have later := watched.of_grows
        (.of_still (still_claim world unit .hostLoadEvent)) rfl (.refl _)
      rw [later.homeOf supports.1, domain_claim, watched.listeners]
  | announcedBefore active told => exact advances_announcedBefore told
  | @leaves unit target stack inactive =>
      refine .of_alike (.refl _) rfl rfl ?_ rfl
      intro active _ nears
      rw [← eq_of_beq nears] at active
      rw [LoadUnit.isActive, active] at inactive
      contradiction
  | blames | required =>
      exact .elsewhere (.refl _) (midway_answer chains (by simp)) rfl rfl rfl
  | @completed unit level stack =>
      obtain ⟨-, chained⟩ := chains
      cases chained with
      | driven below =>
          exact .elsewhere (.refl _) rfl rfl rfl rfl
  | @performed unit level action rest next stack ordinary done =>
      refine advances_performed fun other => ?_
      rw [done]
  | @faulted unit level action rest next fault stack done =>
      have stops := mayStop_of_fault world unit done
      have alike := alike_of_mayStop world unit stops
      rw [done] at alike
      exact advances_stopped stops alike rfl rfl
  | @initializes unit level rest task stack runs =>
      rcases runs with ⟨-, rfl⟩ | ⟨client, -⟩
      · exact advances_stopped rfl (alike_liftGate world unit true) rfl rfl
      · exact absurd client (watched.initializer unit supports.1)
  | @reported unit level rest after stack goes =>
      rcases goes with ⟨-, rfl⟩ | ⟨client, -⟩
      · refine advances_performed fun other => ?_
        split <;> rfl
      · rw [watched.homeOf supports.1, watched.hook] at client
        contradiction
  | @allActivated unit stack =>
      exact .elsewhere ((alike_countRun world unit).unit key)
        (midway_answer chains (by simp)) rfl rfl rfl
  | activates =>
      exact .elsewhere (.refl _) (midway_ensure (.depending chains))
        untold_ensure rfl rfl
  | skips =>
      exact .elsewhere (.refl _) rfl rfl rfl rfl
  | allTold => exact .elsewhere (.refl _) rfl (ite_self []).symm rfl rfl
  | @tellsRecorder unit target snapshot rest stack =>
      obtain ⟨recorder, named, -⟩ := chains
      exact (toldAbout_map_told unit [.unitLoaded .recorder snapshot]).symm ▸
        advances_heard recorder named
  | tellsClient =>
      have member := chains.1.subset List.mem_cons_self
      simp at member
  | succeeded | abandoned | broke =>
      exact .elsewhere (.refl _) rfl rfl rfl rfl
  | initialized =>
      obtain ⟨seat, chained⟩ := chains
      cases chained with
      | initializing remains below => exact advances_initialized remains below
  | @uninitialized unit level rest gateLifted fault stack =>
      exact .elsewhere ((alike_liftGate world unit gateLifted).unit key) rfl rfl
        rfl rfl
  | hooked | listened =>
      obtain ⟨seat, chained⟩ := chains
      cases chained
  | @activated unit rest answer stack =>
      exact .elsewhere (.refl _) (by cases answer <;> rfl) rfl
        rfl rfl
  | unactivated =>
      exact .elsewhere (.refl _) rfl rfl rfl rfl

theorem advances_loading (loading : world.Loading me thread deeds next after)
    (watched : world.Watched sinks) (supports : world.Supports thread)
    (chains : world.Chains thread) (known : key < world.unitCount) :
    world.Advances next thread after key (toldAbout key deeds) := by
  have atRest (reply : Reply) : Thread.midway key ⟨.answer reply, []⟩ = none :=
    midway_answer .bottom (by simp)
  cases loading with
  | steps stepped => exact advances_stepped stepped watched supports chains
  | @begins reply unit target knownUnit =>
      exact .elsewhere (.refl _)
        ((midway_ensure .bottom).trans (atRest reply).symm) untold_ensure rfl rfl
  | @makes reply image container fresh =>
      refine .elsewhere ?_ rfl rfl rfl rfl
      rw [unit_createUnit, if_neg (Nat.ne_of_gt known)]
      exact .refl _
  | @links reply unit dependency =>
      refine .rests ?_ rfl rfl (fun _ _ nears => nears) rfl
      unfold addDependency
      split
      · simp only [unit_modifyUnit]
        split
        · rename_i same
          rw [← same]
          exact ⟨rfl, rfl, rfl, rfl, fun _ => rfl⟩
        · exact .of_alike (.refl _)
      · exact .of_alike (.refl _)
  | @blames reply unit cause knownUnit =>
      by_cases same : unit = key
      · subst same
        exact .fails (atRest reply) (atRest reply) rfl rfl rfl
          (Or.inr ⟨reply, rfl⟩) rfl
          ((toldAbout_map_told unit _).trans (if_pos rfl))
      · refine .elsewhere ?_ rfl rfl rfl
          ((toldAbout_map_told unit _).trans (if_neg same))
        rw [unit_setError, if_neg fun fresh => same fresh.1]
        exact .refl _
  | frees =>
      exact .of_alike ((alike_collect world _).unit key) rfl rfl
        (fun _ _ nears => nears) rfl

end World

end LoadLadder
