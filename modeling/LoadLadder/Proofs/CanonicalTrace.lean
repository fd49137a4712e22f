import LoadLadder.Proofs.ClimbRecords

/-!
# The canonical trace of a unit

When nothing but loads and stored causes happens to units, what has been recorded
about a unit is a function of its level, its cause and the consumers that are
there, in whatever order units were loaded and however they depend on each other.
-/

namespace LoadLadder

/-- What is recorded about a unit on its way to a level from the one below. -/
def climbEvents (sinks : Sinks) (unit : LoadUnit) : Level → List Event
  | .created => []
  | .begun => [.transition unit.name .begun]
  | .beforeTypeLoad =>
      (if sinks.profiler then
        [.profilerLoadFinished unit.container.name .ok] else []) ++
      [.transition unit.name .beforeTypeLoad]
  | .eagerFixups => [.transition unit.name .eagerFixups]
  | .deliverEvents =>
      [.tracingLoadFinished unit.container.name .ok] ++
      (if sinks.isDebuggerAttached then
        [.debuggerUnitLoad unit.name unit.wantedConfig,
          .debuggerModuleLoad unit.name] else []) ++
      [.transition unit.name .deliverEvents]
  | .vtableFixups => [.transition unit.name .vtableFixups]
  | .loaded =>
      (if sinks.inspection then [.moduleLoaded unit.name] else []) ++
      [.transition unit.name .loaded]
  | .active => [.transition unit.name .active]

/-- What is recorded about a unit once it is active. -/
def activeEvents (unit : LoadUnit) : List Event :=
  if unit.level = .active then [.unitLoaded unit.name] else []

/-- What is recorded about a unit that has reached its level and, maybe, has
failed there. -/
def canonicalTrace (sinks : Sinks) (unit : LoadUnit) : List Event :=
  (Level.all.filter fun level => level ≤ unit.level).flatMap
    (climbEvents sinks unit) ++ activeEvents unit ++ failureEvents sinks unit

theorem Level.filter_le_next {level above : Level}
    (step : level.next = some above) :
    Level.all.filter (fun below => below ≤ above) =
      Level.all.filter (fun below => below ≤ level) ++ [above] := by
  cases level <;> cases step <;> rfl

namespace World

variable {world : World} {key : UnitKey} {sinks : Sinks}

theorem record_rung (known : world.sinksOf key = sinks)
    (hooked : (world.homeOf key).hook.records = true)
    (recorded : sinks.tracing = .recorder) (level : Level) :
    (Telling.rung sinks.isDebuggerAttached (world.unit key).wantedConfig
      level).flatMap (world.record key) =
      climbEvents sinks (world.unit key) level := by
  cases level with
  | deliverEvents =>
      cases attached : sinks.isDebuggerAttached <;>
        simp [Telling.rung, climbEvents, record, known, hooked, recorded,
          attached]
  | _ => simp [Telling.rung, climbEvents, record, known, hooked]

/-- What the recorder hears on the climb of a unit. -/
theorem record_climbed (known : world.sinksOf key = sinks)
    (hooked : (world.homeOf key).hook.records = true)
    (recorded : sinks.tracing = .recorder) (level : Level) :
    (world.climbed sinks key level).said.flatMap (world.record key) =
      (Level.all.filter fun below => below ≤ level).flatMap
        (climbEvents sinks (world.unit key)) := by
  induction level using Level.climb_induction with
  | bottom => rfl
  | up level above step ih =>
      rw [climbed, Telling.said_climb_next step, List.flatMap_append,
        Level.filter_le_next step, List.flatMap_append,
        record_rung known hooked recorded]
      rw [climbed] at ih
      rw [ih]
      simp

/-- Once the thread has come to rest, what has been recorded about a unit is what
the canonical trace says. -/
theorem eventsOf_of_told {thread : Thread} {telling : Telling}
    (told : world.Told sinks thread key telling)
    (heard : world.Heard thread key) (watched : world.Watched sinks)
    (recorded : sinks.tracing = .recorder) (known : key < world.unitCount)
    (resting : thread.midway key = none) (untold : thread.untold key = [])
    (far : thread.nears key = false) :
    world.eventsOf key = canonicalTrace sinks (world.unit key) := by
  have hooked : (world.homeOf key).hook.records = true := by
    rw [watched.homeOf known, watched.hook]
  have climb : telling = world.climbed sinks key (world.unit key).level :=
    tells_of_none told.tells resting
  have announced : world.announcement thread key =
      activeEvents (world.unit key) := by
    cases free : (world.unit key).latches.isSet .hostLoadEvent with
    | true =>
        have active := heard.active free
        simp [announcement, activeEvents, free, untold, active]
    | false =>
        have low : (world.unit key).level ≠ .active := by
          intro active
          have pending := (heard.unannounced active free).1
          rw [far] at pending
          contradiction
        simp [announcement, activeEvents, free, low]
  rw [told.events, climb, announced,
    record_climbed (watched.sinksOf known) hooked recorded]
  rfl

end World

theorem Thread.answered_of_isDone {thread : Thread}
    (resting : thread.isDone = true) :
    ∃ reply, thread = ⟨.answer reply, []⟩ := by
  obtain ⟨task, stack⟩ := thread
  cases task with
  | answer reply => exact ⟨reply, by simpa [isDone] using resting⟩
  | _ => simp [isDone] at resting

namespace Crew

/-- All that is known about a lone thread that only loads. -/
structure Tracked (crew : Crew) (sinks : Sinks) : Prop where
  lone : crew.threads.length = 1
  watched : crew.world.Watched sinks
  named : crew.world.Named
  chains : crew.world.Chains (crew.thread 0)
  steady : ∀ key < crew.world.unitCount, crew.world.Steady (crew.thread 0) key
  heard : ∀ key < crew.world.unitCount, crew.world.Heard (crew.thread 0) key
  told : ∀ key < crew.world.unitCount, ∃ telling,
    crew.world.Told sinks (crew.thread 0) key telling

variable {crew next : Crew} {deeds : List Deed} {sinks : Sinks}
  {config : LoaderConfig}

theorem loading_of_move (move : Move .loading crew deeds next)
    (lone : crew.threads.length = 1)
    (chains : crew.world.Chains (crew.thread 0)) :
    crew.world.Loading 0 (crew.thread 0) deeds next.world (next.thread 0) ∧
      next.threads.length = 1 := by
  cases move with
  | collect => exact ⟨.frees, lone⟩
  | @act me world thread deeds member act =>
      have first : me = 0 := Nat.lt_one_iff.mp (lone ▸ member)
      subst first
      refine ⟨?_, by simpa [setThread] using lone⟩
      rw [thread_acted member, if_pos rfl]
      exact World.loading_of_act act chains

theorem tracked_idle :
    (idle [.watched config sinks] 1).Tracked sinks := by
  have none (key : UnitKey) :
      ¬ key < (idle [.watched config sinks] 1).world.unitCount := by
    change ¬ key < (World.ofSetups [.watched config sinks]).unitCount
    rw [(World.ofSetups_units _).2.1]
    exact Nat.not_lt_zero key
  have domain : (World.ofSetups [.watched config sinks]).domain 0 =
      (Setup.watched config sinks).domain := by
    simp [World.ofSetups, World.addDomain, World.domain]
  refine ⟨rfl, ⟨?_, ?_, ?_, ?_, ?_, ?_⟩, ?_, ?_, ?_, ?_, ?_⟩
  · exact congrArg Domain.sinks domain
  · exact congrArg Domain.hook domain
  · exact congrArg Domain.listeners domain
  · exact fun key known => absurd known (none key)
  · exact fun key known => absurd known (none key)
  · exact fun key known => absurd known (none key)
  · intro event member
    change event ∈ (World.ofSetups [.watched config sinks]).events at member
    rw [(World.ofSetups_units _).2.2] at member
    simp at member
  · rw [thread_idle]
    exact ⟨.drive, .bottom⟩
  · exact fun key known => absurd known (none key)
  · exact fun key known => absurd known (none key)
  · exact fun key known => absurd known (none key)

/-- A unit that was there before the move. -/
theorem tracked_unit (tracked : crew.Tracked sinks)
    (loading : crew.world.Loading 0 (crew.thread 0) deeds next.world
      (next.thread 0))
    (framed : crew.Framed) (exclusive : crew.Exclusive)
    (decoded : crew.world.AllUnits LoadUnit.Decoded)
    (recorded : sinks.tracing = .recorder) {key : UnitKey}
    (known : key < crew.world.unitCount) :
    next.world.Steady (next.thread 0) key ∧
      next.world.Heard (next.thread 0) key ∧
      ∃ telling, next.world.Told sinks (next.thread 0) key telling := by
  have supports := framed.supports 0
  have advances := World.advances_loading loading tracked.watched supports
    tracked.chains known
  have steady := tracked.steady key known
  have heard := tracked.heard key known
  refine ⟨?_, ?_, ?_⟩
  · exact World.steady_loading loading tracked.chains
      (exclusive.count_le 0 key) steady
  · exact World.heard_advances advances tracked.chains steady heard
  · exact World.told_advances advances
      (World.record_loading loading tracked.watched known)
      (World.eventsOf_loading loading tracked.watched supports tracked.chains
        known)
      (tracked.watched.sinksOf known) recorded
      (LoadUnit.sentConfig_of_decoded (decoded key known)) tracked.chains steady
      heard (tracked.told key known)

/-- A unit that the move makes. -/
theorem tracked_fresh {world : World} {reply : Reply} {image : Image}
    {container : Container} (named : world.Named)
    (fresh : Repertoire.loading world (.create 0 image container)) :
    let made := (world.createUnit 0 image container).1
    made.Steady ⟨.answer reply, []⟩ world.unitCount ∧
      made.Heard ⟨.answer reply, []⟩ world.unitCount ∧
      ∃ telling,
        made.Told sinks ⟨.answer reply, []⟩ world.unitCount telling := by
  intro made
  have unit : made.unit world.unitCount = _ :=
    (World.unit_createUnit world _ 0 image container).trans (if_pos rfl)
  have level : (made.unit world.unitCount).level = .created := by rw [unit]
  have latches (kind : ListenerKind) :
      (made.unit world.unitCount).latches.isSet kind = false := by
    rw [unit]
    exact Latches.isSet_default kind
  have healthy : (made.unit world.unitCount).isError = false := by
    rw [unit]
    rfl
  have resting : Thread.midway world.unitCount ⟨.answer reply, []⟩ = none :=
    World.midway_answer .bottom (by simp)
  refine ⟨⟨?_, ?_⟩, ?_, _,
    .of_bare (.settled resting) (latches _) healthy ?_ ?_⟩
  · simp [Thread.driving, Task.driving]
  · simp [Thread.driving, Task.driving]
  · refine World.heard_of_low ?_ (latches _) rfl
    rw [level]
    decide
  · rw [level]
    exact fun kind _ => latches kind
  · rw [level, World.eventsOf_createUnit named fresh]
    rfl

theorem tracked_move (tracked : crew.Tracked sinks)
    (move : Move .loading crew deeds next) (framed : crew.Framed)
    (exclusive : crew.Exclusive)
    (decoded : crew.world.AllUnits LoadUnit.Decoded)
    (recorded : sinks.tracing = .recorder) : next.Tracked sinks := by
  obtain ⟨loading, lone⟩ := loading_of_move move tracked.lone tracked.chains
  have supports := framed.supports 0
  have units (key : UnitKey) (known : key < next.world.unitCount) :
      next.world.Steady (next.thread 0) key ∧
        next.world.Heard (next.thread 0) key ∧
        ∃ telling, next.world.Told sinks (next.thread 0) key telling := by
    by_cases old : key < crew.world.unitCount
    · exact tracked_unit tracked loading framed exclusive decoded recorded old
    · obtain ⟨reply, image, container, fresh, made, rests, rfl⟩ :=
        World.made_of_loading loading known old
      rw [made, rests]
      exact tracked_fresh tracked.named fresh
  exact {
    lone
    watched := World.watched_loading loading tracked.watched
    named := World.named_loading loading supports tracked.chains tracked.named
    chains := World.chains_loading loading tracked.watched supports
      tracked.chains
    steady := fun key known => (units key known).1
    heard := fun key known => (units key known).2.1
    told := fun key known => (units key known).2.2 }

theorem tracked_run (recorded : sinks.tracing = .recorder)
    (run : Run .loading (idle [.watched config sinks] 1) deeds crew) :
    crew.Tracked sinks := by
  induction run with
  | start => exact tracked_idle
  | snoc run move ih =>
      exact tracked_move ih move (framed_run framed_idle run)
        (exclusive_run run) (allUnits_run LoadUnit.invariant_decoded run)
        recorded

/-- Whatever is made, linked, loaded and blamed through a domain in which one
recorder is the hook, the listener and every sink that there is: between the loads,
what has been recorded about a unit is a function of the unit's level, its cause
and the sinks. -/
theorem recorded_is_canonical (recorded : sinks.tracing = .recorder)
    (run : Run .loading (idle [.watched config sinks] 1) deeds crew)
    (resting : crew.isDone = true) {key : UnitKey}
    (known : key < crew.world.unitCount) :
    crew.world.eventsOf key = canonicalTrace sinks (crew.world.unit key) := by
  have tracked := tracked_run recorded run
  obtain ⟨telling, told⟩ := tracked.told key known
  have heard := tracked.heard key known
  have member : crew.thread 0 ∈ crew.threads := by
    simp [Crew.thread, tracked.lone]
  obtain ⟨reply, answered⟩ :=
    Thread.answered_of_isDone (List.all_eq_true.mp resting _ member)
  rw [answered] at told heard
  exact World.eventsOf_of_told told heard tracked.watched recorded known
    (World.midway_answer .bottom (by simp)) rfl rfl

/-- Two units that depend on each other, in a domain that records everything. -/
def knotted : Crew :=
  ((((idle [.watched {} Domain.observed.sinks] 1).ask 0
    (.create 0 { name := "App" }
      { name := "app", initializer := .dependencies })).ask 0
    (.create 0 { name := "Lib" }
      { name := "lib", initializer := .dependencies })).ask 0
    (.addDependency 0 1)).ask 0 (.addDependency 1 0)

/-- The first of them has been loaded, and with it the second. -/
def activated : Crew :=
  (knotted.ask 0 (.ensure 0 0 .active)).follow (List.replicate 190 0)

/-- A cause that a client stores for the second. -/
def complaint : Cause where
  code := .fail
  message := "gone"
  unit := "Lib"
  level := .active

theorem knotted_reached : ∃ deeds,
    Run .loading (idle [.watched {} Domain.observed.sinks] 1) deeds knotted :=
  ⟨_, (((run_ask (by decide +kernel) ⟨rfl, by decide, by decide +kernel⟩).trans
    (run_ask (by decide +kernel) ⟨rfl, by decide, by decide +kernel⟩)).trans
    (run_ask (by decide +kernel) trivial)).trans
    (run_ask (by decide +kernel) trivial)⟩

theorem activated_reached : ∃ deeds, Run .loading knotted deeds activated :=
  ⟨_, (run_ask (by decide +kernel) rfl).trans
    (run_follow (by decide +kernel))⟩

/-- The cyclic units leave canonical traces, also when one of them is blamed
afterwards. -/
theorem canonical_of_knotted :
    (activated.ask 0 (.setError 1 complaint)).isDone = true ∧
      (activated.ask 0 (.setError 1 complaint)).world.eventsOf 1 =
        canonicalTrace Domain.observed.sinks
          ((activated.ask 0 (.setError 1 complaint)).world.unit 1) := by
  obtain ⟨_, made⟩ := knotted_reached
  obtain ⟨_, loaded⟩ := activated_reached
  have blamed : Run .loading activated _
      (activated.ask 0 (.setError 1 complaint)) :=
    run_ask (by decide +kernel) trivial
  have rests : (activated.ask 0 (.setError 1 complaint)).isDone = true := by
    decide +kernel
  exact ⟨rests, recorded_is_canonical rfl ((made.trans loaded).trans blamed)
    rests (by decide +kernel)⟩

end Crew

end LoadLadder
