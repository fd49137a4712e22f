import LoadLadder.Proofs.Tellings
import LoadLadder.Proofs.UnitStandings

/-!
# The records of a climb

What has been recorded about a unit is what its climb has told so far, then its
announcement, then its failure, and its latches are those that these have claimed.
This holds whatever a thread that only loads does next.
-/

namespace LoadLadder

/-- The configuration that a unit's image asks for, or the default one. -/
def LoadUnit.wantedConfig (unit : LoadUnit) : DebuggingConfig :=
  match DebuggingConfig.ofBlob unit.image.debuggable with
  | .ok config => config
  | .error _ => {}

theorem LoadUnit.wantedConfig_congr {before after : LoadUnit}
    (image : after.image = before.image) :
    after.wantedConfig = before.wantedConfig := by
  rw [wantedConfig, wantedConfig, image]

/-- What is recorded about the failure of a unit. -/
def failureEvents (sinks : Sinks) (unit : LoadUnit) : List Event :=
  match unit.failure.cause with
  | none => []
  | some cause =>
      .tracingLoadFinished unit.container.name cause.code ::
      if unit.level < .beforeTypeLoad ∧ sinks.profiler = true then
        [.profilerLoadFinished unit.container.name cause.code] else []

namespace World

/-- What a climb of a unit tells. -/
def climbed (world : World) (sinks : Sinks) (key : UnitKey) (level : Level) :
    Telling :=
  Telling.climb sinks.isDebuggerAttached (world.unit key).wantedConfig level

/-- What has been told on the climb of a unit so far. -/
inductive Tells (world : World) (sinks : Sinks) (thread : Thread)
    (key : UnitKey) : Telling → Prop
  | settled (resting : thread.midway key = none) :
      Tells world sinks thread key
        (world.climbed sinks key (world.unit key).level)
  | midway {below level : Level} {done rest : List Action}
      (standing : thread.midway key = some (level, rest))
      (step : below.next = some level)
      (split : done ++ rest = level.actions) :
      Tells world sinks thread key
        (Telling.performAll sinks.isDebuggerAttached
          (world.unit key).wantedConfig level (world.climbed sinks key below)
          done)

/-- The recorded announcement of a unit. -/
def announcement (world : World) (thread : Thread) (key : UnitKey) :
    List Event :=
  if (world.unit key).latches.isSet .hostLoadEvent ∧ thread.untold key = [] then
    [.unitLoaded (world.unit key).name]
  else []

/-- The latches and the recorded events of a unit are those of its climb, its
announcement and its failure. -/
structure Told (world : World) (sinks : Sinks) (thread : Thread)
    (key : UnitKey) (telling : Telling) : Prop where
  tells : world.Tells sinks thread key telling
  latches : ∀ kind, kind ≠ .hostLoadEvent →
    (world.unit key).latches.isSet kind =
      (telling.hasTold kind ||
        ((world.unit key).isError && decide (kind = .profiler)))
  events : world.eventsOf key =
    telling.said.flatMap (world.record key) ++ world.announcement thread key ++
      failureEvents sinks (world.unit key)

variable {world next : World} {me : ThreadId} {thread after : Thread}
  {deeds : List Deed} {key : UnitKey} {sinks : Sinks} {said : List Notice}
  {telling : Telling}

theorem failureEvents_of_healthy {unit : LoadUnit}
    (healthy : unit.isError = false) : failureEvents sinks unit = [] := by
  unfold failureEvents
  cases cause : unit.failure.cause with
  | none => rfl
  | some stored => simp [LoadUnit.isError, CauseCell.isSet, cause] at healthy

theorem announcement_of_free
    (free : (world.unit key).latches.isSet .hostLoadEvent = false) :
    world.announcement thread key = [] := by
  simp [announcement, free]

/-- Of a unit that has neither been announced nor failed only its climb has been
told. -/
theorem Told.bare (told : world.Told sinks thread key telling)
    (free : (world.unit key).latches.isSet .hostLoadEvent = false)
    (healthy : (world.unit key).isError = false) :
    telling.Matches (world.unit key).latches ∧
      world.eventsOf key = telling.said.flatMap (world.record key) := by
  refine ⟨fun kind other => ?_, ?_⟩
  · rw [told.latches kind other, healthy]
    simp
  · rw [told.events, announcement_of_free free,
      failureEvents_of_healthy healthy]
    simp

theorem Told.of_bare (tells : world.Tells sinks thread key telling)
    (free : (world.unit key).latches.isSet .hostLoadEvent = false)
    (healthy : (world.unit key).isError = false)
    (agrees : telling.Matches (world.unit key).latches)
    (events : world.eventsOf key = telling.said.flatMap (world.record key)) :
    world.Told sinks thread key telling := by
  refine ⟨tells, fun kind other => ?_, ?_⟩
  · rw [agrees kind other, healthy]
    simp
  · rw [events, announcement_of_free free, failureEvents_of_healthy healthy]
    simp

theorem climbed_congr (image : (next.unit key).image = (world.unit key).image)
    (level : Level) :
    next.climbed sinks key level = world.climbed sinks key level := by
  rw [climbed, climbed, LoadUnit.wantedConfig_congr image]

theorem tells_of_midway {level : Level} {rest : List Action}
    (tells : world.Tells sinks thread key telling)
    (standing : thread.midway key = some (level, rest)) :
    ∃ below done, below.next = some level ∧ done ++ rest = level.actions ∧
      telling = Telling.performAll sinks.isDebuggerAttached
        (world.unit key).wantedConfig level (world.climbed sinks key below)
        done := by
  cases tells with
  | settled resting =>
      rw [resting] at standing
      contradiction
  | midway here step split =>
      rw [here] at standing
      cases standing
      exact ⟨_, _, step, split, rfl⟩

theorem tells_of_none (tells : world.Tells sinks thread key telling)
    (resting : thread.midway key = none) :
    telling = world.climbed sinks key (world.unit key).level := by
  cases tells with
  | settled => rfl
  | midway here =>
      rw [here] at resting
      contradiction

theorem announcement_congr (name : (next.unit key).name = (world.unit key).name)
    (latch : (next.unit key).latches.isSet .hostLoadEvent =
      (world.unit key).latches.isSet .hostLoadEvent)
    (untold : after.untold key = thread.untold key) :
    next.announcement after key = world.announcement thread key := by
  rw [announcement, announcement, name, latch, untold]

theorem failureEvents_of_unmoved {before after : LoadUnit}
    (unmoved : before.Unmoved after) :
    failureEvents sinks after = failureEvents sinks before := by
  rw [failureEvents, failureEvents, unmoved.failure, unmoved.level,
    unmoved.container]

theorem tells_congr (tells : world.Tells sinks thread key telling)
    (image : (next.unit key).image = (world.unit key).image)
    (level : (next.unit key).level = (world.unit key).level)
    (midway : after.midway key = thread.midway key) :
    next.Tells sinks after key telling := by
  cases tells with
  | settled resting =>
      rw [← climbed_congr image, ← level]
      exact .settled (midway.trans resting)
  | midway standing step split =>
      have wanted := LoadUnit.wantedConfig_congr image
      rw [← climbed_congr image, ← wanted]
      exact .midway (midway.trans standing) step split

theorem record_causeNotices {cause : Cause} (known : world.sinksOf key = sinks)
    (recorded : sinks.tracing = .recorder)
    (healthy : (world.unit key).isError = false)
    (profiler : (world.unit key).latches.isSet .profiler =
      decide (.beforeTypeLoad ≤ (world.unit key).level)) :
    (world.causeNotices key cause).flatMap (world.record key) =
      .tracingLoadFinished (world.unit key).container.name cause.code ::
      if (world.unit key).level < .beforeTypeLoad ∧ sinks.profiler = true then
        [.profilerLoadFinished (world.unit key).container.name cause.code]
      else [] := by
  by_cases early : (world.unit key).level < .beforeTypeLoad
  · have untold : (world.unit key).latches.isSet .profiler = false := by
      rw [profiler]
      exact decide_eq_false (Nat.not_le.mpr early)
    simp [causeNotices, healthy, untold, World.record, known, recorded, early]
  · have told : (world.unit key).latches.isSet .profiler = true := by
      rw [profiler]
      exact decide_eq_true (Nat.not_lt.mp early)
    simp [causeNotices, healthy, told, World.record, known, recorded, early]

section

variable (record : next.record key = world.record key)
  (events : next.eventsOf key =
    world.eventsOf key ++ said.flatMap (world.record key))
  (told : world.Told sinks thread key telling)

include record events told

theorem told_of_rest (unmoved : (world.unit key).Unmoved (next.unit key))
    (midway : after.midway key = thread.midway key)
    (untold : after.untold key = thread.untold key) (silent : said = []) :
    next.Told sinks after key telling := by
  have healthy : (next.unit key).isError = (world.unit key).isError := by
    rw [LoadUnit.isError, unmoved.failure]
    rfl
  have name : (next.unit key).name = (world.unit key).name := by
    rw [LoadUnit.name, LoadUnit.name, unmoved.image]
  refine ⟨tells_congr told.tells unmoved.image unmoved.level midway,
    fun kind other => ?_, ?_⟩
  · rw [unmoved.latches, healthy]
    exact told.latches kind other
  · rw [events, silent, told.events, record,
      announcement_congr name (unmoved.latches _) untold,
      failureEvents_of_unmoved unmoved]
    simp

theorem told_of_begin {level : Level} (before : thread.midway key = none)
    (now : after.midway key = some (level, level.actions))
    (above : (world.unit key).level.next = some level)
    (same : next.unit key = world.unit key) (silent : said = [])
    (free : (world.unit key).latches.isSet .hostLoadEvent = false)
    (healthy : (world.unit key).isError = false) :
    next.Told sinks after key telling := by
  obtain ⟨agrees, heard⟩ := told.bare free healthy
  rw [← same] at agrees free healthy
  refine .of_bare ?_ free healthy agrees ?_
  · rw [tells_of_none told.tells before,
      ← climbed_congr (congrArg LoadUnit.image same)]
    exact .midway now above (List.nil_append _)
  · rw [events, silent, heard, record]
    simp

/-- An action of a sub-step tells what the climb says it tells. -/
theorem told_of_action {level : Level} {action : Action} {rest : List Action}
    (watched : world.sinksOf key = sinks)
    (config : (world.unit key).sentConfig = (world.unit key).wantedConfig)
    (before : thread.midway key = some (level, action :: rest))
    (now : after.midway key = some (level, rest))
    (unit : next.unit key = (world.perform key action).1.unit key)
    (spoken : said = world.actionNotices key level action)
    (free : (world.unit key).latches.isSet .hostLoadEvent = false)
    (healthy : (world.unit key).isError = false) :
    next.Told sinks after key (telling.perform sinks.isDebuggerAttached
      (world.unit key).wantedConfig level action) := by
  obtain ⟨agrees, heard⟩ := told.bare free healthy
  obtain ⟨below, done, step, split, same⟩ := tells_of_midway told.tells before
  obtain ⟨image, failure⟩ := kept_perform world key action
  rw [← unit] at image failure
  have wanted := LoadUnit.wantedConfig_congr image
  refine .of_bare ?_ ?_ ?_ ?_ ?_
  · rw [same, ← Telling.performAll_append, ← wanted, ← climbed_congr image]
    exact .midway now step (by rw [List.append_assoc]; exact split)
  · rw [unit, isSet_host_perform]
    exact free
  · rw [LoadUnit.isError, failure]
    exact healthy
  · rw [unit, ← config, ← watched]
    exact matches_perform world key telling level action agrees
  · rw [events, record, heard, spoken, ← config, ← watched,
      said_perform world key telling level action agrees, List.flatMap_append]

/-- A sub-step that stops before its level has told nothing. -/
theorem told_of_stop {level : Level} {action : Action} {rest : List Action}
    (before : thread.midway key = some (level, action :: rest))
    (now : after.midway key = none) (stop : action.mayStop = true)
    (standing : (world.unit key).level.next = some level)
    (alike : (world.unit key).Alike (next.unit key)) (silent : said = [])
    (free : (world.unit key).latches.isSet .hostLoadEvent = false)
    (healthy : (world.unit key).isError = false) :
    next.Told sinks after key telling := by
  obtain ⟨agrees, heard⟩ := told.bare free healthy
  obtain ⟨below, done, step, split, same⟩ := tells_of_midway told.tells before
  have settled : telling = world.climbed sinks key (world.unit key).level := by
    rw [same, Telling.performAll_of_mayStop stop split, Level.eq_of_next step standing]
  refine .of_bare ?_ ?_ ?_ ?_ ?_
  · rw [settled, ← climbed_congr alike.image, ← alike.level]
    exact .settled now
  · rw [alike.latches]
    exact free
  · rw [LoadUnit.isError, alike.failure]
    exact healthy
  · rw [alike.latches]
    exact agrees
  · rw [events, silent, heard, record]
    simp

/-- The sub-step that goes on after the initializer has told nothing either. -/
theorem told_of_resumption {rest : List Action}
    (before : thread.midway key = none)
    (now : after.midway key = some (.active, rest))
    (remains : .runInitializer :: rest <:+ Level.active.actions)
    (standing : (world.unit key).level.next = some .active)
    (alike : (world.unit key).Alike (next.unit key)) (silent : said = [])
    (free : (world.unit key).latches.isSet .hostLoadEvent = false)
    (healthy : (world.unit key).isError = false) :
    next.Told sinks after key telling := by
  obtain ⟨agrees, heard⟩ := told.bare free healthy
  obtain ⟨done, split⟩ := remains
  have wanted := LoadUnit.wantedConfig_congr alike.image
  refine .of_bare ?_ ?_ ?_ ?_ ?_
  · rw [tells_of_none told.tells before,
      ← Telling.performAll_of_initialized split
        (world.climbed sinks key (world.unit key).level),
      ← climbed_congr alike.image]
    exact .midway now standing (by rw [List.append_assoc]; exact split)
  · rw [alike.latches]
    exact free
  · rw [LoadUnit.isError, alike.failure]
    exact healthy
  · rw [alike.latches]
    exact agrees
  · rw [events, silent, heard, record]
    simp

/-- A raised level is one whose sub-step has told everything. -/
theorem told_of_raise {level : Level}
    (before : thread.midway key = some (level, []))
    (now : after.midway key = none)
    (standing : (world.unit key).level.next = some level ∨
      level = .loaded ∧ (world.unit key).level = .loaded)
    (unit : next.unit key = (world.unit key).raiseLevel level)
    (silent : said = [])
    (free : (world.unit key).latches.isSet .hostLoadEvent = false)
    (healthy : (world.unit key).isError = false) :
    next.Told sinks after key telling := by
  obtain ⟨agrees, heard⟩ := told.bare free healthy
  obtain ⟨below, done, step, split, same⟩ := tells_of_midway told.tells before
  rw [List.append_nil] at split
  have reached : (next.unit key).level = level := by
    rw [unit]
    exact Level.max_eq_of_standing standing
  have image : (next.unit key).image = (world.unit key).image := by
    rw [unit]
    rfl
  have climb : telling = next.climbed sinks key (next.unit key).level := by
    rw [same, split, reached, climbed_congr image]
    exact (Telling.climb_next step).symm
  refine .of_bare ?_ ?_ ?_ ?_ ?_
  · rw [climb]
    exact .settled now
  · rw [unit]
    exact free
  · rw [unit]
    exact healthy
  · rw [unit]
    exact agrees
  · rw [events, silent, heard, record]
    simp

/-- A stored cause is told after everything else, and the profiler hears of it only
if the climb has not got to it. -/
theorem told_of_failure {cause : Cause} (known : world.sinksOf key = sinks)
    (recorded : sinks.tracing = .recorder)
    (before : thread.midway key = none) (now : after.midway key = none)
    (quiet : thread.untold key = []) (untold : after.untold key = [])
    (unit : next.unit key = (world.setError key cause).1.unit key)
    (spoken : said = world.causeNotices key cause) :
    next.Told sinks after key telling := by
  rw [unit_setError] at unit
  cases failed : (world.unit key).isError with
  | true =>
      rw [if_neg (by simp [failed])] at unit
      refine told_of_rest record events told ?_ (now.trans before.symm)
        (untold.trans quiet.symm) ?_
      · rw [unit]
        exact .of_alike (.refl _)
      · rw [spoken]
        exact causeNotices_of_failed failed cause
  | false =>
      rw [if_pos ⟨rfl, failed⟩] at unit
      have settled := tells_of_none told.tells before
      have profiler : (world.unit key).latches.isSet .profiler =
          decide (.beforeTypeLoad ≤ (world.unit key).level) := by
        rw [told.latches .profiler (by decide), failed, settled]
        exact (Bool.or_false _).trans (Telling.hasTold_climb _ .profiler)
      have same : next.announcement after key =
          world.announcement thread key := by
        refine announcement_congr ?_ ?_ (untold.trans quiet.symm)
        · rw [unit]
          rfl
        · rw [unit]
          simp
      refine ⟨?_, fun kind other => ?_, ?_⟩
      · have image : (next.unit key).image = (world.unit key).image := by
          rw [unit]
        have level : (next.unit key).level = (world.unit key).level := by
          rw [unit]
        exact tells_congr told.tells image level (now.trans before.symm)
      · have agrees := told.latches kind other
        rw [failed] at agrees
        rw [unit]
        simp [LoadUnit.isError, CauseCell.isSet, agrees, eq_comm]
      · rw [events, told.events, record, same, spoken,
          failureEvents_of_healthy failed, List.append_nil]
        rw [record_causeNotices known recorded failed profiler, failureEvents,
          unit]

theorem told_of_announcing (before : thread.midway key = none)
    (now : after.midway key = none) (untold : after.untold key = [.recorder])
    (free : (world.unit key).latches.isSet .hostLoadEvent = false)
    (unit : next.unit key = (world.claim key .hostLoadEvent).1.unit key)
    (healthy : (world.unit key).isError = false) (silent : said = []) :
    next.Told sinks after key telling := by
  rw [unit_claim, if_pos rfl] at unit
  have image : (next.unit key).image = (world.unit key).image := by
    rw [unit]
  have level : (next.unit key).level = (world.unit key).level := by
    rw [unit]
  have sound : (next.unit key).isError = false := by
    rw [unit]
    exact healthy
  refine ⟨tells_congr told.tells image level (now.trans before.symm),
    fun kind other => ?_, ?_⟩
  · have agrees := told.latches kind other
    rw [healthy] at agrees
    rw [sound, unit]
    simp [agrees, Ne.symm other]
  · have pending : next.announcement after key = [] := by
      simp [announcement, untold]
    rw [events, silent, told.events, record, announcement_of_free free, pending,
      failureEvents_of_healthy healthy, failureEvents_of_healthy sound]
    simp

/-- The recorder hears of the active unit once. -/
theorem told_of_recorder {snapshot : Snapshot}
    (before : thread.midway key = none) (now : after.midway key = none)
    (quiet : thread.untold key = [.recorder]) (untold : after.untold key = [])
    (named : snapshot.name = (world.unit key).name)
    (same : next.unit key = world.unit key)
    (announced : (world.unit key).latches.isSet .hostLoadEvent = true)
    (healthy : (world.unit key).isError = false)
    (spoken : said = [.unitLoaded .recorder snapshot]) :
    next.Told sinks after key telling := by
  refine ⟨tells_congr told.tells (congrArg LoadUnit.image same)
    (congrArg LoadUnit.level same) (now.trans before.symm),
    fun kind other => ?_, ?_⟩
  · rw [same]
    exact told.latches kind other
  · have pending : world.announcement thread key = [] := by
      simp [announcement, quiet]
    have heard : next.announcement after key =
        [.unitLoaded (world.unit key).name] := by
      simp [announcement, same, announced, untold]
    rw [events, spoken, told.events, record, pending, heard, same,
      failureEvents_of_healthy healthy]
    simp [World.record, named]

end

/-- Whatever happens, the recorded events about a unit stay those of its climb,
its announcement and its failure. -/
theorem told_advances (advances : world.Advances next thread after key said)
    (record : next.record key = world.record key)
    (events : next.eventsOf key =
      world.eventsOf key ++ said.flatMap (world.record key))
    (known : world.sinksOf key = sinks) (recorded : sinks.tracing = .recorder)
    (config : (world.unit key).sentConfig = (world.unit key).wantedConfig)
    (chains : world.Chains thread) (steady : world.Steady thread key)
    (heard : world.Heard thread key)
    (told : ∃ telling, world.Told sinks thread key telling) :
    ∃ telling, next.Told sinks after key telling := by
  obtain ⟨telling, told⟩ := told
  have low {level : Level} (driving : level ∈ thread.driving key) :
      (world.unit key).latches.isSet .hostLoadEvent = false ∧
        (world.unit key).isError = false :=
    ⟨untold_of_low heard (not_active_of_driving steady driving),
      steady.healthy level driving⟩
  cases advances with
  | rests unmoved midway untold nears silent =>
      exact ⟨_, told_of_rest record events told unmoved midway untold silent⟩
  | begins before now untold healthy above same silent =>
      have free := untold_of_low heard (Level.ne_active_of_next above)
      exact ⟨_, told_of_begin record events told before now above same silent free
        healthy⟩
  | performs before now untold unit spoken =>
      obtain ⟨free, healthy⟩ := low (driving_of_midway chains before)
      exact ⟨_, told_of_action record events told known config before now unit
        spoken free healthy⟩
  | stops before now untold stop alike silent =>
      have driving := driving_of_midway chains before
      obtain ⟨free, healthy⟩ := low driving
      obtain ⟨below, done, step, split, -⟩ := tells_of_midway told.tells before
      have standing := standing_of_mayStop steady driving
        (split ▸ List.mem_append_right done List.mem_cons_self) stop
      exact ⟨_, told_of_stop record events told before now stop standing alike
        silent free healthy⟩
  | resumes before now untold remains driven alike silent =>
      obtain ⟨free, healthy⟩ := low driven
      have standing := standing_of_mayStop steady driven
        (remains.subset List.mem_cons_self) rfl
      exact ⟨_, told_of_resumption record events told before now remains standing
        alike silent free healthy⟩
  | raises before now untold nears unit silent =>
      have driving := driving_of_midway chains before
      obtain ⟨free, healthy⟩ := low driving
      exact ⟨_, told_of_raise record events told before now
        (steady.standing _ driving) unit silent free healthy⟩
  | fails before now untold quiet far drives unit spoken =>
      exact ⟨_, told_of_failure record events told known recorded before now quiet
        untold unit spoken⟩
  | announces before now quiet untold active free unit silent =>
      exact ⟨_, told_of_announcing record events told before now untold free unit
        (heard.unannounced active free).2 silent⟩
  | tells before now quiet untold named same spoken =>
      obtain ⟨announced, healthy⟩ := heard.announcing (by simp [quiet])
      exact ⟨_, told_of_recorder record events told before now quiet untold named
        same announced healthy spoken⟩

end World

/-- The remembered configuration is the one that the image asks for. -/
def LoadUnit.Decoded (unit : LoadUnit) : Prop :=
  unit.debugging = none ∨
    ∃ config, DebuggingConfig.ofBlob unit.image.debuggable = .ok config ∧
      unit.debugging = some config

theorem LoadUnit.invariant_decoded : LoadUnit.Invariant LoadUnit.Decoded where
  fresh := fun id home image container presence => Or.inl rfl
  still := by
    intro before after still decoded
    rcases still.debugging with same | ⟨config, asked, kept⟩
    · rw [Decoded, same, still.image]
      exact decoded
    · rw [← still.image] at asked
      exact Or.inr ⟨config, asked, kept⟩
  raised := fun level decoded => decoded
  failed := fun cause healthy decoded => decoded
  extended := fun dependencies decoded => decoded

theorem LoadUnit.sentConfig_of_decoded {unit : LoadUnit}
    (decoded : unit.Decoded) : unit.sentConfig = unit.wantedConfig := by
  rw [sentConfig, wantedConfig, debuggingConfig]
  rcases decoded with fresh | ⟨config, asked, kept⟩
  · rw [fresh]
    cases DebuggingConfig.ofBlob unit.image.debuggable <;> rfl
  · rw [kept, asked]

end LoadLadder
