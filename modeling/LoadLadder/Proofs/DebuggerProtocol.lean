import LoadLadder.Proofs.ClimbRecords
import LoadLadder.Proofs.CrewAccounts

/-!
# What the debugger is told of loads

A debugger hears of a unit as often as somebody asks for it and of the unit's module
once, and nothing before the unit has been flagged for it.  What it is sent with the
unit is what the blob of the unit's image says on top of the default configuration,
whoever asks and however often; a malformed blob counts as an absent one there, while
a client that reads the configuration is told what is wrong with the blob.
-/

namespace LoadLadder

namespace DebuggingConfig

/-- What a blob says on top of the default configuration. -/
inductive Decodes : Option (List UInt8) → Except Fault DebuggingConfig → Prop
  | absent : Decodes none (.ok {})
  /-- Blobs of other lengths are not looked at. -/
  | unsupported {blob : List UInt8} (length : blob.length ∉ blobLengths) :
      Decodes (some blob) (.ok {})
  | malformed {first second : UInt8} {rest : List UInt8}
      (length : (first :: second :: rest).length ∈ blobLengths)
      (prolog : ¬ (first = 1 ∧ second = 0)) :
      Decodes (some (first :: second :: rest))
        (.error (.malformedAttribute (first :: second :: rest).length
          ("expected prolog 01 00, found " ++ showByte first ++ " " ++
            showByte second)))
  /-- Optimizations can only be turned off while tracking is on. -/
  | decoded {flags disable : UInt8} {rest : List UInt8}
      (length : (1 :: 0 :: flags :: disable :: rest).length ∈ blobLengths) :
      Decodes (some (1 :: 0 :: flags :: disable :: rest))
        (.ok {
          trackJitInfo := flags &&& 1 != 0
          ignoreSymbols := flags &&& 2 != 0
          allowOptimizations := flags &&& 1 == 0 || disable == 0 })

theorem decodes_ofBlob (blob : Option (List UInt8)) :
    Decodes blob (ofBlob blob) := by
  match blob with
  | none => exact .absent
  | some [] | some [_] | some [_, _] | some [_, _, _] =>
      exact .unsupported (by simp [blobLengths])
  | some (first :: second :: flags :: disable :: rest) =>
      simp only [ofBlob, applyBlob]
      split
      · rename_i length
        exact .unsupported length
      · rename_i length
        split
        · rename_i prolog
          exact .malformed (not_not.mp length) (not_and_or.mpr prolog)
        · rename_i prolog
          obtain ⟨rfl, rfl⟩ := not_or.mp prolog |>.imp not_not.mp not_not.mp
          have decoded := @Decodes.decoded flags disable rest (not_not.mp length)
          simpa [bne] using decoded

end DebuggingConfig

namespace World

variable (world : World) (key : UnitKey)

/-- A debugger has been plugged in where the unit belongs and consumes module loads or
does not. -/
def Attached (consumes : Bool) : Prop :=
  (world.sinksOf key).debugger = .attached consumes

/-- What is recorded when a debugger that listens is told about a unit. -/
def loadEvents (flags : AttachFlags) : List Event :=
  (if flags.contains .assemblyLoad then
    [.debuggerUnitLoad (world.unit key).name (world.unit key).wantedConfig]
  else []) ++
  (if (world.unit key).latches.isSet .debuggerModule then []
  else [.debuggerModuleLoad (world.unit key).name])

/-- What a call does that notifies the debugger of a unit, and what it answers. -/
structure Notifies (flags : AttachFlags) (attaching : Bool) (next : World)
    (answer : Except Fault Bool) : Prop where
  /-- No unit gets on or fails by it. -/
  keeps : ∀ other, (next.unit other).level = (world.unit other).level ∧
    (next.unit other).failure = (world.unit other).failure
  /-- Nobody attaches from within the process. -/
  attaches : attaching = true → next = world ∧
    answer = .error (.contract (.attachInProcess (world.unit key).name))
  ignored : attaching = false →
    (world.unit key).latches.isSet .debugger = false ∨
      (world.sinksOf key).debugger = .absent →
    next = world ∧ answer = .ok false
  told : attaching = false → (world.unit key).latches.isSet .debugger = true →
    ∀ consumes, world.Attached key consumes →
      next.events = world.events ++ world.loadEvents key flags
  answers : attaching = false → (world.unit key).latches.isSet .debugger = true →
    ∀ consumes, world.Attached key consumes →
      answer = .ok (flags.contains .assemblyLoad ||
        (!(world.unit key).latches.isSet .debuggerModule && consumes))
  claims : attaching = false → (world.unit key).latches.isSet .debugger = true →
    ∀ consumes, world.Attached key consumes → ∀ kind,
      (next.unit key).latches.isSet kind =
        ((world.unit key).latches.isSet kind || decide (kind = .debuggerModule))

variable {world key} {flags : AttachFlags} {consumes : Bool}

theorem isDebuggerAttached_of_attached (attached : world.Attached key consumes) :
    (world.sinksOf key).isDebuggerAttached = true := by
  simp [Sinks.isDebuggerAttached, show _ = _ from attached]

/-- A notification that gets through leaves its traces in the latches and answers
whether anything was taken in. -/
theorem notifyDebuggerLoad_of_attached (flags : AttachFlags)
    (flagged : (world.unit key).latches.isSet .debugger = true)
    (attached : world.Attached key consumes) :
    (world.notifyDebuggerLoad key flags false).2 =
        .ok (flags.contains .assemblyLoad ||
          (!(world.unit key).latches.isSet .debuggerModule && consumes)) ∧
      ∀ kind, ((world.notifyDebuggerLoad key flags false).1.unit key).latches.isSet
        kind = ((world.unit key).latches.isSet kind ||
          decide (kind = .debuggerModule)) := by
  simp only [notifyDebuggerLoad, flagged, isDebuggerAttached_of_attached attached]
  generalize sent : (if flags.contains .assemblyLoad then
    world.sendUnitLoad key else world) = informed
  obtain ⟨alike, -⟩ := events_informed flags sent.symm
  have latches := (alike.unit key).latches
  have still := alike.still.trans (still_claim informed key .debuggerModule)
  have listens : ((informed.claim key .debuggerModule).1.sinksOf key).debugger =
      .attached consumes := by
    rw [sinksOf, homeOf, (still.unit key).home, (still.domain _).sinks]
    exact attached
  have claimed (kind : ListenerKind) :
      ((informed.claim key .debuggerModule).1.unit key).latches.isSet kind =
        ((world.unit key).latches.isSet kind ||
          decide (kind = .debuggerModule)) := by
    rw [isSet_claim, latches]
    simp [eq_comm]
  have fresh : (informed.claim key .debuggerModule).2 =
      !(world.unit key).latches.isSet .debuggerModule := by
    simp [claim, latches]
  cases once : (world.unit key).latches.isSet .debuggerModule with
  | true =>
      rw [once] at fresh
      simp only [fresh]
      exact ⟨by simp, claimed⟩
  | false =>
      rw [once] at fresh
      simp only [fresh]
      refine ⟨?_, fun kind => ?_⟩
      · simp [containerDebuggerLoad, contains_union_moduleLoad, listens]
      · rw [← claimed]
        simp [unit_containerDebuggerLoad]

theorem loadEvents_eq (decoded : (world.unit key).Decoded)
    (attached : (world.sinksOf key).isDebuggerAttached = true) :
    (world.loadNotices key flags).flatMap (world.record key) =
      world.loadEvents key flags := by
  simp only [loadNotices, loadEvents, attached,
    LoadUnit.sentConfig_of_decoded decoded]
  cases flags.contains .assemblyLoad <;>
    cases (world.unit key).latches.isSet .debuggerModule <;> rfl

theorem notifies_of_decoded (decoded : (world.unit key).Decoded)
    (flags : AttachFlags) (attaching : Bool) :
    world.Notifies key flags attaching
      (world.notifyDebuggerLoad key flags attaching).1
      (world.notifyDebuggerLoad key flags attaching).2 where
  keeps := fun other =>
    have still := (still_notifyDebuggerLoad world key flags attaching).unit other
    ⟨still.level, still.failure⟩
  attaches := by
    rintro rfl
    exact ⟨rfl, rfl⟩
  ignored := by
    rintro rfl deaf
    rcases deaf with unflagged | absent
    · simp [notifyDebuggerLoad, unflagged]
    · simp [notifyDebuggerLoad, Sinks.isDebuggerAttached, absent]
  told := by
    rintro rfl flagged consumes attached
    rw [events_notifyDebuggerLoad, flagged,
      ← loadEvents_eq decoded (isDebuggerAttached_of_attached attached)]
    rfl
  answers := by
    rintro rfl flagged consumes attached
    exact (notifyDebuggerLoad_of_attached flags flagged attached).1
  claims := by
    rintro rfl flagged consumes attached
    exact (notifyDebuggerLoad_of_attached flags flagged attached).2

end World

/-- The debugger hears of something that is loaded. -/
def Notice.isLoad : Notice → Bool
  | .unitLoad _ => true
  | .moduleLoad => true
  | _ => false

namespace World

/-- What is said to debuggers about loads at one instant: nothing, but for a client that
has a container speak about the module, or all that there is to say about one unit. -/
inductive Introduces (world next : World) : List Deed → Prop
  | nothing {deeds : List Deed}
      (silent : ∀ key notice, .told key notice ∈ deeds → notice.isLoad = false)
      (unrelayed : ∀ key config, .relayed key (.unitLoad config) ∉ deeds) :
      Introduces world next deeds
  | unit {key : UnitKey} (flags : AttachFlags) (known : key < world.unitCount)
      (claimed : (world.sinksOf key).isDebuggerAttached = true →
        (next.unit key).latches.isSet .debuggerModule = true) :
      Introduces world next ((world.loadNotices key flags).map (.told key))

variable {world next : World} {me : ThreadId} {thread after : Thread}
  {deeds : List Deed} {repertoire : Repertoire} {key : UnitKey}

/-- What is said about a unit, if none of it is about a load. -/
theorem introduces_silent {notices : List Notice}
    (silent : ∀ notice ∈ notices, notice.isLoad = false) :
    world.Introduces next (notices.map (.told key)) := by
  refine .nothing ?_ (by simp)
  rintro _ notice told
  obtain ⟨_, said, same⟩ := List.mem_map.mp told
  cases same
  exact silent notice said

theorem mem_toldAbout {notice : Notice} :
    notice ∈ toldAbout key deeds ↔ .told key notice ∈ deeds := by
  unfold toldAbout
  rw [List.mem_filterMap]
  constructor
  · rintro ⟨deed, done, said⟩
    cases deed with
    | told unit given =>
        simp only at said
        split at said
        · rename_i same
          cases said
          rwa [← same]
        · contradiction
    | _ => contradiction
  · exact fun done => ⟨_, done, if_pos rfl⟩

theorem introduces_nil : world.Introduces next [] :=
  .nothing (by simp) (by simp)

theorem isLoad_causeNotices (world : World) (key : UnitKey) (cause : Cause) :
    ∀ notice ∈ world.causeNotices key cause, notice.isLoad = false := by
  unfold causeNotices
  split
  · simp
  · split <;> simp [Notice.isLoad]

theorem isLoad_unloadNotices (world : World) (key : UnitKey) :
    ∀ notice ∈ world.unloadNotices key, notice.isLoad = false := by
  unfold unloadNotices
  split <;> simp [Notice.isLoad]

/-- A sub-step introduces its unit to the debugger when it flags the unit. -/
theorem introduces_action (known : key < world.unitCount) (level : Level)
    (stack : List Waiting) (action : Action) :
    world.Introduces (world.perform key action).1
      (world.actionDeeds key level stack action) := by
  cases action with
  | announceDebugger =>
      simp only [actionDeeds, actionNotices]
      cases told : (world.unit key).latches.isSet .debugger with
      | true => exact introduces_nil
      | false =>
          refine .unit .assemblyLoad known fun attached => ?_
          rw [isSet_perform]
          simp [told, attached]
  | publish =>
      simp only [actionDeeds]
      split
      · exact .nothing (by simp) (by simp)
      · exact introduces_nil
  | announceProfiler | announceTracing =>
      refine introduces_silent ?_
      simp only [actionNotices]
      split <;> simp [Notice.isLoad]
  | _ => exact introduces_silent (by simp [actionNotices, Notice.isLoad])

theorem introduces_stepped (stepped : world.Stepped me thread next after)
    (supports : world.Supports thread) :
    world.Introduces next (world.deeds thread) := by
  have known {key : UnitKey} (named : thread.task.unit? = some key) :
      key < world.unitCount :=
    supports.known key named
  cases stepped with
  | entered asks | refused asks =>
      rcases asks with rfl | rfl <;> exact introduces_nil
  | failed => exact introduces_silent (isLoad_causeNotices world _ _)
  | @performed key level action rest next stack ordinary done =>
      have said := introduces_action (known rfl) level stack action
      rwa [done] at said
  | @faulted key level action rest next fault stack done =>
      have said := introduces_action (known rfl) level stack action
      rwa [done] at said
  | reported => exact introduces_silent (by simp [actionNotices, Notice.isLoad])
  | initializes => exact introduces_silent (by simp [actionNotices])
  | tellsRecorder | tellsClient =>
      exact .nothing (by simp [deeds, Notice.isLoad]) (by simp [deeds])
  | completed => exact .nothing (by simp [deeds]) (by simp [deeds])
  | _ => exact introduces_nil

theorem introduces_complete (operation : Operation)
    (granted : operation.refusal? world = none) :
    world.Introduces (operation.complete world me).1 (operation.deeds world) := by
  cases operation with
  | setError key cause => exact introduces_silent (isLoad_causeNotices world key cause)
  | debuggerUnload key => exact introduces_silent (isLoad_unloadNotices world key)
  | unload through key =>
      simp only [Operation.deeds]
      split
      · exact introduces_nil
      · split
        · exact introduces_nil
        · exact introduces_silent (isLoad_unloadNotices world _)
  | container key call =>
      refine .nothing (by simp [Operation.deeds]) fun unit config relayed => ?_
      obtain ⟨notice, said, same⟩ := List.mem_map.mp relayed
      cases same
      cases call <;> simp [ContainerCall.notices] at said
  | debuggerLoad key flags attaching =>
      simp only [Operation.deeds]
      split
      · exact introduces_nil
      · rename_i speaks
        simp only [Bool.or_eq_true, Bool.not_eq_true', not_or, Bool.not_eq_true,
          Bool.not_eq_false] at speaks
        obtain ⟨rfl, flagged⟩ := speaks
        refine .unit flags (known_of_granted granted rfl) fun attached => ?_
        cases listens : (world.sinksOf key).debugger with
        | absent => simp [Sinks.isDebuggerAttached, listens] at attached
        | attached consumes =>
            have claims := (notifyDebuggerLoad_of_attached flags flagged listens).2
              .debuggerModule
            simpa [Operation.complete] using claims
  | _ => exact introduces_nil

theorem introduces_act (act : world.Act repertoire me thread deeds next after)
    (supports : world.Supports thread) : world.Introduces next deeds := by
  cases act with
  | step step => exact introduces_stepped (stepped_of_step step) supports
  | operate operation turn asked granted instant =>
      exact introduces_complete operation granted
  | call | resume | finish => exact introduces_nil

/-- The module is told of as long as its latch is free. -/
theorem count_moduleLoad (introduces : world.Introduces next deeds)
    (grows : world.Grows next) (known : key < world.unitCount) :
    (toldAbout key deeds).count .moduleLoad +
        ((world.unit key).latches.isSet .debuggerModule).toNat ≤
      ((next.unit key).latches.isSet .debuggerModule).toNat := by
  have kept := Bool.toNat_le_toNat ((grows.unit key known).told .debuggerModule)
  cases introduces with
  | nothing silent =>
      have unsaid : .moduleLoad ∉ toldAbout key deeds := fun said =>
        absurd (silent key _ (mem_toldAbout.mp said)) (by simp [Notice.isLoad])
      rwa [List.count_eq_zero_of_not_mem unsaid, Nat.zero_add]
  | @unit unit flags _ claimed =>
      rw [toldAbout_map_told]
      split
      · rename_i same
        subst same
        unfold loadNotices
        cases attached : (world.sinksOf unit).isDebuggerAttached with
        | false => simpa using kept
        | true =>
            rw [claimed attached]
            cases told : (world.unit unit).latches.isSet .debuggerModule <;>
              cases flags.contains .assemblyLoad <;> simp [told]
      · simpa using kept

/-- The recorder writes down no other unit-level loads than those that are told. -/
theorem told_of_recorded (introduces : world.Introduces next deeds) {name : String}
    {config : DebuggingConfig}
    (recorded : .debuggerUnitLoad name config ∈ deeds.flatMap world.recordDeed) :
    ∃ key, .told key (.unitLoad config) ∈ deeds ∧ (world.unit key).name = name := by
  obtain ⟨deed, done, recorded⟩ := List.mem_flatMap.mp recorded
  have spoken {key : UnitKey} {notice : Notice}
      (written : .debuggerUnitLoad name config ∈ world.record key notice) :
      notice = .unitLoad config ∧ (world.unit key).name = name := by
    rcases notice with _ | _ | _ | _ | _ | _ | _ | _ | ⟨listener, snapshot⟩
    case unitLoad given =>
      cases List.mem_singleton.mp written
      exact ⟨rfl, rfl⟩
    case unitLoaded => cases listener <;> simp [record] at written
    all_goals
      simp only [record] at written
      try split at written
      all_goals simp at written
  cases deed with
  | told key notice =>
      obtain ⟨rfl, named⟩ := spoken recorded
      exact ⟨key, done, named⟩
  | relayed key notice =>
      obtain ⟨rfl, -⟩ := spoken recorded
      cases introduces with
      | nothing _ unrelayed => exact absurd done (unrelayed key config)
      | unit => simp at done
  | completed | bypassed => simp [recordDeed] at recorded

end World

namespace Crew

variable {repertoire : Repertoire} {setups : List Setup} {members : Nat}
  {crew next : Crew} {before deeds : List Deed}

/-- What debuggers have been told of loads so far fits the blobs and the latches. -/
structure Introduced (crew : Crew) (deeds : List Deed) : Prop where
  configured : ∀ key config, .told key (.unitLoad config) ∈ deeds →
    key < crew.world.unitCount ∧ config = (crew.world.unit key).wantedConfig
  modules : ∀ key, (toldAbout key deeds).count .moduleLoad ≤
    if key < crew.world.unitCount then
      ((crew.world.unit key).latches.isSet .debuggerModule).toNat
    else 0
  recorded : ∀ name config, .debuggerUnitLoad name config ∈ crew.world.events →
    ∃ key, key < crew.world.unitCount ∧ (crew.world.unit key).name = name ∧
      config = (crew.world.unit key).wantedConfig

theorem Introduced.snoc (introduced : crew.Introduced before)
    (introduces : crew.world.Introduces next.world deeds)
    (grows : crew.world.Grows next.world)
    (decoded : crew.world.AllUnits LoadUnit.Decoded)
    (events : next.world.events =
      crew.world.events ++ deeds.flatMap crew.world.recordDeed) :
    next.Introduced (before ++ deeds) := by
  have later {key : UnitKey} {config : DebuggingConfig}
      (known : key < crew.world.unitCount)
      (wanted : config = (crew.world.unit key).wantedConfig) :
      key < next.world.unitCount ∧ config = (next.world.unit key).wantedConfig :=
    ⟨Nat.lt_of_lt_of_le known grows.count, wanted.trans
      (LoadUnit.wantedConfig_congr (grows.unit key known).image).symm⟩
  have configured (key : UnitKey) (config : DebuggingConfig)
      (told : .told key (.unitLoad config) ∈ deeds) :
      key < crew.world.unitCount ∧
        config = (crew.world.unit key).wantedConfig := by
    cases introduces with
    | nothing silent =>
        exact absurd (silent key _ told) (by simp [Notice.isLoad])
    | unit flags known =>
        obtain ⟨notice, said, same⟩ := List.mem_map.mp told
        cases same
        refine ⟨known, ?_⟩
        rw [← LoadUnit.sentConfig_of_decoded (decoded key known)]
        unfold World.loadNotices at said
        split at said
        · rcases List.mem_append.mp said with asked | once
          · split at asked <;> simp at asked
            exact asked
          · split at once <;> simp at once
        · contradiction
  refine ⟨fun key config told => ?_, fun key => ?_, fun name config recorded => ?_⟩
  · rcases List.mem_append.mp told with earlier | now
    · obtain ⟨known, wanted⟩ := introduced.configured key config earlier
      exact later known wanted
    · obtain ⟨known, wanted⟩ := configured key config now
      exact later known wanted
  · have earlier := introduced.modules key
    rw [toldAbout, List.filterMap_append, List.count_append]
    change (toldAbout key before).count _ + (toldAbout key deeds).count _ ≤ _
    by_cases known : key < crew.world.unitCount
    · have spent := World.count_moduleLoad introduces grows known
      rw [if_pos known] at earlier
      rw [if_pos (Nat.lt_of_lt_of_le known grows.count)]
      omega
    · rw [if_neg known] at earlier
      have unsaid : .moduleLoad ∉ toldAbout key deeds := fun said => by
        have told := World.mem_toldAbout.mp said
        cases introduces with
        | nothing silent =>
            exact absurd (silent key _ told) (by simp [Notice.isLoad])
        | unit flags there =>
            obtain ⟨notice, -, same⟩ := List.mem_map.mp told
            cases same
            exact known there
      rw [List.count_eq_zero_of_not_mem unsaid]
      exact Nat.le_trans (by omega) (Nat.zero_le _)
  · rw [events] at recorded
    rcases List.mem_append.mp recorded with earlier | now
    · obtain ⟨key, known, named, wanted⟩ := introduced.recorded name config earlier
      obtain ⟨there, wanted⟩ := later known wanted
      refine ⟨key, there, ?_, wanted⟩
      rw [LoadUnit.name, (grows.unit key known).image]
      exact named
    · obtain ⟨key, told, named⟩ := World.told_of_recorded introduces now
      obtain ⟨known, wanted⟩ := configured key config told
      obtain ⟨there, wanted⟩ := later known wanted
      refine ⟨key, there, ?_, wanted⟩
      rw [LoadUnit.name, (grows.unit key known).image]
      exact named

theorem introduced_run (run : Run repertoire (idle setups members) deeds crew) :
    crew.Introduced deeds := by
  induction run with
  | start =>
      refine ⟨by simp, by simp [toldAbout], ?_⟩
      change ∀ name config, _ ∈ (World.ofSetups setups).events → _
      rw [(World.ofSetups_units setups).2.2]
      simp
  | snoc run move ih =>
      have decoded := allUnits_run LoadUnit.invariant_decoded run
      have supports := (framed_run framed_idle run).supports
      refine ih.snoc ?_ (grows_move move) decoded (events_move move)
      cases move with
      | collect => exact World.introduces_nil
      | @act me _ _ _ member act => exact World.introduces_act act (supports me)

/-- What debuggers learn of a unit, and what the next call makes of it. -/
structure DebuggerProtocol (crew : Crew) (key : UnitKey) (deeds : List Deed) :
    Prop where
  /-- Every unit-level load carries the same configuration. -/
  configured : ∀ config, .unitLoad config ∈ toldAbout key deeds →
    config = (crew.world.unit key).wantedConfig
  recorded : ∀ name config, .debuggerUnitLoad name config ∈ crew.world.events →
    ∃ unit, unit < crew.world.unitCount ∧ (crew.world.unit unit).name = name ∧
      config = (crew.world.unit unit).wantedConfig
  /-- The module-level load is sent once. -/
  once : (toldAbout key deeds).count .moduleLoad ≤ 1
  /-- A client that asks reads what the blob says. -/
  reads : DebuggingConfig.Decodes (crew.world.unit key).image.debuggable
    (crew.world.debuggingConfig key).2
  /-- The debugger is sent the same, or the default if that is an error. -/
  wanted : (crew.world.unit key).wantedConfig =
    match (crew.world.debuggingConfig key).2 with
    | .ok config => config
    | .error _ => {}
  notifies : ∀ flags attaching, crew.world.Notifies key flags attaching
    (crew.world.notifyDebuggerLoad key flags attaching).1
    (crew.world.notifyDebuggerLoad key flags attaching).2

/-- Whatever any number of threads and the client do, a debugger is sent the right
configuration of a unit and its module once. -/
theorem debuggers_are_told (run : Run repertoire (idle setups members) deeds crew)
    {key : UnitKey} (known : key < crew.world.unitCount) :
    crew.DebuggerProtocol key deeds := by
  have introduced := introduced_run run
  have decoded := allUnits_run LoadUnit.invariant_decoded run key known
  have reads : (crew.world.debuggingConfig key).2 =
      DebuggingConfig.ofBlob (crew.world.unit key).image.debuggable := by
    change (crew.world.unit key).debuggingConfig.2 = _
    rw [LoadUnit.debuggingConfig]
    rcases decoded with fresh | ⟨config, asked, kept⟩
    · rw [fresh]
      cases DebuggingConfig.ofBlob (crew.world.unit key).image.debuggable <;> rfl
    · rw [kept, asked]
  exact {
    configured := fun config said =>
      (introduced.configured key config (World.mem_toldAbout.mp said)).2
    recorded := introduced.recorded
    once := by
      have count := introduced.modules key
      rw [if_pos known] at count
      exact Nat.le_trans count (Bool.toNat_le _)
    reads := by
      rw [reads]
      exact DebuggingConfig.decodes_ofBlob _
    wanted := by
      rw [reads]
      rfl
    notifies := World.notifies_of_decoded decoded }

/-- A client that notifies the debugger of a unit before and after its events were
delivered, and has the events of one delivered whose blob is malformed. -/
def inspects : List Cue :=
  [.asks 0 (.create 0 { name := "App", debuggable := some [1, 0, 3, 1, 0, 0] }
      { name := "App" }),
    .asks 0 (.create 0 { name := "Lib", debuggable := some [0, 1, 3, 1, 0, 0] }
      { name := "Lib" }),
    .asks 0 (.debuggerLoad 0 .assemblyLoad false),
    .asks 0 (.ensure 0 0 .deliverEvents)] ++ Cue.climbs 0 48 ++
  [.asks 0 (.debuggerLoad 0 ⟨5⟩ false), .asks 0 (.debuggerLoad 0 ⟨5⟩ true),
    .asks 0 (.incremental 0 1 .deliverEvents)] ++ Cue.climbs 0 5 ++
  [.asks 0 (.debugging 1)]

theorem inspects_enacted :
    ((idle [.observed] 1).enactAll Conduct.free inspects).isSome = true := by
  decide +kernel

def inspected : Crew :=
  ((idle [.observed] 1).enactAll Conduct.free inspects).get inspects_enacted

theorem debuggers_are_told_inspected :
    ∃ deeds, Run .full (idle [.observed] 1) deeds inspected ∧
      1 < inspected.world.unitCount ∧ inspected.DebuggerProtocol 1 deeds ∧
      inspected.world.events.filter (fun event =>
        match event with
        | .debuggerUnitLoad _ _ | .debuggerModuleLoad _ => true
        | _ => false) =
        [.debuggerUnitLoad "App" ⟨true, true, false⟩, .debuggerModuleLoad "App",
          .debuggerUnitLoad "App" ⟨true, true, false⟩,
          .debuggerUnitLoad "Lib" {}, .debuggerModuleLoad "Lib"] := by
  have account : Account .free (fun world _ => world.played) (idle [.observed] 1)
      ([] ++ (idle [.observed] 1).notedAll (fun world _ => world.played) inspects)
      inspected :=
    Account.start.enactAll (Option.some_get inspects_enacted).symm
  obtain ⟨deeds, run⟩ := account.run
  have known : 1 < inspected.world.unitCount := by decide +kernel
  exact ⟨deeds, run, known, debuggers_are_told run known, by decide +kernel⟩

end Crew

end LoadLadder
