import LoadLadder.Proofs.PlanRuns

/-!
# The order of activations

A unit is reported active only after everything that it depends on has been, but
for what depends on the unit in turn.  This is kept by every step of a crew that
loads a plan, and so by every sequence of runs of a plan.
-/

namespace LoadLadder

open Relation

namespace World

variable {world next : World} {me : ThreadId} {thread after : Thread}
  {key dependency : UnitKey} {goal : Level} {sinks : Sinks}

/-- Whenever a unit was reported active, what it needs had been before, unless it
leads back to the unit. -/
def InOrder (world : World) : Prop :=
  ∀ (earlier later : List Event) (key dependency : UnitKey),
    key < world.unitCount → world.blueprint.Needs key dependency →
    world.events =
      earlier ++ .transition (world.unit key).name .active :: later →
    .transition (world.unit dependency).name .active ∈ earlier ∨
      world.blueprint.Closes key dependency

theorem transition_of_record {name : String} {level : Level} {notice : Notice}
    (recorded : .transition name level ∈ world.record key notice) :
    notice = .transition level ∧ name = (world.unit key).name := by
  cases notice with
  | transition =>
      simp only [record] at recorded
      split at recorded
      · cases List.mem_singleton.mp recorded
        exact ⟨rfl, rfl⟩
      · simp at recorded
  | unitLoaded listener => cases listener <;> simp [record] at recorded
  | tracing | profiler | moduleLoaded =>
      simp only [record] at recorded
      split at recorded <;> simp at recorded
  | _ => simp [record] at recorded

theorem reports_of_actionNotices {level reported : Level} {action : Action}
    (said : .transition reported ∈ world.actionNotices key level action) :
    action = .reportTransition ∧ reported = level := by
  cases action with
  | reportTransition => simpa [actionNotices] using said
  | announceDebugger =>
      simp only [actionNotices, loadNotices] at said
      split at said
      · simp at said
      · split at said
        · simp at said
        · simp at said
  | announceProfiler | announceTracing =>
      simp only [actionNotices] at said
      split at said <;> simp at said
  | _ => simp [actionNotices] at said

/-- A transition is recorded only by the thread that reports it. -/
theorem reports_of_transition {name : String} {level : Level}
    (recorded : .transition name level ∈
      (world.deeds thread).flatMap world.recordDeed) :
    ∃ key rest stack,
      thread = ⟨.subStep key level (.reportTransition :: rest), stack⟩ ∧
        name = (world.unit key).name := by
  obtain ⟨task, stack⟩ := thread
  have silent {key : UnitKey} {cause : Cause} :
      .transition level ∉ world.causeNotices key cause := by
    unfold causeNotices
    split
    · simp
    · split <;> simp
  unfold deeds at recorded
  split at recorded
  · rw [recordDeed_told] at recorded
    obtain ⟨notice, said, recorded⟩ := List.mem_flatMap.mp recorded
    obtain ⟨rfl, -⟩ := transition_of_record recorded
    exact absurd said silent
  · simp [recordDeed] at recorded
  · rename_i key below action rest task
    rw [recordDeed_action] at recorded
    obtain ⟨notice, said, recorded⟩ := List.mem_flatMap.mp recorded
    obtain ⟨rfl, named⟩ := transition_of_record recorded
    obtain ⟨rfl, rfl⟩ := reports_of_actionNotices said
    cases task
    exact ⟨key, rest, stack, rfl, named⟩
  · rename_i listener rest task
    cases listener <;> simp [recordDeed, record] at recorded
  · simp at recorded

/-- A unit that reports its activation was ready for it. -/
theorem attended_of_reporting {rest : List Action} {stack : List Waiting}
    {aim : Option UnitKey}
    (chains : world.Chains
      ⟨.subStep key .active (.reportTransition :: rest), stack⟩)
    (delving : world.Delving aim goal
      ⟨.subStep key .active (.reportTransition :: rest), stack⟩) :
    world.Attended key := by
  cases delving with
  | carries delves low ahead =>
      refine (ahead.attends rfl).resolve_left fun pending => ?_
      have remains := chains.1
      simp only [Level.actions, List.suffix_cons_iff] at remains
      simp_all

end World

namespace Crew

variable {crew : Crew} {me : ThreadId} {key : UnitKey} {goal : Level}
  {sinks : Sinks} {aims : ThreadId → Option UnitKey}

/-- The activation of every active unit has been reported. -/
theorem reported_of_active (tended : crew.Tended sinks goal aims)
    (known : key < crew.world.unitCount)
    (active : (crew.world.unit key).level = .active) :
    .transition (crew.world.unit key).name .active ∈ crew.world.events := by
  obtain ⟨me, ⟨⟨telling, told⟩, heard⟩, -⟩ :=
    tended.recounted.spoken key known
  have watched := tended.orderly.planned.watched
  have resting : (crew.thread me).midway key = none := by
    rw [Option.eq_none_iff_forall_ne_some]
    rintro ⟨level, rest⟩ standing
    exact World.not_active_of_driving (tended.orderly.steady me key)
      (World.driving_of_midway (tended.orderly.chains me) standing) active
  have climb := World.tells_of_none told.tells resting
  have hooked : (crew.world.homeOf key).hook.records = true := by
    rw [watched.homeOf known, watched.hook]
  have member : .transition (crew.world.unit key).name .active ∈
      crew.world.eventsOf key := by
    rw [told.events, climb, active, World.record_climbed
      (watched.sinksOf known) hooked tended.orderly.planned.recorded]
    simp [climbEvents, Level.all, Level.le_def, Level.rank]
  exact (List.mem_filter.mp member).1

theorem inOrder_act (tended : crew.Tended sinks goal aims)
    (ordered : crew.world.InOrder) (me : ThreadId) :
    (crew.act me).world.InOrder := by
  rcases act_cases crew me with
    ⟨idle, -⟩ | ⟨world, after, member, stepped, acted⟩
  · rwa [idle]
  have same : (crew.act me).world = world := by rw [acted]; rfl
  rw [same]
  intro earlier later key dependency known needs split
  have proceeds := World.proceeds_stepped stepped
  have name (key : UnitKey) :
      (world.unit key).name = (crew.world.unit key).name := by
    rw [LoadUnit.name, LoadUnit.name, (proceeds.fixed key).image]
  rw [World.events_stepped stepped, name] at split
  rw [proceeds.count] at known
  rw [proceeds.blueprint] at needs ⊢
  rw [name]
  rcases split_of_append split with ⟨rest, old, -⟩ | ⟨more, later, new⟩
  · exact ordered earlier rest key dependency known needs old
  · -- The report is new, and its thread has activated all that the unit needs.
    obtain ⟨unit, rest, stack, reporting, named⟩ :=
      World.reports_of_transition (new ▸ List.mem_append_right _ List.mem_cons_self)
    have chains := tended.orderly.chains me
    have delving := tended.orderly.delving me
    have supports := tended.orderly.supports me
    rw [reporting] at chains delving supports
    have same_unit : unit = key := by
      by_contra apart
      exact tended.orderly.planned.watched.apart unit supports.1 key known apart
        (crew.world.unit unit).name (by simp [LoadUnit.names])
        (by simp [LoadUnit.names, ← named])
    subst same_unit
    have attended := World.attended_of_reporting chains delving
    rcases attended.served dependency needs with active | closes
    · refine Or.inl (later ▸ List.mem_append_left _ ?_)
      exact reported_of_active tended
        (tended.orderly.planned.held unit dependency needs).1 active
    · exact Or.inr closes

end Crew

theorem World.Loads.inOrder {world next : World} {goal : Level} {sinks : Sinks}
    (loads : world.Loads goal next) (rested : world.Rested sinks)
    (ordered : world.InOrder) : next.InOrder :=
  Loads.induction World.InOrder
    (fun _ _ tended ordered me => Crew.inOrder_act tended ordered me) loads rested
    ordered

namespace Manifest

variable {manifest : Manifest} {key dependency : UnitKey}

/-- The name of the unit at a place. -/
def nameOf (manifest : Manifest) (key : UnitKey) : String :=
  (manifest.units.getD key {}).name

theorem name_build (entry : manifest.Holds key) :
    (manifest.build.world.unit key).name = manifest.nameOf key := by
  obtain ⟨spec, found, -⟩ := entry
  rw [unit_of_entry found, nameOf, List.getD_eq_getElem?_getD, found]
  rfl

theorem inOrder_build (manifest : Manifest) :
    manifest.build.world.InOrder := by
  intro earlier later key dependency known needs split
  rw [events_build] at split
  simp at split

/-- However often a sound manifest's plan is run, and to whatever targets: a unit
is reported active only after each of its dependencies that does not depend on it in
turn, and as long as the unit is active, such a dependency is active and has not
failed. -/
theorem active_after_dependencies (valid : manifest.validate = .ok ())
    (targets : List Level) (depends : manifest.DependsOn key dependency)
    (apart : ¬ manifest.Reaches dependency key) :
    let world := (manifest.build.runAll targets).world
    (∀ earlier later, world.events =
        earlier ++ .transition (manifest.nameOf key) .active :: later →
      .transition (manifest.nameOf dependency) .active ∈ earlier) ∧
    ((world.unit key).level = .active →
      (world.unit dependency).level = .active ∧
        (world.unit dependency).isError = false) := by
  intro world
  have sound := sound_of_validate valid
  obtain ⟨holds, other⟩ : manifest.Holds key ∧ manifest.Holds dependency := by
    obtain ⟨spec, other, entry, valid, needed, held, -⟩ := depends
    exact ⟨⟨spec, entry, valid⟩, ⟨other, needed, held⟩⟩
  obtain ⟨⟨ordered, proceeds⟩, idle⟩ := (idle_build sound).runAll_induction
    (fun world => world.InOrder ∧ manifest.build.world.Proceeds world)
    (fun world next target rested loads kept =>
      ⟨loads.inOrder rested kept.1, kept.2.trans loads.proceeds⟩)
    ⟨inOrder_build manifest, .refl _⟩ targets
  have name {key : UnitKey} (holds : manifest.Holds key) :
      (world.unit key).name = manifest.nameOf key := by
    rw [← name_build holds, LoadUnit.name, LoadUnit.name,
      (proceeds.fixed key).image]
  have needs : world.blueprint.Needs key dependency := by
    rw [proceeds.blueprint]
    exact (needs_iff sound holds).mpr depends
  have leaves : ¬ world.blueprint.Closes key dependency := by
    rw [proceeds.blueprint]
    exact fun closes => apart ((leads_iff sound other).mp closes.2)
  refine ⟨fun earlier later split => ?_, fun active => ?_⟩
  · rw [← name holds] at split
    rw [← name other]
    refine (ordered earlier later key dependency ?_ needs split).resolve_right
      leaves
    exact proceeds.count.symm ▸ holds.known
  · have attended := (idle.rested.grounded key).attended active
    have reached := (attended.served dependency needs).resolve_right leaves
    have healthy : (world.unit dependency).failure.cause = none :=
      (idle.rested.grounded dependency).healthy_of_active reached
    exact ⟨reached, by simp [LoadUnit.isError, CauseCell.isSet, healthy]⟩

/-- A unit that depends on another one. -/
def chained : Manifest where
  units := [{ name := "App", dependsOn := ["Lib"] }, { name := "Lib" }]

/-- Loaded first and activated then, the two become active one after the other. -/
theorem chained_in_order :
    let world := (chained.build.runAll [.loaded, .active]).world
    (∃ earlier later,
      world.events = earlier ++ .transition "App" .active :: later ∧
        .transition "Lib" .active ∈ earlier) ∧
    (world.unit 0).level = .active ∧ (world.unit 1).isError = false := by
  intro world
  have depends : chained.DependsOn 0 1 :=
    ⟨_, _, rfl, rfl, rfl, rfl, List.mem_singleton_self _⟩
  have apart : ¬ chained.Reaches 1 0 := by
    intro reaches
    rcases ReflTransGen.cases_head reaches with same | ⟨next, needs, -⟩
    · contradiction
    · obtain ⟨spec, other, entry, -, -, -, member⟩ := needs
      cases entry
      exact absurd member List.not_mem_nil
  have valid : chained.validate = .ok () := by decide +kernel
  have split : world.events = world.events.take 16 ++
      .transition "App" .active :: world.events.drop 17 := by decide +kernel
  have active : (world.unit 0).level = .active := by decide +kernel
  obtain ⟨ordered, healthy⟩ :=
    active_after_dependencies valid [.loaded, .active] depends apart
  exact ⟨⟨_, _, split, ordered _ _ split⟩, active, (healthy active).2⟩

end Manifest

end LoadLadder
