import LoadLadder.Proofs.LoneThread

/-!
# The recorded events about a unit

Units with names of their own share a recording without getting into each other's
way: the events about a unit are what the recorder heard of the deeds that concern
this unit, and nothing else.
-/

namespace LoadLadder

namespace World

/-- An event is about a unit. -/
def isAbout (world : World) (key : UnitKey) (event : Event) : Bool :=
  decide (event.unit ∈ (world.unit key).names)

/-- The recorded events about a unit, in order. -/
def eventsOf (world : World) (key : UnitKey) : List Event :=
  world.events.filter (world.isAbout key)

/-- A deed says something about a unit that exists, under the name of this
unit. -/
def Proper (world : World) : Deed → Prop
  | .told key (.unitLoaded _ snapshot) =>
      key < world.unitCount ∧ snapshot.name = (world.unit key).name
  | .told key _ => key < world.unitCount
  | .relayed _ _ => False
  | .completed _ _ => True
  | .bypassed _ => True

/-- Every recorded event is about a unit that exists. -/
def Named (world : World) : Prop :=
  ∀ event ∈ world.events, ∃ key < world.unitCount,
    event.unit ∈ (world.unit key).names

variable {world next : World} {me : ThreadId} {thread after : Thread}
  {deeds : List Deed} {key other : UnitKey} {sinks : Sinks}

theorem unit_of_record {notice : Notice} {event : Event}
    (proper : world.Proper (.told key notice))
    (recorded : event ∈ world.record key notice) :
    key < world.unitCount ∧ event.unit ∈ (world.unit key).names := by
  cases notice with
  | unitLoaded listener snapshot =>
      obtain ⟨known, named⟩ := proper
      refine ⟨known, ?_⟩
      cases listener with
      | recorder =>
          rw [List.mem_singleton.mp recorded]
          simp [Event.unit, LoadUnit.names, named]
      | client number => simp [record] at recorded
  | tracing code =>
      refine ⟨proper, ?_⟩
      simp only [record] at recorded
      split at recorded
      · rw [List.mem_singleton.mp recorded]
        simp [Event.unit, LoadUnit.names]
      · simp at recorded
  | profiler | moduleLoaded | transition =>
      refine ⟨proper, ?_⟩
      simp only [record] at recorded
      split at recorded
      · rw [List.mem_singleton.mp recorded]
        simp [Event.unit, LoadUnit.names]
      · simp at recorded
  | unitLoad | moduleLoad | moduleUnload | unitUnload =>
      refine ⟨proper, ?_⟩
      rw [List.mem_singleton.mp recorded]
      simp [Event.unit, LoadUnit.names]

theorem filter_recordDeed (watched : world.Watched sinks)
    (known : key < world.unitCount) {deed : Deed} (proper : world.Proper deed) :
    (world.recordDeed deed).filter (world.isAbout key) =
      (toldAbout key [deed]).flatMap (world.record key) := by
  cases deed with
  | told unit notice =>
      by_cases same : unit = key
      · subst same
        have kept : ∀ event ∈ world.record unit notice,
            world.isAbout unit event = true := fun event recorded =>
          decide_eq_true (unit_of_record proper recorded).2
        simp only [recordDeed, toldAbout]
        rw [List.filter_eq_self.mpr kept]
        simp
      · have dropped : ∀ event ∈ world.record unit notice,
            ¬ world.isAbout key event = true := by
          intro event recorded about
          obtain ⟨knownUnit, named⟩ := unit_of_record proper recorded
          exact watched.apart unit knownUnit key known same event.unit named
            (of_decide_eq_true about)
        simp only [recordDeed, toldAbout]
        rw [List.filter_eq_nil_iff.mpr dropped]
        simp [same]
  | relayed => exact proper.elim
  | completed | bypassed => rfl

theorem filter_recordDeeds (watched : world.Watched sinks)
    (known : key < world.unitCount) (proper : ∀ deed ∈ deeds, world.Proper deed) :
    (deeds.flatMap world.recordDeed).filter (world.isAbout key) =
      (toldAbout key deeds).flatMap (world.record key) := by
  induction deeds with
  | nil => rfl
  | cons deed deeds ih =>
      have split : toldAbout key (deed :: deeds) =
          toldAbout key [deed] ++ toldAbout key deeds := by
        rw [toldAbout, ← List.singleton_append, List.filterMap_append]
        rfl
      rw [List.flatMap_cons, List.filter_append, split, List.flatMap_append,
        filter_recordDeed watched known (proper deed (by simp)),
        ih fun deed member => proper deed (by simp [member])]

theorem proper_notices (known : key < world.unitCount) {notices : List Notice}
    (silent : ∀ listener snapshot, .unitLoaded listener snapshot ∉ notices) :
    ∀ deed ∈ notices.map (Deed.told key), world.Proper deed := by
  intro deed member
  obtain ⟨notice, said, rfl⟩ := List.mem_map.mp member
  cases notice with
  | unitLoaded listener snapshot => exact absurd said (silent _ _)
  | _ => exact known

theorem unitLoaded_notMem_causeNotices (cause : Cause) (listener : Listener)
    (snapshot : Snapshot) :
    .unitLoaded listener snapshot ∉ world.causeNotices key cause := by
  unfold causeNotices
  split
  · simp
  · split <;> simp

theorem unitLoaded_notMem_actionNotices (level : Level) (action : Action)
    (listener : Listener) (snapshot : Snapshot) :
    .unitLoaded listener snapshot ∉ world.actionNotices key level action := by
  unfold actionNotices loadNotices
  grind

theorem proper_step (supports : world.Supports thread)
    (chains : world.Chains thread) :
    ∀ deed ∈ world.deeds thread, world.Proper deed := by
  obtain ⟨task, stack⟩ := thread
  simp only [World.deeds]
  split
  · exact proper_notices supports.1 (unitLoaded_notMem_causeNotices _)
  · simp [Proper]
  · rename_i unit level action rest
    have told : ∀ deed ∈ (world.actionNotices unit level action).map
        (Deed.told unit), world.Proper deed :=
      proper_notices supports.1 (unitLoaded_notMem_actionNotices level action)
    cases action with
    | publish =>
        simp only [actionDeeds]
        split <;> simp [Proper]
    | _ => exact told
  · simp only [List.mem_singleton, forall_eq]
    exact ⟨supports.1, chains.2.1⟩
  · simp

theorem proper_loading (loading : world.Loading me thread deeds next after)
    (supports : world.Supports thread) (chains : world.Chains thread) :
    ∀ deed ∈ deeds, world.Proper deed := by
  cases loading with
  | steps => exact proper_step supports chains
  | blames known =>
      exact proper_notices known (unitLoaded_notMem_causeNotices _)
  | begins | makes | links | frees => simp

theorem grows_loading (loading : world.Loading me thread deeds next after) :
    world.Grows next := by
  cases loading with
  | steps stepped => exact grows_stepped stepped
  | begins => exact .refl world
  | makes => exact grows_createUnit world 0 _ _
  | @links reply key dependency =>
      unfold addDependency
      split
      · exact grows_extended world key dependency
      · exact .refl world
  | @blames reply key cause => exact grows_setError world key cause
  | frees => exact .of_still (alike_collect world _).still

theorem events_loading (loading : world.Loading me thread deeds next after) :
    next.events = world.events ++ deeds.flatMap world.recordDeed := by
  cases loading with
  | steps stepped => exact events_stepped stepped
  | begins => simp
  | makes => simpa using events_createUnit world 0 _ _
  | links =>
      unfold addDependency
      split <;> simp
  | blames => rw [events_setError, recordDeed_told]
  | frees => simpa using events_collect world _

theorem isAbout_of_grows (grows : world.Grows next)
    (known : key < world.unitCount) : next.isAbout key = world.isAbout key := by
  funext event
  rw [isAbout, isAbout, names_of_grows grows known]

/-- The events about a unit grow by what is said about it. -/
theorem eventsOf_loading (loading : world.Loading me thread deeds next after)
    (watched : world.Watched sinks) (supports : world.Supports thread)
    (chains : world.Chains thread) (known : key < world.unitCount) :
    next.eventsOf key = world.eventsOf key ++
      (toldAbout key deeds).flatMap (world.record key) := by
  rw [eventsOf, isAbout_of_grows (grows_loading loading) known,
    events_loading loading, List.filter_append,
    filter_recordDeeds watched known (proper_loading loading supports chains)]
  rfl

theorem record_loading (loading : world.Loading me thread deeds next after)
    (watched : world.Watched sinks) (known : key < world.unitCount) :
    next.record key = world.record key := by
  have grows := grows_loading loading
  have later := watched_loading loading watched
  have knownLater := Nat.lt_of_lt_of_le known grows.count
  refine record_congr ?_ ?_ (grows.unit key known).image
    (grows.unit key known).container
  · rw [later.sinksOf knownLater, watched.sinksOf known]
  · rw [later.homeOf knownLater, watched.homeOf known, later.hook,
      watched.hook]

theorem named_loading (loading : world.Loading me thread deeds next after)
    (supports : world.Supports thread) (chains : world.Chains thread)
    (named : world.Named) : next.Named := by
  have grows := grows_loading loading
  intro event member
  rw [events_loading loading, List.mem_append] at member
  have told : ∃ key < world.unitCount,
      event.unit ∈ (world.unit key).names := by
    rcases member with old | new
    · exact named event old
    · obtain ⟨deed, done, heard⟩ := List.mem_flatMap.mp new
      have proper := proper_loading loading supports chains deed done
      cases deed with
      | told key notice => exact ⟨key, unit_of_record proper heard⟩
      | relayed => exact proper.elim
      | completed | bypassed => simp [recordDeed] at heard
  obtain ⟨key, known, about⟩ := told
  refine ⟨key, Nat.lt_of_lt_of_le known grows.count, ?_⟩
  rw [names_of_grows grows known]
  exact about

/-- Nothing has been recorded about a new unit. -/
theorem eventsOf_createUnit {image : Image} {container : Container}
    (named : world.Named)
    (fresh : Repertoire.loading world (.create 0 image container)) :
    (world.createUnit 0 image container).1.eventsOf world.unitCount = [] := by
  rw [eventsOf, events_createUnit, List.filter_eq_nil_iff]
  intro event member about
  obtain ⟨key, known, name⟩ := named event member
  have clash := fresh.2.2 key known event.unit name
  have made := of_decide_eq_true about
  rw [unit_createUnit, if_pos rfl] at made
  simp [LoadUnit.names, LoadUnit.name, clash] at made

end World

end LoadLadder
