import LoadLadder.Proofs.HostTies
import LoadLadder.Proofs.SingleNotices
import LoadLadder.Proofs.SubStepOrder

/-!
# What a unit owes its consumers

The debugger hears of a unit in the sub-step that delivers load events, inspection
tooling hears of the module in the sub-step that makes the unit loaded, and listeners
receive the unit once it is active.  At any point a unit owes what belongs to the
rungs that it has not completed.  What it does not owe it does not say later on, as
long as the client leaves sub-steps to drivers and speaks to no consumer itself.
-/

namespace LoadLadder

/-- A client that leaves every sub-step to a driver. -/
def Conduct.undirected : Conduct := fun _ _ request =>
  match request with
  | .asks (.incremental _ _ _) => False
  | _ => True

instance (crew : Crew) (me : ThreadId) (request : Request) :
    Decidable (Conduct.undirected crew me request) := by
  unfold Conduct.undirected
  split <;> infer_instance

/-- A client that leaves sub-steps to drivers, claims no latch and speaks to no consumer
itself. -/
def Conduct.climbing : Conduct := fun crew me request =>
  Conduct.reserved crew me request ∧ Conduct.undirected crew me request

instance (crew : Crew) (me : ThreadId) (request : Request) :
    Decidable (Conduct.climbing crew me request) :=
  inferInstanceAs (Decidable (_ ∧ _))

/-- The thread makes a unit loaded, and has not shown it to inspection tooling yet. -/
def Thread.Presents (key : UnitKey) (thread : Thread) : Prop :=
  ∃ rest stack, thread = ⟨.subStep key .loaded rest, stack⟩ ∧ .showInspection ∈ rest

namespace Crew

variable {α : Type} {note : Noting α} {first crew : Crew} {past : List α}
  {deeds : List Deed} {setups : List Setup} {members : Nat}

theorem undirected_of_climbing {me : ThreadId} {operation : Operation}
    (conducted : Conduct.climbing crew me (.asks operation)) :
    Repertoire.undirected crew.world operation := by
  cases operation with
  | incremental => exact conducted.2
  | _ => trivial

theorem Account.undirected (account : Account .climbing note first past crew) :
    ∃ deeds, Run .undirected first deeds crew := by
  induction account with
  | start => exact ⟨_, .start⟩
  | @play crew past me request world thread account member conducted plays ih =>
      obtain ⟨deeds, run⟩ := ih
      exact ⟨_, run.snoc (.act member (World.act_of_asked plays
        fun operation same => undirected_of_climbing (conducted _ same)))⟩
  | collect account ih =>
      obtain ⟨deeds, run⟩ := ih
      exact ⟨_, run.snoc .collect⟩

theorem steered_of_run (run : Run .undirected (idle setups members) deeds crew)
    (me : ThreadId) : (crew.thread me).Steered := by
  obtain ⟨milestones, history⟩ := exists_history_of_run run
  exact steered_of_history history me

/-- The unit is below a level, or a thread is still occupied with the level's
sub-step. -/
def Incomplete (crew : Crew) (key : UnitKey) (level : Level) : Prop :=
  (crew.world.unit key).level < level ∨
    ∃ me, level ∈ (crew.thread me).driving key

/-- The unit is not loaded, or a thread is about to show it to inspection tooling. -/
def Unshown (crew : Crew) (key : UnitKey) : Prop :=
  (crew.world.unit key).level < .loaded ∨ ∃ me, (crew.thread me).Presents key

/-- The unit is not active, or a thread is still at work on it. -/
def Attended (crew : Crew) (key : UnitKey) : Prop :=
  (crew.world.unit key).level < .active ∨ ∃ me, key ∈ (crew.thread me).pinned

/-- The notices about a unit that consumers may still have to be given. -/
def Owes (crew : Crew) (key : UnitKey) : Notice → Prop
  | .unitLoad _ | .moduleLoad =>
      (crew.world.unit key).latches.isSet .debugger = false ∧
        crew.Incomplete key .deliverEvents
  | .moduleLoaded => crew.Unshown key
  | .unitLoaded listener snapshot =>
      ((crew.world.unit key).latches.isSet .hostLoadEvent = false ∧
          crew.Attended key) ∨
        ∃ me, (listener, snapshot) ∈ (crew.thread me).toTell key
  | _ => True

end Crew

/-- Notices that the debugger, inspection tooling or listeners get because a unit
climbs. -/
def Notice.isArrival : Notice → Bool
  | unitLoad _ | moduleLoad | moduleLoaded | unitLoaded _ _ => true
  | _ => false

namespace World

variable {world next : World} {me : ThreadId} {thread after : Thread}
  {request : Option Request} {key other : UnitKey} {level : Level} {notice : Notice}

theorem isArrival_causeNotices {cause : Cause}
    (said : notice ∈ world.causeNotices key cause) : notice.isArrival = false := by
  simp only [causeNotices] at said
  split at said
  · simp at said
  · split at said <;> simp at said <;> rcases said with rfl | rfl <;> rfl

theorem isArrival_unloadNotices (said : notice ∈ world.unloadNotices key) :
    notice.isArrival = false := by
  simp only [unloadNotices] at said
  split at said
  · simp at said
    rcases said with rfl | rfl <;> rfl
  · simp at said

/-- What an action says of the arrival of a unit belongs to the level of the action. -/
inductive Arrives (world : World) (key : UnitKey) (level : Level) (action : Action) :
    Notice → Prop
  | unitLoad {config : DebuggingConfig} (delivers : level = .deliverEvents)
      (untold : (world.unit key).latches.isSet .debugger = false)
      (attached : (world.sinksOf key).isDebuggerAttached = true) :
      Arrives world key level action (.unitLoad config)
  | moduleLoad (delivers : level = .deliverEvents)
      (untold : (world.unit key).latches.isSet .debugger = false)
      (attached : (world.sinksOf key).isDebuggerAttached = true) :
      Arrives world key level action .moduleLoad
  | moduleLoaded (loads : level = .loaded) (shows : action = .showInspection) :
      Arrives world key level action .moduleLoaded

theorem arrives_of_action {action : Action} (listed : action ∈ level.actions)
    (said : notice ∈ world.actionNotices key level action)
    (arrival : notice.isArrival = true) : world.Arrives key level action notice := by
  cases action with
  | announceProfiler | announceTracing =>
      simp only [actionNotices] at said
      split at said <;> simp at said
      subst said
      contradiction
  | announceDebugger =>
      have delivers : level = .deliverEvents := by
        cases level <;> simp [Level.actions] at listed ⊢
      simp only [actionNotices] at said
      split at said
      · simp at said
      · rename_i untold
        have untold := Bool.eq_false_iff.mpr untold
        simp only [loadNotices] at said
        split at said
        · rename_i attached
          rcases List.mem_append.mp said with said | said <;> split at said <;>
            simp at said <;> subst said
          · exact .unitLoad delivers untold attached
          · exact .moduleLoad delivers untold attached
        · simp at said
  | showInspection =>
      have loads : level = .loaded := by
        cases level <;> simp [Level.actions] at listed ⊢
      rw [List.mem_singleton.mp said]
      exact .moduleLoaded loads rfl
  | reportTransition =>
      rw [List.mem_singleton.mp said] at arrival
      contradiction
  | _ => simp [actionNotices] at said

/-- Where a thread is that says something about a unit. -/
inductive Delivers (world : World) (thread : Thread) (key : UnitKey) : Notice → Prop
  | quiet {notice : Notice} (quiet : notice.isArrival = false) :
      Delivers world thread key notice
  | performs {notice : Notice} {level : Level} {action : Action} {rest : List Action}
      {stack : List Waiting}
      (current : thread = ⟨.subStep key level (action :: rest), stack⟩)
      (said : notice ∈ world.actionNotices key level action) :
      Delivers world thread key notice
  | announces {target : Level} {snapshot : Snapshot} {listener : Listener}
      {rest : List Listener} {stack : List Waiting}
      (current : thread = ⟨.announce key target snapshot (listener :: rest), stack⟩) :
      Delivers world thread key (.unitLoaded listener snapshot)

theorem delivers_of_deeds (told : .told key notice ∈ world.deeds thread) :
    world.Delivers thread key notice := by
  obtain ⟨task, stack⟩ := thread
  simp only [deeds] at told
  split at told
  · obtain ⟨said, member, same⟩ := List.mem_map.mp told
    cases same
    exact .quiet (isArrival_causeNotices member)
  · simp at told
  · rename_i unit level action rest
    cases action with
    | publish =>
        simp only [actionDeeds] at told
        split at told <;> simp at told
    | _ =>
        obtain ⟨said, member, same⟩ := List.mem_map.mp told
        cases same
        exact .performs rfl member
  · cases List.mem_singleton.mp told
    exact .announces rfl
  · simp at told

/-- The client has nothing said itself that concerns an arrival. -/
theorem delivers_of_played {crew : Crew}
    (plays : world.play me thread request = some (next, after))
    (conducted : ∀ requested, request = some requested →
      Conduct.climbing crew me requested)
    (told : .told key notice ∈ world.played thread request) :
    request = none ∧ world.Delivers thread key notice ∨ notice.isArrival = false := by
  cases request with
  | none => exact Or.inl ⟨rfl, delivers_of_deeds told⟩
  | some requested =>
      refine Or.inr ?_
      have conducted := conducted _ rfl
      cases granted_of_play plays with
      | call operation turn granted loads => simp [played, loads] at told
      | resume | finish => simp [played] at told
      | operate operation turn granted instant =>
          simp only [played, instant] at told
          cases operation with
          | latch | container | debuggerLoad => exact conducted.1.elim
          | setError unit cause =>
              obtain ⟨said, member, same⟩ := List.mem_map.mp told
              cases same
              exact isArrival_causeNotices member
          | debuggerUnload unit =>
              obtain ⟨said, member, same⟩ := List.mem_map.mp told
              cases same
              exact isArrival_unloadNotices member
          | unload through unit =>
              simp only [Operation.deeds] at told
              split at told
              · simp at told
              · split at told
                · simp at told
                · obtain ⟨said, member, same⟩ := List.mem_map.mp told
                  cases same
                  exact isArrival_unloadNotices member
          | _ => simp [Operation.deeds] at told

theorem loading_of_ensure {through : DomainKey} {target : Level}
    (works : (Task.ensure world through key target).unit? = some other) :
    (world.unit other).level < .active := by
  unfold Task.ensure at works
  split at works
  · contradiction
  · split at works
    · rename_i loading
      cases works
      exact of_decide_eq_true loading
    · contradiction

/-- A driver that is active already is not taken up again. -/
theorem pinned_play_of_climbing {crew : Crew}
    (plays : world.play me thread request = some (next, after))
    (conducted : ∀ requested, request = some requested →
      Conduct.climbing crew me requested)
    (pinned : key ∈ after.pinned) :
    key ∈ thread.pinned ∨ (world.unit key).level < .active := by
  cases request with
  | none =>
      rcases turns_of_pinned_stepped (stepped_of_step plays) pinned with
        before | ⟨unit, rest, stack, -, -, works⟩
      · exact Or.inl before
      · exact Or.inr (loading_of_ensure works)
  | some requested =>
      have conducted := conducted _ rfl
      cases granted_of_play plays with
      | operate => exact Or.inl pinned
      | call operation turn granted loads =>
          refine (pinned_call pinned).imp_right fun works => ?_
          cases operation with
          | ensure through unit target =>
              cases loads
              exact loading_of_ensure works
          | incremental => exact conducted.2.elim
          | _ => simp [Operation.task?] at loads
      | resume answered =>
          subst answered
          exact Or.inl (by simpa [Thread.pinned, Task.unit?, Waiting.unit?] using pinned)
      | finish result called =>
          subst called
          exact Or.inl pinned

/-- A thread makes a unit loaded that is not loaded yet. -/
theorem presents_stepped (stepped : world.Stepped me thread next after)
    (supports : world.Supports thread) (presents : after.Presents key) :
    thread.Presents key ∨ (world.unit key).level < .loaded := by
  obtain ⟨rest, stack, current, shows⟩ := presents
  cases stepped with
  | climbs short healthy above =>
      cases current
      refine Or.inr ?_
      have rank := Level.rank_of_next above
      rw [Level.lt_def]
      omega
  | performed =>
      cases current
      exact Or.inl ⟨_, _, rfl, List.mem_cons_of_mem _ shows⟩
  | reported goes =>
      rcases goes with ⟨-, rfl⟩ | ⟨-, rfl⟩ <;> cases current
      exact Or.inl ⟨_, _, rfl, List.mem_cons_of_mem _ shows⟩
  | initializes runs => rcases runs with ⟨-, rfl⟩ | ⟨-, rfl⟩ <;> cases current
  | activates => exact absurd (congrArg Thread.task current) (ensure_ne_subStep _ _ _ _ _ _)
  | initialized =>
      cases current
      obtain ⟨seat, seated⟩ := supports
      cases seated with
      | initializing known runs remains => cases active_of_runInitializer remains
  | hooked =>
      cases current
      obtain ⟨seat, seated⟩ := supports
      cases seated with
      | hooked known remains =>
          simp [Level.actions, List.suffix_cons_iff] at remains
          simp [remains] at shows
  | _ => cases current

theorem presents_play {crew : Crew}
    (plays : world.play me thread request = some (next, after))
    (supports : world.Supports thread)
    (conducted : ∀ requested, request = some requested →
      Conduct.climbing crew me requested)
    (presents : after.Presents key) :
    thread.Presents key ∨ (world.unit key).level < .loaded := by
  cases request with
  | none => exact presents_stepped (stepped_of_step plays) supports presents
  | some requested =>
      have conducted := conducted _ rfl
      obtain ⟨rest, stack, current, shows⟩ := presents
      cases granted_of_play plays with
      | operate => exact Or.inl ⟨rest, stack, current, shows⟩
      | call operation turn granted loads =>
          cases operation with
          | ensure through unit target =>
              cases loads
              have task := congrArg Thread.task current
              unfold Thread.call at task
              split at task <;> exact absurd task (ensure_ne_subStep _ _ _ _ _ _)
          | incremental => exact conducted.2.elim
          | _ => simp [Operation.task?] at loads
      | resume => cases current
      | finish => cases current

theorem pinned_of_presents (presents : thread.Presents key) : key ∈ thread.pinned := by
  obtain ⟨rest, stack, rfl, -⟩ := presents
  exact List.mem_cons_self

theorem pinned_of_toTell {listener : Listener} {snapshot : Snapshot}
    (tells : (listener, snapshot) ∈ thread.toTell key) : key ∈ thread.pinned := by
  obtain ⟨task, stack⟩ := thread
  rcases List.mem_append.mp tells with tells | tells
  · refine List.mem_append_left _ (Option.mem_toList.mpr ?_)
    cases task with
    | announce unit target snapshot rest =>
        simp only [Task.toTell, List.mem_ite_nil_right] at tells
        exact congrArg some tells.1
    | _ => simp [Task.toTell] at tells
  · obtain ⟨waiting, below, tells⟩ := List.mem_flatMap.mp tells
    refine List.mem_append_right _ (List.mem_filterMap.mpr ⟨waiting, below, ?_⟩)
    cases waiting with
    | onListener unit target snapshot rest =>
        simp only [Waiting.toTell, List.mem_ite_nil_right] at tells
        exact congrArg some tells.1
    | _ => simp [Waiting.toTell] at tells

theorem pinned_of_driving (driving : level ∈ thread.driving key) :
    key ∈ thread.pinned := by
  obtain ⟨task, stack⟩ := thread
  rcases List.mem_append.mp driving with driving | driving
  · refine List.mem_append_left _ (Option.mem_toList.mpr ?_)
    cases task with
    | drive unit target phase =>
        cases phase with
        | raise | fail =>
            simp only [Task.driving, List.mem_ite_nil_right] at driving
            exact congrArg some driving.1
        | _ => simp [Task.driving] at driving
    | _ => simp [Task.driving] at driving
  · obtain ⟨waiting, below, driving⟩ := List.mem_flatMap.mp driving
    refine List.mem_append_right _ (List.mem_filterMap.mpr ⟨waiting, below, ?_⟩)
    cases waiting with
    | onSubStep unit target next =>
        simp only [Waiting.driving, List.mem_ite_nil_right] at driving
        exact congrArg some driving.1
    | _ => simp [Waiting.driving] at driving

end World

namespace Crew

variable {α : Type} {note : Noting α} {crew next : Crew} {past : List α}
  {setups : List Setup} {members : Nat} {me : ThreadId} {world : World}
  {thread : Thread} {request : Option Request} {key : UnitKey} {notice : Notice}
  {level : Level} {deeds : List Deed}

theorem owes_of_quiet (quiet : notice.isArrival = false) : crew.Owes key notice := by
  cases notice with
  | unitLoad | moduleLoad | moduleLoaded | unitLoaded => contradiction
  | _ => trivial

/-- Nothing is said about a unit that it does not owe. -/
theorem owes_of_told (framed : crew.Framed) (steered : (crew.thread me).Steered)
    (plays : crew.world.play me (crew.thread me) request = some (world, thread))
    (conducted : ∀ requested, request = some requested →
      Conduct.climbing crew me requested)
    (told : .told key notice ∈ crew.world.played (crew.thread me) request) :
    crew.Owes key notice := by
  rcases World.delivers_of_played plays conducted told with ⟨-, tells⟩ | quiet
  case inr => exact owes_of_quiet quiet
  cases tells with
  | quiet quiet => exact owes_of_quiet quiet
  | announces current =>
      refine Or.inr ⟨me, ?_⟩
      rw [current]
      simp [Thread.toTell, Task.toTell]
  | @performs _ level action rest stack current said =>
      have supports := framed.supports me
      rw [current] at supports steered
      have occupied : crew.Incomplete key level := by
        refine Or.inr ⟨me, ?_⟩
        rw [current]
        exact World.driving_of_subStep supports steered
      cases arrival : notice.isArrival with
      | false => exact owes_of_quiet arrival
      | true =>
          have listed := supports.2.1.subset List.mem_cons_self
          cases World.arrives_of_action listed said arrival with
          | unitLoad delivers untold | moduleLoad delivers untold =>
              exact ⟨untold, delivers ▸ occupied⟩
          | moduleLoaded loads shows =>
              exact Or.inr ⟨me, _, stack, loads ▸ current, by simp [shows]⟩

section

variable (member : me < crew.threads.length)
  (plays : crew.world.play me (crew.thread me) request = some (world, thread))
  (known : key < crew.world.unitCount)
include member plays known

theorem incomplete_play
    (incomplete : Incomplete ({ crew with world }.setThread me thread) key level) :
    crew.Incomplete key level := by
  have act := World.act_of_play plays
  rcases incomplete with low | ⟨you, driving⟩
  · exact Or.inl (Nat.lt_of_le_of_lt ((World.grows_act act).unit key known).level low)
  · rw [thread_acted member] at driving
    split at driving
    · rcases World.driving_act act driving with before | ⟨-, -, above⟩
      · exact Or.inr ⟨me, before⟩
      · refine Or.inl ?_
        have rank := Level.rank_of_next above
        rw [Level.lt_def]
        omega
    · exact Or.inr ⟨you, driving⟩

theorem unshown_play (supports : crew.world.Supports (crew.thread me))
    (conducted : ∀ requested, request = some requested →
      Conduct.climbing crew me requested)
    (unshown : Unshown ({ crew with world }.setThread me thread) key) :
    crew.Unshown key := by
  have grows := World.grows_act (World.act_of_play plays)
  rcases unshown with low | ⟨you, presents⟩
  · exact Or.inl (Nat.lt_of_le_of_lt (grows.unit key known).level low)
  · rw [thread_acted member] at presents
    split at presents
    · rcases World.presents_play plays supports conducted presents with before | low
      · exact Or.inr ⟨me, before⟩
      · exact Or.inl low
    · exact Or.inr ⟨you, presents⟩

theorem attended_play
    (conducted : ∀ requested, request = some requested →
      Conduct.climbing crew me requested)
    (attended : Attended ({ crew with world }.setThread me thread) key) :
    crew.Attended key := by
  have grows := World.grows_act (World.act_of_play plays)
  rcases attended with low | ⟨you, pinned⟩
  · exact Or.inl (Nat.lt_of_le_of_lt (grows.unit key known).level low)
  · rw [thread_acted member] at pinned
    split at pinned
    · rcases World.pinned_play_of_climbing plays conducted pinned with before | low
      · exact Or.inr ⟨me, before⟩
      · exact Or.inl low
    · exact Or.inr ⟨you, pinned⟩

/-- An act adds nothing to what a unit owes. -/
theorem owes_play (framed : crew.Framed)
    (conducted : ∀ requested, request = some requested →
      Conduct.climbing crew me requested)
    (owes : Owes ({ crew with world }.setThread me thread) key notice) :
    crew.Owes key notice := by
  have grows := (World.grows_act (World.act_of_play plays)).unit key known
  have free {kind : ListenerKind} (free : (world.unit key).latches.isSet kind = false) :
      (crew.world.unit key).latches.isSet kind = false :=
    Bool.eq_false_iff.mpr fun told => Bool.eq_false_iff.mp free (grows.told kind told)
  cases notice with
  | unitLoad config | moduleLoad =>
      exact ⟨free owes.1, incomplete_play member plays known owes.2⟩
  | moduleLoaded =>
      exact unshown_play member plays known (framed.supports me) conducted owes
  | unitLoaded listener snapshot =>
      rcases owes with ⟨untold, attended⟩ | ⟨you, tells⟩
      · exact Or.inl ⟨free untold, attended_play member plays known conducted attended⟩
      have attended : Attended ({ crew with world }.setThread me thread) key :=
        Or.inr ⟨you, World.pinned_of_toTell tells⟩
      rw [thread_acted member] at tells
      split at tells
      · cases World.announces_play plays (framed.supports me) key with
        | goesOn same =>
            refine Or.inr ⟨me, ?_⟩
            rw [← same]
            exact List.mem_append_right _ tells
        | starts there untold =>
            exact Or.inl ⟨untold, attended_play member plays known conducted attended⟩
      · exact Or.inr ⟨you, tells⟩
  | _ => trivial

end

theorem owes_collect
    (owes : Owes { crew with world := crew.world.collect crew.pinned } key notice) :
    crew.Owes key notice := by
  have untouched := World.untouched_collect crew.world crew.pinned key
  have incomplete {level : Level}
      (incomplete : Incomplete { crew with world := crew.world.collect crew.pinned } key
        level) : crew.Incomplete key level :=
    incomplete.imp_left fun low => untouched.level ▸ low
  cases notice with
  | unitLoad config | moduleLoad =>
      exact ⟨untouched.latches ▸ owes.1, incomplete owes.2⟩
  | moduleLoaded => exact owes.imp_left fun low => untouched.level ▸ low
  | unitLoaded listener snapshot =>
      refine owes.imp_left fun ⟨untold, attended⟩ => ⟨untouched.latches ▸ untold, ?_⟩
      exact attended.imp_left fun low => untouched.level ▸ low
  | _ => trivial

/-- From any point of a run on, nothing is said about a unit but what it owes there. -/
theorem owed_of_account {before more : List Deed}
    (run : Run .undirected (idle setups members) before crew)
    (known : key < crew.world.unitCount)
    (account : Account .climbing (fun world _ => world.played) crew more next) :
    (∀ notice, next.Owes key notice → crew.Owes key notice) ∧
      ∀ notice, .told key notice ∈ more → crew.Owes key notice := by
  induction account with
  | start => exact ⟨fun _ owes => owes, by simp⟩
  | collect account ih =>
      exact ⟨fun notice owes => ih.1 notice (owes_collect owes), ih.2⟩
  | @play between past me request world thread account member conducted plays ih =>
      obtain ⟨deeds, further⟩ := account.undirected
      have reached := run.trans further
      have framed := framed_run framed_idle reached
      have there : key < between.world.unitCount := Nat.lt_of_lt_of_le known
        (grows_run further).count
      refine ⟨fun notice owes => ih.1 notice
        (owes_play member plays there framed conducted owes), fun notice told => ?_⟩
      rcases List.mem_append.mp told with old | new
      · exact ih.2 notice old
      · exact ih.1 notice
          (owes_of_told framed (steered_of_run reached me) plays conducted new)

/-- An active unit that no thread works on owes nobody anything. -/
theorem rests_of_active (active : (crew.world.unit key).isActive = true)
    (unpinned : ∀ me, key ∉ (crew.thread me).pinned)
    (arrival : notice.isArrival = true) : ¬ crew.Owes key notice := by
  have high := LoadUnit.eq_active_of_isActive active
  have unattended : ¬ crew.Attended key := by
    rintro (low | ⟨me, pinned⟩)
    · rw [high] at low
      exact absurd low (by decide)
    · exact unpinned me pinned
  have delivered : ¬ crew.Incomplete key .deliverEvents := by
    rintro (low | ⟨me, driving⟩)
    · rw [high] at low
      exact absurd low (by decide)
    · exact unpinned me (World.pinned_of_driving driving)
  have shown : ¬ crew.Unshown key := by
    rintro (low | ⟨me, presents⟩)
    · rw [high] at low
      exact absurd low (by decide)
    · exact unpinned me (World.pinned_of_presents presents)
  cases notice with
  | unitLoad config | moduleLoad => exact fun owes => delivered owes.2
  | moduleLoaded => exact shown
  | unitLoaded listener snapshot =>
      rintro (⟨-, attended⟩ | ⟨me, tells⟩)
      · exact unattended attended
      · exact unpinned me (World.pinned_of_toTell tells)
  | _ => contradiction

end Crew

end LoadLadder
