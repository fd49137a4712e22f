import LoadLadder.Proofs.DomainIsolation
import LoadLadder.Proofs.OwedNotices

/-!
# Units that leave

A client may unload a unit wherever it is in its climb, and load it further.  The
registry forgets the unit, but drivers do not ask the registry.  They climb on, and
consumers are given what the unit owed them when it left.  So the debugger is told of
the unload of every unit that has left, unless it heard of the unit only afterwards.
This holds of clients with one thread.  That a unit is flagged for the debugger and that
the debugger is told of it are one act here, and a second thread could unload the unit
between the two.
-/

namespace LoadLadder

/-- What the debugger is told when what it was told of a load no longer holds. -/
def Notice.undoing? : Notice → Option Notice
  | unitLoad _ => some unitUnload
  | moduleLoad => some moduleUnload
  | _ => none

/-- What is noted of units that come and go. -/
inductive Remark
  | does (deed : Deed)
  /-- A unit is unloaded, in this state. -/
  | leaves (key : UnitKey) (unit : LoadUnit)

def Remark.deed? : Remark → Option Deed
  | does deed => some deed
  | leaves _ _ => none

def Remark.leaver? : Remark → Option UnitKey
  | does _ => none
  | leaves key _ => some key

/-- A thread is in the middle of the first sub-step of a unit and has these actions
left. -/
inductive Thread.Enters (key : UnitKey) (rest : List Action) : Thread → Prop
  | acts {stack : List Waiting} : Enters key rest ⟨.subStep key .begun rest, stack⟩
  | waits {task : Task} {stack : List Waiting} {waiting : Waiting}
      (below : waiting ∈ stack)
      (runs : waiting = .onHook key .begun rest ∨
        ∃ gateLifted, waiting = .onInitializer key .begun rest gateLifted) :
      Enters key rest ⟨task, stack⟩

namespace World

variable {world next : World} {me : ThreadId} {thread after : Thread}
  {request : Option Request} {key : UnitKey} {unit : LoadUnit} {notice undoing : Notice}
  {passed : List (UnitKey × Passage)}

/-- Who leaves when the client makes a request. -/
def departures (world : World) : Option Request → List Remark
  | some (.asks (.unload through key)) =>
      if (world.unloadUnit through key).2 then [.leaves key (world.unit key)] else []
  | _ => []

def remarks : Noting Remark := fun world _ thread request =>
  (world.played thread request).map .does ++ world.departures request

theorem unload_of_departures (leaves : .leaves key unit ∈ world.departures request) :
    unit = world.unit key ∧ ∃ through,
      request = some (.asks (.unload through key)) ∧
        (world.unloadUnit through key).2 = true := by
  unfold departures at leaves
  split at leaves
  · split at leaves
    · rename_i removed
      cases List.mem_singleton.mp leaves
      exact ⟨rfl, _, rfl, removed⟩
    · contradiction
  · contradiction

theorem deed_notMem_departures (deed : Deed) :
    .does deed ∉ world.departures request := by
  unfold departures
  split
  · split <;> simp
  · simp

theorem does_mem_remarks {deed : Deed} :
    .does deed ∈ world.remarks me thread request ↔
      deed ∈ world.played thread request := by
  simp [remarks, deed_notMem_departures]

theorem leaves_mem_remarks :
    .leaves key unit ∈ world.remarks me thread request ↔
      .leaves key unit ∈ world.departures request := by
  simp [remarks]

theorem deeds_remarks :
    (world.remarks me thread request).filterMap Remark.deed? =
      world.played thread request := by
  have none : (world.departures request).filterMap Remark.deed? = [] := by
    unfold departures
    split
    · split <;> rfl
    · rfl
  have all : (world.played thread request).filterMap (Remark.deed? ∘ .does) =
      world.played thread request :=
    List.filterMap_some
  rw [remarks, List.filterMap_append, none, List.append_nil, List.filterMap_map, all]

/-- A thread that gets on with the first sub-step of a unit registers the unit first. -/
theorem enters_stepped {done : Prop} {rest : List Action}
    (stepped : world.Stepped me thread next after)
    (before : ∀ rest, thread.Enters key rest → .register ∈ rest ∨ done)
    (registers : ∀ rest stack,
      thread = ⟨.subStep key .begun (.register :: rest), stack⟩ → done)
    (enters : after.Enters key rest) : .register ∈ rest ∨ done := by
  cases stepped with
  | climbs =>
      cases enters with
      | acts => exact Or.inl (by simp [Level.actions])
      | waits below runs =>
          rcases List.mem_cons.mp below with rfl | below
          · simp at runs
          · exact before _ (.waits below runs)
  | @performed unit level action rest next stack =>
      cases enters with
      | acts =>
          by_cases registering : action = .register
          · subst registering
            exact Or.inr (registers _ _ rfl)
          · refine (before _ .acts).imp_left fun left => ?_
            exact (List.mem_cons.mp left).resolve_left (Ne.symm registering)
      | waits below runs => exact before _ (.waits below runs)
  | @initializes unit level rest task stack runs =>
      cases enters with
      | acts => rcases runs with ⟨-, same⟩ | ⟨-, same⟩ <;> cases same
      | waits below runs =>
          rcases List.mem_cons.mp below with rfl | below
          · obtain same | ⟨gateLifted, same⟩ := runs <;> cases same
            exact (before _ .acts).imp_left fun left => by simpa using left
          · exact before _ (.waits below runs)
  | reported goes =>
      rcases goes with ⟨-, rfl⟩ | ⟨-, rfl⟩
      · cases enters with
        | acts => exact (before _ .acts).imp_left fun left => by simpa using left
        | waits below runs => exact before _ (.waits below runs)
      · cases enters with
        | waits below runs =>
            rcases List.mem_cons.mp below with rfl | below
            · obtain same | ⟨gateLifted, same⟩ := runs <;> cases same
              exact (before _ .acts).imp_left fun left => by simpa using left
            · exact before _ (.waits below runs)
  | activates =>
      generalize first : Task.ensure _ _ _ _ = task at enters
      cases enters with
      | acts => exact absurd first (ensure_ne_subStep _ _ _ _ _ _)
      | waits below runs =>
          rcases List.mem_cons.mp below with rfl | below
          · simp at runs
          · exact before _ (.waits below runs)
  | initialized =>
      cases enters with
      | acts => exact before _ (.waits List.mem_cons_self (Or.inr ⟨_, rfl⟩))
      | waits below runs => exact before _ (.waits (List.mem_cons_of_mem _ below) runs)
  | hooked =>
      cases enters with
      | acts => exact before _ (.waits List.mem_cons_self (Or.inl rfl))
      | waits below runs => exact before _ (.waits (List.mem_cons_of_mem _ below) runs)
  | tellsClient =>
      cases enters with
      | waits below runs =>
          rcases List.mem_cons.mp below with rfl | below
          · simp at runs
          · exact before _ (.waits below runs)
  | _ =>
      cases enters with
      | waits below runs => exact before _ (.waits (by simp [below]) runs)

theorem enters_call {other : UnitKey} {task : Task} {rest : List Action}
    (begins : Task.Begins world other task)
    (enters : (thread.call task).Enters key rest) :
    .register ∈ rest ∨ thread.Enters key rest := by
  obtain ⟨current, stack⟩ := thread
  have starts (rest : List Action) (same : task = .subStep key .begun rest) :
      .register ∈ rest := by
    cases begins <;> cases same
    simp [Level.actions]
  unfold Thread.call at enters
  split at enters
  · cases enters with
    | acts => exact Or.inl (starts _ rfl)
    | waits below runs =>
        rcases List.mem_cons.mp below with rfl | below
        · simp at runs
        · exact Or.inr (.waits below runs)
  · cases enters with
    | acts => exact Or.inl (starts _ rfl)
    | waits below runs => exact Or.inr (.waits below runs)

theorem enters_play {done : Prop} {rest : List Action}
    (plays : world.play me thread request = some (next, after))
    (before : ∀ rest, thread.Enters key rest → .register ∈ rest ∨ done)
    (registers : ∀ rest stack, request = none →
      thread = ⟨.subStep key .begun (.register :: rest), stack⟩ → done)
    (enters : after.Enters key rest) : .register ∈ rest ∨ done := by
  cases request with
  | none =>
      exact enters_stepped (stepped_of_step plays) before
        (fun rest stack => registers rest stack rfl) enters
  | some requested =>
      cases granted_of_play plays with
      | operate => exact before _ enters
      | call operation turn granted loads =>
          obtain ⟨unit, begins⟩ := begins_of_loads loads
          exact (enters_call begins enters).elim Or.inl (before _)
      | resume answered =>
          subst answered
          cases enters with
          | waits below runs => exact before _ (.waits (by simp [below]) runs)
      | finish result called =>
          subst called
          cases enters with
          | waits below runs => exact before _ (.waits below runs)

/-- A thread that completes the first sub-step of a unit has nothing left of it. -/
theorem enters_of_completed
    (completed : .completed key .begun ∈ world.played thread request)
    (plays : world.play me thread request = some (next, after)) :
    thread.Enters key [] := by
  cases request with
  | none =>
      obtain ⟨task, stack⟩ := thread
      simp only [played, deeds] at completed
      split at completed
      · simp at completed
      · cases List.mem_singleton.mp completed
        exact .acts
      · rename_i unit level action rest
        cases action with
        | publish =>
            simp only [actionDeeds] at completed
            split at completed <;> simp at completed
        | _ => simp [actionDeeds] at completed
      · simp at completed
      · simp at completed
  | some requested =>
      cases granted_of_play plays with
      | operate operation turn granted instant =>
          simp only [played, instant] at completed
          cases operation with
          | unload | debuggerLoad =>
              simp only [Operation.deeds] at completed
              split at completed
              · simp at completed
              · first
                | split at completed <;> simp at completed
                | simp at completed
          | _ => simp [Operation.deeds] at completed
      | call operation turn granted loads => simp [played, loads] at completed
      | resume | finish => simp [played] at completed

/-- A registered unit stays registered until it leaves. -/
theorem stays_or_leaves (files : world.Files next thread after request passed)
    (grows : world.Grows next) (catalogued : world.Catalogued)
    (numbered : world.Numbered) (known : key < world.unitCount)
    (registered : world.isRegistered key = true) :
    next.isRegistered key = true ∨
      .leaves key (world.unit key) ∈ world.departures request := by
  have later := catalogued_files files grows catalogued numbered
  have kept (same : (next.domain (world.unit key).home).registry =
      (world.homeOf key).registry) : next.isRegistered key = true :=
    (isRegistered_congr (grows.unit key known).home same).trans registered
  cases files with
  | rests undisturbed => exact Or.inl (kept (undisturbed.registry _))
  | registers there pinned done =>
      rw [done, isRegistered_registerUnit catalogued numbered there]
      exact Or.inl (Or.inr registered)
  | binds there done | releases held done =>
      subst done
      exact Or.inl (kept rfl)
  | makes done =>
      subst done
      exact Or.inl (kept (registry_createUnit world _ _ _ _).1)
  | @unloads through unloaded there asked done =>
      rw [asked, departures]
      cases removed : (world.unloadUnit through unloaded).2 with
      | false =>
          rw [done, unloadUnit_of_kept catalogued numbered there removed]
          exact Or.inl registered
      | true =>
          have unloads := unloads_of_removed catalogued numbered there removed
          rw [← done] at unloads
          have iff := isRegistered_of_unloads catalogued numbered there unloads later key
          by_cases same : key = unloaded
          · subst same
            exact Or.inr (by simp)
          · exact Or.inl (iff.mpr ⟨same, registered⟩)

/-- A request to unload a unit that is there is granted at once. -/
theorem unloads_of_play {through : DomainKey}
    (plays : world.play me thread (some (.asks (.unload through key))) =
      some (next, after)) :
    key < world.unitCount ∧ next = (world.unloadUnit through key).1 := by
  cases granted_of_play plays with
  | call operation turn granted loads => simp [Operation.task?] at loads
  | operate operation turn granted instant => exact ⟨known_of_granted granted rfl, rfl⟩

/-- The debugger is told of what leaves, and nothing else is said. -/
theorem played_of_removed (catalogued : world.Catalogued) (numbered : world.Numbered)
    (known : key < world.unitCount) {through : DomainKey}
    (removed : (world.unloadUnit through key).2 = true) :
    world.played thread (some (.asks (.unload through key))) =
      (world.unloadNotices key).map (.told key) := by
  rcases unloadUnit_cases catalogued numbered known through with
    ⟨rfl, registered, -⟩ | ⟨-, result⟩
  · have found := registered?_eq catalogued numbered known
    rw [if_pos registered, homeOf] at found
    simp [played, Operation.task?, Operation.deeds, found]
  · rw [result] at removed
    contradiction

theorem undone_of_departures (catalogued : world.Catalogued)
    (numbered : world.Numbered) (known : key < world.unitCount)
    (attached : (world.sinksOf key).isDebuggerAttached = true)
    (undoes : notice.undoing? = some undoing)
    (leaves : .leaves key unit ∈ world.departures request) :
    .does (.told key undoing) ∈ world.remarks me thread request := by
  obtain ⟨-, through, rfl, removed⟩ := unload_of_departures leaves
  rw [does_mem_remarks, played_of_removed catalogued numbered known removed,
    unloadNotices, if_pos attached]
  cases notice <;> cases undoes <;> simp

/-- A load is told of in the sub-step that delivers events, if the unit has not been
flagged before. -/
theorem delivers_of_load {crew : Crew}
    (plays : world.play me thread request = some (next, after))
    (conducted : ∀ requested, request = some requested →
      Conduct.climbing crew me requested)
    (supports : world.Supports thread) (undoes : notice.undoing? = some undoing)
    (told : .told key notice ∈ world.played thread request) :
    request = none ∧
      (∃ rest stack, thread = ⟨.subStep key .deliverEvents rest, stack⟩) ∧
      (world.unit key).latches.isSet .debugger = false ∧
      (world.sinksOf key).isDebuggerAttached = true := by
  have arrival : notice.isArrival = true := by cases notice <;> cases undoes <;> rfl
  rcases delivers_of_played plays conducted told with ⟨steps, delivers⟩ | quiet
  · refine ⟨steps, ?_⟩
    cases delivers with
    | quiet quiet => simp [arrival] at quiet
    | announces => cases undoes
    | @performs _ level action rest stack current said =>
        rw [current] at supports
        have listed := supports.2.1.subset List.mem_cons_self
        cases arrives_of_action listed said arrival with
        | unitLoad delivers untold attached | moduleLoad delivers untold attached =>
            exact ⟨⟨_, stack, delivers ▸ current⟩, untold, attached⟩
        | moduleLoaded => cases undoes
  · simp [arrival] at quiet

end World

namespace Crew

variable {conduct : Conduct} {first crew next : Crew} {past front back : List Remark}
  {setups : List Setup} {members : Nat} {deeds : List Deed} {key : UnitKey}
  {undoing : Notice}

theorem Account.run_of_remarks
    (account : Account .climbing World.remarks first past crew) :
    Run .undirected first (past.filterMap Remark.deed?) crew := by
  induction account with
  | start => exact .start
  | play account member conducted plays ih =>
      rw [List.filterMap_append, World.deeds_remarks]
      exact ih.snoc (.act member (World.act_of_asked plays
        fun operation same => undirected_of_climbing (conducted _ same)))
  | collect account ih => simpa using ih.snoc .collect

/-- Where all sub-steps have drivers, no driver is bypassed. -/
theorem unbypassed_run (run : Run .undirected (idle setups members) deeds crew) :
    .bypassed key ∉ deeds := by
  induction run with
  | start => simp
  | @snoc crew next before deeds run move ih =>
      refine fun bypassed => (List.mem_append.mp bypassed).elim ih fun now => ?_
      cases move with
      | collect => contradiction
      | @act me _ _ _ member act =>
          obtain ⟨level, rest, stack, current, undriven, -⟩ :=
            World.publishes_of_act act now
          have driven := (steered_of_run run me).task key level _ (by rw [current])
          rw [current, undriven] at driven
          contradiction

/-- The unit is in the registry, or has left it, unless its domain is gone. -/
def Joined (crew : Crew) (key : UnitKey) (past : List Remark) : Prop :=
  key < crew.world.unitCount ∧ ((crew.world.homeOf key).held = true →
    crew.world.isRegistered key = true ∨ ∃ unit, .leaves key unit ∈ past)

/-- Between two parts of an account the debugger may be told of a load: that is undone
later, or the unit had left before without having been flagged for the debugger. -/
def Offset (key : UnitKey) (front back : List Remark) (undoing : Notice) : Prop :=
  .does (.told key undoing) ∈ back ∨
    ∃ unit, .leaves key unit ∈ front ∧ unit.latches.isSet .debugger = false

/-- What an account has of a unit fits the registry and the latches. -/
structure Ledger (crew : Crew) (key : UnitKey) (past : List Remark) : Prop where
  /-- Whoever is in the first sub-step has yet to register the unit or has done so. -/
  entering : ∀ me rest, (crew.thread me).Enters key rest →
    .register ∈ rest ∨ crew.Joined key past
  entered : .does (.completed key .begun) ∈ past → crew.Joined key past
  flagged : ∀ unit, .leaves key unit ∈ past → key < crew.world.unitCount ∧
    (unit.latches.isSet .debugger = true →
      (crew.world.unit key).latches.isSet .debugger = true)
  /-- The debugger will be told of the unload of whatever is registered. -/
  loads : ∀ front notice undoing back,
    past = front ++ .does (.told key notice) :: back →
    notice.undoing? = some undoing →
      key < crew.world.unitCount ∧
        (crew.world.sinksOf key).isDebuggerAttached = true ∧
        ((crew.world.homeOf key).held = true →
          crew.world.isRegistered key = true ∨ Offset key front back undoing)

theorem ledger_idle : (idle setups members).Ledger key [] where
  entering := by
    intro me rest enters
    rw [thread_idle] at enters
    cases enters with
    | waits below => simp at below
  entered := by simp
  flagged := by simp
  loads := by simp

/-- A driver that delivers the events of a unit has seen it join. -/
theorem Ledger.joined_of_delivering {me : ThreadId} {rest : List Action}
    {stack : List Waiting} (ledger : crew.Ledger key past)
    (run : Run .undirected (idle setups members) (past.filterMap Remark.deed?) crew)
    (delivers : crew.thread me = ⟨.subStep key .deliverEvents rest, stack⟩) :
    crew.Joined key past := by
  have supports := (framed_run framed_idle run).supports me
  have steered := steered_of_run run me
  have ordered := ordered_run run (@unbypassed_run _ _ _ _ key run)
  rw [delivers] at supports steered
  have driving := World.driving_of_subStep supports steered
  rw [← delivers] at driving
  have begun := ordered.driving me _ driving .begun (by decide) (by decide)
  obtain ⟨remark, noted, same⟩ := List.mem_filterMap.mp begun
  cases remark with
  | does deed =>
      cases same
      exact ledger.entered noted
  | leaves => contradiction

section

variable {me : ThreadId} {world : World} {thread : Thread} {request : Option Request}
  (plays : crew.world.play me (crew.thread me) request = some (world, thread))
  (framed : crew.Framed)
include plays framed

theorem held_of_play (known : key < crew.world.unitCount)
    (held : (world.homeOf key).held = true) : (crew.world.homeOf key).held = true := by
  have grows := World.grows_act (World.act_of_play plays)
  rw [World.homeOf, (grows.unit key known).home] at held
  exact World.held_files (World.files_play plays (framed.supports me)) _ held

omit framed in
theorem attached_play (known : key < crew.world.unitCount) :
    (world.sinksOf key).isDebuggerAttached =
      (crew.world.sinksOf key).isDebuggerAttached := by
  have grows := World.grows_act (World.act_of_play plays)
  rw [World.sinksOf, World.homeOf, (grows.unit key known).home,
    (World.plugs_play plays _).1]
  rfl

variable (numbered : crew.world.Numbered) (catalogued : crew.world.Catalogued)
include numbered catalogued

theorem registered_play (known : key < crew.world.unitCount)
    (registered : crew.world.isRegistered key = true) :
    world.isRegistered key = true ∨
      .leaves key (crew.world.unit key) ∈
        crew.world.remarks me (crew.thread me) request := by
  rw [World.leaves_mem_remarks]
  exact World.stays_or_leaves (World.files_play plays (framed.supports me))
    (World.grows_act (World.act_of_play plays)) catalogued numbered known registered

theorem joined_play (joined : crew.Joined key past) :
    Joined ({ crew with world }.setThread me thread) key
      (past ++ crew.world.remarks me (crew.thread me) request) := by
  have grows := World.grows_act (World.act_of_play plays)
  refine ⟨Nat.lt_of_lt_of_le joined.1 grows.count, fun held => ?_⟩
  rcases joined.2 (held_of_play plays framed joined.1 held) with registered | ⟨unit, left⟩
  · refine (registered_play plays framed numbered catalogued joined.1 registered).imp_right
      fun leaves => ⟨_, List.mem_append_right _ leaves⟩
  · exact Or.inr ⟨unit, List.mem_append_left _ left⟩

theorem joined_of_registering {rest : List Action} {stack : List Waiting}
    (steps : request = none)
    (registers : crew.thread me = ⟨.subStep key .begun (.register :: rest), stack⟩) :
    Joined ({ crew with world }.setThread me thread) key
      (past ++ crew.world.remarks me (crew.thread me) request) := by
  have supports := framed.supports me
  subst steps
  rw [registers] at plays supports
  have known := supports.1
  cases plays
  refine ⟨known, fun _ => Or.inl ?_⟩
  exact (World.isRegistered_registerUnit catalogued numbered known key).mpr (Or.inl rfl)

omit framed numbered catalogued in
/-- A unit that was flagged for the debugger when it left still is. -/
theorem flagged_play (ledger : crew.Ledger key past) {unit : LoadUnit}
    (left : .leaves key unit ∈ past ++ crew.world.remarks me (crew.thread me) request) :
    key < world.unitCount ∧ (unit.latches.isSet .debugger = true →
      (world.unit key).latches.isSet .debugger = true) := by
  have grows := World.grows_act (World.act_of_play plays)
  rcases List.mem_append.mp left with old | new
  · obtain ⟨known, told⟩ := ledger.flagged unit old
    exact ⟨Nat.lt_of_lt_of_le known grows.count,
      fun flagged => (grows.unit key known).told _ (told flagged)⟩
  · obtain ⟨rfl, through, rfl, -⟩ :=
      World.unload_of_departures (World.leaves_mem_remarks.mp new)
    have known := (World.unloads_of_play plays).1
    exact ⟨Nat.lt_of_lt_of_le known grows.count, (grows.unit key known).told _⟩

/-- A unit that leaves after the debugger was told of a load leaves with the unload. -/
theorem offset_play {notice : Notice} (ledger : crew.Ledger key past)
    (split : past = front ++ .does (.told key notice) :: back)
    (undoes : notice.undoing? = some undoing)
    (held : (world.homeOf key).held = true) :
    world.isRegistered key = true ∨ Offset key front
      (back ++ crew.world.remarks me (crew.thread me) request) undoing := by
  obtain ⟨known, attached, offset⟩ := ledger.loads front notice undoing back split undoes
  rcases offset (held_of_play plays framed known held) with registered | undone | left
  · refine (registered_play plays framed numbered catalogued known registered).imp_right
      fun leaves => Or.inl (List.mem_append_right _ ?_)
    exact World.undone_of_departures catalogued numbered known attached undoes
      (World.leaves_mem_remarks.mp leaves)
  · exact Or.inr (Or.inl (List.mem_append_left _ undone))
  · exact Or.inr (Or.inr left)

section

variable (conducted : ∀ requested, request = some requested →
    Conduct.climbing crew me requested)
  (run : Run .undirected (idle setups members) (past.filterMap Remark.deed?) crew)
  (ledger : crew.Ledger key past)
include conducted run ledger

/-- A unit that the debugger is told of is registered, or it left before it was
flagged. -/
theorem offset_of_told {notice : Notice} (undoes : notice.undoing? = some undoing)
    (told : .told key notice ∈ crew.world.played (crew.thread me) request) :
    key < crew.world.unitCount ∧
      (crew.world.sinksOf key).isDebuggerAttached = true ∧
      ((world.homeOf key).held = true → world.isRegistered key = true ∨
        ∃ unit, .leaves key unit ∈ past ∧ unit.latches.isSet .debugger = false) := by
  obtain ⟨steps, ⟨rest, stack, delivers⟩, untold, attached⟩ :=
    World.delivers_of_load plays conducted (framed.supports me) undoes told
  obtain ⟨known, joined⟩ := ledger.joined_of_delivering run delivers
  refine ⟨known, attached, fun held => ?_⟩
  rcases joined (held_of_play plays framed known held) with registered | ⟨unit, left⟩
  · -- Nobody leaves in a step of the loader.
    refine (registered_play plays framed numbered catalogued known registered).imp_right
      fun leaves => ?_
    obtain ⟨-, through, asked, -⟩ :=
      World.unload_of_departures (World.leaves_mem_remarks.mp leaves)
    rw [steps] at asked
    contradiction
  · refine Or.inr ⟨unit, left, Bool.eq_false_iff.mpr fun flagged => ?_⟩
    rw [(ledger.flagged unit left).2 flagged] at untold
    contradiction

theorem ledger_play (member : me < crew.threads.length) :
    Ledger ({ crew with world }.setThread me thread) key
      (past ++ crew.world.remarks me (crew.thread me) request) := by
  have grows := World.grows_act (World.act_of_play plays)
  have joins (joined : crew.Joined key past) :=
    joined_play plays framed numbered catalogued joined
  have there (known : key < crew.world.unitCount) : key < world.unitCount :=
    Nat.lt_of_lt_of_le known grows.count
  refine ⟨fun you rest enters => ?_, fun completed => ?_,
    fun unit => flagged_play plays ledger, ?_⟩
  · rw [thread_acted member] at enters
    split at enters
    · exact World.enters_play plays
        (fun rest enters => (ledger.entering me rest enters).imp_right joins)
        (fun rest stack steps registers =>
          joined_of_registering plays framed numbered catalogued steps registers) enters
    · exact (ledger.entering you rest enters).imp_right joins
  · rcases List.mem_append.mp completed with old | new
    · exact joins (ledger.entered old)
    · have enters := World.enters_of_completed (World.does_mem_remarks.mp new) plays
      exact joins ((ledger.entering me [] enters).resolve_left (by simp))
  · intro front notice undoing back split undoes
    rcases split_of_append split with ⟨rest, old, rfl⟩ | ⟨more, rfl, new⟩
    · obtain ⟨known, attached, -⟩ := ledger.loads front notice undoing rest old undoes
      exact ⟨there known, (attached_play plays known).trans attached,
        offset_play plays framed numbered catalogued ledger old undoes⟩
    · have noted : .does (.told key notice) ∈
          crew.world.remarks me (crew.thread me) request :=
        new ▸ List.mem_append_right _ List.mem_cons_self
      obtain ⟨known, attached, offset⟩ := offset_of_told plays framed numbered catalogued
        conducted run ledger undoes (World.does_mem_remarks.mp noted)
      refine ⟨there known, (attached_play plays known).trans attached, fun held => ?_⟩
      exact (offset held).imp_right fun ⟨unit, left, unflagged⟩ =>
        Or.inr ⟨unit, List.mem_append_left _ left, unflagged⟩

end

end

theorem ledger_collect (ledger : crew.Ledger key past) :
    Ledger { crew with world := crew.world.collect crew.pinned } key past := by
  have still := (World.alike_collect crew.world crew.pinned).still
  have untouched := World.untouched_collect crew.world crew.pinned key
  have known (before : key < crew.world.unitCount) :
      key < (crew.world.collect crew.pinned).unitCount :=
    Nat.lt_of_lt_of_eq before still.count.symm
  have joins (joined : crew.Joined key past) :
      Joined { crew with world := crew.world.collect crew.pinned } key past := by
    refine ⟨known joined.1, fun held => ?_⟩
    obtain ⟨before, same⟩ := World.isRegistered_collect held
    exact (joined.2 before).imp_left same.trans
  refine ⟨fun me rest enters => (ledger.entering me rest enters).imp_right joins,
    fun completed => joins (ledger.entered completed), fun unit left => ?_, ?_⟩
  · obtain ⟨before, told⟩ := ledger.flagged unit left
    exact ⟨known before, fun flagged => untouched.latches ▸ told flagged⟩
  · intro front notice undoing back split undoes
    obtain ⟨before, attached, offset⟩ := ledger.loads front notice undoing back split undoes
    refine ⟨known before, ?_, fun held => ?_⟩
    · rw [← attached]
      exact congrArg Sinks.isDebuggerAttached
        ((congrArg (fun home => ((crew.world.collect crew.pinned).domain home).sinks)
          (still.unit key).home).trans (still.domain _).sinks)
    · obtain ⟨before, same⟩ := World.isRegistered_collect held
      exact (offset before).imp_left same.trans

theorem ledger_of_account
    (account : Account .climbing World.remarks (idle setups members) past crew)
    (key : UnitKey) : crew.Ledger key past := by
  induction account with
  | start => exact ledger_idle
  | collect account ih => exact ledger_collect ih
  | play account member conducted plays ih =>
      have run := account.run_of_remarks
      exact ledger_play plays (framed_run framed_idle run) (numbered_run run)
        (catalogued_of_account account) conducted run ih member

/-- The client unloads a unit. -/
inductive Dismisses (crew : Crew) (key : UnitKey) : Crew → Prop
  | unload {me : ThreadId} {through : DomainKey} {world : World} {thread : Thread}
      (member : me < crew.threads.length)
      (plays : crew.world.play me (crew.thread me)
        (some (.asks (.unload through key))) = some (world, thread))
      (removed : (crew.world.unloadUnit through key).2 = true) :
      Dismisses crew key ({ crew with world }.setThread me thread)

/-- What becomes of a unit that leaves, and what consumers hear of it. -/
structure Departs (crew : Crew) (key : UnitKey) (past : List Remark) : Prop where
  gone : ∀ next, crew.Dismisses key next → next.world.isRegistered key = false
  /-- From then on consumers are given what the unit owed them when it left. -/
  owed : ∀ next more last, crew.Dismisses key next →
    Account .climbing (fun world _ => world.played) next more last →
    ∀ notice, .told key notice ∈ more → crew.Owes key notice
  /-- An active unit that no thread works on leaves in silence. -/
  rests : (crew.world.unit key).isActive = true →
    (∀ me, key ∉ (crew.thread me).pinned) →
    ∀ notice, notice.isArrival = true → ¬ crew.Owes key notice
  /-- What the debugger was told of loads of a unit that is not registered is undone, but
  for a unit that it first heard of after the unit had left. -/
  undone : (crew.world.homeOf key).held = true → crew.world.isRegistered key = false →
    ∀ front notice undoing back, past = front ++ .does (.told key notice) :: back →
      notice.undoing? = some undoing → Offset key front back undoing

theorem gone_of_dismisses (catalogued : crew.world.Catalogued)
    (numbered : crew.world.Numbered) (framed : crew.Framed)
    (dismisses : crew.Dismisses key next) : next.world.isRegistered key = false := by
  cases dismisses with
  | @unload me through world thread member plays removed =>
      have files := World.files_play plays (framed.supports me)
      have later := World.catalogued_files files
        (World.grows_act (World.act_of_play plays)) catalogued numbered
      obtain ⟨known, rfl⟩ := World.unloads_of_play plays
      have unloads := World.unloads_of_removed catalogued numbered known removed
      refine Bool.eq_false_iff.mpr fun registered => ?_
      exact ((World.isRegistered_of_unloads catalogued numbered known unloads later
        key).mp registered).1 rfl

theorem owed_of_dismisses {more : List Deed} {last : Crew} {notice : Notice}
    (run : Run .undirected (idle setups members) deeds crew)
    (dismisses : crew.Dismisses key next)
    (account : Account .climbing (fun world _ => world.played) next more last)
    (told : .told key notice ∈ more) : crew.Owes key notice := by
  cases dismisses with
  | @unload me through world thread member plays removed =>
      have conducted : ∀ requested,
          some (Request.asks (.unload through key)) = some requested →
            Conduct.climbing crew me requested := by
        rintro _ ⟨⟩
        exact ⟨trivial, trivial⟩
      have framed := framed_run framed_idle run
      have further := run.snoc (.act member (World.act_of_asked plays
        fun operation same => undirected_of_climbing (conducted _ same)))
      have known := (World.unloads_of_play plays).1
      have there := (World.grows_act (World.act_of_play plays)).count
      exact owes_play member plays known framed conducted
        ((owed_of_account further (Nat.lt_of_lt_of_le known there) account).2 notice told)

/-- A thread loads and unloads units, also from within callbacks.  A unit that leaves
keeps to what it owes, and the debugger is told that it is gone, unless it hears of the
unit later. -/
theorem units_depart
    (account : Account .climbing World.remarks (idle setups 1) past crew)
    (key : UnitKey) : crew.Departs key past := by
  have run := account.run_of_remarks
  have framed := framed_run framed_idle run
  have catalogued := catalogued_of_account account
  refine ⟨fun next => gone_of_dismisses catalogued (numbered_run run) framed,
    fun next more last dismisses later notice => owed_of_dismisses run dismisses later,
    fun active unpinned notice => rests_of_active active unpinned, ?_⟩
  intro held unregistered front notice undoing back split undoes
  obtain ⟨-, -, offset⟩ :=
    (ledger_of_account account key).loads front notice undoing back split undoes
  exact (offset held).resolve_left (by simp [unregistered])

/-- A client that unloads one unit when it is active and another in the middle of its
climb, and loads the second one further. -/
def parts : List Cue :=
  [.asks 0 (.create 0 { name := "App" } { name := "App" }),
    .asks 0 (.create 0 { name := "Lib" } { name := "Lib" }),
    .asks 0 (.ensure 0 0 .active)] ++ Cue.climbs 0 85 ++
  [.asks 0 (.unload 0 0), .asks 0 (.ensure 0 1 .eagerFixups)] ++ Cue.climbs 0 36 ++
  [.asks 0 (.unload 0 1), .asks 0 (.ensure 0 1 .active)] ++ Cue.climbs 0 53

theorem parts_enacted :
    ((idle [.observed] 1).enactAll Conduct.climbing parts).isSome = true := by
  decide +kernel

def parted : Crew :=
  ((idle [.observed] 1).enactAll Conduct.climbing parts).get parts_enacted

theorem units_depart_parted :
    Account .climbing World.remarks (idle [.observed] 1)
        ([] ++ (idle [.observed] 1).notedAll World.remarks parts) parted ∧
      (∀ key, parted.Departs key
        ([] ++ (idle [.observed] 1).notedAll World.remarks parts)) ∧
      (parted.world.domain 0).registry = [] ∧
      parted.world.events.filter (fun event =>
        match event with
        | .debuggerUnitLoad _ _ | .debuggerUnitUnload _ | .unitLoaded _ => true
        | _ => false) =
        [.debuggerUnitLoad "App" {}, .unitLoaded "App", .debuggerUnitUnload "App",
          .debuggerUnitUnload "Lib", .debuggerUnitLoad "Lib" {}, .unitLoaded "Lib"] := by
  have account : Account .climbing World.remarks (idle [.observed] 1)
      ([] ++ (idle [.observed] 1).notedAll World.remarks parts) parted :=
    Account.start.enactAll (Option.some_get parts_enacted).symm
  exact ⟨account, units_depart account, by decide +kernel, by decide +kernel⟩

/-- A client that unloads a unit in the middle of its climb and loads it further. -/
def strays : List Cue :=
  [.asks 0 (.create 0 { name := "App" } { name := "App" }),
    .asks 0 (.ensure 0 0 .eagerFixups)] ++ Cue.climbs 0 36 ++
  [.asks 0 (.unload 0 0), .asks 0 (.ensure 0 0 .active)] ++ Cue.climbs 0 6

theorem strays_enacted :
    ((idle [.observed] 1).enactAll Conduct.climbing strays).isSome = true := by
  decide +kernel

/-- The unit has left and is about to be flagged for the debugger. -/
def strayed : Crew :=
  ((idle [.observed] 1).enactAll Conduct.climbing strays).get strays_enacted

theorem returns_enacted :
    (strayed.enactAll Conduct.climbing (Cue.climbs 0 47)).isSome = true := by
  decide +kernel

/-- The unit is active. -/
def returned : Crew :=
  (strayed.enactAll Conduct.climbing (Cue.climbs 0 47)).get returns_enacted

/-- Consumers hear of a unit that is not registered any more, and the debugger is not
told that what it hears of is gone. -/
theorem departed_unit_is_introduced :
    (¬ ∀ past crew, Account .climbing World.remarks (idle [.observed] 1) past crew →
      (∃ unit, .leaves 0 unit ∈ past) → crew.world.isRegistered 0 = false →
      ∀ notice, notice.isArrival = true →
        .told 0 notice ∉ crew.world.deeds (crew.thread 0)) ∧
    ¬ ∀ past crew, Account .climbing World.remarks (idle [.observed] 1) past crew →
      crew.world.isRegistered 0 = false →
      ∀ front notice undoing back, past = front ++ .does (.told 0 notice) :: back →
        notice.undoing? = some undoing → .does (.told 0 undoing) ∈ back := by
  have account : Account .climbing World.remarks (idle [.observed] 1)
      ([] ++ (idle [.observed] 1).notedAll World.remarks strays) strayed :=
    Account.start.enactAll (Option.some_get strays_enacted).symm
  have later : Account .climbing World.remarks (idle [.observed] 1)
      ([] ++ (idle [.observed] 1).notedAll World.remarks strays ++
        strayed.notedAll World.remarks (Cue.climbs 0 47)) returned :=
    account.enactAll (Option.some_get returns_enacted).symm
  constructor
  · intro silent
    have left : 0 ∈ ([] ++ (idle [.observed] 1).notedAll World.remarks strays).filterMap
        Remark.leaver? := by
      decide +kernel
    obtain ⟨remark, noted, same⟩ := List.mem_filterMap.mp left
    cases remark with
    | does => contradiction
    | leaves key unit =>
        cases same
        exact silent _ _ account ⟨unit, noted⟩ (by decide +kernel) .moduleLoad rfl
          (by decide +kernel)
  · intro undone
    generalize noted : ([] ++ (idle [.observed] 1).notedAll World.remarks strays ++
      strayed.notedAll World.remarks (Cue.climbs 0 47)) = past at later
    have told : .told 0 .moduleLoad ∈ past.filterMap Remark.deed? := by
      rw [← noted]
      decide +kernel
    -- The unload comes first.
    have order : (past.filterMap Remark.deed?).Pairwise fun earlier later =>
        earlier = .told 0 .moduleLoad → later ≠ .told 0 .moduleUnload := by
      rw [← noted]
      decide +kernel
    obtain ⟨remark, member, same⟩ := List.mem_filterMap.mp told
    cases remark with
    | leaves => contradiction
    | does deed =>
        cases same
        obtain ⟨front, back, split⟩ := List.append_of_mem member
        have gone := undone past returned later (by decide +kernel) front .moduleLoad
          .moduleUnload back split rfl
        rw [split, List.filterMap_append] at order
        have after := (List.pairwise_cons.mp (List.pairwise_append.mp order).2.1).1
        exact after _ (List.mem_filterMap.mpr ⟨_, gone, rfl⟩) rfl rfl

end Crew

end LoadLadder
