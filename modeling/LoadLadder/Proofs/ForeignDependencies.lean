import LoadLadder.Proofs.DomainIsolation
import LoadLadder.Proofs.Errands

/-!
# Dependencies on units of another domain

An initializer asks the domain of its own unit for the dependencies.  If one of them
is at home elsewhere and something keeps it alive, the domain rejects it, so the
initializer ends with a fault and the unit stays below the highest level, whoever asks
for it and however often.  The dependency does not notice.
-/

namespace LoadLadder

/-- A unit whose initializer is to activate a unit of another domain. -/
structure World.Strained (world : World) (key dependency : UnitKey) : Prop where
  known : key < world.unitCount
  initializer : (world.unit key).container.initializer = .dependencies
  needs : dependency ∈ (world.unit key).dependencies
  foreign : (world.unit dependency).home ≠ (world.unit key).home

/-- Whether a unit is alive, as threads act. -/
def World.keeps (dependency : UnitKey) : Noting Bool := fun world _ _ _ =>
  [(world.unit dependency).isAlive]

/-- The rest of a sub-step that activates a unit still contains its initializer. -/
def Pending (key unit : UnitKey) (level : Level) (rest : List Action) : Prop :=
  unit = key → level = .active → .runInitializer ∈ rest

/-- What waits on a stack goes on with work that stops short of activating a unit. -/
def Waiting.Stalls (key dependency : UnitKey) : Waiting → Prop
  | .onHook unit level rest => Pending key unit level rest
  | .onDependency unit rest => unit = key → dependency ∈ rest
  | .onOperation callback => callback ≠ .initializer key
  | _ => True

/-- An answer that is not a fault does not help a unit to become active. -/
def Waiting.StallsAfter (key : UnitKey) (answer : Bool) : Waiting → Prop
  | .onSubStep unit _ level => answer = true → unit = key → level ≠ .active
  | .onInitializer unit _ _ _ => unit ≠ key
  | _ => True

/-- A thread that does not get past the foreign dependency of a unit. -/
inductive Thread.Stalls (key dependency : UnitKey) : Thread → Prop
  | drives {unit : UnitKey} {target : Level} {phase : Phase} {stack : List Waiting}
      (raises : ∀ level, phase = .raise level → unit = key → level ≠ .active)
      (below : ∀ waiting ∈ stack, waiting.Stalls key dependency) :
      Stalls key dependency ⟨.drive unit target phase, stack⟩
  | performs {unit : UnitKey} {level : Level} {rest : List Action}
      {stack : List Waiting} (pending : Pending key unit level rest)
      (below : ∀ waiting ∈ stack, waiting.Stalls key dependency) :
      Stalls key dependency ⟨.subStep unit level rest, stack⟩
  | activates {unit : UnitKey} {rest : List UnitKey} {stack : List Waiting}
      (ahead : unit = key → dependency ∈ rest)
      (below : ∀ waiting ∈ stack, waiting.Stalls key dependency) :
      Stalls key dependency ⟨.activateDependencies unit rest, stack⟩
  | announces {unit : UnitKey} {target : Level} {snapshot : Snapshot}
      {rest : List Listener} {stack : List Waiting}
      (below : ∀ waiting ∈ stack, waiting.Stalls key dependency) :
      Stalls key dependency ⟨.announce unit target snapshot rest, stack⟩
  | calls {callback : Callback} {stack : List Waiting}
      (other : callback ≠ .initializer key)
      (below : ∀ waiting ∈ stack, waiting.Stalls key dependency) :
      Stalls key dependency ⟨.callback callback, stack⟩
  | answers {answer : Bool} {stack : List Waiting}
      (vain : ∀ waiting ∈ stack.head?, waiting.StallsAfter key answer)
      (below : ∀ waiting ∈ stack, waiting.Stalls key dependency) :
      Stalls key dependency ⟨.answer (.ok answer), stack⟩
  | fails {fault : Fault} {stack : List Waiting}
      (below : ∀ waiting ∈ stack, waiting.Stalls key dependency) :
      Stalls key dependency ⟨.answer (.error fault), stack⟩
  /-- The dependency has just been rejected. -/
  | turnedAway {unit : UnitKey} {rest : List UnitKey} {fault : Fault}
      {stack : List Waiting}
      (below : ∀ waiting ∈ stack, waiting.Stalls key dependency) :
      Stalls key dependency ⟨.answer (.error fault), .onDependency unit rest :: stack⟩

/-- Only a rejected dependency is no longer ahead of an initializer. -/
theorem Thread.Stalls.below {key dependency : UnitKey} {task : Task}
    {stack : List Waiting} (stalls : Thread.Stalls key dependency ⟨task, stack⟩)
    (other : ∀ fault unit rest below, task = .answer (.error fault) →
      stack ≠ .onDependency unit rest :: below) :
    ∀ waiting ∈ stack, waiting.Stalls key dependency := by
  cases stalls with
  | turnedAway => exact absurd rfl (other _ _ _ _ rfl)
  | _ => assumption

namespace World

variable {world next : World} {me : ThreadId} {thread after : Thread}
  {key dependency : UnitKey} {request : Option Request} {stack : List Waiting}

theorem pending_actions (key unit : UnitKey) (level : Level) :
    Pending key unit level level.actions := by
  rintro - rfl
  decide

theorem Strained.of_onward (strained : world.Strained key dependency)
    (rooted : world.Rooted) (onward : world.Onward next) :
    next.Strained key dependency := by
  have unit := onward.unit key strained.known
  have other := onward.unit dependency (rooted key dependency strained.needs)
  refine ⟨Nat.lt_of_lt_of_le strained.known onward.count, ?_,
    onward.dependencies key strained.known dependency strained.needs, ?_⟩
  · rw [unit.container]
    exact strained.initializer
  · rw [other.home, unit.home]
    exact strained.foreign

theorem stallsAfter_of_drive {answer : Bool} (seated : world.Seated .drive stack) :
    ∀ waiting ∈ stack.head?, waiting.StallsAfter key answer := by
  cases seated with
  | initializing known runs => simp at runs
  | driveOutside => simp
  | driveCalled | depending => simp [Waiting.StallsAfter]

/-- What begins with a load stops short as well. -/
theorem stalls_of_begins {unit : UnitKey} {task : Task}
    (begins : Task.Begins world unit task)
    (below : ∀ waiting ∈ stack, waiting.Stalls key dependency)
    (vain : ∀ answer, ∀ waiting ∈ stack.head?, waiting.StallsAfter key answer) :
    Thread.Stalls key dependency ⟨task, stack⟩ := by
  cases begins with
  | answers reply =>
      cases reply with
      | ok answer => exact .answers (vain answer) below
      | error fault => exact .fails below
  | drives target => exact .drives (by simp) below
  | runs level => exact .performs (pending_actions key unit level) below

theorem stalls_of_seated (dependency : UnitKey) {seat : Seat}
    (seated : world.Seated seat stack)
    (unpinned : key ∉ stack.filterMap Waiting.unit?) :
    (∀ waiting ∈ stack, waiting.Stalls key dependency) ∧
      seat ≠ .callback (.initializer key) := by
  induction seated with
  | subStepOutside | driveOutside => simp
  | @subStepCalled unit level callback stack below ih
  | @driveCalled callback stack below ih =>
      obtain ⟨rest, other⟩ := ih unpinned
      refine ⟨List.forall_mem_cons.mpr ⟨?_, rest⟩, by simp⟩
      rintro rfl
      exact other rfl
  | driven known below ih =>
      obtain ⟨-, unpinned⟩ := not_or.mp (mt List.mem_cons.mpr unpinned)
      exact ⟨List.forall_mem_cons.mpr ⟨trivial, (ih unpinned).1⟩, by simp⟩
  | initializing known runs remains insisted below ih =>
      obtain ⟨apart, unpinned⟩ := not_or.mp (mt List.mem_cons.mpr unpinned)
      refine ⟨List.forall_mem_cons.mpr ⟨trivial, (ih unpinned).1⟩, ?_⟩
      rcases runs with rfl | rfl <;> simp [Ne.symm apart]
  | hooked known remains insisted below ih =>
      obtain ⟨apart, unpinned⟩ := not_or.mp (mt List.mem_cons.mpr unpinned)
      exact ⟨List.forall_mem_cons.mpr
        ⟨fun same => absurd same.symm apart, (ih unpinned).1⟩, by simp⟩
  | depending known dependencies below ih =>
      obtain ⟨apart, unpinned⟩ := not_or.mp (mt List.mem_cons.mpr unpinned)
      exact ⟨List.forall_mem_cons.mpr
        ⟨fun same => absurd same.symm apart, (ih unpinned).1⟩, by simp⟩
  | listening known below ih =>
      obtain ⟨-, unpinned⟩ := not_or.mp (mt List.mem_cons.mpr unpinned)
      exact ⟨List.forall_mem_cons.mpr ⟨trivial, (ih unpinned).1⟩, by simp⟩

/-- A thread that does not work on the unit yet does not activate it. -/
theorem stalls_of_unpinned (supports : world.Supports thread)
    (unpinned : key ∉ thread.pinned) : thread.Stalls key dependency := by
  obtain ⟨task, stack⟩ := thread
  obtain ⟨apart, unpinned⟩ := not_or.mp (mt List.mem_append.mpr unpinned)
  obtain ⟨seat, seated⟩ := supports.seated
  have below := (stalls_of_seated dependency seated unpinned).1
  have other {unit : UnitKey} (works : task.unit? = some unit) : unit ≠ key := by
    rintro rfl
    exact apart (Option.mem_toList.mpr works)
  cases task with
  | drive => exact .drives (fun _ _ same => absurd same (other rfl)) below
  | subStep => exact .performs (fun same => absurd same (other rfl)) below
  | activateDependencies => exact .activates (fun same => absurd same (other rfl)) below
  | announce => exact .announces below
  | callback callback =>
      refine .calls ?_ below
      rintro rfl
      exact (stalls_of_seated dependency supports unpinned).2 rfl
  | answer reply =>
      cases reply with
      | error fault => exact .fails below
      | ok answer =>
          refine .answers (fun waiting first => ?_) below
          obtain ⟨rest, rfl⟩ := List.head?_eq_some_iff.mp first
          cases waiting with
          | onSubStep | onInitializer =>
              obtain ⟨apart, -⟩ := not_or.mp (mt List.mem_cons.mpr unpinned)
              first
              | exact fun _ same => absurd same.symm apart
              | exact Ne.symm apart
          | _ => trivial

theorem stalls_stepped (strained : world.Strained key dependency)
    (supports : world.Supports thread)
    (kept : (world.unit dependency).isAlive = true)
    (stepped : world.Stepped me thread next after)
    (stalls : thread.Stalls key dependency) : after.Stalls key dependency := by
  cases stepped with
  | below | arrived | barred | admitted | entered | overtaken | raised | failed
  | releasedAgain | releasedStop | announcedBefore | leaves | settled =>
      exact .drives (by simp) (stalls.below (by simp))
  | refused asks held goes =>
      refine .drives ?_ (stalls.below (by simp))
      rcases goes with rfl | rfl <;> simp
  | climbs =>
      exact .performs (pending_actions _ _ _)
        (List.forall_mem_cons.mpr ⟨trivial, stalls.below (by simp)⟩)
  | releasedRaise | blames | faulted => exact .fails (stalls.below (by simp))
  | announces | tellsRecorder => exact .announces (stalls.below (by simp))
  | required =>
      have below := stalls.below (by simp)
      cases (world.unit _).requireLevel _ with
      | error fault => exact .fails below
      | ok => exact .answers (stallsAfter_of_drive supports.2) below
  | completed =>
      obtain ⟨known, remains, insisted, seated⟩ := supports
      cases stalls with
      | performs pending below =>
          refine .answers (fun waiting first => ?_) below
          cases seated with
          | initializing known runs => simp at runs
          | driven =>
              cases first
              rintro - same active
              exact absurd (pending same active) (by simp)
          | _ =>
              cases first
              try trivial
  | performed ordinary done absent =>
      cases stalls with
      | performs pending below =>
          refine .performs (fun same active => ?_) below
          rcases List.mem_cons.mp (pending same active) with initializes | later
          · have missing := absent initializes.symm
            rw [same, strained.initializer] at missing
            contradiction
          · exact later
  | initializes runs =>
      have below := stalls.below (by simp)
      rcases runs with ⟨-, rfl⟩ | ⟨client, rfl⟩
      · exact .activates (fun same => same ▸ strained.needs)
          (List.forall_mem_cons.mpr ⟨trivial, below⟩)
      · refine .calls ?_ (List.forall_mem_cons.mpr ⟨trivial, below⟩)
        rintro ⟨⟩
        rw [strained.initializer] at client
        contradiction
  | @reported unit level rest after stack goes =>
      cases stalls with
      | performs pending below =>
          have later : Pending key unit level rest := fun same active =>
            (List.mem_cons.mp (pending same active)).resolve_left (by simp)
          rcases goes with ⟨-, rfl⟩ | ⟨-, rfl⟩
          · exact .performs later below
          · exact .calls (by simp) (List.forall_mem_cons.mpr ⟨later, below⟩)
  | allActivated =>
      obtain ⟨known, needed, seated⟩ := supports
      cases stalls with
      | activates ahead below =>
          refine .answers (fun waiting first => ?_) below
          cases seated with
          | initializing known runs =>
              cases first
              rintro rfl
              rcases runs with same | same <;> cases same
              exact absurd (ahead rfl) (by simp)
  | @activates unit other rest stack =>
      cases stalls with
      | activates ahead below =>
          by_cases now : unit = key ∧ other = dependency
          · obtain ⟨rfl, rfl⟩ := now
            rw [ensure_of_foreign strained.foreign]
            exact .turnedAway below
          · refine stalls_of_begins (begins_ensure _ _ _ _)
              (List.forall_mem_cons.mpr ⟨fun same => ?_, below⟩)
              (by simp [Waiting.StallsAfter])
            exact (List.mem_cons.mp (ahead same)).resolve_left
              fun met => now ⟨same, met.symm⟩
  | @skips unit other rest stack destroyed =>
      cases stalls with
      | activates ahead below =>
          refine .activates (fun same => ?_) below
          refine (List.mem_cons.mp (ahead same)).resolve_left ?_
          rintro rfl
          exact Bool.false_ne_true (destroyed.symm.trans kept)
  | allTold => exact .drives (by simp) (stalls.below (by simp))
  | tellsClient =>
      exact .calls (by simp)
        (List.forall_mem_cons.mpr ⟨trivial, stalls.below (by simp)⟩)
  | succeeded =>
      cases stalls with
      | answers vain below =>
          refine .drives ?_ (List.forall_mem_cons.mp below).2
          rintro level ⟨⟩
          exact vain _ rfl rfl
  | abandoned | broke =>
      exact .drives (by simp) (List.forall_mem_cons.mp (stalls.below (by simp))).2
  | initialized =>
      cases stalls with
      | answers vain below =>
          exact .performs (fun same => absurd same (vain _ rfl))
            (List.forall_mem_cons.mp below).2
  | uninitialized => exact .fails (List.forall_mem_cons.mp (stalls.below (by simp))).2
  | hooked =>
      obtain ⟨later, below⟩ := List.forall_mem_cons.mp (stalls.below (by simp))
      exact .performs later below
  | activated =>
      obtain ⟨ahead, below⟩ := List.forall_mem_cons.mp (stalls.below (by simp))
      exact .activates ahead below
  | unactivated =>
      cases stalls with
      | fails below => exact .fails (List.forall_mem_cons.mp below).2
      | turnedAway below => exact .fails below
  | listened => exact .announces (List.forall_mem_cons.mp (stalls.below (by simp))).2

theorem stalls_play (strained : world.Strained key dependency)
    (supports : world.Supports thread)
    (kept : (world.unit dependency).isAlive = true)
    (plays : world.play me thread request = some (next, after))
    (stalls : thread.Stalls key dependency) : after.Stalls key dependency := by
  cases request with
  | none => exact stalls_stepped strained supports kept (stepped_of_step plays) stalls
  | some requested =>
      cases granted_of_play plays with
      | operate => exact stalls
      | call operation turn granted loads =>
          obtain ⟨unit, begins⟩ := begins_of_loads loads
          rcases turn_cases turn with
            ⟨callback, stack, rfl⟩ | ⟨reply, rfl⟩ | ⟨reply, callback, stack, rfl⟩
          · cases stalls with
            | calls other below =>
                exact stalls_of_begins begins (List.forall_mem_cons.mpr ⟨other, below⟩)
                  (by simp [Waiting.StallsAfter])
          · exact stalls_of_begins begins (by simp) (by simp)
          · exact stalls_of_begins begins (stalls.below (by simp))
              (by simp [Waiting.StallsAfter])
      | resume answered =>
          subst answered
          obtain ⟨other, below⟩ := List.forall_mem_cons.mp (stalls.below (by simp))
          exact .calls other below
      | finish result called =>
          subst called
          cases stalls with
          | calls other below =>
              cases result with
              | error fault => exact .fails below
              | ok =>
                  refine .answers (fun waiting first => ?_) below
                  change Seated _ _ _ at supports
                  cases supports with
                  | initializing known runs =>
                      cases first
                      rintro rfl
                      rcases runs with same | same <;> cases same
                      exact other rfl
                  | _ =>
                      cases first
                      trivial

/-- A unit is not made active by a thread that stalls. -/
theorem level_of_stalls (strained : world.Strained key dependency)
    (supports : world.Supports thread)
    (plays : world.play me thread request = some (next, after))
    (stalls : thread.Stalls key dependency)
    (low : (world.unit key).level < .active) : (next.unit key).level < .active := by
  rcases level_act (act_of_play plays) strained.known with same | ⟨level, raises, raised⟩
  · rwa [same]
  have short : level ≠ .active := by
    cases raises with
    | drive raises =>
        subst raises
        cases stalls with
        | drives raises below => exact raises level rfl rfl
    | publish publishes => decide
  rw [raised]
  rcases Level.max_eq_left_or_right (world.unit key).level level with kept | lifted
  · rwa [kept]
  · rw [lifted]
    cases level <;> first | decide | exact absurd rfl short

end World

namespace Crew

variable {setups : List Setup} {members : Nat} {repertoire : Repertoire}
  {conduct : Conduct} {first crew : Crew} {deeds : List Deed} {past : List Bool}
  {key dependency : UnitKey}

/-- A unit that is not active when the threads come to it does not become active. -/
theorem inactive_of_account (framed : first.Framed)
    (strained : first.world.Strained key dependency)
    (low : (first.world.unit key).level < .active)
    (unpinned : ∀ me, key ∉ (first.thread me).pinned)
    (account : Account conduct (World.keeps dependency) first past crew)
    (alive : ∀ kept ∈ past, kept = true) :
    (crew.world.unit key).level < .active := by
  suffices invariant : crew.world.Strained key dependency ∧
      (crew.world.unit key).level < .active ∧
      ∀ me, (crew.thread me).Stalls key dependency from invariant.2.1
  induction account with
  | start =>
      exact ⟨strained, low,
        fun me => World.stalls_of_unpinned (framed.supports me) (unpinned me)⟩
  | @collect crew past account ih =>
      obtain ⟨deeds, run⟩ := account.run
      obtain ⟨strained, low, stalls⟩ := ih alive
      have onward := World.onward_collect crew.world crew.pinned
      refine ⟨strained.of_onward (framed_run framed run).rooted onward, ?_, stalls⟩
      have still := (World.alike_collect crew.world crew.pinned).still.unit key
      exact still.level ▸ low
  | @play crew past me request world thread account member conducted plays ih =>
      obtain ⟨deeds, run⟩ := account.run
      have now := framed_run framed run
      obtain ⟨before, kept⟩ := List.forall_mem_append.mp alive
      obtain ⟨strained, low, stalls⟩ := ih before
      refine ⟨strained.of_onward now.rooted (World.onward_act (World.act_of_play plays)),
        World.level_of_stalls strained (now.supports me) plays (stalls me) low,
        fun you => ?_⟩
      rw [thread_acted member]
      split
      · exact World.stalls_play strained (now.supports me)
          (kept _ (List.mem_singleton_self _)) plays (stalls me)
      · exact stalls you

/-- What keeps the domains of a crew apart, whatever numbers their units have. -/
structure KeepsApart (crew : Crew) : Prop where
  /-- A unit that is asked for through another domain is rejected, and nothing else
  happens. -/
  rejected : ∀ {me : ThreadId} {through : DomainKey} {key : UnitKey}
    {operation : Operation}, (crew.world.unit key).home ≠ through →
    operation.Seeks through key → crew.world.step me (crew.thread me) = none →
    operation.refusal? crew.world = none →
    ∃ after,
      crew.world.play me (crew.thread me) (some (.asks operation)) =
        some (crew.world, after) ∧
      crew.world.played (crew.thread me) (some (.asks operation)) = [] ∧
      crew.world.Rejects me (crew.thread me) (crew.world.trespass through key) operation
        after
  /-- The same goes for a unit that an initializer asks for. -/
  turnedAway : ∀ {me : ThreadId} {key dependency : UnitKey} {rest : List UnitKey}
    {stack : List Waiting},
    (crew.world.unit dependency).home ≠ (crew.world.unit key).home →
    crew.thread me = ⟨.activateDependencies key (dependency :: rest), stack⟩ →
    (crew.world.unit dependency).isAlive = true →
    crew.world.step me (crew.thread me) =
      some (crew.world,
        ⟨.answer (.error (crew.world.trespass (crew.world.unit key).home dependency)),
          .onDependency key rest :: stack⟩)
  /-- A unit that depends on such a unit does not become active as long as that unit
  is kept alive. -/
  inactive : ∀ {conduct : Conduct} {key dependency : UnitKey} {past : List Bool}
    {later : Crew}, crew.world.Strained key dependency →
    (crew.world.unit key).level < .active →
    (∀ me, key ∉ (crew.thread me).pinned) →
    Account conduct (World.keeps dependency) crew past later →
    (∀ kept ∈ past, kept = true) → (later.world.unit key).level < .active
  /-- Loads of one domain's units do not touch another domain or its units. -/
  confined : ∀ {here : DomainKey} {past : List Deed} {later : Crew},
    (∀ me, ∀ key ∈ (crew.thread me).pinned, (crew.world.unit key).home = here) →
    Account (.within here) (fun world _ => world.played) crew past later →
    Confined here crew later past

/-- Domains are isolated from each other at every point of every run. -/
theorem domains_keep_apart (run : Run repertoire (idle setups members) deeds crew) :
    crew.KeepsApart where
  rejected := World.rejected_of_foreign
  turnedAway := by
    intro me key dependency rest stack foreign current kept
    rw [current]
    exact World.step_of_foreign foreign kept
  inactive := inactive_of_account (framed_run framed_idle run)
  confined := confined_of_account (framed_run framed_idle run)

/-- A unit is made, and in another domain a unit of the same number that it depends
on. -/
def settlement : List Cue :=
  [.asks 0 (.create 0 { name := "App" } { name := "App", initializer := .dependencies }),
    .asks 0 (.create 1 { name := "Lib" } { name := "Lib" }),
    .asks 0 (.addDependency 0 1)]

theorem settlement_enacted :
    ((idle [.observed, .observed] 1).enactAll Conduct.free settlement).isSome = true := by
  decide +kernel

def neighbours : Crew :=
  ((idle [.observed, .observed] 1).enactAll Conduct.free settlement).get
    settlement_enacted

/-- The unit is asked for through the wrong domain, and then twice through its own. -/
def rebuffs : List Cue :=
  .asks 0 (.ensure 1 0 .active) :: .asks 0 (.ensure 0 0 .active) :: Cue.climbs 0 78 ++
    .asks 0 (.ensure 0 0 .active) :: Cue.climbs 0 4

theorem rebuffs_enacted :
    (neighbours.enactAll (Conduct.within 0) rebuffs).isSome = true := by
  decide +kernel

def rebuffed : Crew :=
  (neighbours.enactAll (Conduct.within 0) rebuffs).get rebuffs_enacted

theorem domains_keep_apart_neighbours :
    (neighbours.world.unit 0).id = (neighbours.world.unit 1).id ∧
      (rebuffed.world.unit 0).level = .loaded ∧
      (rebuffed.world.unit 0).level < .active ∧
      rebuffed.world.unit 1 = neighbours.world.unit 1 ∧
      rebuffed.world.domain 1 = neighbours.world.domain 1 := by
  have settled : Account .free (fun world _ => world.played)
      (idle [.observed, .observed] 1) _ neighbours :=
    Account.start.enactAll (Option.some_get settlement_enacted).symm
  obtain ⟨deeds, run⟩ := settled.run
  have apart : neighbours.KeepsApart := domains_keep_apart run
  have idle (me : ThreadId) : (neighbours.thread me).pinned = [] := by
    match me with
    | 0 => rfl
    | _ + 1 => rfl
  have noted : Account (.within 0) (World.keeps 1) neighbours
      ([] ++ neighbours.notedAll (World.keeps 1) rebuffs) rebuffed :=
    Account.start.enactAll (Option.some_get rebuffs_enacted).symm
  have account : Account (.within 0) (fun world _ => world.played) neighbours
      ([] ++ neighbours.notedAll (fun world _ => world.played) rebuffs) rebuffed :=
    Account.start.enactAll (Option.some_get rebuffs_enacted).symm
  have confined : Confined 0 neighbours rebuffed _ :=
    apart.confined (by simp [idle]) account
  refine ⟨by decide +kernel, by decide +kernel,
    apart.inactive ⟨by decide, by decide, by decide, by decide⟩ (by decide)
      (by simp [idle]) noted (by decide +kernel), ?_,
    confined.domains 1 (by decide) (by decide)⟩
  exact (confined.units 1 (by decide)).resolve_right (by decide +kernel)

end Crew

end LoadLadder
