import LoadLadder.Proofs.CrewAccounts
import LoadLadder.Proofs.LoneThread
import LoadLadder.Proofs.Registries
import LoadLadder.Proofs.Tellings

/-!
# What consumers hear once

Everything that tells the consumers of a unit something shares the latches of the
unit: the sub-steps that drivers run, those that the client asks for in whatever order
and however often, and the causes that either of them keeps.  So a consumer hears
once what a latch stands for, whatever the client does, as long as it does not claim
latches itself or speak to consumers past them.
-/

namespace LoadLadder

/-- On what occasion something is said. -/
inductive Occasion
  /-- A load gets on. -/
  | progress
  /-- The cause of a failure is kept. -/
  | failure
  /-- The client has it said. -/
  | request
  deriving DecidableEq, Repr

/-- Something said about a unit. -/
structure Saying where
  occasion : Occasion
  unit : UnitKey
  notice : Notice
  deriving DecidableEq, Repr

/-- A client that claims no latch and speaks to no consumer itself. -/
def Conduct.reserved : Conduct := fun _ _ request =>
  match request with
  | .asks (.latch _ _) => False
  | .asks (.container _ _) => False
  | .asks (.debuggerLoad _ _ _) => False
  | _ => True

instance (crew : Crew) (me : ThreadId) (request : Request) :
    Decidable (Conduct.reserved crew me request) := by
  unfold Conduct.reserved
  split <;> infer_instance

namespace World

/-- On what occasion a thread says something. -/
def occasion (thread : Thread) : Option Request → Occasion
  | none =>
      match thread.task with
      | .drive _ _ (.fail _ _) => .failure
      | _ => .progress
  | some (.asks (.setError _ _)) => .failure
  | some _ => .request

/-- What the loader says when a thread acts. -/
def sayings : Noting Saying := fun world _ thread request =>
  (world.played thread request).filterMap fun deed =>
    match deed with
    | .told unit notice => some ⟨occasion thread request, unit, notice⟩
    | _ => none

/-- What may be said at one instant, and what then becomes of the world. -/
inductive Utters (world next : World) : List Saying → Prop
  | nothing : Utters world next []
  | keeps {key : UnitKey} (cause : Cause) (known : key < world.unitCount)
      (kept : next = (world.setError key cause).1) :
      Utters world next ((world.causeNotices key cause).map (.mk .failure key))
  | performs {key : UnitKey} (level : Level) (action : Action)
      (known : key < world.unitCount) (done : next = (world.perform key action).1) :
      Utters world next
        ((world.actionNotices key level action).map (.mk .progress key))
  | reports {key : UnitKey} (level : Level) (known : key < world.unitCount) :
      Utters world next [⟨.progress, key, .transition level⟩]
  | announces {key : UnitKey} (listener : Listener) (snapshot : Snapshot)
      (known : key < world.unitCount) :
      Utters world next [⟨.progress, key, .unitLoaded listener snapshot⟩]
  | retires {key : UnitKey} (known : key < world.unitCount) :
      Utters world next ((world.unloadNotices key).map (.mk .request key))

variable {world next : World} {crew : Crew} {me : ThreadId}
  {thread after : Thread} {request : Option Request} {key : UnitKey}

theorem sayings_of_told {occasion : Occasion} (notices : List Notice) :
    ((notices.map (Deed.told key)).filterMap fun deed =>
      match deed with
      | .told unit notice => some (Saying.mk occasion unit notice)
      | _ => none) = notices.map (.mk occasion key) := by
  simp [List.filterMap_map]

/-- What the actions of a sub-step say. -/
theorem sayings_of_action (level : Level) (stack : List Waiting)
    (action : Action) :
    ((world.actionDeeds key level stack action).filterMap fun deed =>
      match deed with
      | .told unit notice => some (Saying.mk .progress unit notice)
      | _ => none) =
        (world.actionNotices key level action).map (.mk .progress key) := by
  cases action with
  | publish =>
      simp only [actionDeeds, actionNotices]
      split <;> rfl
  | _ => exact sayings_of_told _

theorem utters_stepped (stepped : world.Stepped me thread next after)
    (supports : world.Supports thread) :
    world.Utters next (world.sayings me thread none) := by
  have known {key : UnitKey} (named : thread.task.unit? = some key) :
      key < world.unitCount :=
    supports.known key named
  cases stepped with
  | entered asks | refused asks =>
      rcases asks with rfl | rfl <;> exact .nothing
  | failed =>
      rw [recordFailure_fst, sayings, played, deeds, sayings_of_told]
      exact .keeps _ (known rfl) rfl
  | performed ordinary done =>
      rw [sayings, played, deeds, occasion, sayings_of_action]
      exact .performs _ _ (known rfl) (by rw [done])
  | faulted done =>
      rw [sayings, played, deeds, occasion, sayings_of_action]
      exact .performs _ _ (known rfl) (by rw [done])
  | reported => exact .reports _ (known rfl)
  | tellsRecorder | tellsClient => exact .announces _ _ (known rfl)
  | _ => exact .nothing

theorem utters_play (plays : world.play me thread request = some (next, after))
    (reserved : ∀ requested, request = some requested →
      Conduct.reserved crew me requested)
    (supports : world.Supports thread) (catalogued : world.Catalogued) :
    world.Utters next (world.sayings me thread request) := by
  cases request with
  | none => exact utters_stepped (stepped_of_step plays) supports
  | some requested =>
      have reserved := reserved _ rfl
      cases granted_of_play plays with
      | call operation turn granted loads =>
          simp only [sayings, played, loads]
          exact .nothing
      | resume | finish => exact .nothing
      | operate operation turn granted instant =>
          simp only [sayings, played, instant]
          cases operation with
          | latch | container | debuggerLoad => exact reserved.elim
          | setError key cause =>
              rw [complete_setError]
              simp only [Operation.deeds, occasion, sayings_of_told]
              exact .keeps cause (known_of_granted granted rfl) rfl
          | debuggerUnload key =>
              simp only [Operation.deeds, occasion, sayings_of_told]
              exact .retires (known_of_granted granted rfl)
          | unload through key =>
              simp only [Operation.deeds, occasion]
              split
              · exact .nothing
              · split
                · exact .nothing
                · rename_i registered
                  rw [sayings_of_told]
                  exact .retires
                    (catalogued.own _ _ (Domain.mem_of_lookup registered)).1
          | _ => exact .nothing

end World

/-- Something that a consumer is to hear once. -/
inductive Topic
  /-- The profiler hears that the load finished, whether or not it succeeded. -/
  | profiler
  /-- Tracing hears that the load succeeds. -/
  | success
  /-- Tracing hears that the unit failed. -/
  | failure
  | unitLoad
  | moduleLoad
  deriving DecidableEq, Repr

namespace Topic

def covers (topic : Topic) (occasion : Occasion) (notice : Notice) : Bool :=
  match topic, notice with
  | profiler, .profiler _ => true
  | success, .tracing _ => occasion != .failure
  | failure, .tracing _ => occasion == .failure
  | unitLoad, .unitLoad _ => true
  | moduleLoad, .moduleLoad => true
  | _, _ => false

/-- The unit has no more to say on the topic. -/
def isSpent (topic : Topic) (unit : LoadUnit) : Bool :=
  match topic with
  | profiler => unit.latches.isSet .profiler
  | success => unit.latches.isSet .tracing
  | failure => unit.isError
  | unitLoad => unit.latches.isSet .debugger
  | moduleLoad => unit.latches.isSet .debuggerModule

/-- How often something was said on the topic about a unit. -/
def tally (topic : Topic) (key : UnitKey) (past : List Saying) : Nat :=
  past.countP fun saying =>
    saying.unit == key && topic.covers saying.occasion saying.notice

variable {topic : Topic} {key : UnitKey}

theorem isSpent_of_grows {before after : LoadUnit} (grows : before.Grows after)
    (spent : topic.isSpent before = true) : topic.isSpent after = true := by
  cases topic with
  | failure => exact grows.isError spent
  | _ => exact grows.told _ spent

theorem tally_append (past more : List Saying) :
    topic.tally key (past ++ more) = topic.tally key past + topic.tally key more :=
  List.countP_append

theorem tally_said (occasion : Occasion) (unit : UnitKey) (notices : List Notice) :
    topic.tally key (notices.map (.mk occasion unit)) =
      if unit = key then notices.countP (topic.covers occasion) else 0 := by
  rw [tally, List.countP_map]
  by_cases same : unit = key <;> simp [same, Function.comp_def]

end Topic

namespace World

variable {world next : World} {key : UnitKey} {topic : Topic}
  {said : List Saying}

/-- Keeping a cause uses up what it says. -/
theorem spends_setError (world : World) (key : UnitKey) (cause : Cause) :
    (world.causeNotices key cause).countP (topic.covers .failure) +
      (topic.isSpent (world.unit key)).toNat ≤
        (topic.isSpent ((world.setError key cause).1.unit key)).toNat := by
  rw [unit_setError]
  cases failed : (world.unit key).isError with
  | true => simp [causeNotices, failed]
  | false =>
      have fails : LoadUnit.isError { world.unit key with
          failure := ⟨some cause⟩
          latches := (world.unit key).latches.claim .profiler } = true := rfl
      simp only [causeNotices, failed]
      cases told : (world.unit key).latches.isSet .profiler <;> cases topic <;>
        simp [Topic.covers, Topic.isSpent, told, failed, fails]

/-- An action of a sub-step uses up what it says. -/
theorem spends_perform (world : World) (key : UnitKey) (level : Level)
    (action : Action) :
    (world.actionNotices key level action).countP (topic.covers .progress) +
      (topic.isSpent (world.unit key)).toNat ≤
        (topic.isSpent ((world.perform key action).1.unit key)).toNat := by
  have failure : ((world.perform key action).1.unit key).isError =
      (world.unit key).isError := by
    rw [LoadUnit.isError, (kept_perform world key action).2]
    rfl
  cases action with
  | announceProfiler =>
      cases told : (world.unit key).latches.isSet .profiler <;> cases topic <;>
        simp [actionNotices, Topic.covers, Topic.isSpent, isSet_perform, told, failure]
  | announceTracing =>
      cases told : (world.unit key).latches.isSet .tracing <;> cases topic <;>
        simp [actionNotices, Topic.covers, Topic.isSpent, isSet_perform, told, failure]
  | announceDebugger =>
      have covered : AttachFlags.assemblyLoad.contains .assemblyLoad = true := by
        decide
      cases told : (world.unit key).latches.isSet .debugger <;>
        cases toldModule : (world.unit key).latches.isSet .debuggerModule <;>
        cases attached : (world.sinksOf key).isDebuggerAttached <;> cases topic <;>
        simp [actionNotices, loadNotices, List.countP_cons, Topic.covers,
          Topic.isSpent, isSet_perform, told, toldModule, attached, covered, failure]
  | _ =>
      cases topic <;>
        simp [actionNotices, Topic.covers, Topic.isSpent, isSet_perform, failure]

/-- Tracing is told of the success of a load or of a kept cause. -/
theorem traced_of_utters (utters : world.Utters next said) {saying : Saying}
    (spoken : saying ∈ said) {code : ResultCode}
    (traced : saying.notice = .tracing code) :
    saying.occasion = .progress ∧ code = .ok ∨ saying.occasion = .failure := by
  cases utters with
  | nothing => contradiction
  | keeps =>
      obtain ⟨notice, -, rfl⟩ := List.mem_map.mp spoken
      exact Or.inr rfl
  | @performs unit level action =>
      obtain ⟨notice, announced, rfl⟩ := List.mem_map.mp spoken
      subst traced
      refine Or.inl ⟨rfl, ?_⟩
      cases action <;> simp [actionNotices, loadNotices] at announced
      exact announced.2
  | reports | announces =>
      cases List.mem_singleton.mp spoken
      contradiction
  | retires known =>
      obtain ⟨notice, retired, rfl⟩ := List.mem_map.mp spoken
      subst traced
      simp [unloadNotices] at retired

theorem tally_of_utters (utters : world.Utters next said) (grows : world.Grows next)
    (known : key < world.unitCount) :
    topic.tally key said + (topic.isSpent (world.unit key)).toNat ≤
      (topic.isSpent (next.unit key)).toNat := by
  have kept : (topic.isSpent (world.unit key)).toNat ≤
      (topic.isSpent (next.unit key)).toNat :=
    Bool.toNat_le_toNat (Topic.isSpent_of_grows (grows.unit key known))
  cases utters with
  | nothing => simpa [Topic.tally] using kept
  | @keeps unit cause _ stored =>
      rw [Topic.tally_said]
      split
      · rename_i same
        subst same stored
        exact spends_setError world unit cause
      · simpa using kept
  | @performs unit level action _ done =>
      rw [Topic.tally_said]
      split
      · rename_i same
        subst same done
        exact spends_perform world unit level action
      · simpa using kept
  | reports | announces =>
      cases topic <;> simpa [Topic.tally, Topic.covers] using kept
  | @retires unit =>
      have silent : (world.unloadNotices unit).countP (topic.covers .request) = 0 := by
        unfold unloadNotices
        split <;> cases topic <;> rfl
      rw [Topic.tally_said, silent]
      simpa using kept

/-- What is said is about units that are there. -/
theorem known_of_utters (utters : world.Utters next said) {saying : Saying}
    (spoken : saying ∈ said) : saying.unit < world.unitCount := by
  cases utters with
  | nothing => contradiction
  | keeps cause known | performs level action known | retires known =>
      obtain ⟨notice, -, rfl⟩ := List.mem_map.mp spoken
      exact known
  | reports level known | announces listener snapshot known =>
      cases List.mem_singleton.mp spoken
      exact known

theorem tally_of_unknown (utters : world.Utters next said)
    (unknown : ¬ key < world.unitCount) : topic.tally key said = 0 := by
  refine List.countP_eq_zero.mpr fun saying spoken covered => unknown ?_
  rw [Bool.and_eq_true, beq_iff_eq] at covered
  exact covered.1 ▸ known_of_utters utters spoken

end World

/-- What a task has still to tell listeners of a unit, and what they receive. -/
def Task.toTell (key : UnitKey) : Task → List (Listener × Snapshot)
  | .announce unit _ snapshot rest =>
      if unit = key then rest.map (·, snapshot) else []
  | _ => []

/-- What a waiting announcement has still to tell listeners of a unit. -/
def Waiting.toTell (key : UnitKey) : Waiting → List (Listener × Snapshot)
  | .onListener unit _ snapshot rest =>
      if unit = key then rest.map (·, snapshot) else []
  | _ => []

/-- What a thread has still to tell listeners of a unit. -/
def Thread.toTell (key : UnitKey) (thread : Thread) : List (Listener × Snapshot) :=
  thread.task.toTell key ++ thread.stack.flatMap (Waiting.toTell key)

/-- What listeners have received about a unit, in order. -/
def heardAbout (key : UnitKey) (past : List Saying) : List (Listener × Snapshot) :=
  past.filterMap fun saying =>
    match saying.notice with
    | .unitLoaded listener snapshot =>
        if saying.unit = key then some (listener, snapshot) else none
    | _ => none

theorem heardAbout_append (key : UnitKey) (past said : List Saying) :
    heardAbout key (past ++ said) = heardAbout key past ++ heardAbout key said :=
  List.filterMap_append

/-- The snapshot shows the unit as active and announced. -/
structure Snapshot.Presents (snapshot : Snapshot) (unit : LoadUnit) : Prop where
  id : snapshot.id = unit.id
  name : snapshot.name = unit.name
  active : snapshot.level = .active
  announced : .hostLoadEvent ∈ snapshot.notified

theorem Snapshot.Presents.of_grows {snapshot : Snapshot} {before after : LoadUnit}
    (presents : snapshot.Presents before) (grows : before.Grows after) :
    snapshot.Presents after where
  id := presents.id.trans grows.id.symm
  name := presents.name.trans (congrArg Image.name grows.image.symm)
  active := presents.active
  announced := presents.announced

namespace World

variable {world next : World} {me : ThreadId} {thread after : Thread}
  {request : Option Request} {key : UnitKey} {said : List Saying}

/-- What an act does to the announcement of a unit. -/
inductive Announces (world next : World) (thread after : Thread) (key : UnitKey)
    (said : List Saying) : Prop
  /-- What is said now was still to be told. -/
  | goesOn (same : heardAbout key said ++ after.toTell key = thread.toTell key)
  /-- All listeners are to be told. -/
  | starts (known : key < world.unitCount)
      (untold : (world.unit key).latches.isSet .hostLoadEvent = false)
      (claimed : (next.unit key).latches.isSet .hostLoadEvent = true)
      (silent : heardAbout key said = []) (snapshot : Snapshot)
      (presents : snapshot.Presents (next.unit key))
      (tells : after.toTell key =
        (world.homeOf key).listeners.map (·, snapshot) ++ thread.toTell key)

theorem heardAbout_of_silent {occasion : Occasion} {unit : UnitKey}
    {notices : List Notice}
    (silent : ∀ listener snapshot, .unitLoaded listener snapshot ∉ notices) :
    heardAbout key (notices.map (.mk occasion unit)) = [] := by
  rw [heardAbout, List.filterMap_map, List.filterMap_eq_nil_iff]
  intro notice said
  cases notice with
  | unitLoaded listener snapshot => exact absurd said (silent listener snapshot)
  | _ => rfl

theorem heardAbout_of_action (level : Level) (action : Action) {unit : UnitKey} :
    heardAbout key ((world.actionNotices unit level action).map
      (.mk .progress unit)) = [] := by
  apply heardAbout_of_silent
  intro listener snapshot said
  cases action with
  | announceDebugger =>
      simp only [actionNotices, loadNotices] at said
      split at said
      · simp at said
      · split at said
        · rcases List.mem_append.mp said with said | said <;> split at said <;>
            simp at said
        · simp at said
  | _ =>
      simp only [actionNotices] at said
      first | (split at said <;> simp at said) | simp at said

theorem heardAbout_of_cause (cause : Cause) {unit : UnitKey} :
    heardAbout key ((world.causeNotices unit cause).map (.mk .failure unit)) =
      [] := by
  apply heardAbout_of_silent
  intro listener snapshot said
  simp only [causeNotices] at said
  split at said
  · simp at said
  · split at said <;> simp at said

theorem toTell_ensure (through : DomainKey) (unit : UnitKey) (target : Level) :
    (Task.ensure world through unit target).toTell key = [] := by
  have begins := begins_ensure world through unit target
  generalize Task.ensure world through unit target = task at begins
  cases begins <;> rfl

/-- Who starts to announce a unit shows it as active and announced. -/
theorem presents_claimed (active : (world.unit key).isActive = true) :
    ((world.claim key .hostLoadEvent).1.unit key).snapshot.Presents
      ((world.claim key .hostLoadEvent).1.unit key) where
  id := rfl
  name := rfl
  active := by
    rw [unit_claim, if_pos rfl]
    exact LoadUnit.eq_active_of_isActive active
  announced := by
    rw [unit_claim, if_pos rfl]
    exact Latches.mem_claimed.mpr (by simp)

theorem announces_stepped (stepped : world.Stepped me thread next after)
    (supports : world.Supports thread) (key : UnitKey) :
    world.Announces next thread after key (world.sayings me thread none) := by
  cases stepped with
  | @announces unit target stack active untold =>
      by_cases same : unit = key
      · subst same
        refine .starts (supports.known unit rfl) untold ?_ rfl _
          (presents_claimed active) ?_
        · simp [unit_claim]
        · simp [Thread.toTell, Task.toTell, homeOf, unit_claim]
      · refine .goesOn ?_
        simp [Thread.toTell, Task.toTell, same, sayings, played, deeds, heardAbout]
  | entered asks => rcases asks with rfl | rfl <;> exact .goesOn rfl
  | refused asks kept goes =>
      rcases asks with rfl | rfl <;> rcases goes with rfl | rfl <;>
        exact .goesOn rfl
  | failed =>
      refine .goesOn ?_
      rw [sayings, played, deeds, sayings_of_told, occasion, heardAbout_of_cause]
      rfl
  | performed | faulted =>
      refine .goesOn ?_
      rw [sayings, played, deeds, occasion, sayings_of_action, heardAbout_of_action]
      rfl
  | reported goes => rcases goes with ⟨-, rfl⟩ | ⟨-, rfl⟩ <;> exact .goesOn rfl
  | initializes runs => rcases runs with ⟨-, rfl⟩ | ⟨-, rfl⟩ <;> exact .goesOn rfl
  | activates =>
      refine .goesOn ?_
      rw [Thread.toTell, toTell_ensure]
      rfl
  | @allTold unit target snapshot stack =>
      refine .goesOn ?_
      by_cases same : unit = key <;>
        simp [Thread.toTell, Task.toTell, same, sayings, played, deeds, heardAbout]
  | @tellsRecorder unit target snapshot rest stack
  | @tellsClient unit target snapshot number rest stack =>
      refine .goesOn ?_
      by_cases same : unit = key <;>
        simp [Thread.toTell, Task.toTell, Waiting.toTell, same, sayings, played,
          deeds, heardAbout]
  | _ => exact .goesOn rfl

/-- No operation has listeners told. -/
theorem heardAbout_of_operation (operation : Operation)
    (instant : operation.task? world = none) :
    heardAbout key (world.sayings me thread (some (.asks operation))) = [] := by
  have silent (unit : UnitKey) (listener : Listener) (snapshot : Snapshot) :
      .told unit (.unitLoaded listener snapshot) ∉ operation.deeds world := by
    intro said
    cases operation with
    | setError => simp [Operation.deeds, causeNotices] at said
    | debuggerLoad => simp [Operation.deeds, loadNotices] at said
    | debuggerUnload => simp [Operation.deeds, unloadNotices] at said
    | unload through unit =>
        simp only [Operation.deeds, unloadNotices] at said
        split at said
        · simp at said
        · split at said <;> simp at said
    | container => simp [Operation.deeds] at said
    | _ => simp [Operation.deeds] at said
  rw [heardAbout, List.filterMap_eq_nil_iff]
  intro saying spoken
  simp only [sayings, played, instant] at spoken
  obtain ⟨deed, done, spoken⟩ := List.mem_filterMap.mp spoken
  rcases deed with ⟨unit, notice⟩ | _ | _ | _
  · cases spoken
    cases notice with
    | unitLoaded listener snapshot => exact absurd done (silent _ _ _)
    | _ => rfl
  all_goals simp at spoken

theorem announces_play (plays : world.play me thread request = some (next, after))
    (supports : world.Supports thread) (key : UnitKey) :
    world.Announces next thread after key (world.sayings me thread request) := by
  cases request with
  | none => exact announces_stepped (stepped_of_step plays) supports key
  | some requested =>
      refine .goesOn ?_
      cases granted_of_play plays with
      | operate operation turn granted instant =>
          rw [heardAbout_of_operation operation instant]
          rfl
      | call operation turn granted loads =>
          have silent : world.sayings me thread (some (.asks operation)) = [] := by
            simp [sayings, played, loads]
          rw [silent]
          obtain ⟨unit, begins⟩ := begins_of_loads loads
          rcases turn_cases turn with
            ⟨callback, stack, rfl⟩ | ⟨reply, rfl⟩ | ⟨reply, callback, stack, rfl⟩ <;>
            cases begins <;> rfl
      | resume answered =>
          subst answered
          rfl
      | finish result called =>
          subst called
          rfl

/-- A domain keeps its sinks and its hook, and listeners are added behind those that it
has. -/
theorem plugs_play (plays : world.play me thread request = some (next, after))
    (home : DomainKey) :
    (next.domain home).sinks = (world.domain home).sinks ∧
      (next.domain home).hook = (world.domain home).hook ∧
      (world.domain home).listeners <+: (next.domain home).listeners := by
  have same {other : World} (plugs : (world.domain home).SamePlugs
      (other.domain home)) :
      (other.domain home).sinks = (world.domain home).sinks ∧
        (other.domain home).hook = (world.domain home).hook ∧
        (world.domain home).listeners <+: (other.domain home).listeners := by
    rw [plugs.listeners]
    exact ⟨plugs.sinks, plugs.hook, List.prefix_refl _⟩
  cases request with
  | none => exact same (samePlugs_stepped (stepped_of_step plays) home)
  | some requested =>
      cases granted_of_play plays with
      | call | resume | finish => exact same (.refl _)
      | operate operation turn granted instant =>
          cases operation with
          | create made image container =>
              rw [complete_create, domain_createUnit]
              split
              · rename_i here
                rw [here]
                exact ⟨rfl, rfl, List.prefix_refl _⟩
              · exact same (.refl _)
          | addDependency unit dependency =>
              simp only [Operation.complete, addDependency]
              split <;> exact same (.refl _)
          | setError unit cause =>
              rw [complete_setError, domain_setError]
              exact same (.refl _)
          | subscribe through listener =>
              simp only [Operation.complete, domain_modifyDomain]
              split
              · rename_i here
                rw [here]
                exact ⟨rfl, rfl, List.prefix_append _ _⟩
              · exact same (.refl _)
          | _ => exact same (.of_alike ((still_complete world me rfl).domain home))

/-- The recorder writes down the same of a unit at any time. -/
theorem record_play (plays : world.play me thread request = some (next, after))
    (known : key < world.unitCount) : next.record key = world.record key := by
  have unit := (grows_act (act_of_play plays)).unit key known
  obtain ⟨sinks, hook, -⟩ := plugs_play plays (world.unit key).home
  refine record_congr ?_ ?_ unit.image unit.container
  · rw [sinksOf, homeOf, unit.home, sinks]
    rfl
  · rw [homeOf, unit.home, hook]
    rfl

theorem unrelayed_play (plays : world.play me thread request = some (next, after))
    (reserved : ∀ requested, request = some requested →
      Conduct.reserved crew me requested) (unit : UnitKey) (notice : Notice) :
    .relayed unit notice ∉ world.played thread request := by
  intro relayed
  cases request with
  | none =>
      simp only [played, deeds] at relayed
      split at relayed
      case h_3 key level action rest task =>
        cases action <;> simp only [actionDeeds] at relayed <;>
          first | (split at relayed <;> simp at relayed) | simp at relayed
      all_goals simp at relayed
  | some requested =>
      have reserved := reserved _ rfl
      cases granted_of_play plays with
      | operate operation turn granted instant =>
          simp only [played, instant] at relayed
          cases operation with
          | latch | container | debuggerLoad => exact reserved
          | unload through unit =>
              simp only [Operation.deeds] at relayed
              split at relayed
              · simp at relayed
              · split at relayed <;> simp at relayed
          | _ => simp [Operation.deeds] at relayed
      | call operation turn granted loads => simp [played, loads] at relayed
      | resume | finish => simp [played] at relayed

/-- The recorder writes down what is said, as far as it is plugged in, and nothing
else. -/
theorem events_play (plays : world.play me thread request = some (next, after))
    (reserved : ∀ requested, request = some requested →
      Conduct.reserved crew me requested) :
    next.events = world.events ++ (world.sayings me thread request).flatMap
      fun saying => world.record saying.unit saying.notice := by
  rw [events_act (act_of_play plays), sayings]
  have unrelayed := unrelayed_play plays reserved
  congr 1
  generalize world.played thread request = deeds at unrelayed
  induction deeds with
  | nil => rfl
  | cons deed deeds ih =>
      have rest := ih fun unit notice relayed =>
        unrelayed unit notice (List.mem_cons_of_mem _ relayed)
      rw [List.flatMap_cons, rest]
      cases deed with
      | relayed unit notice => exact absurd List.mem_cons_self (unrelayed unit notice)
      | _ => rfl

end World

namespace Crew

variable {setups : List Setup} {members : Nat} {crew : Crew} {past : List Saying}
  {key : UnitKey}

/-- What a reserved client has said at any time. -/
theorem utters_of_account {me : ThreadId} {request : Option Request} {world : World}
    {thread : Thread}
    (account : Account .reserved World.sayings (idle setups members) past crew)
    (conducted : ∀ requested, request = some requested →
      Conduct.reserved crew me requested)
    (plays : crew.world.play me (crew.thread me) request = some (world, thread)) :
    crew.world.Utters world (crew.world.sayings me (crew.thread me) request) := by
  obtain ⟨deeds, run⟩ := account.run
  have supports := (framed_run framed_idle run).supports me
  exact World.utters_play plays conducted supports (catalogued_of_account account)

/-- Once a consumer has been told on a topic, the unit has no more to say there. -/
theorem tally_of_account
    (account : Account .reserved World.sayings (idle setups members) past crew)
    (topic : Topic) (key : UnitKey) :
    topic.tally key past ≤ if key < crew.world.unitCount then
      (topic.isSpent (crew.world.unit key)).toNat else 0 := by
  induction account with
  | start => exact Nat.zero_le _
  | @collect crew past account ih =>
      have still := (World.alike_collect crew.world crew.pinned).still
      have grows : crew.world.Grows (crew.world.collect crew.pinned) :=
        .of_still still
      refine Nat.le_trans ih ?_
      rw [still.count]
      split
      · rename_i known
        exact Bool.toNat_le_toNat
          (Topic.isSpent_of_grows (grows.unit key known))
      · exact Nat.le_refl _
  | @play crew past me request world thread account member conducted plays ih =>
      have utters := utters_of_account account conducted plays
      have grows := World.grows_act (World.act_of_play plays)
      rw [Topic.tally_append]
      by_cases known : key < crew.world.unitCount
      · have spent : topic.tally key _ + (topic.isSpent (crew.world.unit key)).toNat ≤
            (topic.isSpent (world.unit key)).toNat :=
          World.tally_of_utters utters grows known
        rw [if_pos known] at ih
        change _ ≤ if key < world.unitCount then _ else _
        rw [if_pos (Nat.lt_of_lt_of_le known grows.count)]
        change _ ≤ (topic.isSpent (world.unit key)).toNat
        omega
      · rw [if_neg known] at ih
        rw [World.tally_of_unknown utters known, Nat.le_zero.mp ih]
        exact Nat.zero_le _

theorem traced_of_account
    (account : Account .reserved World.sayings (idle setups members) past crew)
    {saying : Saying} (said : saying ∈ past) {code : ResultCode}
    (traced : saying.notice = .tracing code) :
    saying.occasion = .progress ∧ code = .ok ∨ saying.occasion = .failure := by
  induction account with
  | start => contradiction
  | collect account ih => exact ih said
  | @play crew past me request world thread account member conducted plays ih =>
      rcases List.mem_append.mp said with before | now
      · exact ih before
      · have utters := utters_of_account account conducted plays
        exact World.traced_of_utters utters now traced

/-- The recorder holds what was said, which is about units that are there. -/
theorem recorded_of_account
    (account : Account .reserved World.sayings (idle setups members) past crew) :
    (∀ saying ∈ past, saying.unit < crew.world.unitCount) ∧
      crew.world.events = past.flatMap fun saying =>
        crew.world.record saying.unit saying.notice := by
  induction account with
  | start => exact ⟨by simp, (World.ofSetups_units setups).2.2⟩
  | @collect crew past account ih =>
      have still := (World.alike_collect crew.world crew.pinned).still
      obtain ⟨known, events⟩ := ih
      refine ⟨fun saying said => ?_, ?_⟩
      · exact Nat.lt_of_lt_of_eq (known saying said) still.count.symm
      · simp only [World.events_collect, World.record_of_still still]
        exact events
  | @play crew past me request world thread account member conducted plays ih =>
      obtain ⟨known, events⟩ := ih
      have grows := World.grows_act (World.act_of_play plays)
      have utters := utters_of_account account conducted plays
      have there : ∀ saying ∈ past ++ crew.world.sayings me (crew.thread me) request,
          saying.unit < crew.world.unitCount := fun saying said =>
        (List.mem_append.mp said).elim (known saying) (World.known_of_utters utters)
      refine ⟨fun saying said =>
        Nat.lt_of_lt_of_le (there saying said) grows.count, ?_⟩
      have same : ∀ saying ∈ past ++ crew.world.sayings me (crew.thread me) request,
          world.record saying.unit saying.notice =
            crew.world.record saying.unit saying.notice := fun saying said =>
        congrFun (World.record_play plays (there saying said)) _
      calc
        world.events = crew.world.events ++
            (crew.world.sayings me (crew.thread me) request).flatMap fun saying =>
              crew.world.record saying.unit saying.notice :=
          World.events_play plays conducted
        _ = (past ++ crew.world.sayings me (crew.thread me) request).flatMap
            fun saying => crew.world.record saying.unit saying.notice := by
          rw [events, List.flatMap_append]
        _ = (past ++ crew.world.sayings me (crew.thread me) request).flatMap
            fun saying => world.record saying.unit saying.notice :=
          List.flatMap_congr fun saying said => (same saying said).symm

/-- Only one thread has listeners of a unit to tell, and those it still has to tell
follow those that were told. -/
structure Heard (crew : Crew) (key : UnitKey) (past : List Saying) : Prop where
  untold : (key < crew.world.unitCount →
      (crew.world.unit key).latches.isSet .hostLoadEvent = false) →
    heardAbout key past = [] ∧ ∀ me, (crew.thread me).toTell key = []
  teller : ∃ teller, (∀ me, me ≠ teller → (crew.thread me).toTell key = []) ∧
    (heardAbout key past ++ (crew.thread teller).toTell key).map Prod.fst <+:
      (crew.world.homeOf key).listeners ∧
    ∀ entry ∈ heardAbout key past ++ (crew.thread teller).toTell key,
      entry.2.Presents (crew.world.unit key)

/-- As long as nobody has been told, it does not matter who is going to. -/
theorem Heard.of_silent
    (silent : heardAbout key past = [] ∧ ∀ me, (crew.thread me).toTell key = []) :
    crew.Heard key past where
  untold := fun _ => silent
  teller := ⟨0, fun me _ => silent.2 me, by simp [silent.1, silent.2],
    by simp [silent.1, silent.2]⟩

/-- Telling goes on as long as what the teller has told and has still to tell stays
the same. -/
theorem Heard.of_grows {next : Crew} {later : List Saying}
    (heard : crew.Heard key past) (known : key < crew.world.unitCount)
    (grows : crew.world.Grows next.world)
    (listeners : (crew.world.homeOf key).listeners <+:
      (next.world.homeOf key).listeners)
    (quiet : ∀ me, (crew.thread me).toTell key = [] →
      (next.thread me).toTell key = [])
    (goesOn : ∀ teller, (∀ me, me ≠ teller → (crew.thread me).toTell key = []) →
      heardAbout key later ++ (next.thread teller).toTell key =
        heardAbout key past ++ (crew.thread teller).toTell key) :
    next.Heard key later where
  untold := by
    intro free
    have untold := heard.untold fun _ => Bool.eq_false_iff.mpr fun told => by
      rw [(grows.unit key known).told _ told] at free
      exact absurd (free (Nat.lt_of_lt_of_le known grows.count)) (by simp)
    have same := goesOn 0 fun me _ => untold.2 me
    rw [untold.1, untold.2, List.append_nil, List.append_eq_nil_iff] at same
    exact ⟨same.1, fun me => quiet me (untold.2 me)⟩
  teller := by
    obtain ⟨teller, others, told, presents⟩ := heard.teller
    refine ⟨teller, fun me other => quiet me (others me other), ?_, ?_⟩
    · rw [goesOn teller others]
      exact told.trans listeners
    · rw [goesOn teller others]
      exact fun entry member => (presents entry member).of_grows (grows.unit key known)

section

variable {me : ThreadId} {world : World} {thread : Thread} {said : List Saying}
  (heard : crew.Heard key past) (member : me < crew.threads.length)
  (grows : crew.world.Grows world)
  (listeners : key < crew.world.unitCount →
    (crew.world.homeOf key).listeners <+: (world.homeOf key).listeners)
include heard member grows listeners

/-- The thread tells what it had still to tell. -/
theorem heard_of_goesOn
    (same : heardAbout key said ++ thread.toTell key = (crew.thread me).toTell key) :
    Heard ({ crew with world }.setThread me thread) key (past ++ said) := by
  have threads (you : ThreadId) := thread_acted member world thread you
  by_cases known : key < crew.world.unitCount
  · refine heard.of_grows known grows (listeners known) ?_ ?_
    · intro you quiet
      rw [threads]
      split
      · rename_i here
        rw [← here] at quiet
        rw [quiet, List.append_eq_nil_iff] at same
        exact same.2
      · exact quiet
    · intro teller others
      rw [heardAbout_append, threads, List.append_assoc]
      split
      · rename_i here
        rw [same, here]
      · rename_i other
        rw [others me other, List.append_eq_nil_iff] at same
        rw [same.1, List.nil_append]
  · obtain ⟨unheard, quiet⟩ := heard.untold fun there => absurd there known
    rw [quiet me, List.append_eq_nil_iff] at same
    refine .of_silent ⟨by rw [heardAbout_append, unheard, same.1]; rfl, fun you => ?_⟩
    rw [threads]
    split
    · exact same.2
    · exact quiet you

/-- The thread is going to tell all listeners.  None has been told before. -/
theorem heard_of_starts (known : key < crew.world.unitCount)
    (untold : (crew.world.unit key).latches.isSet .hostLoadEvent = false)
    (claimed : (world.unit key).latches.isSet .hostLoadEvent = true)
    (silent : heardAbout key said = []) {snapshot : Snapshot}
    (presents : snapshot.Presents (world.unit key))
    (tells : thread.toTell key = (crew.world.homeOf key).listeners.map (·, snapshot) ++
      (crew.thread me).toTell key) :
    Heard ({ crew with world }.setThread me thread) key (past ++ said) := by
  have threads (you : ThreadId) := thread_acted member world thread you
  obtain ⟨unheard, quiet⟩ := heard.untold fun _ => untold
  have told : heardAbout key (past ++ said) ++
      (({ crew with world }.setThread me thread).thread me).toTell key =
        (crew.world.homeOf key).listeners.map (·, snapshot) := by
    rw [heardAbout_append, unheard, silent, threads, if_pos rfl, tells, quiet]
    simp
  refine ⟨fun free => ?_, me, fun you other => ?_, ?_, ?_⟩
  · have free := free (Nat.lt_of_lt_of_le known grows.count)
    exact absurd (claimed.symm.trans free) (by simp)
  · rw [threads, if_neg (Ne.symm other)]
    exact quiet you
  · rw [told, List.map_map]
    have same : Prod.fst ∘ (·, snapshot) = @id Listener := rfl
    rw [same, List.map_id]
    exact listeners known
  · rw [told]
    intro entry member
    obtain ⟨listener, -, rfl⟩ := List.mem_map.mp member
    exact presents

end

theorem heard_play {me : ThreadId} {request : Option Request} {world : World}
    {thread : Thread} (framed : crew.Framed) (heard : crew.Heard key past)
    (member : me < crew.threads.length)
    (plays : crew.world.play me (crew.thread me) request = some (world, thread)) :
    Heard ({ crew with world }.setThread me thread) key
      (past ++ crew.world.sayings me (crew.thread me) request) := by
  have grows := World.grows_act (World.act_of_play plays)
  have listeners (known : key < crew.world.unitCount) :
      (crew.world.homeOf key).listeners <+: (world.homeOf key).listeners := by
    rw [World.homeOf, World.homeOf, (grows.unit key known).home]
    exact (World.plugs_play plays _).2.2
  cases World.announces_play plays (framed.supports me) key with
  | goesOn same => exact heard_of_goesOn heard member grows listeners same
  | starts known untold claimed silent snapshot presents tells =>
      exact heard_of_starts heard member grows listeners known untold claimed silent
        presents tells

theorem heard_of_account
    (account : Account .reserved World.sayings (idle setups members) past crew)
    (key : UnitKey) : crew.Heard key past := by
  induction account with
  | start =>
      refine .of_silent ⟨rfl, fun me => ?_⟩
      rw [thread_idle]
      rfl
  | @play crew past me request world thread account member conducted plays ih =>
      obtain ⟨deeds, run⟩ := account.run
      exact heard_play (framed_run framed_idle run) ih member plays
  | @collect crew past account ih =>
      have alike := World.alike_collect crew.world crew.pinned
      by_cases known : key < crew.world.unitCount
      · refine ih.of_grows known (.of_still alike.still) ?_ (fun _ quiet => quiet)
          fun _ _ => rfl
        have home := (alike.still.unit key).home
        rw [World.homeOf, World.homeOf, home, (alike.domain _).listeners]
      · have unknown : ¬ key < (crew.world.collect crew.pinned).unitCount := by
          rwa [alike.count]
        exact .of_silent (ih.untold fun there => absurd there known)

/-- What consumers have heard of a unit: on each topic at most one notice, and each
subscription at most one snapshot, which shows the unit as active. -/
structure ToldOnce (crew : Crew) (key : UnitKey) (past : List Saying) : Prop where
  /-- What was said is what the recorder received, as far as it is plugged in. -/
  recorded : crew.world.events = past.flatMap fun saying =>
    crew.world.record saying.unit saying.notice
  once : ∀ topic : Topic, topic.tally key past ≤ 1
  traced : ∀ saying ∈ past, ∀ code, saying.notice = .tracing code →
    saying.occasion = .progress ∧ code = .ok ∨ saying.occasion = .failure
  /-- Subscriptions are told one after the other. -/
  subscribed : (heardAbout key past).map Prod.fst <+:
    (crew.world.homeOf key).listeners
  shown : ∀ entry ∈ heardAbout key past,
    entry.2.Presents (crew.world.unit key)

/-- However the client drives units, asks for single sub-steps, stores causes,
unloads units and subscribes listeners, within callbacks to any depth, each consumer
hears of a unit once. -/
theorem toldOnce_of_account
    (account : Account .reserved World.sayings (idle setups members) past crew)
    (key : UnitKey) : crew.ToldOnce key past := by
  obtain ⟨teller, -, told, presents⟩ := (heard_of_account account key).teller
  refine ⟨(recorded_of_account account).2, fun topic => ?_, fun saying said code =>
    traced_of_account account said, ?_, fun entry heard =>
      presents entry (List.mem_append_left _ heard)⟩
  · refine Nat.le_trans (tally_of_account account topic key) ?_
    split
    · exact Bool.toNat_le _
    · exact Nat.zero_le _
  · rw [List.map_append] at told
    exact (List.prefix_append _ _).trans told

/-- A client that delivers a unit's events before it has the unit driven, repeats a
sub-step from within the initializer, where it also fails another unit, and drives
and unloads the unit from within its listener. -/
def pesters : List Cue :=
  [.asks 0 (.create 0 { name := "App" } { name := "App", initializer := .client }),
    .asks 0 (.create 0 { name := "Lib" } { name := "Lib" }),
    .asks 0 (.incremental 0 0 .deliverEvents)] ++ Cue.climbs 0 5 ++
  [.asks 0 (.ensure 0 0 .active)] ++ Cue.climbs 0 72 ++
  [.asks 0 (.incremental 0 0 .beforeTypeLoad)] ++ Cue.climbs 0 4 ++
  [.goesOn 0, .asks 0 (.setError 1 ⟨.fail, "stopped", "Lib", .begun⟩),
    .returns 0] ++ Cue.climbs 0 12 ++
  [.asks 0 (.ensure 0 0 .active), .goesOn 0, .asks 0 (.unload 0 0),
    .asks 0 (.subscribe 0 8), .returns 0] ++ Cue.climbs 0 4

/-- One thread in a domain with a listener of the client. -/
def overheard : Crew :=
  idle [{ Setup.observed with listeners := [.recorder, .client 7] }] 1

theorem pesters_enacted :
    (overheard.enactAll Conduct.reserved pesters).isSome = true := by
  decide +kernel

def pestered : Crew :=
  (overheard.enactAll Conduct.reserved pesters).get pesters_enacted

theorem toldOnce_pestered :
    Account .reserved World.sayings overheard
        ([] ++ overheard.notedAll World.sayings pesters) pestered ∧
      pestered.ToldOnce 0 ([] ++ overheard.notedAll World.sayings pesters) ∧
      (heardAbout 0 (overheard.notedAll World.sayings pesters)).length = 2 ∧
      Topic.failure.tally 1 (overheard.notedAll World.sayings pesters) = 1 := by
  have account : Account .reserved World.sayings overheard
      ([] ++ overheard.notedAll World.sayings pesters) pestered :=
    Account.start.enactAll (Option.some_get pesters_enacted).symm
  exact ⟨account, toldOnce_of_account account 0, by decide +kernel,
    by decide +kernel⟩

end Crew

end LoadLadder
