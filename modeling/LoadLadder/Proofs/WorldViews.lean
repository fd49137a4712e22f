import LoadLadder.Proofs.ThreadSteps
import LoadLadder.Proofs.WorldEffects

/-!
# Worlds with something left out

A world can be looked at without what only advises the loader and without what the
consumers that may be absent learn, or without the scheduling hooks and what they
report.  What is left out takes no part in a climb: whether one first takes a step and
then leaves it out, or first leaves it out and then takes the step, the same world
results.
-/

namespace LoadLadder

namespace Store

variable {α β : Type} [Inhabited α] [Inhabited β] {change : α → β}

/-- The store with all its values changed. -/
def map (store : Store α) (change : α → β) : Store β :=
  ⟨store.items.map change⟩

theorem get_map (fixed : change default = default) (store : Store α) (key : Nat) :
    (store.map change).get key = change (store.get key) := by
  rw [get, get, map, ← fixed]
  simp [List.getD, Option.getD_map]

theorem map_writeItem (fixed : change default = default) (value : α)
    (items : List α) (key : Nat) :
    (writeItem value items key).map change =
      writeItem (change value) (items.map change) key := by
  induction items, key using writeItem.induct <;>
    simp_all [writeItem]

theorem map_set (fixed : change default = default) (store : Store α) (key : Nat)
    (value : α) :
    (store.set key value).map change = (store.map change).set key (change value) :=
  congrArg Store.mk (map_writeItem fixed value store.items key)

theorem map_modify (fixed : change default = default) (store : Store α) (key : Nat)
    {before : α → α} {after : β → β}
    (commutes : change (before (store.get key)) = after (change (store.get key))) :
    (store.modify key before).map change = (store.map change).modify key after := by
  rw [modify, modify, map_set fixed, commutes, get_map fixed]

end Store

/-- What can be left out of a world. -/
inductive Aspect
  /-- The settings of domains, the images' debuggable attributes, and the consumers
  that may be absent. -/
  | advice
  /-- The scheduling hooks. -/
  | hooks
  deriving DecidableEq, Repr

/-- The latches with one of them free. -/
def Latches.without (latches : Latches) (kind : ListenerKind) : Latches :=
  ⟨latches.word &&& ~~~kind.bit⟩

def Image.without (image : Image) : Aspect → Image
  | .advice => { image with debuggable := none }
  | .hooks => image

def LoadUnit.without (unit : LoadUnit) : Aspect → LoadUnit
  | .advice =>
      { unit with
        image := unit.image.without .advice
        latches := unit.latches.without .debuggerModule
        debugging := none
        work := { unit.work with expansions := 0 } }
  | .hooks => unit

def Domain.without (domain : Domain) : Aspect → Domain
  | .advice =>
      { domain with
        config := default
        sinks := { tracing := domain.sinks.tracing } }
  | .hooks => { domain with hook := {} }

/-- Something that is left out is what the event is about. -/
def Event.concerns : Event → Aspect → Bool
  | .profilerLoadFinished .., .advice => true
  | .debuggerUnitLoad .., .advice => true
  | .debuggerModuleLoad .., .advice => true
  | .debuggerModuleUnload .., .advice => true
  | .debuggerUnitUnload .., .advice => true
  | .moduleLoaded .., .advice => true
  | .transition .., .hooks => true
  | _, _ => false

def Snapshot.without (snapshot : Snapshot) : Aspect → Snapshot
  | .advice =>
      { snapshot with
        notified := snapshot.notified.filter fun kind => kind != .debuggerModule }
  | .hooks => snapshot

def World.without (world : World) (aspect : Aspect) : World :=
  { world with
    domains := world.domains.map fun domain => domain.without aspect
    units := world.units.map fun unit => unit.without aspect
    events := world.events.filter fun event => !event.concerns aspect }

variable {aspect : Aspect}

namespace Latches

@[simp]
theorem isSet_without (latches : Latches) (left kind : ListenerKind) :
    (latches.without left).isSet kind =
      (latches.isSet kind && decide (left ≠ kind)) := by
  have bound := kind.index_lt
  have same : (kind.index = left.index) = (left = kind) :=
    propext ⟨fun equal => (ListenerKind.index_injective equal).symm,
      fun equal => equal ▸ rfl⟩
  simp [isSet, without, ListenerKind.bit, bound, same]

theorem without_empty (kind : ListenerKind) : ({} : Latches).without kind = {} := by
  cases kind <;> decide

theorem without_claim (latches : Latches) (kind : ListenerKind) :
    (latches.claim kind).without kind = latches.without kind := by
  refine congrArg Latches.mk (BitVec.eq_of_getLsbD_eq fun place within => ?_)
  simp only [claim, BitVec.getLsbD_and, BitVec.getLsbD_or, BitVec.getLsbD_not, within]
  cases latches.word.getLsbD place <;> cases kind.bit.getLsbD place <;> rfl

theorem claim_without (latches : Latches) {left kind : ListenerKind}
    (apart : left ≠ kind) :
    (latches.claim kind).without left = (latches.without left).claim kind := by
  refine congrArg Latches.mk (BitVec.eq_of_getLsbD_eq fun place within => ?_)
  have other : left.index ≠ kind.index := fun same =>
    apart (ListenerKind.index_injective same)
  simp only [claim, without, ListenerKind.bit, BitVec.getLsbD_and, BitVec.getLsbD_or,
    BitVec.getLsbD_not, BitVec.getLsbD_twoPow, within, kind.index_lt, left.index_lt]
  by_cases here : kind.index = place
  · subst here
    simp [other]
  · simp [here]

end Latches

namespace LoadUnit

variable (unit : LoadUnit) (aspect : Aspect)

theorem without_default : (default : LoadUnit).without aspect = default := by
  cases aspect <;> rfl

theorem without_fresh (id : UnitId) (home : DomainKey) (image : Image)
    (container : Container) (presence : Presence) :
    ({ id, home, image, container, presence } : LoadUnit).without aspect =
      { id, home, image := image.without aspect, container, presence } := by
  cases aspect with
  | advice => simp only [without, Latches.without_empty]
  | hooks => rfl

@[simp]
theorem without_hooks : unit.without .hooks = unit :=
  rfl

@[simp]
theorem id_without : (unit.without aspect).id = unit.id := by
  cases aspect <;> rfl

@[simp]
theorem home_without : (unit.without aspect).home = unit.home := by
  cases aspect <;> rfl

theorem isAlive_without : (unit.without aspect).isAlive = unit.isAlive := by
  cases aspect <;> rfl

@[simp]
theorem container_without : (unit.without aspect).container = unit.container := by
  cases aspect <;> rfl

@[simp]
theorem presence_without : (unit.without aspect).presence = unit.presence := by
  cases aspect <;> rfl

@[simp]
theorem level_without : (unit.without aspect).level = unit.level := by
  cases aspect <;> rfl

@[simp]
theorem failure_without : (unit.without aspect).failure = unit.failure := by
  cases aspect <;> rfl

@[simp]
theorem gateLifted_without : (unit.without aspect).gateLifted = unit.gateLifted := by
  cases aspect <;> rfl

@[simp]
theorem dependencies_without :
    (unit.without aspect).dependencies = unit.dependencies := by
  cases aspect <;> rfl

@[simp]
theorem name_without : (unit.without aspect).name = unit.name := by
  cases aspect <;> rfl

@[simp]
theorem mapped_without : (unit.without aspect).image.mapped = unit.image.mapped := by
  cases aspect <;> rfl

@[simp]
theorem isError_without : (unit.without aspect).isError = unit.isError := by
  cases aspect <;> rfl

@[simp]
theorem isLoading_without : (unit.without aspect).isLoading = unit.isLoading := by
  cases aspect <;> rfl

@[simp]
theorem isLoaded_without : (unit.without aspect).isLoaded = unit.isLoaded := by
  cases aspect <;> rfl

@[simp]
theorem isActive_without : (unit.without aspect).isActive = unit.isActive := by
  cases aspect <;> rfl

@[simp]
theorem throwIfError_without (target : Level) :
    (unit.without aspect).throwIfError target = unit.throwIfError target := by
  cases aspect <;> rfl

@[simp]
theorem requireLevel_without (target : Level) :
    (unit.without aspect).requireLevel target = unit.requireLevel target := by
  cases aspect <;> rfl

@[simp]
theorem checkActivated_without :
    (unit.without aspect).checkActivated = unit.checkActivated := by
  cases aspect <;> rfl

theorem snapshot_without :
    (unit.without aspect).snapshot = unit.snapshot.without aspect := by
  cases aspect with
  | hooks => rfl
  | advice =>
      have claimed : (unit.latches.without .debuggerModule).claimed =
          unit.latches.claimed.filter fun kind => kind != .debuggerModule := by
        simp only [Latches.claimed, List.filter_filter]
        refine List.filter_congr fun kind _ => ?_
        rw [Latches.isSet_without]
        cases kind <;> simp
      simp only [snapshot, Snapshot.without, without, claimed]
      rfl

theorem bindHost_without :
    unit.bindHost.without aspect = (unit.without aspect).bindHost := by
  cases bound : unit.image.hasBinding <;> cases aspect <;>
    simp [bindHost, without, Image.without, bound]

variable {aspect} in
theorem isSet_without {kind : ListenerKind} (apart : kind ≠ .debuggerModule) :
    (unit.without aspect).latches.isSet kind = unit.latches.isSet kind := by
  cases aspect with
  | hooks => rfl
  | advice => simp [without, Ne.symm apart]

end LoadUnit

namespace Domain

variable (domain : Domain) (aspect : Aspect)

theorem without_default : (default : Domain).without aspect = default := by
  cases aspect <;> rfl

@[simp]
theorem registry_without : (domain.without aspect).registry = domain.registry := by
  cases aspect <;> rfl

@[simp]
theorem entries_without : (domain.without aspect).entries = domain.entries := by
  cases aspect <;> rfl

@[simp]
theorem listeners_without : (domain.without aspect).listeners = domain.listeners := by
  cases aspect <;> rfl

@[simp]
theorem nextUnit_without : (domain.without aspect).nextUnit = domain.nextUnit := by
  cases aspect <;> rfl

@[simp]
theorem tracing_without :
    (domain.without aspect).sinks.tracing = domain.sinks.tracing := by
  cases aspect <;> rfl

@[simp]
theorem units_without : (domain.without aspect).units = domain.units := by
  cases aspect <;> rfl

theorem register_without (id : UnitId) (unit : UnitKey) :
    (domain.register id unit).without aspect =
      (domain.without aspect).register id unit := by
  unfold register
  rw [registry_without]
  split
  · rfl
  · cases aspect <;> rfl

end Domain

namespace World

variable (world : World) (key : UnitKey)

@[simp]
theorem unit_without (other : UnitKey) :
    (world.without aspect).unit other = (world.unit other).without aspect :=
  Store.get_map (LoadUnit.without_default aspect) world.units other

@[simp]
theorem domain_without (home : DomainKey) :
    (world.without aspect).domain home = (world.domain home).without aspect :=
  Store.get_map (Domain.without_default aspect) world.domains home

@[simp]
theorem homeOf_without :
    (world.without aspect).homeOf key = (world.homeOf key).without aspect := by
  simp [homeOf]

@[simp]
theorem unitCount_without : (world.without aspect).unitCount = world.unitCount :=
  rfl

theorem isRegistered_without :
    (world.without aspect).isRegistered key = world.isRegistered key := by
  simp [isRegistered]

theorem isReferenced_without (pinned : List UnitKey) :
    (world.without aspect).isReferenced pinned key =
      world.isReferenced pinned key := by
  simp [isReferenced, isRegistered_without]

theorem modifyUnit_without {before after : LoadUnit → LoadUnit}
    (commutes : (before (world.unit key)).without aspect =
      after ((world.unit key).without aspect)) :
    (world.modifyUnit key before).without aspect =
      (world.without aspect).modifyUnit key after :=
  congrArg ({ world.without aspect with units := · })
    (Store.map_modify (LoadUnit.without_default aspect) world.units key commutes)

theorem modifyDomain_without (home : DomainKey) {before after : Domain → Domain}
    (commutes : (before (world.domain home)).without aspect =
      after ((world.domain home).without aspect)) :
    (world.modifyDomain home before).without aspect =
      (world.without aspect).modifyDomain home after :=
  congrArg ({ world.without aspect with domains := · })
    (Store.map_modify (Domain.without_default aspect) world.domains home commutes)

/-- An event about something that is left out is not seen. -/
theorem emit_unseen {event : Event} (concerns : event.concerns aspect = true) :
    (world.emit event).without aspect = world.without aspect := by
  simp [emit, without, List.filter_append, concerns]

theorem emit_seen {event : Event} (apart : event.concerns aspect = false) :
    (world.emit event).without aspect = (world.without aspect).emit event := by
  simp [emit, without, List.filter_append, apart]

/-- The unit is written back as it was. -/
theorem modifyUnit_self {change : LoadUnit → LoadUnit}
    (written : world.units.get key ≠ default)
    (same : change (world.unit key) = world.unit key) :
    world.modifyUnit key change = world :=
  congrArg ({ world with units := · }) (Store.modify_eq_self written same)

theorem addDomain_without (domain : Domain) :
    (world.addDomain domain).without aspect =
      (world.without aspect).addDomain (domain.without aspect) :=
  congrArg ({ world.without aspect with
      domains := ·, domainCount := world.domainCount + 1 })
    (Store.map_set (Domain.without_default aspect) world.domains world.domainCount domain)

/-- One more unit. -/
theorem place_without (unit : LoadUnit) :
    World.without { world with
      units := world.units.set world.unitCount unit
      unitCount := world.unitCount + 1 } aspect =
    { world.without aspect with
      units := (world.without aspect).units.set world.unitCount (unit.without aspect)
      unitCount := world.unitCount + 1 } :=
  congrArg ({ world.without aspect with units := ·, unitCount := world.unitCount + 1 })
    (Store.map_set (LoadUnit.without_default aspect) world.units world.unitCount unit)

theorem createUnit_without (home : DomainKey) (image : Image) (container : Container) :
    (world.without aspect).createUnit home (image.without aspect) container =
      ((world.createUnit home image container).1.without aspect,
        (world.createUnit home image container).2) := by
  have numbered : (world.modifyDomain home fun domain =>
        { domain with nextUnit := domain.nextUnit + 1 }).without aspect =
      (world.without aspect).modifyDomain home fun domain =>
        { domain with nextUnit := domain.nextUnit + 1 } :=
    modifyDomain_without world home (by cases aspect <;> rfl)
  have validated : (image.without aspect).validate = image.validate := by
    cases aspect <;> rfl
  simp only [createUnit, domain_without, Domain.nextUnit_without, validated, ← numbered]
  generalize world.modifyDomain home _ = next
  cases image.validate with
  | ok =>
      refine Prod.ext (Eq.symm ((place_without next _).trans ?_)) rfl
      rw [LoadUnit.without_fresh]
      rfl
  | error fault =>
      refine Prod.ext (Eq.symm ((place_without next _).trans ?_)) rfl
      rw [LoadUnit.without_fresh]
      rfl

@[simp]
theorem holdsUnit_without :
    (world.without aspect).holdsUnit key = world.holdsUnit key := by
  simp only [holdsUnit, unit_without, LoadUnit.presence_without]
  rfl

theorem addDependency_without (dependency : UnitKey) :
    (world.without aspect).addDependency key dependency =
      ((world.addDependency key dependency).1.without aspect,
        (world.addDependency key dependency).2) := by
  simp only [addDependency, unit_without, LoadUnit.container_without, holdsUnit_without]
  split
  · refine Prod.ext (modifyUnit_without world key ?_).symm rfl
    cases aspect <;> rfl
  · rfl

theorem tellTracing_without (code : ResultCode) :
    (world.tellTracing key code).without aspect =
      (world.without aspect).tellTracing key code := by
  have sinks : ((world.without aspect).sinksOf key).tracing =
      (world.sinksOf key).tracing := by
    simp [sinksOf]
  simp only [tellTracing, sinks, unit_without, LoadUnit.container_without]
  split
  · exact emit_seen world (by cases aspect <;> rfl)
  · rfl

theorem tellProfiler_without (code : ResultCode) :
    (world.tellProfiler key code).without aspect =
      (world.without aspect).tellProfiler key code := by
  cases aspect with
  | advice =>
      have absent : ((world.without .advice).sinksOf key).profiler = false := by
        simp [sinksOf, Domain.without]
      simp only [tellProfiler, absent]
      split
      · exact emit_unseen world rfl
      · rfl
  | hooks =>
      have sinks : (world.without .hooks).sinksOf key = world.sinksOf key := by
        simp [sinksOf, Domain.without]
      simp only [tellProfiler, sinks, unit_without, LoadUnit.container_without]
      split
      · exact emit_seen world rfl
      · rfl

theorem claim_without {kind : ListenerKind} (apart : kind ≠ .debuggerModule) :
    (world.claim key kind).1.without aspect = ((world.without aspect).claim key kind).1 ∧
      ((world.without aspect).claim key kind).2 = (world.claim key kind).2 := by
  constructor
  · refine modifyUnit_without world key ?_
    cases aspect with
    | hooks => rfl
    | advice =>
        simp only [LoadUnit.without]
        rw [Latches.claim_without _ (Ne.symm apart)]
  · simp only [claim, unit_without, LoadUnit.isSet_without _ apart]

theorem once_without (kind : ListenerKind) (apart : kind ≠ .debuggerModule)
    (before after : World → World)
    (commutes : ∀ world : World, (before world).without aspect =
      after (world.without aspect)) :
    (world.once key kind before).without aspect =
      (world.without aspect).once key kind after := by
  have claimed : (world.claim key kind).1.without aspect =
      ((world.without aspect).claim key kind).1 :=
    (claim_without world key apart).1
  have fresh : ((world.without aspect).claim key kind).2 = (world.claim key kind).2 :=
    (claim_without world key apart).2
  simp only [once, fresh, ← claimed]
  split
  · exact commutes _
  · rfl

theorem setError_without (cause : Cause) :
    (world.without aspect).setError key cause =
      ((world.setError key cause).1.without aspect, (world.setError key cause).2) := by
  simp only [setError, unit_without, LoadUnit.failure_without]
  rcases (world.unit key).failure.record cause with ⟨failure, fault | stored⟩
  · rfl
  · have kept : (world.modifyUnit key fun unit =>
          { unit with failure }).without aspect =
        (world.without aspect).modifyUnit key fun unit => { unit with failure } :=
      modifyUnit_without world key (by cases aspect <;> rfl)
    refine Prod.ext ?_ rfl
    dsimp only
    have told (world : World) : (world.tellProfiler key stored.code).without aspect =
        (world.without aspect).tellProfiler key stored.code :=
      tellProfiler_without world key stored.code
    rw [once_without _ key _ (by decide) _
      (fun world => world.tellProfiler key stored.code) told, tellTracing_without, kept]

theorem recordFailure_without (level : Level) (fault : Fault) :
    (world.without aspect).recordFailure key level fault =
      ((world.recordFailure key level fault).1.without aspect,
        (world.recordFailure key level fault).2) := by
  simp only [recordFailure, unit_without, LoadUnit.name_without, setError_without]
  rcases world.setError key (.capture fault (world.unit key).name level) with
    ⟨next, violation | stored⟩ <;> rfl

theorem registerUnit_without :
    (world.registerUnit key).without aspect =
      (world.without aspect).registerUnit key := by
  simp only [registerUnit, unit_without, LoadUnit.home_without, LoadUnit.id_without]
  exact modifyDomain_without world _ (Domain.register_without _ _ _ _)

theorem modifyEntries_without (change : Entries → Entries) :
    (world.modifyEntries key change).without aspect =
      (world.without aspect).modifyEntries key change := by
  simp only [modifyEntries, unit_without, LoadUnit.home_without]
  exact modifyDomain_without world _ (by cases aspect <;> rfl)

theorem requestEntry_without (me : ThreadId) :
    (world.without aspect).requestEntry me key =
      ((world.requestEntry me key).1.without aspect, (world.requestEntry me key).2) := by
  simp only [requestEntry, homeOf_without, Domain.entries_without, unit_without,
    LoadUnit.id_without, modifyEntries_without]

theorem wakeForEntry_without (me : ThreadId) :
    (world.without aspect).wakeForEntry me key =
      ((world.wakeForEntry me key).1.without aspect, (world.wakeForEntry me key).2) := by
  simp only [wakeForEntry, homeOf_without, Domain.entries_without, unit_without,
    LoadUnit.id_without, modifyEntries_without]

theorem releaseEntry_without :
    (world.without aspect).releaseEntry key =
      (world.releaseEntry key).without aspect := by
  simp only [releaseEntry, modifyEntries_without, unit_without, LoadUnit.id_without]

theorem doWork_without (level : Level) {count : Work → Work}
    (commutes : ∀ work : Work, ({ count work with expansions := 0 } : Work) =
      count { work with expansions := 0 }) :
    (world.without aspect).doWork key level count =
      ((world.doWork key level count).1.without aspect,
        (world.doWork key level count).2) := by
  have counted : (world.countWork key count).without aspect =
      (world.without aspect).countWork key count := by
    refine modifyUnit_without world key ?_
    cases aspect with
    | hooks => rfl
    | advice => simp [LoadUnit.without, commutes]
  simp only [doWork, unit_without, LoadUnit.container_without, counted]

/-- A change of a unit that was made is not seen if it only concerns what is left
out. -/
theorem modifyUnit_unseen {change : LoadUnit → LoadUnit}
    (written : (world.unit key).without aspect ≠ default)
    (unseen : (change (world.unit key)).without aspect =
      (world.unit key).without aspect) :
    (world.modifyUnit key change).without aspect = world.without aspect := by
  have same : (world.modifyUnit key change).without aspect =
      (world.without aspect).modifyUnit key id := modifyUnit_without world key unseen
  have there : (world.without aspect).unit key ≠ default := by
    rwa [unit_without]
  rw [same, modifyUnit_self _ key there rfl]

theorem claim_unhooked (kind : ListenerKind) :
    (world.without .hooks).claim key kind =
      ((world.claim key kind).1.without .hooks, (world.claim key kind).2) :=
  Prod.ext (modifyUnit_without world key rfl).symm (by simp [claim])

theorem sinksOf_unhooked : (world.without .hooks).sinksOf key = world.sinksOf key := by
  simp [sinksOf, Domain.without]

theorem debuggingConfig_unhooked :
    (world.without .hooks).debuggingConfig key =
      ((world.debuggingConfig key).1.without .hooks, (world.debuggingConfig key).2) := by
  refine Prod.ext ?_ (by simp [debuggingConfig])
  simp only [debuggingConfig, unit_without, LoadUnit.without_hooks]
  exact (modifyUnit_without world key rfl).symm

theorem sendUnitLoad_unhooked :
    (world.without .hooks).sendUnitLoad key =
      (world.sendUnitLoad key).without .hooks := by
  simp only [sendUnitLoad, debuggingConfig_unhooked, unit_without,
    LoadUnit.without_hooks]
  exact (emit_seen _ rfl).symm

theorem containerDebuggerLoad_unhooked (flags : AttachFlags) :
    (world.without .hooks).containerDebuggerLoad key flags =
      ((world.containerDebuggerLoad key flags).1.without .hooks,
        (world.containerDebuggerLoad key flags).2) := by
  simp only [containerDebuggerLoad, sinksOf_unhooked, unit_without,
    LoadUnit.without_hooks]
  split
  · rfl
  · cases (world.sinksOf key).debugger with
    | absent => rfl
    | attached consumes => exact Prod.ext (emit_seen world rfl).symm rfl

theorem notifyDebuggerLoad_unhooked (flags : AttachFlags) (attaching : Bool) :
    (world.without .hooks).notifyDebuggerLoad key flags attaching =
      ((world.notifyDebuggerLoad key flags attaching).1.without .hooks,
        (world.notifyDebuggerLoad key flags attaching).2) := by
  have sent : (if flags.contains .assemblyLoad then
        (world.without .hooks).sendUnitLoad key else world.without .hooks) =
      (if flags.contains .assemblyLoad then
        world.sendUnitLoad key else world).without .hooks := by
    rw [sendUnitLoad_unhooked, apply_ite (World.without · .hooks)]
  simp only [notifyDebuggerLoad, unit_without, LoadUnit.without_hooks,
    sinksOf_unhooked, sent, claim_unhooked, containerDebuggerLoad_unhooked]
  repeat' split
  all_goals rfl

theorem announceDebugger_unhooked :
    (world.without .hooks).announceDebugger key =
      ((world.announceDebugger key).1.without .hooks,
        (world.announceDebugger key).2) := by
  simp only [announceDebugger, claim_unhooked]
  split
  · rw [notifyDebuggerLoad_unhooked]
    rcases (world.claim key .debugger).1.notifyDebuggerLoad key .assemblyLoad false with
      ⟨next, fault | sent⟩ <;> rfl
  · rfl

section

variable (flagged : (world.unit key).latches.isSet .debugger = true)

include flagged

theorem written_of_flagged : (world.unit key).without .advice ≠ default := by
  intro unwritten
  have kept : ((world.unit key).without .advice).latches.isSet .debugger = true := by
    rw [LoadUnit.isSet_without _ (by decide), flagged]
  rw [unwritten] at kept
  contradiction

theorem sendUnitLoad_unadvised :
    (world.sendUnitLoad key).without .advice = world.without .advice := by
  have unseen : (world.unit key).debuggingConfig.1.without .advice =
      (world.unit key).without .advice := by
    unfold LoadUnit.debuggingConfig
    split
    · rfl
    · split <;> rfl
  refine (emit_unseen _ rfl).trans ?_
  exact modifyUnit_unseen world key (written_of_flagged world key flagged) unseen

theorem claim_unadvised :
    (world.claim key .debuggerModule).1.without .advice = world.without .advice := by
  refine modifyUnit_unseen world key (written_of_flagged world key flagged) ?_
  simp only [LoadUnit.without, Latches.without_claim]

end

theorem containerDebuggerLoad_unadvised (flags : AttachFlags) :
    (world.containerDebuggerLoad key flags).1.without .advice =
      world.without .advice := by
  unfold containerDebuggerLoad
  split
  · rfl
  · split
    · rfl
    · exact emit_unseen world rfl

theorem announceDebugger_unadvised :
    (world.without .advice).announceDebugger key =
      ((world.announceDebugger key).1.without .advice,
        (world.announceDebugger key).2) := by
  have claimed : ((world.without .advice).claim key .debugger).1 =
      (world.claim key .debugger).1.without .advice :=
    (claim_without world key (by decide)).1.symm
  have absent : ((world.without .advice).sinksOf key).isDebuggerAttached = false := by
    simp [sinksOf, Domain.without, Sinks.isDebuggerAttached]
  cases told : (world.unit key).latches.isSet .debugger with
  | true =>
      rw [announceDebugger_of_told world key told, announceDebugger_of_told, claimed]
      rw [unit_without, LoadUnit.isSet_without _ (by decide), told]
  | false =>
      rw [announceDebugger_of_untold world key told, announceDebugger_of_untold,
        absent, if_neg Bool.false_ne_true, claimed]
      · have flagged : ((world.claim key .debugger).1.unit
            key).latches.isSet .debugger = true := by
          simp [unit_claim]
        have informed : (((world.claim key .debugger).1.sendUnitLoad key).unit
            key).latches.isSet .debugger = true := by
          rw [((alike_sendUnitLoad _ key).unit key).latches, flagged]
        cases (world.sinksOf key).isDebuggerAttached with
        | false => rfl
        | true =>
            refine Prod.ext ?_ rfl
            simp only [if_true]
            split
            · rw [claim_unadvised _ key informed, sendUnitLoad_unadvised _ key flagged]
            · rw [containerDebuggerLoad_unadvised, claim_unadvised _ key informed,
                sendUnitLoad_unadvised _ key flagged]
      · rw [unit_without, LoadUnit.isSet_without _ (by decide), told]

theorem announceDebugger_without :
    (world.without aspect).announceDebugger key =
      ((world.announceDebugger key).1.without aspect,
        (world.announceDebugger key).2) := by
  cases aspect with
  | advice => exact announceDebugger_unadvised world key
  | hooks => exact announceDebugger_unhooked world key

theorem showInspection_without :
    (world.without aspect).perform key .showInspection =
      ((world.perform key .showInspection).1.without aspect, none) := by
  cases aspect with
  | advice =>
      have absent : ((world.without .advice).sinksOf key).inspection = false := by
        simp [sinksOf, Domain.without]
      simp only [perform, absent, Bool.false_eq_true, if_false]
      split
      · exact Prod.ext (emit_unseen world rfl).symm rfl
      · rfl
  | hooks =>
      simp only [perform, sinksOf_unhooked, unit_without, LoadUnit.without_hooks]
      split
      · exact Prod.ext (emit_seen world rfl).symm rfl
      · rfl

theorem expandTypes_without
    (made : aspect = .advice → (world.unit key).without .advice ≠ default) :
    (world.without aspect).perform key .expandTypes =
      ((world.perform key .expandTypes).1.without aspect, none) := by
  cases aspect with
  | advice =>
      have idle : ((world.without .advice).homeOf key).config.expandModulesOnLoad =
          false := by
        rw [homeOf_without]
        rfl
      simp only [perform, idle, Bool.false_eq_true, if_false]
      split
      · exact Prod.ext (modifyUnit_unseen world key (made rfl) rfl).symm rfl
      · rfl
  | hooks =>
      have settings : ((world.without .hooks).homeOf key).config =
          (world.homeOf key).config := by
        rw [homeOf_without]
        rfl
      simp only [perform, settings]
      split
      · exact Prod.ext (modifyUnit_without world key rfl).symm rfl
      · rfl

/-- The report of a transition and the initializer are left to the thread. -/
theorem perform_without (action : Action)
    (made : aspect = .advice → action = .expandTypes →
      (world.unit key).without .advice ≠ default) :
    (world.without aspect).perform key action =
      ((world.perform key action).1.without aspect, (world.perform key action).2) := by
  cases action with
  | register => simp only [perform, registerUnit_without]
  | bindHost =>
      refine Prod.ext (modifyUnit_without world key ?_).symm rfl
      exact LoadUnit.bindHost_without _ _
  | requireMapped =>
      simp only [perform, unit_without, LoadUnit.mapped_without, LoadUnit.name_without]
  | announceProfiler =>
      refine Prod.ext (Eq.symm ?_) rfl
      exact once_without world key .profiler (by decide)
        (fun world => world.tellProfiler key .ok)
        (fun world => world.tellProfiler key .ok)
        fun world => tellProfiler_without world key .ok
  | announceTracing =>
      refine Prod.ext (Eq.symm ?_) rfl
      exact once_without world key .tracing (by decide)
        (fun world => world.tellTracing key .ok)
        (fun world => world.tellTracing key .ok)
        fun world => tellTracing_without world key .ok
  | announceDebugger => exact announceDebugger_without world key
  | applyEagerFixups =>
      simp only [perform, unit_without, LoadUnit.container_without]
      split
      · exact doWork_without world key _ fun _ => rfl
      · rfl
  | patchVtables | resolvePlan => exact doWork_without world key _ fun _ => rfl
  | publish =>
      refine Prod.ext (modifyUnit_without world key ?_).symm rfl
      cases aspect <;> rfl
  | showInspection => exact showInspection_without world key
  | requireLoaded =>
      simp only [perform, unit_without, LoadUnit.isLoaded_without, LoadUnit.name_without]
  | expandTypes => exact expandTypes_without world key fun advice => made advice rfl
  | registerCode =>
      simp only [perform, unit_without, LoadUnit.container_without]
      split
      · refine Prod.ext (modifyUnit_without world key ?_).symm rfl
        cases aspect <;> rfl
      · rfl
  | runInitializer | reportTransition => rfl

end World

end LoadLadder
