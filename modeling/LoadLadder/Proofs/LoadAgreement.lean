import LoadLadder.Proofs.PlanRuns
import Mathlib.Algebra.BigOperators.Ring.Finset

/-!
# Agreement between finished loads

What has been recorded about a unit at rest, whom it has told, and what a look at
it shows, is decided by how far it has come and by the cause of its failure.  So two
finished loads of one plan that agree on the causes agree on everything that a
report says, in whatever order things happened.
-/

namespace LoadLadder

open Relation

/-- Two units that were made alike and have come equally far.  They may have
different numbers. -/
structure LoadUnit.SameUpToNumber (first second : LoadUnit) : Prop where
  image : first.image = second.image
  container : first.container = second.container
  level : first.level = second.level
  failure : first.failure = second.failure

/-- Two units of one number that were made alike and have come equally far. -/
structure LoadUnit.Agrees (first second : LoadUnit) : Prop
    extends first.SameUpToNumber second where
  id : first.id = second.id

section

variable {first second : LoadUnit} (alike : first.SameUpToNumber second)

include alike

theorem LoadUnit.SameUpToNumber.isError : first.isError = second.isError := by
  rw [LoadUnit.isError, LoadUnit.isError, alike.failure]

theorem LoadUnit.SameUpToNumber.name : first.name = second.name := by
  rw [LoadUnit.name, LoadUnit.name, alike.image]

theorem canonicalTrace_congr {sinks : Sinks} :
    canonicalTrace sinks first = canonicalTrace sinks second := by
  have climb : climbEvents sinks first = climbEvents sinks second := by
    funext level
    cases level <;>
      simp only [climbEvents, alike.name, alike.container,
        LoadUnit.wantedConfig_congr alike.image]
  rw [canonicalTrace, canonicalTrace, climb, activeEvents, activeEvents,
    failureEvents, failureEvents, alike.name, alike.level,
    alike.container, alike.failure]

end

/-- What a look at a unit shows besides its number. -/
def Snapshot.unnumbered (snapshot : Snapshot) : Snapshot :=
  { snapshot with id := ⟨0⟩ }

theorem Snapshot.eq_of_unnumbered {first second : Snapshot}
    (same : first.unnumbered = second.unnumbered) (id : first.id = second.id) :
    first = second := by
  cases first
  cases second
  simp_all [unnumbered]

namespace World

variable {base twin first second world : World} {key other : UnitKey}
  {goal : Level} {sinks : Sinks}

theorem Rested.told (rested : world.Rested sinks) (known : key < world.unitCount) :
    world.Told sinks {} key
      (world.climbed sinks key (world.unit key).level) := by
  obtain ⟨⟨telling, told⟩, -⟩ := rested.spoken key known
  have climb := tells_of_none told.tells rfl
  exact climb ▸ told

/-- At rest, just the active units have been announced to the host. -/
theorem Rested.announced_iff (rested : world.Rested sinks)
    (known : key < world.unitCount) :
    (world.unit key).latches.isSet .hostLoadEvent = true ↔
      (world.unit key).level = .active := by
  have heard := (rested.spoken key known).heard
  refine ⟨heard.active, fun active => ?_⟩
  by_contra free
  have nears := (heard.unannounced active (Bool.eq_false_of_not_eq_true free)).1
  contradiction

section

variable (one : first.Rested sinks) (two : second.Rested sinks)
  (known : key < first.unitCount) (there : other < second.unitCount)
  (alike : (first.unit key).SameUpToNumber (second.unit other))

include one two known there alike

theorem Rested.isSet_congr (kind : ListenerKind) :
    (first.unit key).latches.isSet kind =
      (second.unit other).latches.isSet kind := by
  by_cases host : kind = .hostLoadEvent
  · rw [host, Bool.eq_iff_iff, one.announced_iff known, two.announced_iff there,
      alike.level]
  · rw [(one.told known).latches kind host, (two.told there).latches kind host,
      climbed, climbed, LoadUnit.wantedConfig_congr alike.image,
      alike.level, alike.isError]

theorem Rested.claimed_congr :
    (first.unit key).latches.claimed = (second.unit other).latches.claimed :=
  List.filter_congr fun kind _ =>
    one.isSet_congr two known there alike kind

theorem Rested.eventsOf_congr : first.eventsOf key = second.eventsOf other := by
  rw [one.traced known, two.traced there, canonicalTrace_congr alike]

end

/-- The gate matters only for a unit that is neither active nor failed. -/
theorem checkActivated_congr {first second : LoadUnit}
    (alike : first.SameUpToNumber second)
    (gate : first.level ≠ .active → first.isError = false →
      first.gateLifted = second.gateLifted) :
    first.checkActivated = second.checkActivated := by
  have error := alike.isError
  unfold LoadUnit.checkActivated LoadUnit.checkNoError LoadUnit.isActive
    LoadUnit.isSystem LoadUnit.isLoaded
  rw [← error, ← alike.level, ← alike.image]
  by_cases active : first.level = .active
  · have top : Level.active ≤ .active := Nat.le_refl _
    simp [active, top]
  · cases failed : first.isError with
    | true =>
        -- Code of a failed unit never runs, whether or not the gate is lifted.
        have low : ¬ Level.active ≤ first.level :=
          fun high => active (Level.eq_active_of_le high)
        simp [low]
    | false => simp [gate active failed]

theorem Finished.unnumbered_congr (one : first.Finished sinks goal)
    (two : second.Finished sinks goal) (known : key < first.unitCount)
    (there : other < second.unitCount)
    (held : (first.unit key).presence = .held)
    (alike : (first.unit key).SameUpToNumber (second.unit other)) :
    (first.unit key).snapshot.unnumbered =
      (second.unit other).snapshot.unnumbered := by
  have activated : (first.unit key).checkActivated =
      (second.unit other).checkActivated := by
    refine checkActivated_congr alike fun low healthy => ?_
    have short : goal ≠ .active := by
      rintro rfl
      rcases one.complete key known held with reached | failed
      · exact low (Level.eq_active_of_le reached)
      · rw [healthy] at failed
        contradiction
    rw [(one.capped key).gate short, (two.capped other).gate short]
  simp only [Snapshot.unnumbered, LoadUnit.snapshot, LoadUnit.isSystem,
    alike.name, alike.level, alike.failure, alike.image,
    activated, one.rested.claimed_congr two.rested known there alike]

/-- Finished loads of paired plans that agree on the causes of paired units agree
on how far the units have come. -/
theorem Finished.sameUpToNumber {pairs : UnitKey → UnitKey → Prop}
    (pairing : base.Pairing twin pairs) (paired : pairs key other)
    (toFirst : base.Proceeds first) (toSecond : twin.Proceeds second)
    (one : first.Finished sinks goal) (two : second.Finished sinks goal)
    (causes : (base.unit key).presence = .held →
      (first.unit key).failure.cause = (second.unit other).failure.cause) :
    (first.unit key).SameUpToNumber (second.unit other) := by
  obtain ⟨known, there⟩ := pairing.known paired
  have presence := pairing.presence paired
  have fixedFirst := toFirst.fixed key
  have fixedSecond := toSecond.fixed other
  have cell {left right : CauseCell} (same : left.cause = right.cause) :
      left = right := by
    cases left
    cases right
    exact congrArg CauseCell.mk same
  obtain ⟨level, failure⟩ :
      (first.unit key).level = (second.unit other).level ∧
        (first.unit key).failure.cause =
          (second.unit other).failure.cause := by
    by_cases held : (base.unit key).presence = .held
    · have heldToo := presence.symm.trans held
      refine ⟨?_, causes held⟩
      have same := causes held
      cases failure : (first.unit key).failure.cause with
      | none =>
          rw [failure] at same
          rw [one.level_of_healthy (toFirst.count.symm ▸ known)
            (fixedFirst.presence.trans held) failure,
            two.level_of_healthy (toSecond.count.symm ▸ there)
            (fixedSecond.presence.trans heldToo) same.symm]
      | some cause =>
          rw [failure] at same
          exact Level.next_injective (one.next_of_cause failure).1
            (two.next_of_cause same.symm).1
    · obtain ⟨low, healthy⟩ := (one.rested.grounded key).unheld
        (fixedFirst.presence.trans_ne held)
      obtain ⟨lowToo, healthyToo⟩ := (two.rested.grounded other).unheld
        (fixedSecond.presence.trans_ne (presence ▸ held))
      rw [low, lowToo, healthy, healthyToo]
      exact ⟨rfl, rfl⟩
  exact ⟨fixedFirst.image.trans
      ((pairing.image paired).trans fixedSecond.image.symm),
    fixedFirst.container.trans
      ((pairing.container paired).trans fixedSecond.container.symm),
    level, cell failure⟩

/-- Finished loads that agree on the causes agree on the units. -/
theorem Finished.agrees (rooted : base.Rooted)
    (toFirst : base.Proceeds first) (toSecond : base.Proceeds second)
    (one : first.Finished sinks goal) (two : second.Finished sinks goal)
    (known : key < base.unitCount)
    (causes : (base.unit key).presence = .held →
      (first.unit key).failure.cause = (second.unit key).failure.cause) :
    (first.unit key).Agrees (second.unit key) where
  toSameUpToNumber := Finished.sameUpToNumber (.refl rooted) ⟨known, rfl⟩ toFirst toSecond
    one two causes
  id := (toFirst.fixed key).id.trans (toSecond.fixed key).id.symm

theorem Rested.mem_registry (rested : world.Rested sinks)
    {entry : UnitId × UnitKey} : entry ∈ (world.domain 0).registry ↔
      ∃ key < world.unitCount, entry = (⟨key + 1⟩, key) ∧
        .begun ≤ (world.unit key).level := by
  constructor
  · intro member
    obtain ⟨key, known, rfl⟩ := rested.proper entry member
    exact ⟨key, known, rfl, (rested.enlists key).mp member⟩
  · rintro ⟨key, -, rfl, begun⟩
    exact (rested.enlists key).mpr begun

/-- The registry has as many entries as units have been begun. -/
theorem Rested.length_registry (rested : world.Rested sinks) :
    (world.domain 0).registry.length =
      (List.range world.unitCount).countP fun key =>
        .begun ≤ (world.unit key).level := by
  let entry (key : UnitKey) : UnitId × UnitKey := (⟨key + 1⟩, key)
  have apart : Function.Injective entry := fun key other same =>
    congrArg Prod.snd same
  have listed : (world.domain 0).registry.Perm (((List.range
      world.unitCount).filter fun key => .begun ≤ (world.unit key).level).map
        entry) := by
    refine (List.perm_ext_iff_of_nodup rested.once
      ((List.nodup_range.filter _).map apart)).mpr fun registered => ?_
    rw [rested.mem_registry, List.mem_map]
    refine exists_congr fun key => ?_
    rw [List.mem_filter, List.mem_range, decide_eq_true_iff, and_assoc]
    exact and_congr_right fun _ => ⟨fun ⟨same, begun⟩ => ⟨begun, same.symm⟩,
      fun ⟨begun, same⟩ => ⟨same.symm, begun⟩⟩
  rw [listed.length_eq, List.length_map, List.countP_eq_length_filter]

theorem Rested.registered_congr (one : first.Rested sinks)
    (two : second.Rested sinks) (count : first.unitCount = second.unitCount)
    (agrees : ∀ key < first.unitCount,
      (first.unit key).Agrees (second.unit key)) :
    (first.domain 0).registry.length = (second.domain 0).registry.length := by
  rw [one.length_registry, two.length_registry, ← count]
  refine List.countP_congr fun key member => ?_
  rw [(agrees key (List.mem_range.mp member)).level]

/-- Items that are each about just one key are counted key by key. -/
theorem length_eq_sum_filter {α : Type} {items : List α} {count : Nat}
    {about : Nat → α → Bool}
    (once : ∀ item ∈ items, ∃ key < count, about key item = true ∧
      ∀ other < count, about other item = true → other = key) :
    items.length =
      ∑ key ∈ Finset.range count, (items.filter (about key)).length := by
  induction items with
  | nil => simp
  | cons item items ih =>
      obtain ⟨owner, within, mine, only⟩ := once item List.mem_cons_self
      have split (key : Nat) (member : key ∈ Finset.range count) :
          ((item :: items).filter (about key)).length =
            (items.filter (about key)).length + if key = owner then 1 else 0 := by
        rw [List.filter_cons]
        by_cases same : key = owner
        · simp [same, mine]
        · have silent : about key item = false :=
            Bool.eq_false_of_not_eq_true fun yours =>
              same (only key (Finset.mem_range.mp member) yours)
          simp [same, silent]
      rw [Finset.sum_congr rfl split, Finset.sum_add_distrib,
        ← ih fun later member => once later (List.mem_cons_of_mem _ member)]
      simp [within]

theorem length_events (named : world.Named) (watched : world.Watched sinks) :
    world.events.length =
      ∑ key ∈ Finset.range world.unitCount, (world.eventsOf key).length := by
  refine length_eq_sum_filter fun event recorded => ?_
  obtain ⟨key, known, name⟩ := named event recorded
  refine ⟨key, known, decide_eq_true name, fun other there about => ?_⟩
  by_contra apart
  exact watched.apart key known other there (Ne.symm apart) event.unit name
    (of_decide_eq_true about)

theorem Rested.events_congr (one : first.Rested sinks)
    (two : second.Rested sinks) (count : first.unitCount = second.unitCount)
    (agrees : ∀ key < first.unitCount,
      (first.unit key).Agrees (second.unit key)) :
    first.events.length = second.events.length := by
  rw [length_events one.named one.planned.watched,
    length_events two.named two.planned.watched, ← count]
  refine Finset.sum_congr rfl fun key member => ?_
  have known := Finset.mem_range.mp member
  rw [one.eventsOf_congr two known (count ▸ known) (agrees key known).toSameUpToNumber]

end World

/-- A report on a unit without the number of the unit. -/
def UnitReport.unnumbered (report : UnitReport) : UnitReport :=
  { report with snapshot := report.snapshot.map Snapshot.unnumbered }

theorem UnitReport.eq_of_unnumbered {first second : UnitReport}
    (same : first.unnumbered = second.unnumbered)
    (snapshot : first.snapshot = second.snapshot) : first = second := by
  cases first
  cases second
  simp_all [unnumbered]

namespace Manifest

variable {manifest twin : Manifest} {target : Level} {first second : World}
  {outcomes others : List (Except Fault Unit)} {spec : UnitSpec}
  {key other : UnitKey}

/-- No units depend on each other in a circle, or no unit that is not refused is made
to fail. -/
def Mild (manifest : Manifest) : Prop :=
  manifest.Acyclic ∨
    ∀ spec ∈ manifest.units, spec.invalid = false → spec.failAt = none

/-- The events that name the unit of an entry are those about that unit. -/
theorem eventsAbout_of_entry {world : World}
    (entry : manifest.units[key]? = some spec)
    (proceeds : manifest.build.world.Proceeds world) :
    eventsAbout spec.name world.events = world.eventsOf key := by
  have image := (proceeds.fixed key).image
  have container := (proceeds.fixed key).container
  rw [unit_of_entry entry] at image container
  refine List.filter_congr fun event _ => ?_
  rw [Bool.eq_iff_iff]
  simp [World.isAbout, LoadUnit.names, LoadUnit.name, image, container, unitOf,
    UnitSpec.unit, UnitSpec.image, UnitSpec.container]

/-- Runs of two manifests report the same about units of one entry that have come
equally far. -/
theorem unnumbered_congr (one : manifest.Ends target first outcomes)
    (two : twin.Ends target second others)
    (alike : twin.consumers = manifest.consumers)
    (entry : manifest.units[key]? = some spec)
    (there : twin.units[other]? = some spec)
    (matched : (first.unit key).SameUpToNumber (second.unit other)) :
    (LoadPlan.unitReport first spec.planned key
        (LoadPlan.verdict first (spec.planned, key))).unnumbered =
      (LoadPlan.unitReport second spec.planned other
        (LoadPlan.verdict second (spec.planned, other))).unnumbered := by
  have known := one.known_of_entry entry
  have knownToo := two.known_of_entry there
  have later := two.finished
  rw [alike] at later
  have verdict : LoadPlan.verdict first (spec.planned, key) =
      LoadPlan.verdict second (spec.planned, other) := by
    simp only [LoadPlan.verdict, matched.failure]
  have counts : EventCounts.of spec.planned.name first.events =
      EventCounts.of spec.planned.name second.events := by
    change EventCounts.of spec.name _ = EventCounts.of spec.name _
    rw [EventCounts.of, EventCounts.of, eventsAbout_of_entry entry one.proceeds,
      eventsAbout_of_entry there two.proceeds,
      one.finished.rested.eventsOf_congr later.rested known knownToo matched]
  cases refused : spec.planned.refusal.isSome with
  | true =>
      simp only [UnitReport.unnumbered, LoadPlan.unitReport, verdict, refused,
        counts, if_true]
  | false =>
      have holds : manifest.Holds key := by
        refine ⟨spec, entry, ?_⟩
        rw [UnitSpec.refusal_planned] at refused
        simpa using refused
      have snapshot := one.finished.unnumbered_congr later known knownToo
        (one.held holds) matched
      simp [UnitReport.unnumbered, LoadPlan.unitReport, verdict, refused, counts,
        snapshot]

theorem healthy_of_unharmed (sound : manifest.Sound)
    (unharmed : ∀ spec ∈ manifest.units, spec.invalid = false →
      spec.failAt = none)
    (ends : manifest.Ends target first outcomes) (holds : manifest.Holds key) :
    (first.unit key).failure.cause = none := by
  refine ends.finished.healthy_of_sound fun other leads => ?_
  rw [ends.proceeds.blueprint] at leads ⊢
  obtain ⟨spec, entry, valid⟩ : manifest.Holds other := by
    rcases ReflTransGen.cases_tail leads with rfl | ⟨last, -, needs⟩
    · exact holds
    · exact holds_of_needs sound needs
  rw [failAt_of_entry entry]
  exact unharmed spec (List.mem_of_getElem? entry) valid

variable (sound : manifest.Sound) (mild : manifest.Mild)
  (one : manifest.Ends target first outcomes)
  (two : manifest.Ends target second others)

include sound mild one two

theorem causes_agree (holds : manifest.Holds key) :
    (first.unit key).failure.cause = (second.unit key).failure.cause := by
  rcases mild with acyclic | unharmed
  · exact (World.Pairing.refl (planned_build sound).rooted).causes_agree
      one.proceeds two.proceeds one.finished two.finished (acyclic.needs sound)
      (acyclic.needs sound) ⟨holds.known, rfl⟩ (holds_iff.mp holds)
  · rw [healthy_of_unharmed sound unharmed one holds,
      healthy_of_unharmed sound unharmed two holds]

theorem agrees_of_ends (known : key < manifest.build.world.unitCount) :
    (first.unit key).Agrees (second.unit key) :=
  World.Finished.agrees (planned_build sound).rooted one.proceeds two.proceeds
    one.finished two.finished known fun held =>
      causes_agree sound mild one two (holds_iff.mpr held)

/-- Both runs report the same about each unit. -/
theorem unitReport_congr {entry : PlannedUnit × UnitKey}
    (member : entry ∈ manifest.build.units.zipIdx) :
    LoadPlan.unitReport first entry.1 entry.2 (LoadPlan.verdict first entry) =
      LoadPlan.unitReport second entry.1 entry.2
        (LoadPlan.verdict second entry) := by
  obtain ⟨planned, key⟩ := entry
  obtain ⟨spec, found, rfl⟩ := mem_entries.mp member
  have known : key < manifest.build.world.unitCount :=
    one.proceeds.count ▸ one.known_of_entry found
  have agrees := agrees_of_ends sound mild one two known
  have same := unnumbered_congr one two rfl found found agrees.toSameUpToNumber
  refine UnitReport.eq_of_unnumbered same ?_
  have shown := congrArg UnitReport.snapshot same
  simp only [UnitReport.unnumbered, LoadPlan.unitReport] at shown ⊢
  cases refused : spec.planned.refusal.isSome with
  | true => rfl
  | false =>
      rw [refused] at shown
      exact congrArg some
        (Snapshot.eq_of_unnumbered (Option.some.inj shown) agrees.id)

/-- Two runs that load a manifest to its end report the same. -/
theorem report_congr (alone together : Bool) :
    ({ manifest.build with world := first } : LoadPlan).report target together
        outcomes =
      { ({ manifest.build with world := second } : LoadPlan).report target alone
          others with parallel := together } := by
  have count := one.proceeds.count.trans two.proceeds.count.symm
  have agrees (key : UnitKey) (known : key < first.unitCount) :=
    agrees_of_ends sound mild one two (one.proceeds.count ▸ known)
  rw [one.report, two.report]
  congr 1
  · exact one.finished.rested.registered_congr two.finished.rested count agrees
  · exact List.map_congr_left fun entry member =>
      unitReport_congr sound mild one two member
  · exact one.finished.rested.events_congr two.finished.rested count agrees

end Manifest

end LoadLadder
