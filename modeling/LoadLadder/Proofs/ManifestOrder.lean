import LoadLadder.Proofs.LoadAgreement

/-!
# The order of the entries of a manifest

When the entries of a manifest are put in another order, their units get other numbers,
and a unit that was loaded by the initializer of another one may be loaded from outside
instead.  Without cycles this changes nothing: the units of one entry are paired, and
so they fail with the same cause or not at all.  What a report says of all the units
together is a sum over the entries, in whatever order these stand.
-/

namespace LoadLadder

open Relation

/-- Two reports say the same of each unit, whatever the units' numbers and order. -/
structure LoadReport.SameUpToOrder (first second : LoadReport) : Prop where
  units : (first.units.map UnitReport.unnumbered).Perm
    (second.units.map UnitReport.unnumbered)
  named : ∀ one ∈ first.units, ∀ two ∈ second.units, one.name = two.name →
    one.unnumbered = two.unnumbered
  registered : first.registered = second.registered
  failures : first.failures = second.failures
  events : first.events = second.events

namespace Manifest

variable {manifest twin : Manifest} {target : Level} {world : World}
  {outcomes : List (Except Fault Unit)} {spec : UnitSpec} {name : String}
  {key other : UnitKey}

/-- Where the entry of a unit stands. -/
def place (manifest : Manifest) (spec : UnitSpec) : UnitKey :=
  (manifest.keyOf? spec.name).getD 0

theorem place_of_entry (sound : manifest.Sound)
    (entry : manifest.units[key]? = some spec) : manifest.place spec = key := by
  rw [place, keyOf?_of_entry sound entry]
  rfl

theorem entry_place (sound : manifest.Sound) (member : spec ∈ manifest.units) :
    manifest.units[manifest.place spec]? = some spec := by
  obtain ⟨key, entry⟩ := List.getElem?_of_mem member
  rw [place_of_entry sound entry]
  exact entry

theorem map_place (sound : manifest.Sound) :
    manifest.units.map manifest.place = List.range manifest.units.length := by
  refine List.ext_getElem (by simp) fun key within _ => ?_
  rw [List.length_map] at within
  rw [List.getElem_map, List.getElem_range]
  exact place_of_entry sound (List.getElem?_eq_getElem within)

/-- The planned units in their order are those of the entries. -/
theorem map_zipIdx_build {α : Type} (sound : manifest.Sound)
    (image : PlannedUnit × UnitKey → α) :
    manifest.build.units.zipIdx.map image =
      manifest.units.map fun spec => image (spec.planned, manifest.place spec) := by
  rw [units_build]
  refine List.ext_getElem (by simp) fun key _ within => ?_
  rw [List.length_map] at within
  have place := place_of_entry sound (List.getElem?_eq_getElem within)
  simp [place]

/-- What a run reports about the unit of an entry. -/
def row (manifest : Manifest) (world : World) (spec : UnitSpec) : UnitReport :=
  LoadPlan.unitReport world spec.planned (manifest.place spec)
    (LoadPlan.verdict world (spec.planned, manifest.place spec))

namespace Ends

variable (sound : manifest.Sound) (ends : manifest.Ends target world outcomes)

include sound ends

theorem length_registry : (world.domain 0).registry.length =
    manifest.units.countP fun spec =>
      .begun ≤ (world.unit (manifest.place spec)).level := by
  rw [ends.finished.rested.length_registry, ends.proceeds.count, unitCount_build,
    ← map_place sound, List.countP_map]
  rfl

theorem length_events : world.events.length =
    (manifest.units.map fun spec =>
      (world.eventsOf (manifest.place spec)).length).sum := by
  rw [World.length_events ends.finished.rested.named
    ends.finished.rested.planned.watched, ends.proceeds.count, unitCount_build]
  change ((List.range manifest.units.length).map fun key =>
    (world.eventsOf key).length).sum = _
  rw [← map_place sound, List.map_map]
  rfl

theorem units_report (parallel : Bool) :
    (({ manifest.build with world } : LoadPlan).report target parallel
      outcomes).units = manifest.units.map (manifest.row world) := by
  rw [ends.report]
  exact map_zipIdx_build sound _

end Ends

/-- The places of one entry in two manifests. -/
def Pairs (manifest twin : Manifest) (key other : UnitKey) : Prop :=
  ∃ spec, manifest.units[key]? = some spec ∧ twin.units[other]? = some spec

theorem pairs_of_keyOf? (soundTwin : twin.Sound)
    (subset : ∀ spec ∈ manifest.units, spec ∈ twin.units)
    (found : manifest.keyOf? name = some key) :
    ∃ other, twin.keyOf? name = some other ∧ manifest.Pairs twin key other := by
  obtain ⟨spec, entry, rfl⟩ := entry_of_keyOf? found
  have there := entry_place soundTwin (subset spec (List.mem_of_getElem? entry))
  exact ⟨twin.place spec, keyOf?_of_entry soundTwin there, spec, entry, there⟩

section

variable (sound : manifest.Sound) (perm : manifest.units.Perm twin.units)

include sound perm

theorem Sound.of_perm : twin.Sound where
  distinct := (perm.map UnitSpec.name).nodup_iff.mp sound.distinct
  failing := fun spec member => sound.failing spec (perm.mem_iff.mpr member)

theorem Acyclic.of_perm (acyclic : manifest.Acyclic) : twin.Acyclic := by
  intro key cycle
  have soundTwin := sound.of_perm perm
  -- A dependency between entries is one wherever the entries stand.
  let moved (key : UnitKey) : UnitKey :=
    (twin.units[key]?.map manifest.place).getD 0
  have moves {key : UnitKey} {spec : UnitSpec}
      (entry : twin.units[key]? = some spec) :
      manifest.units[moved key]? = some spec := by
    have member := perm.mem_iff.mpr (List.mem_of_getElem? entry)
    simpa [moved, entry] using entry_place sound member
  refine acyclic (moved key) (TransGen.lift moved ?_ key key cycle)
  rintro user dependency ⟨spec, needed, entry, valid, there, held, member⟩
  exact ⟨spec, needed, moves entry, valid, moves there, held, member⟩

theorem pairs_dependencies (spec : UnitSpec) :
    List.Forall₂ (manifest.Pairs twin) (manifest.dependenciesOf spec)
      (twin.dependenciesOf spec) := by
  have soundTwin := sound.of_perm perm
  refine List.rel_filterMap ?_ (List.forall₂_same.mpr fun name _ => Eq.refl name)
  rintro name _ rfl
  beta_reduce
  cases found : manifest.keyOf? name with
  | none =>
      have missing : twin.keyOf? name = none := by
        by_contra there
        obtain ⟨other, there⟩ := Option.ne_none_iff_exists'.mp there
        obtain ⟨key, same, -⟩ := pairs_of_keyOf? sound
          (fun spec => perm.mem_iff.mpr) there
        rw [found] at same
        contradiction
      rw [missing]
      exact .none
  | some key =>
      obtain ⟨other, there, paired⟩ := pairs_of_keyOf? soundTwin
        (fun spec => perm.mem_iff.mp) found
      obtain ⟨needed, entry, entryTwin⟩ := paired
      rw [there]
      cases invalid : needed.invalid with
      | true => simp [Option.filter, entry, entryTwin, invalid]
      | false =>
          simp only [Option.filter, entry, entryTwin, invalid, Option.any_some,
            Bool.not_false, if_true]
          exact .some ⟨needed, entry, entryTwin⟩

/-- The units of the same entries are paired. -/
theorem pairing_of_perm :
    manifest.build.world.Pairing twin.build.world (manifest.Pairs twin) where
  known := by
    rintro key other ⟨spec, entry, there⟩
    rw [unitCount_build, unitCount_build]
    exact ⟨(List.getElem?_eq_some_iff.mp entry).1,
      (List.getElem?_eq_some_iff.mp there).1⟩
  image := by
    rintro key other ⟨spec, entry, there⟩
    rw [unit_of_entry entry, unit_of_entry there]
    rfl
  container := by
    rintro key other ⟨spec, entry, there⟩
    rw [unit_of_entry entry, unit_of_entry there]
    rfl
  presence := by
    rintro key other ⟨spec, entry, there⟩
    rw [unit_of_entry entry, unit_of_entry there]
    rfl
  needs := by
    rintro key other ⟨spec, entry, there⟩
    change List.Forall₂ _ (manifest.build.world.unit key).dependencies
      (twin.build.world.unit other).dependencies
    rw [unit_of_entry entry, unit_of_entry there]
    exact pairs_dependencies sound perm spec

end

section

variable {first second : World} {others : List (Except Fault Unit)}
  (sound : manifest.Sound) (acyclic : manifest.Acyclic)
  (alike : twin.consumers = manifest.consumers)
  (one : manifest.Ends target first outcomes)
  (two : twin.Ends target second others)
  (perm : manifest.units.Perm twin.units)

include sound acyclic alike one two perm

theorem sameUpToNumber_of_perm (member : spec ∈ manifest.units) :
    (first.unit (manifest.place spec)).SameUpToNumber
      (second.unit (twin.place spec)) := by
  have soundTwin := sound.of_perm perm
  have finished := two.finished
  rw [alike] at finished
  have pairing := pairing_of_perm sound perm
  have paired : manifest.Pairs twin (manifest.place spec) (twin.place spec) :=
    ⟨spec, entry_place sound member,
      entry_place soundTwin (perm.mem_iff.mp member)⟩
  exact World.Finished.sameUpToNumber pairing paired one.proceeds two.proceeds
    one.finished finished (pairing.causes_agree one.proceeds two.proceeds
      one.finished finished (acyclic.needs sound)
      ((acyclic.of_perm sound perm).needs soundTwin) paired)

theorem row_congr (member : spec ∈ manifest.units) :
    (manifest.row first spec).unnumbered =
      (twin.row second spec).unnumbered :=
  unnumbered_congr one two alike (entry_place sound member)
    (entry_place (sound.of_perm perm) (perm.mem_iff.mp member))
    (sameUpToNumber_of_perm sound acyclic alike one two perm member)

theorem registered_congr :
    (first.domain 0).registry.length = (second.domain 0).registry.length := by
  rw [one.length_registry sound, two.length_registry (sound.of_perm perm),
    ← perm.countP_eq]
  refine List.countP_congr fun spec member => ?_
  rw [(sameUpToNumber_of_perm sound acyclic alike one two perm member).level]

theorem events_congr : first.events.length = second.events.length := by
  have soundTwin := sound.of_perm perm
  have rested := two.finished.rested
  rw [alike] at rested
  rw [one.length_events sound, two.length_events soundTwin,
    ← (perm.map _).sum_eq]
  refine congrArg List.sum (List.map_congr_left fun spec member => ?_)
  have known := one.known_of_entry (entry_place sound member)
  have there := two.known_of_entry
    (entry_place soundTwin (perm.mem_iff.mp member))
  rw [one.finished.rested.eventsOf_congr rested known there
    (sameUpToNumber_of_perm sound acyclic alike one two perm member)]

theorem report_sameUpToOrder (alone together : Bool) :
    (({ manifest.build with world := first } : LoadPlan).report target alone
      outcomes).SameUpToOrder
      (({ twin.build with world := second } : LoadPlan).report target together
        others) := by
  have units : ((manifest.units.map (manifest.row first)).map
      UnitReport.unnumbered).Perm ((twin.units.map (twin.row second)).map
        UnitReport.unnumbered) := by
    have same : manifest.units.map (UnitReport.unnumbered ∘
        manifest.row first) = manifest.units.map (UnitReport.unnumbered ∘
          twin.row second) := List.map_congr_left fun spec member =>
      row_congr sound acyclic alike one two perm member
    rw [List.map_map, List.map_map, same]
    exact perm.map _
  have failures (reports : List UnitReport) :
      reports.countP (fun report => report.status != .ok) =
        (reports.map UnitReport.unnumbered).countP fun report =>
          report.status != .ok := by
    rw [List.countP_map]
    rfl
  constructor
  · rw [one.units_report sound, two.units_report (sound.of_perm perm)]
    exact units
  · rw [one.units_report sound, two.units_report (sound.of_perm perm)]
    intro report member rival memberToo name
    obtain ⟨spec, listed, rfl⟩ := List.mem_map.mp member
    obtain ⟨other, listedToo, rfl⟩ := List.mem_map.mp memberToo
    have unique : spec = other := List.inj_on_of_nodup_map sound.distinct listed
      (perm.mem_iff.mpr listedToo) name
    subst unique
    exact row_congr sound acyclic alike one two perm listed
  · exact registered_congr sound acyclic alike one two perm
  · rw [LoadReport.failures, LoadReport.failures, one.units_report sound,
      two.units_report (sound.of_perm perm)]
    exact (failures _).trans ((units.countP_eq _).trans (failures _).symm)
  · exact events_congr sound acyclic alike one two perm

end

/-- The order of the entries does not matter if no unit depends on itself in the
end: loading the units one after the other reports the same of each of them, but for
its number, and the same numbers of registered units, failures and events. -/
theorem load_sameUpToOrder_of_perm (valid : manifest.validate = .ok ())
    (acyclic : manifest.Acyclic) {units : List UnitSpec}
    (perm : manifest.units.Perm units) (target : Level) :
    (manifest.build.load target false).2.SameUpToOrder
      (({ manifest with units } : Manifest).build.load target false).2 := by
  have sound := sound_of_validate valid
  have reordered : ({ manifest with units } : Manifest).Sound :=
    sound.of_perm perm
  have alike : ({ manifest with units } : Manifest).consumers =
      manifest.consumers := rfl
  exact report_sameUpToOrder sound acyclic alike (ends_run sound target)
    (ends_run reordered target) perm false false

/-- There are no cycles if the entries that a unit depends on stand in front of its
own. -/
theorem acyclic_of_layered
    (layered : ∀ user ∈ manifest.units.zipIdx, ∀ needed ∈ manifest.units.zipIdx,
      needed.1.name ∈ user.1.dependsOn → needed.2 < user.2) :
    manifest.Acyclic := by
  intro key cycle
  have earlier {user dependency : UnitKey}
      (depends : manifest.DependsOn user dependency) : dependency < user := by
    obtain ⟨spec, needed, entry, -, there, -, member⟩ := depends
    exact layered (spec, user) (List.mk_mem_zipIdx_iff_getElem?.mpr entry)
      (needed, dependency) (List.mk_mem_zipIdx_iff_getElem?.mpr there) member
  have descends {user dependency : UnitKey}
      (path : TransGen manifest.DependsOn user dependency) :
      dependency < user := by
    induction path with
    | single depends => exact earlier depends
    | tail _ depends ih => exact Nat.lt_trans (earlier depends) ih
  exact Nat.lt_irrefl key (descends cycle)

/-- A unit that is made to fail, below two others. -/
def tower : Manifest where
  units := [
    { name := "Base", failAt := some .active },
    { name := "Middle", dependsOn := ["Base"] },
    { name := "Top", dependsOn := ["Middle", "Base"] }]

/-- In the reverse order the first unit fails inside the initializers of the
others. -/
theorem load_sameUpToOrder_tower :
    tower.validate = .ok () ∧ tower.Acyclic ∧
      tower.units.Perm tower.units.reverse ∧
      (tower.build.load .active false).2.SameUpToOrder
        (({ tower with units := tower.units.reverse } : Manifest).build.load
          .active false).2 := by
  have valid : tower.validate = .ok () := by decide +kernel
  have acyclic : tower.Acyclic := acyclic_of_layered (by decide)
  have perm : tower.units.Perm tower.units.reverse :=
    (List.reverse_perm _).symm
  exact ⟨valid, acyclic, perm,
    load_sameUpToOrder_of_perm valid acyclic perm .active⟩

end Manifest

end LoadLadder
