import LoadLadder.Manifest.Plan
import LoadLadder.Proofs.FinishedLoads
import LoadLadder.Proofs.ManifestDefects

/-!
# The worlds of load plans

A sound manifest makes a world at rest, in which each entry has a unit at its place,
and the units need each other as the entries say, but for the refused ones.
-/

namespace LoadLadder

open Relation

namespace Manifest

variable {manifest : Manifest} {key dependency : UnitKey}

/-- Names tell the units apart, and failures are asked for only where they can be
injected. -/
structure Sound (manifest : Manifest) : Prop where
  distinct : manifest.names.Nodup
  failing : ∀ spec ∈ manifest.units, ∀ level, spec.failAt = some level →
    level ∈ Level.failurePoints

theorem sound_of_validate (valid : manifest.validate = .ok ()) :
    manifest.Sound := by
  have clean : manifest.defect? = none := by
    unfold validate at valid
    split at valid
    · contradiction
    · assumption
  have sound := defect?_eq_none_iff.mp clean
  refine ⟨sound.named.distinct, fun spec member level fails => ?_⟩
  exact Level.mem_failurePoints_iff.mpr
    ((sound.resolves spec member).injectable level fails)

/-- The place of the unit of a name. -/
def keyOf? (manifest : Manifest) (name : String) : Option UnitKey :=
  manifest.units.findIdx? fun spec => spec.name == name

/-- A unit whose image is not refused. -/
def Holds (manifest : Manifest) (key : UnitKey) : Prop :=
  ∃ spec, manifest.units[key]? = some spec ∧ spec.invalid = false

/-- A unit that is not refused depends on another one that is not refused either. -/
def DependsOn (manifest : Manifest) (key dependency : UnitKey) : Prop :=
  ∃ spec other, manifest.units[key]? = some spec ∧ spec.invalid = false ∧
    manifest.units[dependency]? = some other ∧ other.invalid = false ∧
    other.name ∈ spec.dependsOn

/-- A unit is reached from another one along dependencies between units that are
not refused, or is the same. -/
def Reaches (manifest : Manifest) : UnitKey → UnitKey → Prop :=
  ReflTransGen manifest.DependsOn

theorem keyOf?_of_entry (sound : manifest.Sound) {spec : UnitSpec}
    (entry : manifest.units[key]? = some spec) :
    manifest.keyOf? spec.name = some key := by
  obtain ⟨within, rfl⟩ := List.getElem?_eq_some_iff.mp entry
  refine List.findIdx?_eq_some_iff_getElem.mpr ⟨within, by simp, ?_⟩
  intro other before same
  have named : manifest.names[other]? = manifest.names[key]? := by
    have early : other < manifest.units.length := Nat.lt_trans before within
    simpa [names, within, early] using same
  have early : other < manifest.names.length := by
    simpa [names] using Nat.lt_trans before within
  exact Nat.ne_of_lt before ((List.getElem?_inj early sound.distinct).mp named)

theorem entry_of_keyOf? {name : String} (found : manifest.keyOf? name = some key) :
    ∃ spec, manifest.units[key]? = some spec ∧ spec.name = name := by
  obtain ⟨within, named, -⟩ := List.findIdx?_eq_some_iff_getElem.mp found
  exact ⟨manifest.units[key], List.getElem?_eq_getElem within, by simpa using named⟩

end Manifest

namespace UnitSpec

/-- The unit of an entry, as far as a plan knows it. -/
def planned (spec : UnitSpec) : PlannedUnit where
  name := spec.name
  refusal := match spec.image.validate with
    | .ok _ => none
    | .error fault => some fault

/-- The unit of an entry before it knows its dependencies. -/
def unit (spec : UnitSpec) (key : UnitKey) : LoadUnit where
  id := ⟨key + 1⟩
  home := LoadPlan.domain
  image := spec.image
  container := spec.container
  presence := if spec.invalid then .refused else .held

theorem refusal_planned (spec : UnitSpec) :
    spec.planned.refusal =
      if spec.invalid then
        some (.imageValidation (spec.name ++ " is not an executable image"))
      else none := by
  cases invalid : spec.invalid <;>
    simp [planned, image, Image.validate, invalid]

end UnitSpec

namespace Manifest

variable {manifest : Manifest} {world : World} {plan : LoadPlan}
  {spec : UnitSpec} {specs : List UnitSpec} {key : UnitKey}

theorem planUnit_eq (plan : LoadPlan) (spec : UnitSpec) :
    planUnit plan spec = {
      world := (plan.world.createUnit LoadPlan.domain spec.image
        spec.container).1
      units := plan.units ++ [spec.planned] } := by
  simp only [planUnit, World.createUnit, UnitSpec.planned]
  cases spec.image.validate <;> rfl

/-- A plan has the units of some entries, and nothing has happened yet. -/
structure Lists (manifest : Manifest) (plan : LoadPlan)
    (specs : List UnitSpec) : Prop where
  units : plan.units = specs.map UnitSpec.planned
  count : plan.world.unitCount = specs.length
  domain : plan.world.domain 0 =
    { manifest.domain with nextUnit := specs.length + 1 }
  unit : ∀ key, plan.world.unit key =
    (specs[key]?.map fun spec => spec.unit key).getD default
  events : plan.world.events = []

theorem lists_planUnit (lists : manifest.Lists plan specs) (spec : UnitSpec) :
    manifest.Lists (planUnit plan spec) (specs ++ [spec]) := by
  rw [planUnit_eq]
  refine ⟨?_, ?_, ?_, fun key => ?_, ?_⟩
  · simp [lists.units]
  · simp [lists.count]
  · rw [World.domain_createUnit, LoadPlan.domain, if_pos rfl, lists.domain]
    simp
  · rw [World.unit_createUnit, lists.count, LoadPlan.domain, lists.domain,
      lists.unit]
    by_cases last : specs.length = key
    · subst last
      cases invalid : spec.invalid <;>
        simp [UnitSpec.unit, UnitSpec.image, invalid, LoadPlan.domain]
    · rw [if_neg last]
      rcases Nat.lt_or_gt_of_ne last with beyond | under
      · have outside : (specs ++ [spec]).length ≤ key := by
          rw [List.length_append]
          exact beyond
        rw [List.getElem?_eq_none outside,
          List.getElem?_eq_none (Nat.le_of_lt beyond)]
      · rw [List.getElem?_append_left under]
  · rw [World.events_createUnit]
    exact lists.events

theorem lists_foldl (lists : manifest.Lists plan specs) (more : List UnitSpec) :
    manifest.Lists (more.foldl planUnit plan) (specs ++ more) := by
  induction more generalizing plan specs with
  | nil => simpa using lists
  | cons spec more ih =>
      have split : specs ++ spec :: more = specs ++ [spec] ++ more := by simp
      rw [List.foldl_cons, split]
      exact ih (lists_planUnit lists spec)

theorem lists_empty :
    manifest.Lists ⟨({} : World).addDomain manifest.domain, []⟩ [] where
  units := rfl
  count := rfl
  domain := by simp [World.addDomain, World.domain, Manifest.domain]
  unit := fun key => by simp [World.addDomain, World.unit]
  events := rfl

end Manifest

namespace World

variable {first second third world next : World} {key : UnitKey}
  {units : List PlannedUnit} {more further : UnitKey → List UnitKey}

/-- Some units have got further dependencies, and nothing else has changed. -/
structure Links (world next : World) (more : UnitKey → List UnitKey) :
    Prop where
  count : next.unitCount = world.unitCount
  domain : next.domain 0 = world.domain 0
  events : next.events = world.events
  unit : ∀ key, next.unit key = { world.unit key with
    dependencies := (world.unit key).dependencies ++ more key }

theorem Links.refl (world : World) : world.Links world fun _ => [] :=
  ⟨rfl, rfl, rfl, fun key => by simp⟩

theorem Links.trans (before : first.Links second more)
    (after : second.Links third further) :
    first.Links third fun key => more key ++ further key where
  count := after.count.trans before.count
  domain := after.domain.trans before.domain
  events := after.events.trans before.events
  unit := fun key => by
    rw [after.unit, before.unit]
    simp

/-- The unit that a dependency of some name leads to, unless it was refused. -/
def resolve (world : World) (units : List PlannedUnit) (name : String) :
    Option UnitKey :=
  (units.findIdx? fun planned => planned.name == name).filter world.holdsUnit

theorem Links.resolve (links : world.Links next more) :
    next.resolve units = world.resolve units := by
  have holds : next.holdsUnit = world.holdsUnit := by
    funext key
    rw [holdsUnit, holdsUnit, links.count, links.unit]
  funext name
  rw [World.resolve, World.resolve, holds]

theorem links_addDependency (dependency : UnitKey)
    (initialized : (world.unit key).container.initializer = .dependencies) :
    world.Links (world.addDependency key dependency).1 fun other =>
      if key = other then ((some dependency).filter world.holdsUnit).toList
      else [] := by
  cases held : world.holdsUnit dependency with
  | false =>
      simpa [addDependency, initialized, held, Option.filter_some] using
        Links.refl world
  | true =>
      simp only [addDependency, initialized, held, decide_true, Bool.and_self,
        if_true, Option.filter_some]
      refine ⟨rfl, rfl, rfl, fun other => ?_⟩
      by_cases same : key = other
      · subst same
        simp
      · simp [same]

theorem links_dependencies {names : List String}
    (initialized : names = [] ∨
      (world.unit key).container.initializer = .dependencies) :
    world.Links
      (names.foldl (fun world name =>
        match units.findIdx? fun planned => planned.name == name with
        | some dependency => (world.addDependency key dependency).1
        | none => world) world)
      fun other =>
        if key = other then names.filterMap (world.resolve units) else [] := by
  induction names generalizing world with
  | nil => simpa using Links.refl world
  | cons name names ih =>
      have initialized := initialized.resolve_left (by simp)
      rw [List.foldl_cons]
      generalize made : (match units.findIdx? fun planned =>
          planned.name == name with
        | some dependency => (world.addDependency key dependency).1
        | none => world) = next
      have links : world.Links next fun other =>
          if key = other then (world.resolve units name).toList else [] := by
        subst made
        unfold World.resolve
        split
        · rename_i dependency found
          rw [found]
          exact links_addDependency dependency initialized
        · rename_i missing
          rw [missing]
          simpa using Links.refl world
      have rest := links.trans (ih (Or.inr (by rwa [links.unit])))
      rw [links.resolve] at rest
      convert rest using 2
      rename_i other
      by_cases same : key = other
      · simp only [if_pos same, List.filterMap_cons]
        cases world.resolve units name <;> rfl
      · simp [same]

/-- What the entries of some units add to the dependencies of a unit. -/
def additions (world : World) (units : List PlannedUnit)
    (entries : List (UnitSpec × UnitKey)) (key : UnitKey) : List UnitKey :=
  entries.flatMap fun entry =>
    if entry.2 = key then entry.1.dependsOn.filterMap (world.resolve units)
    else []

theorem links_entries {entries : List (UnitSpec × UnitKey)}
    (initialized : ∀ entry ∈ entries, entry.1.dependsOn = [] ∨
      (world.unit entry.2).container.initializer = .dependencies) :
    world.Links (entries.foldl (Manifest.addDependencies units) world)
      (world.additions units entries) := by
  induction entries generalizing world with
  | nil => exact Links.refl world
  | cons entry entries ih =>
      rw [List.foldl_cons]
      have links : world.Links (Manifest.addDependencies units world entry) _ :=
        links_dependencies (initialized entry List.mem_cons_self)
      have rest := links.trans (ih fun later member => by
        rw [links.unit]
        exact initialized later (List.mem_cons_of_mem _ member))
      convert rest using 2
      rename_i key
      simp [additions, links.resolve]

end World

namespace Manifest

variable {manifest : Manifest} {spec : UnitSpec} {key dependency : UnitKey}

/-- The dependencies that the unit of an entry gets. -/
def dependenciesOf (manifest : Manifest) (spec : UnitSpec) : List UnitKey :=
  spec.dependsOn.filterMap fun name => (manifest.keyOf? name).filter fun key =>
    manifest.units[key]?.any fun other => !other.invalid

/-- The unit that a manifest makes from an entry. -/
def unitOf (manifest : Manifest) (spec : UnitSpec) (key : UnitKey) : LoadUnit :=
  { spec.unit key with dependencies := manifest.dependenciesOf spec }

theorem flatMap_zipIdx {α β : Type} (items : List α) (image : α → List β)
    (start place : Nat) :
    ((items.zipIdx start).flatMap fun entry =>
      if entry.2 = start + place then image entry.1 else []) =
      (items[place]?.map image).getD [] := by
  induction items generalizing start place with
  | nil => simp
  | cons item items ih =>
      rw [List.zipIdx_cons, List.flatMap_cons]
      cases place with
      | zero =>
          have later : ((items.zipIdx (start + 1)).flatMap fun entry =>
              if entry.2 = start + 0 then image entry.1 else []) = [] := by
            refine List.flatMap_eq_nil_iff.mpr fun entry member => if_neg ?_
            have after := List.le_snd_of_mem_zipIdx member
            omega
          rw [later, List.append_nil]
          simp
      | succ place =>
          have rest := ih (start + 1) place
          simp only [Nat.add_assoc, Nat.add_comm 1 place] at rest
          simp [rest]

theorem lists_planned (manifest : Manifest) :
    manifest.Lists (manifest.units.foldl planUnit
      ⟨({} : World).addDomain manifest.domain, []⟩) manifest.units := by
  simpa using lists_foldl lists_empty manifest.units

theorem links_build (manifest : Manifest) :
    ∃ plan : LoadPlan, manifest.Lists plan manifest.units ∧
      manifest.build.units = plan.units ∧
      plan.world.Links manifest.build.world
        (plan.world.additions plan.units manifest.units.zipIdx) := by
  refine ⟨_, manifest.lists_planned, rfl, World.links_entries ?_⟩
  intro entry member
  have found := List.mk_mem_zipIdx_iff_getElem?.mp member
  cases needs : entry.1.dependsOn with
  | nil => exact Or.inl rfl
  | cons name names =>
      refine Or.inr ?_
      rw [manifest.lists_planned.unit, found]
      simp [UnitSpec.unit, UnitSpec.container, UnitSpec.hasInitializer, needs]

theorem units_build (manifest : Manifest) :
    manifest.build.units = manifest.units.map UnitSpec.planned := by
  obtain ⟨plan, lists, same, -⟩ := manifest.links_build
  exact same.trans lists.units

theorem unitCount_build (manifest : Manifest) :
    manifest.build.world.unitCount = manifest.units.length := by
  obtain ⟨plan, lists, -, links⟩ := manifest.links_build
  exact links.count.trans lists.count

theorem domain_build (manifest : Manifest) :
    manifest.build.world.domain 0 =
      { manifest.domain with nextUnit := manifest.units.length + 1 } := by
  obtain ⟨plan, lists, -, links⟩ := manifest.links_build
  exact links.domain.trans lists.domain

theorem events_build (manifest : Manifest) :
    manifest.build.world.events = [] := by
  obtain ⟨plan, lists, -, links⟩ := manifest.links_build
  exact links.events.trans lists.events

theorem unit_build (manifest : Manifest) (key : UnitKey) :
    manifest.build.world.unit key =
      (manifest.units[key]?.map fun spec => manifest.unitOf spec key).getD
        default := by
  -- Names are resolved while dependencies are added, which moves no unit.
  obtain ⟨plan, lists, -, links⟩ := manifest.links_build
  have holds (other : UnitKey) : plan.world.holdsUnit other =
      manifest.units[other]?.any fun spec => !spec.invalid := by
    rw [World.holdsUnit, lists.count, lists.unit]
    by_cases within : other < manifest.units.length
    · cases invalid : manifest.units[other].invalid <;>
        simp [within, UnitSpec.unit, invalid]
    · simp [within]
  have resolves (name : String) : plan.world.resolve plan.units name =
      (manifest.keyOf? name).filter fun other =>
        manifest.units[other]?.any fun spec => !spec.invalid := by
    rw [World.resolve, lists.units, List.findIdx?_map, keyOf?]
    congr 1
    funext other
    exact holds other
  have added := flatMap_zipIdx manifest.units
    (fun spec => spec.dependsOn.filterMap (plan.world.resolve plan.units)) 0 key
  simp only [Nat.zero_add] at added
  rw [links.unit, lists.unit, World.additions, added]
  cases manifest.units[key]? with
  | none => rfl
  | some spec => simp [unitOf, UnitSpec.unit, dependenciesOf, funext resolves]

theorem unit_of_entry (entry : manifest.units[key]? = some spec) :
    manifest.build.world.unit key = manifest.unitOf spec key := by
  rw [unit_build, entry]
  rfl

/-- Every unit was made from the entry at its place, or nothing is there. -/
theorem unit_cases (manifest : Manifest) (key : UnitKey) :
    (manifest.units[key]? = none ∧ manifest.build.world.unit key = default) ∨
      ∃ spec, manifest.units[key]? = some spec ∧
        manifest.build.world.unit key = manifest.unitOf spec key := by
  cases entry : manifest.units[key]? with
  | none => exact Or.inl ⟨rfl, by rw [unit_build, entry]; rfl⟩
  | some spec => exact Or.inr ⟨spec, rfl, unit_of_entry entry⟩

theorem entry_of_known (known : key < manifest.build.world.unitCount) :
    ∃ spec, manifest.units[key]? = some spec ∧
      manifest.build.world.unit key = manifest.unitOf spec key := by
  rw [unitCount_build] at known
  have entry := List.getElem?_eq_getElem known
  exact ⟨_, entry, unit_of_entry entry⟩

theorem holds_iff : manifest.Holds key ↔
    (manifest.build.world.unit key).presence = .held := by
  rw [Holds]
  rcases manifest.unit_cases key with
    ⟨missing, unit⟩ | ⟨spec, entry, unit⟩
  · rw [unit, missing]
    exact ⟨fun ⟨spec, found, _⟩ => by contradiction, fun held => by cases held⟩
  · rw [unit, entry]
    cases invalid : spec.invalid <;> simp [unitOf, UnitSpec.unit, invalid]

theorem Holds.known (holds : manifest.Holds key) :
    key < manifest.build.world.unitCount := by
  obtain ⟨spec, entry, -⟩ := holds
  rw [unitCount_build]
  exact (List.getElem?_eq_some_iff.mp entry).1

theorem mem_dependenciesOf (sound : manifest.Sound) :
    dependency ∈ manifest.dependenciesOf spec ↔
      ∃ other, manifest.units[dependency]? = some other ∧
        other.invalid = false ∧ other.name ∈ spec.dependsOn := by
  rw [dependenciesOf, List.mem_filterMap]
  constructor
  · rintro ⟨name, member, found⟩
    obtain ⟨found, held⟩ := Option.filter_eq_some_iff.mp found
    obtain ⟨other, entry, rfl⟩ := entry_of_keyOf? found
    rw [entry] at held
    exact ⟨other, entry, by simpa using held, member⟩
  · rintro ⟨other, entry, valid, member⟩
    refine ⟨other.name, member, Option.filter_eq_some_iff.mpr
      ⟨keyOf?_of_entry sound entry, ?_⟩⟩
    simp [entry, valid]

theorem needs_iff (sound : manifest.Sound) (holds : manifest.Holds key) :
    manifest.build.world.blueprint.Needs key dependency ↔
      manifest.DependsOn key dependency := by
  obtain ⟨spec, entry, valid⟩ := holds
  change dependency ∈ (manifest.build.world.unit key).dependencies ↔ _
  rw [unit_of_entry entry, unitOf, mem_dependenciesOf sound]
  constructor
  · rintro ⟨other, needed, held, member⟩
    exact ⟨spec, other, entry, valid, needed, held, member⟩
  · rintro ⟨user, other, same, -, needed, held, member⟩
    rw [entry] at same
    cases same
    exact ⟨other, needed, held, member⟩

theorem entry_of_needs (sound : manifest.Sound)
    (needs : manifest.build.world.blueprint.Needs key dependency) :
    ∃ spec other, manifest.build.world.unit key = manifest.unitOf spec key ∧
      manifest.units[dependency]? = some other ∧ other.invalid = false ∧
      other.name ∈ spec.dependsOn := by
  change dependency ∈ (manifest.build.world.unit key).dependencies at needs
  rcases manifest.unit_cases key with ⟨-, unit⟩ | ⟨spec, -, unit⟩
  · rw [unit] at needs
    exact absurd needs List.not_mem_nil
  · rw [unit] at needs
    obtain ⟨other, entry, held, member⟩ := (mem_dependenciesOf sound).mp needs
    exact ⟨spec, other, unit, entry, held, member⟩

theorem holds_of_needs (sound : manifest.Sound)
    (needs : manifest.build.world.blueprint.Needs key dependency) :
    manifest.Holds dependency := by
  obtain ⟨spec, other, -, entry, held, -⟩ := entry_of_needs sound needs
  exact ⟨other, entry, held⟩

theorem leads_iff (sound : manifest.Sound) (holds : manifest.Holds key) :
    manifest.build.world.blueprint.Leads key dependency ↔
      manifest.Reaches key dependency := by
  constructor
  · intro leads
    induction leads using ReflTransGen.head_induction_on with
    | refl => exact ReflTransGen.refl
    | head needs _ ih =>
        exact (ih (holds_of_needs sound needs)).head
          ((needs_iff sound holds).mp needs)
  · intro reaches
    induction reaches using ReflTransGen.head_induction_on with
    | refl => exact ReflTransGen.refl
    | head depends _ ih =>
        have needs := (needs_iff sound holds).mpr depends
        exact (ih (holds_of_needs sound needs)).head needs

theorem failAt_of_entry (entry : manifest.units[key]? = some spec) :
    manifest.build.world.blueprint.failAt key = spec.failAt := by
  change (manifest.build.world.unit key).container.failAt = _
  rw [unit_of_entry entry]
  rfl

/-- Something that a unit reaches is made to fail. -/
def Doomed (manifest : Manifest) (key : UnitKey) : Prop :=
  ∃ other spec, manifest.Reaches key other ∧
    manifest.units[other]? = some spec ∧ spec.failAt ≠ none

/-- No unit that is not refused depends on itself in the end. -/
def Acyclic (manifest : Manifest) : Prop :=
  ∀ key, ¬ TransGen manifest.DependsOn key key

theorem doomed_iff (sound : manifest.Sound) (holds : manifest.Holds key) :
    manifest.build.world.blueprint.Doomed key ↔ manifest.Doomed key := by
  constructor
  · rintro ⟨other, leads, fails⟩
    rcases manifest.unit_cases other with ⟨-, unit⟩ | ⟨spec, entry, -⟩
    · refine absurd ?_ fails
      change (manifest.build.world.unit other).container.failAt = none
      rw [unit]
      rfl
    · rw [failAt_of_entry entry] at fails
      exact ⟨other, spec, (leads_iff sound holds).mp leads, entry, fails⟩
  · rintro ⟨other, spec, reaches, entry, fails⟩
    refine ⟨other, (leads_iff sound holds).mpr reaches, ?_⟩
    rwa [failAt_of_entry entry]

theorem Acyclic.needs (acyclic : manifest.Acyclic) (sound : manifest.Sound)
    (key : UnitKey) : ¬ TransGen manifest.build.world.blueprint.Needs key key := by
  intro cycle
  obtain ⟨last, -, closes⟩ := TransGen.tail'_iff.mp cycle
  have holds := holds_of_needs sound closes
  obtain ⟨first, needs, leads⟩ := TransGen.head'_iff.mp cycle
  exact acyclic key (TransGen.head' ((needs_iff sound holds).mp needs)
    ((leads_iff sound (holds_of_needs sound needs)).mp leads))

/-- The consumers of the domain of a manifest. -/
def consumers (manifest : Manifest) : Sinks :=
  manifest.domain.sinks

theorem names_unitOf {name : String}
    (named : name ∈ (manifest.unitOf spec key).names) : name = spec.name := by
  simpa [LoadUnit.names, LoadUnit.name, unitOf, UnitSpec.unit, UnitSpec.image,
    UnitSpec.container] using named

theorem watched_build (sound : manifest.Sound) :
    manifest.build.world.Watched manifest.consumers := by
  refine ⟨?_, ?_, ?_, ?_, ?_, ?_⟩
  · rw [domain_build]
    rfl
  · rw [domain_build]
    rfl
  · rw [domain_build]
    rfl
  · intro key known
    obtain ⟨spec, -, unit⟩ := entry_of_known known
    rw [unit]
    rfl
  · intro key known
    obtain ⟨spec, -, unit⟩ := entry_of_known known
    rw [unit]
    change (if spec.hasInitializer then _ else _) ≠ _
    split <;> simp
  · intro key known other knownOther apart name mine yours
    obtain ⟨spec, entry, unit⟩ := entry_of_known known
    obtain ⟨rival, entryOther, unitOther⟩ := entry_of_known knownOther
    rw [unit] at mine
    rw [unitOther] at yours
    have one := keyOf?_of_entry sound entry
    have two := keyOf?_of_entry sound entryOther
    rw [← names_unitOf mine] at one
    rw [← names_unitOf yours, one] at two
    exact apart (Option.some.inj two)

theorem planned_build (sound : manifest.Sound) :
    manifest.build.world.Planned manifest.consumers where
  watched := watched_build sound
  recorded := rfl
  numbered := by
    intro key known
    obtain ⟨spec, -, unit⟩ := entry_of_known known
    rw [unit]
    rfl
  mapped := by
    intro key known
    obtain ⟨spec, -, unit⟩ := entry_of_known known
    rw [unit]
    rfl
  held := by
    intro key dependency needs
    have holds := holds_of_needs sound needs
    exact ⟨holds.known, holds_iff.mp holds⟩
  failing := by
    intro key level fails
    change (manifest.build.world.unit key).container.failAt = _ at fails
    rcases manifest.unit_cases key with ⟨-, unit⟩ | ⟨spec, entry, unit⟩
    · rw [unit] at fails
      contradiction
    · rw [unit] at fails
      exact sound.failing spec (List.mem_of_getElem? entry) level fails
  initialized := by
    intro key dependency needs
    obtain ⟨spec, other, unit, -, -, member⟩ := entry_of_needs sound needs
    have nonempty : spec.dependsOn ≠ [] := List.ne_nil_of_mem member
    rw [unit]
    simp [unitOf, UnitSpec.unit, UnitSpec.container, UnitSpec.hasInitializer,
      nonempty]

/-- A unit that was never driven. -/
theorem fresh_build (manifest : Manifest) (key : UnitKey) :
    (manifest.build.world.unit key).level = .created ∧
      (manifest.build.world.unit key).failure = {} ∧
      (manifest.build.world.unit key).latches = {} ∧
      (manifest.build.world.unit key).gateLifted = false ∧
      (manifest.build.world.unit key).debugging = none := by
  rcases manifest.unit_cases key with ⟨-, unit⟩ | ⟨spec, -, unit⟩ <;>
    (rw [unit]; exact ⟨rfl, rfl, rfl, rfl, rfl⟩)

theorem grounded_build (sound : manifest.Sound) (key : UnitKey) :
    manifest.build.world.Grounded key := by
  obtain ⟨level, failure, -⟩ := manifest.fresh_build key
  refine ⟨?_, ?_, ?_, ?_, ?_⟩
  · rw [level]
    exact fun active => by contradiction
  · rw [failure]
    exact fun cause stored => by contradiction
  · rw [failure]
    exact fun cause stored => by contradiction
  · rw [level]
    intro failing fails
    have injected := (planned_build sound).failing key failing fails
    cases failing <;> first | decide | simp [Level.failurePoints] at injected
  · rw [level, failure]
    exact fun _ => ⟨rfl, rfl⟩

theorem speaks_build (manifest : Manifest) (key : UnitKey) :
    manifest.build.world.Speaks manifest.consumers {} key := by
  obtain ⟨level, failure, latches, -, -⟩ := manifest.fresh_build key
  have bare (kind : ListenerKind) :
      (manifest.build.world.unit key).latches.isSet kind = false := by
    rw [latches]
    exact Latches.isSet_default kind
  refine ⟨⟨_, .of_bare (.settled rfl) (bare _) ?_ ?_ ?_⟩,
    World.heard_of_low ?_ (bare _) rfl⟩
  · rw [LoadUnit.isError, failure]
    rfl
  · rw [level]
    exact fun kind _ => bare kind
  · rw [level, World.eventsOf, events_build]
    rfl
  · rw [level]
    decide

/-- Nothing has happened yet in the world that a manifest makes. -/
theorem rested_build (sound : manifest.Sound) :
    manifest.build.world.Rested manifest.consumers where
  planned := planned_build sound
  grounded := grounded_build sound
  named := by
    intro event member
    rw [events_build] at member
    exact absurd member List.not_mem_nil
  decoded := by
    intro key known
    obtain ⟨-, -, -, -, debugging⟩ := manifest.fresh_build key
    exact Or.inl debugging
  spoken := fun key _ => manifest.speaks_build key
  unowned := by
    intro id
    rw [domain_build]
    rfl
  unwaiting := by
    intro me
    rw [domain_build]
    rfl
  proper := by
    rw [domain_build]
    exact fun entry member => absurd member List.not_mem_nil
  once := by
    rw [domain_build]
    exact List.nodup_nil
  enlists := by
    intro key
    rw [World.Enlists, domain_build, (manifest.fresh_build key).1]
    exact ⟨fun member => absurd member List.not_mem_nil,
      fun high => absurd high (by decide)⟩

theorem capped_build (manifest : Manifest) (goal : Level) :
    manifest.build.world.Capped goal := by
  intro key
  obtain ⟨level, failure, -, gate, -⟩ := manifest.fresh_build key
  refine ⟨?_, ?_, fun _ => gate⟩
  · rw [level]
    exact Nat.zero_le _
  · rw [failure]
    exact fun cause stored => by contradiction

end Manifest

end LoadLadder
