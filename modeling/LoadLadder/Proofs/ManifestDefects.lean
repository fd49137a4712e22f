import LoadLadder.Manifest.Basic
import Mathlib.Data.List.Nodup
import Mathlib.Data.List.TakeWhile

/-!
# What is wrong with a manifest

A manifest is valid if its units have names that tell them apart, depend on units that
there are, and are made to fail only where a code container does the work.  Validation
goes through the units twice, first for the names and then for the references, and
stops at the first thing that is wrong.  This file shows that it accepts the valid
manifests and no others, and that the defect it reports is the first one: names come
before references, and an earlier unit before a later one.
-/

namespace LoadLadder

/-- Nothing is left of a text exactly if it consists of white space. -/
theorem Text.strip_eq_nil_iff {text : List Char} :
    strip text = [] ↔ ∀ char ∈ text, isBlank char = true := by
  rw [strip, List.reverse_eq_nil_iff, List.dropWhile_eq_nil_iff]
  constructor
  · intro rest
    apply List.dropWhile_eq_nil_iff.mp
    cases left : text.dropWhile isBlank with
    | nil => rfl
    | cons head tail =>
        have blank : isBlank head = true := rest head (by simp [left])
        have visible := List.head?_dropWhile_not isBlank text
        simp [left, blank] at visible
  · intro blank char member
    have kept : char ∈ text.dropWhile isBlank := List.mem_reverse.mp member
    exact blank char ((List.dropWhile_suffix isBlank).subset kept)

/-- The levels at which a unit can be made to fail. -/
def Level.Injectable (level : Level) : Prop :=
  level = .eagerFixups ∨ level = .vtableFixups ∨ level = .active

theorem Level.mem_failurePoints_iff {level : Level} :
    level ∈ failurePoints ↔ level.Injectable := by
  simp [failurePoints, Injectable]

/-- Nothing but white space is in the name of the unit. -/
def UnitSpec.Nameless (spec : UnitSpec) : Prop :=
  ∀ char ∈ spec.name.toList, Text.isBlank char = true

theorem UnitSpec.hasBlankName_iff {spec : UnitSpec} :
    spec.hasBlankName = true ↔ spec.Nameless := by
  rw [hasBlankName, List.isEmpty_iff]
  exact Text.strip_eq_nil_iff

namespace Manifest

/-- All units have names, and no two have the same. -/
structure Named (specs : List UnitSpec) : Prop where
  named : ∀ spec ∈ specs, ¬ spec.Nameless
  distinct : (specs.map UnitSpec.name).Nodup

/-- What can be wrong with the name of a unit, given the names in front of it. -/
inductive NameDefect (earlier : List String) (spec : UnitSpec) :
    Misconfiguration → Prop
  | blank (nameless : spec.Nameless) : NameDefect earlier spec .blankUnitName
  | duplicate (named : ¬ spec.Nameless) (taken : spec.name ∈ earlier) :
      NameDefect earlier spec (.duplicateUnit spec.name)

/-- A unit of the manifest has the name. -/
def Knows (manifest : Manifest) (name : String) : Prop :=
  ∃ spec ∈ manifest.units, spec.name = name

/-- All that a unit refers to is there. -/
structure Resolves (manifest : Manifest) (spec : UnitSpec) : Prop where
  known : ∀ dependency ∈ spec.dependsOn, manifest.Knows dependency
  injectable : ∀ level, spec.failAt = some level → level.Injectable

/-- What can be wrong with what a unit refers to: the first of its dependencies that is
unknown, or else the level at which it is to fail. -/
inductive ReferenceDefect (manifest : Manifest) (spec : UnitSpec) :
    Misconfiguration → Prop
  | unknown {before after : List String} {missing : String}
      (split : spec.dependsOn = before ++ missing :: after)
      (known : ∀ dependency ∈ before, manifest.Knows dependency)
      (unknown : ¬ manifest.Knows missing) :
      ReferenceDefect manifest spec (.unknownDependency spec.name missing)
  | uninjectable {level : Level}
      (known : ∀ dependency ∈ spec.dependsOn, manifest.Knows dependency)
      (fails : spec.failAt = some level) (refused : ¬ level.Injectable) :
      ReferenceDefect manifest spec (.uninjectable spec.name level)

/-- Nothing is wrong with the manifest. -/
structure Valid (manifest : Manifest) : Prop where
  named : Named manifest.units
  resolves : ∀ spec ∈ manifest.units, manifest.Resolves spec

/-- The first thing that is wrong with the manifest. -/
inductive FirstDefect (manifest : Manifest) (defect : Misconfiguration) : Prop
  | name {before after : List UnitSpec} {spec : UnitSpec}
      (split : manifest.units = before ++ spec :: after) (clean : Named before)
      (wrong : NameDefect (before.map UnitSpec.name) spec defect)
  | reference {before after : List UnitSpec} {spec : UnitSpec}
      (named : Named manifest.units)
      (split : manifest.units = before ++ spec :: after)
      (clean : ∀ earlier ∈ before, manifest.Resolves earlier)
      (wrong : manifest.ReferenceDefect spec defect)

variable {manifest : Manifest} {spec : UnitSpec} {specs : List UnitSpec}
  {defect : Misconfiguration} {earlier : List String}

theorem NameDefect.congr {others : List String}
    (wrong : NameDefect earlier spec defect)
    (same : spec.name ∈ earlier ↔ spec.name ∈ others) :
    NameDefect others spec defect := by
  cases wrong with
  | blank nameless => exact .blank nameless
  | duplicate named taken => exact .duplicate named (same.mp taken)

theorem exists_nameDefect_iff :
    (∃ defect, NameDefect earlier spec defect) ↔
      spec.Nameless ∨ spec.name ∈ earlier := by
  constructor
  · rintro ⟨defect, nameless | ⟨-, taken⟩⟩
    · exact Or.inl nameless
    · exact Or.inr taken
  · intro wrong
    by_cases nameless : spec.Nameless
    · exact ⟨_, .blank nameless⟩
    · exact ⟨_, .duplicate nameless (wrong.resolve_left nameless)⟩

/-- The search stops at a unit whose name is defective. -/
theorem nameDefect?_of_defect (wrong : NameDefect earlier spec defect) :
    nameDefect? earlier (spec :: specs) = some defect := by
  cases wrong with
  | blank nameless => simp [nameDefect?, UnitSpec.hasBlankName_iff.mpr nameless]
  | duplicate named taken =>
      have visible : ¬ spec.hasBlankName = true := fun blank =>
        named (UnitSpec.hasBlankName_iff.mp blank)
      simp [nameDefect?, visible, taken]

/-- The search goes on past any other unit, and remembers its name. -/
theorem nameDefect?_of_clean (named : ¬ spec.Nameless) (fresh : spec.name ∉ earlier) :
    nameDefect? earlier (spec :: specs) = nameDefect? (spec.name :: earlier) specs := by
  have visible : ¬ spec.hasBlankName = true := fun blank =>
    named (UnitSpec.hasBlankName_iff.mp blank)
  simp [nameDefect?, visible, fresh]

theorem named_cons_iff :
    Named (spec :: specs) ↔
      ¬ spec.Nameless ∧ Named specs ∧ ∀ other ∈ specs, other.name ≠ spec.name := by
  constructor
  · rintro ⟨named, distinct⟩
    obtain ⟨alone, rest⟩ := List.nodup_cons.mp distinct
    obtain ⟨own, others⟩ := List.forall_mem_cons.mp named
    refine ⟨own, ⟨others, rest⟩, fun other member same => ?_⟩
    exact alone (List.mem_map.mpr ⟨other, member, same⟩)
  · rintro ⟨own, ⟨others, rest⟩, apart⟩
    refine ⟨List.forall_mem_cons.mpr ⟨own, others⟩, List.nodup_cons.mpr ⟨?_, rest⟩⟩
    intro member
    obtain ⟨other, member, same⟩ := List.mem_map.mp member
    exact apart other member same

/-- The search finds nothing in units that are told apart from each other and from
those before. -/
theorem nameDefect?_eq_none_iff :
    nameDefect? earlier specs = none ↔
      Named specs ∧ ∀ spec ∈ specs, spec.name ∉ earlier := by
  induction specs generalizing earlier with
  | nil =>
      have nothing : Named [] := ⟨by simp, by simp⟩
      simp [nameDefect?, nothing]
  | cons spec specs ih =>
      by_cases wrong : ∃ defect, NameDefect earlier spec defect
      · obtain ⟨defect, found⟩ := wrong
        rw [nameDefect?_of_defect found, named_cons_iff]
        constructor
        · intro nothing
          contradiction
        · rintro ⟨⟨named, -⟩, fresh⟩
          rcases exists_nameDefect_iff.mp ⟨defect, found⟩ with nameless | taken
          · exact absurd nameless named
          · exact absurd taken (fresh spec List.mem_cons_self)
      · rw [exists_nameDefect_iff, not_or] at wrong
        obtain ⟨named, fresh⟩ := wrong
        rw [nameDefect?_of_clean named fresh, ih, named_cons_iff, List.forall_mem_cons]
        constructor
        · rintro ⟨clean, apart⟩
          refine ⟨⟨named, clean, fun other member same => ?_⟩, fresh,
            fun other member taken => ?_⟩
          · exact apart other member (by simp [same])
          · exact apart other member (List.mem_cons_of_mem _ taken)
        · rintro ⟨⟨-, clean, apart⟩, -, others⟩
          refine ⟨clean, fun other member taken => ?_⟩
          rcases List.mem_cons.mp taken with same | old
          · exact apart other member same
          · exact others other member old

/-- The search stops at the first unit whose name is defective. -/
theorem nameDefect?_eq_some_iff :
    nameDefect? earlier specs = some defect ↔
      ∃ before spec after, specs = before ++ spec :: after ∧
        nameDefect? earlier before = none ∧
        NameDefect (before.map UnitSpec.name ++ earlier) spec defect := by
  induction specs generalizing earlier with
  | nil => simp [nameDefect?]
  | cons spec specs ih =>
      by_cases wrong : ∃ defect, NameDefect earlier spec defect
      · obtain ⟨first, found⟩ := wrong
        rw [nameDefect?_of_defect found]
        constructor
        · intro same
          cases same
          exact ⟨[], spec, specs, rfl, rfl, found⟩
        · rintro ⟨before, other, after, split, clean, wrong⟩
          cases before with
          | nil =>
              cases split
              have stops : nameDefect? earlier [spec] = some first :=
                nameDefect?_of_defect found
              rw [← stops]
              exact nameDefect?_of_defect wrong
          | cons head before =>
              cases split
              rw [nameDefect?_of_defect found] at clean
              contradiction
      · rw [exists_nameDefect_iff, not_or] at wrong
        obtain ⟨named, fresh⟩ := wrong
        rw [nameDefect?_of_clean named fresh, ih]
        constructor
        · rintro ⟨before, other, after, rfl, clean, wrong⟩
          refine ⟨spec :: before, other, after, rfl, ?_, wrong.congr ?_⟩
          · rw [nameDefect?_of_clean named fresh]
            exact clean
          · exact List.perm_middle.mem_iff
        · rintro ⟨before, other, after, split, clean, wrong⟩
          cases before with
          | nil =>
              cases split
              rcases exists_nameDefect_iff.mp ⟨defect, wrong⟩ with nameless | taken
              · exact absurd nameless named
              · exact absurd taken fresh
          | cons head before =>
              cases split
              rw [nameDefect?_of_clean named fresh] at clean
              refine ⟨before, other, after, rfl, clean, wrong.congr ?_⟩
              exact List.perm_middle.mem_iff.symm

theorem contains_names_iff {name : String} :
    manifest.names.contains name = true ↔ manifest.Knows name := by
  rw [List.contains_iff_mem, names, List.mem_map]
  rfl

theorem not_contains_names_iff {name : String} :
    (!manifest.names.contains name) = true ↔ ¬ manifest.Knows name := by
  rw [← contains_names_iff]
  simp

/-- A missing dependency is what the search for one finds. -/
theorem find?_unknown_eq_none_iff {dependencies : List String} :
    (dependencies.find? fun dependency => !manifest.names.contains dependency) = none ↔
      ∀ dependency ∈ dependencies, manifest.Knows dependency := by
  rw [List.find?_eq_none]
  simp only [not_contains_names_iff, not_not]

theorem find?_unknown_eq_some_iff {dependencies : List String} {missing : String} :
    (dependencies.find? fun dependency => !manifest.names.contains dependency) =
        some missing ↔
      ∃ before after, dependencies = before ++ missing :: after ∧
        (∀ dependency ∈ before, manifest.Knows dependency) ∧
        ¬ manifest.Knows missing := by
  rw [List.find?_eq_some_iff_append, not_contains_names_iff]
  constructor
  · rintro ⟨unknown, before, after, split, clean⟩
    refine ⟨before, after, split, fun dependency member => ?_, unknown⟩
    exact contains_names_iff.mp (by simpa using clean dependency member)
  · rintro ⟨before, after, split, known, unknown⟩
    refine ⟨unknown, before, after, split, fun dependency member => ?_⟩
    simpa using contains_names_iff.mpr (known dependency member)

/-- With all dependencies known, only the level of a failure is left to check. -/
theorem referenceDefect?_of_known
    (known : ∀ dependency ∈ spec.dependsOn, manifest.Knows dependency) :
    spec.referenceDefect? manifest.names = some defect ↔
      ∃ level, spec.failAt = some level ∧ ¬ level.Injectable ∧
        defect = .uninjectable spec.name level := by
  have found := find?_unknown_eq_none_iff.mpr known
  unfold UnitSpec.referenceDefect?
  rw [found]
  cases fails : spec.failAt with
  | none => simp
  | some level =>
      by_cases injectable : level.Injectable
      · have allowed := Level.mem_failurePoints_iff.mpr injectable
        simp [allowed, injectable]
      · have refused := mt Level.mem_failurePoints_iff.mp injectable
        simp [refused, injectable, eq_comm]

theorem referenceDefect?_eq_some_iff :
    spec.referenceDefect? manifest.names = some defect ↔
      manifest.ReferenceDefect spec defect := by
  by_cases known : ∀ dependency ∈ spec.dependsOn, manifest.Knows dependency
  · rw [referenceDefect?_of_known known]
    constructor
    · rintro ⟨level, fails, refused, rfl⟩
      exact .uninjectable known fails refused
    · intro wrong
      cases wrong with
      | unknown split _ unknown =>
          exact absurd (known _ (by simp [split])) unknown
      | uninjectable _ fails refused => exact ⟨_, fails, refused, rfl⟩
  · obtain ⟨missing, found⟩ := Option.ne_none_iff_exists'.mp
      (mt find?_unknown_eq_none_iff.mp known)
    have reported : spec.referenceDefect? manifest.names =
        some (.unknownDependency spec.name missing) := by
      unfold UnitSpec.referenceDefect?
      rw [found]
    obtain ⟨before, after, split, clean, unknown⟩ := find?_unknown_eq_some_iff.mp found
    rw [reported]
    constructor
    · intro same
      cases same
      exact .unknown split clean unknown
    · intro wrong
      cases wrong with
      | unknown splitOther cleanOther unknownOther =>
          have other := find?_unknown_eq_some_iff.mpr
            ⟨_, _, splitOther, cleanOther, unknownOther⟩
          rw [found] at other
          cases other
          rfl
      | uninjectable knownAll => exact absurd knownAll known

theorem referenceDefect?_eq_none_iff :
    spec.referenceDefect? manifest.names = none ↔ manifest.Resolves spec := by
  constructor
  · intro nothing
    have known : ∀ dependency ∈ spec.dependsOn, manifest.Knows dependency := by
      by_contra unknown
      obtain ⟨missing, found⟩ := Option.ne_none_iff_exists'.mp
        (mt find?_unknown_eq_none_iff.mp unknown)
      rw [UnitSpec.referenceDefect?, found] at nothing
      contradiction
    refine ⟨known, fun level fails => ?_⟩
    by_contra refused
    have reported := (referenceDefect?_of_known known).mpr ⟨level, fails, refused, rfl⟩
    rw [nothing] at reported
    contradiction
  · intro resolves
    apply Option.eq_none_iff_forall_ne_some.mpr
    intro defect reported
    obtain ⟨level, fails, refused, -⟩ :=
      (referenceDefect?_of_known resolves.known).mp reported
    exact refused (resolves.injectable level fails)

theorem named_iff : nameDefect? [] specs = none ↔ Named specs := by
  simp [nameDefect?_eq_none_iff]

theorem defect?_eq_none_iff : manifest.defect? = none ↔ manifest.Valid := by
  unfold defect?
  cases named : nameDefect? [] manifest.units with
  | some defect =>
      have unnamed : ¬ Named manifest.units := by
        rw [← named_iff, named]
        simp
      constructor
      · intro nothing
        contradiction
      · intro valid
        exact absurd valid.named unnamed
  | none =>
      rw [List.findSome?_eq_none_iff]
      simp only [referenceDefect?_eq_none_iff]
      exact ⟨fun resolves => ⟨named_iff.mp named, resolves⟩, Valid.resolves⟩

theorem defect?_eq_some_iff {defect : Misconfiguration} :
    manifest.defect? = some defect ↔ manifest.FirstDefect defect := by
  unfold defect?
  cases found : nameDefect? [] manifest.units with
  | some first =>
      constructor
      · intro same
        cases same
        obtain ⟨before, spec, after, split, clean, wrong⟩ :=
          nameDefect?_eq_some_iff.mp found
        exact .name split (named_iff.mp clean) (by simpa using wrong)
      · intro wrong
        cases wrong with
        | name split clean wrong =>
            have stops := nameDefect?_eq_some_iff.mpr
              ⟨_, _, _, split, named_iff.mpr clean, by simpa using wrong⟩
            rwa [found] at stops
        | reference named =>
            rw [named_iff.mpr named] at found
            contradiction
  | none =>
      have named := named_iff.mp found
      rw [List.findSome?_eq_some_iff]
      simp only [referenceDefect?_eq_some_iff, referenceDefect?_eq_none_iff]
      constructor
      · rintro ⟨before, spec, after, split, wrong, clean⟩
        exact .reference named split clean wrong
      · intro wrong
        cases wrong with
        | name split clean wrong =>
            have stops := nameDefect?_eq_some_iff.mpr
              ⟨_, _, _, split, named_iff.mpr clean, by simpa using wrong⟩
            rw [found] at stops
            contradiction
        | reference _ split clean wrong => exact ⟨_, _, _, split, wrong, clean⟩

/-- Validation accepts exactly the valid manifests, and otherwise reports the first
defect. -/
theorem validate_reports_first_defect (manifest : Manifest) :
    (manifest.validate = .ok () ↔ manifest.Valid) ∧
      ∀ fault, manifest.validate = .error fault ↔
        ∃ defect, fault = .configuration defect ∧ manifest.FirstDefect defect := by
  unfold validate
  cases found : manifest.defect? with
  | none =>
      have valid := defect?_eq_none_iff.mp found
      refine ⟨by simp [valid], fun fault => ?_⟩
      constructor
      · intro raised
        contradiction
      · rintro ⟨defect, -, first⟩
        rw [defect?_eq_some_iff.mpr first] at found
        contradiction
  | some defect =>
      have invalid : ¬ manifest.Valid := by
        rw [← defect?_eq_none_iff, found]
        simp
      refine ⟨by simp [invalid], fun fault => ?_⟩
      constructor
      · intro raised
        cases raised
        exact ⟨defect, rfl, defect?_eq_some_iff.mp found⟩
      · rintro ⟨other, rfl, first⟩
        rw [defect?_eq_some_iff.mpr first] at found
        cases found
        rfl

/-- Names come first: the unknown dependency stands in front of the blank name. -/
example : defect? { units := [{ name := "a", dependsOn := ["b"] }, { name := " " }] } =
    some .blankUnitName := by
  decide

end Manifest

end LoadLadder
