import LoadLadder.Proofs.PlanRuns

/-!
# The outcomes of a load

When the plan of a manifest is loaded to the highest level, one unit after the
other, the dependencies decide how each unit fares: what is made to fail fails where
it is made to, what fails otherwise quotes a dependency that has failed, and nothing
else fails.
-/

namespace LoadLadder

open Relation

namespace UnitReport

/-- The report on a unit that has become active. -/
structure Succeeds (report : UnitReport) : Prop where
  status : report.status = .ok
  fault : report.fault = none
  standing : ∃ snapshot, report.snapshot = some snapshot ∧
    snapshot.level = .active ∧ snapshot.error = none

/-- The report on a unit that has failed with a cause and stands at a level. -/
structure Fails (report : UnitReport) (rest : Level) (cause : Cause) : Prop where
  status : report.status = .failed
  fault : report.fault = some (.load cause)
  standing : ∃ snapshot, report.snapshot = some snapshot ∧
    snapshot.level = rest ∧ snapshot.error = some cause.display

end UnitReport

namespace Manifest

variable {manifest : Manifest} {world : World} {target : Level}
  {outcomes : List (Except Fault Unit)} {spec : UnitSpec} {key : UnitKey}
  {cause : Cause}

/-- The report on a unit once all units have been driven. -/
def reportOf (world : World) (spec : UnitSpec) (key : UnitKey) : UnitReport :=
  LoadPlan.unitReport world spec.planned key
    (LoadPlan.verdict world (spec.planned, key))

theorem report_of_entry (ends : manifest.Ends target world outcomes)
    (parallel : Bool) (entry : manifest.units[key]? = some spec) :
    (({ manifest.build with world } : LoadPlan).report target parallel
      outcomes).units[key]? = some (reportOf world spec key) := by
  rw [ends.report]
  simp [units_build, entry, reportOf]

theorem status_of_refused (refused : spec.invalid = true) :
    (reportOf world spec key).status = .refused := by
  simp [reportOf, LoadPlan.unitReport, UnitSpec.refusal_planned, refused]

theorem succeeds_of_healthy (valid : spec.invalid = false)
    (healthy : (world.unit key).failure.cause = none)
    (active : (world.unit key).level = .active) :
    (reportOf world spec key).Succeeds := by
  have refusal : spec.planned.refusal = none := by
    simp [UnitSpec.refusal_planned, valid]
  refine ⟨?_, ?_, (world.unit key).snapshot, ?_, active, ?_⟩
  · simp [reportOf, LoadPlan.unitReport, LoadPlan.verdict, refusal, healthy]
  · simp [reportOf, LoadPlan.unitReport, LoadPlan.verdict, refusal, healthy]
  · simp [reportOf, LoadPlan.unitReport, refusal]
  · simp [LoadUnit.snapshot, healthy]

theorem fails_of_cause (valid : spec.invalid = false)
    (stored : (world.unit key).failure.cause = some cause) :
    (reportOf world spec key).Fails (world.unit key).level cause := by
  have refusal : spec.planned.refusal = none := by
    simp [UnitSpec.refusal_planned, valid]
  refine ⟨?_, ?_, (world.unit key).snapshot, ?_, rfl, ?_⟩
  · simp [reportOf, LoadPlan.unitReport, LoadPlan.verdict, refusal, stored]
  · simp [reportOf, LoadPlan.unitReport, LoadPlan.verdict, refusal, stored]
  · simp [reportOf, LoadPlan.unitReport, refusal]
  · simp [LoadUnit.snapshot, stored]

theorem refused_or_holds (entry : manifest.units[key]? = some spec) :
    spec.invalid = true ∨ spec.invalid = false ∧ manifest.Holds key := by
  cases invalid : spec.invalid with
  | true => exact Or.inl rfl
  | false => exact Or.inr ⟨rfl, spec, entry, invalid⟩

/-- A unit was refused, or it has become active, or it has failed. -/
theorem report_cases (ends : manifest.Ends .active world outcomes)
    (entry : manifest.units[key]? = some spec) :
    (spec.invalid = true ∧ (reportOf world spec key).status = .refused) ∨
    (spec.invalid = false ∧ (reportOf world spec key).Succeeds) ∨
    ∃ cause, spec.invalid = false ∧
      (world.unit key).failure.cause = some cause ∧
      (reportOf world spec key).Fails (world.unit key).level cause := by
  rcases refused_or_holds entry with refused | ⟨valid, holds⟩
  · exact Or.inl ⟨refused, status_of_refused refused⟩
  cases failure : (world.unit key).failure.cause with
  | none =>
      have active := ends.finished.level_of_healthy (ends.known holds)
        (ends.held holds) failure
      exact Or.inr (Or.inl ⟨valid, succeeds_of_healthy valid failure active⟩)
  | some cause =>
      exact Or.inr (Or.inr ⟨cause, valid, rfl, fails_of_cause valid failure⟩)

theorem fails_of_failed (ends : manifest.Ends .active world outcomes)
    (entry : manifest.units[key]? = some spec)
    (failed : (reportOf world spec key).status = .failed) :
    ∃ cause, spec.invalid = false ∧
      (world.unit key).failure.cause = some cause ∧
      (reportOf world spec key).Fails (world.unit key).level cause := by
  rcases report_cases ends entry with
    ⟨-, status⟩ | ⟨-, succeeds⟩ | fails
  · rw [status] at failed
    contradiction
  · rw [succeeds.status] at failed
    contradiction
  · exact fails

theorem failed_of_isError (valid : spec.invalid = false)
    (failed : (world.unit key).isError = true) :
    (reportOf world spec key).status = .failed := by
  obtain ⟨cause, stored⟩ := World.isError_iff.mp failed
  exact (fails_of_cause valid stored).status

/-- The report on a unit is what the manifest's dependencies make it. -/
structure Decides (manifest : Manifest) (reports : List UnitReport)
    (key : UnitKey) (spec : UnitSpec) (report : UnitReport) : Prop where
  refused : report.status = .refused ↔ spec.invalid = true
  active : spec.invalid = false → report.status ≠ .failed → report.Succeeds
  /-- A unit fails only if something that it reaches is made to fail. -/
  doomed : report.status = .failed → manifest.Doomed key
  unharmed : (∀ spec ∈ manifest.units, spec.failAt = none) →
    spec.invalid = false → report.Succeeds
  /-- A unit that is made to fail rests right below the level where it fails. -/
  injected : spec.invalid = false → ∀ level, spec.failAt = some level →
    ∃ rest cause, report.Fails rest cause ∧ rest.next = some level ∧
      cause.level = level ∧ cause.unit = spec.name
  /-- Any other unit that fails rests loaded, and quotes the cause of a dependency
  that has failed and was not refused. -/
  inherited : report.status = .failed → spec.failAt = none →
    ∃ cause, report.Fails .loaded cause ∧ cause.level = .active ∧
      cause.unit = spec.name ∧
      ∃ dependency other rest quoted, manifest.DependsOn key dependency ∧
        reports[dependency]? = some other ∧ other.Fails rest quoted ∧
        cause.message = (Fault.load quoted).message
  code : report.status = .failed →
    (report.fault.map fun fault => fault.resultCode.display) =
      some "0x80004005"
  /-- A unit fails if a dependency of its own is made to fail. -/
  neighbour : ∀ dependency other, manifest.DependsOn key dependency →
    manifest.units[dependency]? = some other → other.failAt ≠ none →
      report.status = .failed
  acyclic : manifest.Acyclic → spec.invalid = false →
    (report.status = .failed ↔ manifest.Doomed key)

theorem name_of_ends (ends : manifest.Ends target world outcomes)
    (entry : manifest.units[key]? = some spec) :
    (world.unit key).name = spec.name := by
  rw [LoadUnit.name, (ends.proceeds.fixed key).image, unit_of_entry entry]
  rfl

theorem failAt_of_ends (ends : manifest.Ends target world outcomes)
    (entry : manifest.units[key]? = some spec) :
    world.blueprint.failAt key = spec.failAt := by
  rw [ends.proceeds.blueprint, failAt_of_entry entry]

theorem not_doomed_of_unharmed
    (sound : ∀ spec ∈ manifest.units, spec.failAt = none) :
    ¬ manifest.Doomed key := by
  rintro ⟨other, spec, -, entry, fails⟩
  exact fails (sound spec (List.mem_of_getElem? entry))

section

variable (ends : manifest.Ends .active world outcomes)
  (entry : manifest.units[key]? = some spec)

include ends entry

theorem fails_of_injected (valid : spec.invalid = false) {level : Level}
    (fails : spec.failAt = some level) :
    ∃ rest cause, (reportOf world spec key).Fails rest cause ∧
      rest.next = some level ∧ cause.level = level ∧ cause.unit = spec.name := by
  have holds : manifest.Holds key := ⟨spec, entry, valid⟩
  have failing : world.blueprint.failAt key = some level :=
    (failAt_of_ends ends entry).trans fails
  have failed := ends.finished.failed_of_injected (ends.known holds)
    (ends.held holds) (by simp [failing])
  obtain ⟨cause, stored⟩ := World.isError_iff.mp failed
  have captured := ends.finished.cause_of_injected failing stored
  have step := (ends.finished.next_of_cause stored).1
  subst captured
  exact ⟨_, _, fails_of_cause valid stored, step, rfl, name_of_ends ends entry⟩

theorem code_of_failed
    (failed : (reportOf world spec key).status = .failed) :
    ((reportOf world spec key).fault.map fun fault =>
      fault.resultCode.display) = some "0x80004005" := by
  obtain ⟨cause, -, stored, fails⟩ := fails_of_failed ends entry failed
  have code := ((ends.finished.rested.grounded key).doomed cause stored).1
  rw [fails.fault]
  simp only [Option.map_some, Fault.resultCode, code]
  decide +kernel

end

section

variable (sound : manifest.Sound)
  (ends : manifest.Ends .active world outcomes)
  (entry : manifest.units[key]? = some spec)

include sound ends entry

theorem doomed_of_failed
    (failed : (reportOf world spec key).status = .failed) :
    manifest.Doomed key := by
  obtain ⟨cause, valid, stored, -⟩ := fails_of_failed ends entry failed
  have doomed := ((ends.finished.rested.grounded key).doomed cause stored).2
  rw [ends.proceeds.blueprint] at doomed
  exact (doomed_iff sound ⟨spec, entry, valid⟩).mp doomed

theorem failed_of_doomed (acyclic : manifest.Acyclic)
    (valid : spec.invalid = false) (doomed : manifest.Doomed key) :
    (reportOf world spec key).status = .failed := by
  have holds : manifest.Holds key := ⟨spec, entry, valid⟩
  refine failed_of_isError valid (ends.finished.failed_of_doomed ?_
    (ends.known holds) (ends.held holds) ?_)
  · rw [ends.proceeds.blueprint]
    exact acyclic.needs sound
  · rw [ends.proceeds.blueprint]
    exact (doomed_iff sound holds).mpr doomed

theorem quotes_of_inherited
    (failed : (reportOf world spec key).status = .failed)
    (unharmed : spec.failAt = none) :
    ∃ cause, (reportOf world spec key).Fails .loaded cause ∧
      cause.level = .active ∧ cause.unit = spec.name ∧
      ∃ dependency other rest quoted, manifest.DependsOn key dependency ∧
        manifest.units[dependency]? = some other ∧
        (reportOf world other dependency).Fails rest quoted ∧
        cause.message = (Fault.load quoted).message := by
  obtain ⟨cause, valid, stored, fails⟩ := fails_of_failed ends entry failed
  obtain ⟨dependency, quoted, needs, failure, captured⟩ :=
    ends.finished.cause_of_inherited
      ((failAt_of_ends ends entry).trans unharmed) stored
  have step := (ends.finished.next_of_cause stored).1
  subst captured
  have loaded : (world.unit key).level = .loaded :=
    Level.next_injective step rfl
  rw [ends.proceeds.blueprint] at needs
  have depends := (needs_iff sound ⟨spec, entry, valid⟩).mp needs
  obtain ⟨other, needed, held⟩ := holds_of_needs sound needs
  exact ⟨_, loaded ▸ fails, rfl, name_of_ends ends entry, dependency, other, _,
    quoted, depends, needed, fails_of_cause held failure, rfl⟩

/-- What is made to fail keeps those that depend on it from becoming active. -/
theorem failed_of_neighbour {dependency : UnitKey} {other : UnitSpec}
    (depends : manifest.DependsOn key dependency)
    (needed : manifest.units[dependency]? = some other)
    (fails : other.failAt ≠ none) :
    (reportOf world spec key).status = .failed := by
  have valid : spec.invalid = false := by
    obtain ⟨user, -, found, valid, -⟩ := depends
    rw [entry] at found
    exact Option.some.inj found ▸ valid
  have holds : manifest.Holds key := ⟨spec, entry, valid⟩
  have failing := (failAt_of_ends ends needed).trans_ne fails
  have needs : world.blueprint.Needs key dependency := by
    rw [ends.proceeds.blueprint]
    exact (needs_iff sound holds).mpr depends
  have unserved : ¬ world.Serves key dependency := by
    rintro (active | closes)
    · obtain ⟨level, fails⟩ := Option.ne_none_iff_exists'.mp failing
      have short := (ends.finished.rested.grounded dependency).short level fails
      rw [active] at short
      exact World.not_active_lt level short
    · exact failing closes.1
  exact failed_of_isError valid (ends.finished.failed_of_unserved
    (ends.known holds) (ends.held holds) needs unserved)

theorem decides_of_ends {reports : List UnitReport}
    (reported : ∀ key spec, manifest.units[key]? = some spec →
      reports[key]? = some (reportOf world spec key)) :
    manifest.Decides reports key spec (reportOf world spec key) where
  refused := by
    rcases report_cases ends entry with
      ⟨refused, status⟩ | ⟨valid, succeeds⟩ | ⟨cause, valid, -, fails⟩
    · simp [refused, status]
    · simp [valid, succeeds.status]
    · simp [valid, fails.status]
  active := by
    intro valid sound
    rcases report_cases ends entry with
      ⟨refused, -⟩ | ⟨-, succeeds⟩ | ⟨cause, -, -, fails⟩
    · rw [valid] at refused
      contradiction
    · exact succeeds
    · exact absurd fails.status sound
  doomed := doomed_of_failed sound ends entry
  unharmed := by
    intro unharmed valid
    rcases report_cases ends entry with
      ⟨refused, -⟩ | ⟨-, succeeds⟩ | ⟨cause, -, -, fails⟩
    · rw [valid] at refused
      contradiction
    · exact succeeds
    · exact absurd (doomed_of_failed sound ends entry fails.status)
        (not_doomed_of_unharmed unharmed)
  injected := fun valid level fails =>
    fails_of_injected ends entry valid fails
  inherited := by
    intro failed unharmed
    obtain ⟨cause, fails, level, unit, dependency, other, rest, quoted, depends,
      needed, failure, message⟩ :=
      quotes_of_inherited sound ends entry failed unharmed
    exact ⟨cause, fails, level, unit, dependency, _, rest, quoted, depends,
      reported dependency other needed, failure, message⟩
  code := code_of_failed ends entry
  neighbour := fun dependency other depends needed fails =>
    failed_of_neighbour sound ends entry depends needed fails
  acyclic := fun acyclic valid =>
    ⟨doomed_of_failed sound ends entry,
      failed_of_doomed sound ends entry acyclic valid⟩

end

/-- When a sound manifest's plan is loaded to the highest level, one unit after the
other, the dependencies decide how every unit fares. -/
theorem load_decides (valid : manifest.validate = .ok ())
    (entry : manifest.units[key]? = some spec) :
    let reports := (manifest.build.load .active false).2.units
    ∃ report, reports[key]? = some report ∧
      manifest.Decides reports key spec report := by
  intro reports
  have sound := sound_of_validate valid
  have ends := ends_run sound .active
  have reported (key : UnitKey) (spec : UnitSpec)
      (entry : manifest.units[key]? = some spec) :=
    report_of_entry ends false entry
  exact ⟨_, reported key spec entry,
    decides_of_ends sound ends entry reported⟩

/-- A unit whose dependency is made to fail, and one whose dependency is refused. -/
def troubled : Manifest where
  units := [
    { name := "App", dependsOn := ["Lib"] },
    { name := "Lib", failAt := some .vtableFixups },
    { name := "Tool", dependsOn := ["Bad"] },
    { name := "Bad", invalid := true }]

/-- The first of them fails, and the second becomes active. -/
theorem troubled_decided :
    let reports := (troubled.build.load .active false).2.units
    (∃ report cause, reports[0]? = some report ∧ report.Fails .loaded cause) ∧
      ∃ report, reports[2]? = some report ∧ report.Succeeds := by
  intro reports
  have valid : troubled.validate = .ok () := by decide +kernel
  have depends : troubled.DependsOn 0 1 :=
    ⟨_, _, rfl, rfl, rfl, rfl, List.mem_singleton_self _⟩
  have harmless : ¬ troubled.Doomed 2 := by
    rintro ⟨other, spec, reaches, entry, fails⟩
    rcases ReflTransGen.cases_head reaches with rfl | ⟨next, needs, -⟩
    · cases entry
      contradiction
    · obtain ⟨user, bad, found, -, refused, held, member⟩ := needs
      cases found
      have all : ∀ spec ∈ troubled.units, spec.name = "Bad" →
          spec.invalid = true := by decide
      rw [all bad (List.mem_of_getElem? refused)
        (List.mem_singleton.mp member)] at held
      contradiction
  have one : troubled.units[0]? = some _ := rfl
  have two : troubled.units[2]? = some _ := rfl
  obtain ⟨app, first, decided⟩ := load_decides valid one
  obtain ⟨tool, third, harmed⟩ := load_decides valid two
  obtain ⟨cause, fails, -⟩ :=
    decided.inherited (decided.neighbour 1 _ depends rfl (by simp)) rfl
  exact ⟨⟨app, cause, first, fails⟩, tool, third,
    harmed.active rfl fun failed => harmless (harmed.doomed failed)⟩

end Manifest

end LoadLadder
