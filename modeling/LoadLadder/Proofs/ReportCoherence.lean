import LoadLadder.CommandLine.Execute
import LoadLadder.Proofs.AdvisorySettings
import LoadLadder.Proofs.LoneDescents
import LoadLadder.Proofs.ParallelLoads

/-!
# Reports and what they report on

The outcome for a unit is noted when the unit has been driven, and the unit itself is
looked at when all units have been driven.  The two agree: a unit for which nothing went
wrong has the level that was asked for, and a unit that went wrong stands below it with
the cause that its outcome names, no matter what later units and earlier runs did.
-/

namespace LoadLadder

namespace World

variable {world next : World} {key : UnitKey} {goal : Level} {sinks : Sinks}
  {thread after : Thread}

/-- A drive that raises a fault leaves its unit below the goal. -/
def FallsShort (world : World) (key : UnitKey) (goal : Level) (thread : Thread) :
    Prop :=
  ∀ fault, thread = ⟨.answer (.error fault), []⟩ ∨
    (∃ target, thread = ⟨.drive key target (.release (.raise fault)), []⟩) →
    (world.unit key).level < goal

/-- A unit whose cause is raised has not come far enough. -/
theorem short_of_blames {unit : LoadUnit} {fault : Fault}
    (blocks : unit.throwIfError goal = .error fault) : unit.level < goal := by
  by_contra high
  rw [clear_of_reached (Nat.not_lt.mp high)] at blocks
  contradiction

theorem short_of_required {unit : LoadUnit} {fault : Fault}
    (lacks : unit.requireLevel goal.relaxed = .error fault) : unit.level < goal := by
  by_contra high
  have lower : goal.relaxed ≤ goal := by
    cases goal <;> decide
  have reached : ¬ unit.level < goal.relaxed :=
    Nat.not_lt.mpr (Nat.le_trans lower (Nat.not_lt.mp high))
  rw [LoadUnit.requireLevel, if_neg reached] at lacks
  contradiction

/-- A drive that records a failure has not reached its goal before, nor will it. -/
theorem short_of_failed {level : Level} {fault : Fault} {stack : List Waiting}
    (steady : world.Steady ⟨.drive key goal (.fail level fault), stack⟩ key)
    (low : level ≤ goal)
    (grounded : (world.recordFailure key level fault).1.Grounded key) :
    ((world.recordFailure key level fault).1.unit key).level < goal := by
  have healthy := steady.healthy level (by simp [Thread.driving, Task.driving])
  have stored : ((world.recordFailure key level fault).1.unit key).failure.cause =
      some (.capture fault (world.unit key).name level) := by
    rw [recordFailure_fst, unit_setError, if_pos ⟨rfl, healthy⟩]
  obtain ⟨above, other, -, captured, step⟩ := grounded.accounted _ stored
  have same : level = above := congrArg Cause.level captured
  exact Nat.lt_of_lt_of_le (Level.lt_of_next (same ▸ step)) low

theorem fallsShort_stepped (excursion : world.Excursion sinks key goal thread)
    (held : (world.unit key).presence = .held)
    (stepped : world.Stepped mainThread thread next after)
    (short : world.FallsShort key goal thread) : next.FallsShort key goal after := by
  have grounded := grounded_stepped stepped excursion.planned excursion.grounded
    excursion.chains excursion.steady (by rintro root ⟨⟩; exact held)
    excursion.delving key
  have delving := excursion.delving
  rintro fault (answered | ⟨target, raises⟩)
  · cases stepped with
    | releasedRaise =>
        cases answered
        cases delving with
        | drives delves stands =>
            cases delves with
            | outermost aimed =>
                cases aimed
                exact short fault (Or.inr ⟨_, rfl⟩)
    | blames blocks =>
        cases answered
        cases delving with
        | drives delves stands =>
            cases delves with
            | outermost aimed =>
                cases aimed
                exact short_of_blames blocks
    | @required unit aim stack =>
        obtain ⟨same, rfl⟩ := Thread.mk.inj answered
        cases delving with
        | drives delves stands =>
            cases delves with
            | outermost aimed =>
                cases aimed
                cases lacks : (world.unit key).requireLevel goal.relaxed with
                | ok => simp [lacks, Except.map] at same
                | error given => exact short_of_required lacks
    | faulted done =>
        cases answered
        cases delving
    | uninitialized | unactivated =>
        cases answered
        cases delving
    | reported goes =>
        rcases goes with ⟨-, rfl⟩ | ⟨-, rfl⟩ <;> simp at answered
    | _ => simp at answered
  · cases stepped with
    | @failed unit aim level given stack =>
        cases raises
        cases delving with
        | drives delves stands =>
            cases delves with
            | outermost aimed =>
                cases aimed
                exact short_of_failed (excursion.steady key) stands.1 grounded
    | refused asks kept goes =>
        rcases goes with rfl | rfl <;> simp at raises
    | reported goes =>
        rcases goes with ⟨-, rfl⟩ | ⟨-, rfl⟩ <;> simp at raises
    | _ => simp at raises

end World

/-- When a drive fails, its unit stands below the level that was asked for. -/
theorem Machine.short_of_error {world : World} {key : UnitKey} {goal : Level}
    {sinks : Sinks} {fault : Fault} (rested : world.Rested sinks)
    (known : key < world.unitCount) (held : (world.unit key).presence = .held)
    (fails : (ensure world 0 key goal).2 = .error fault) :
    ((ensure world 0 key goal).1.unit key).level < goal := by
  let holds (later : World) (thread : Thread) : Prop :=
    (later.unit key).presence = .held ∧ later.FallsShort key goal thread
  have start : world.FallsShort key goal ⟨.ensure world 0 key goal, []⟩ := by
    have native : world.checkDomain 0 key = .ok () :=
      if_pos (rested.planned.watched.home key known)
    simp only [Task.ensure, native]
    rintro given (answered | ⟨target, raises⟩)
    · split at answered
      · simp at answered
      · cases blocks : (world.unit key).throwIfError goal with
        | ok => simp [blocks, Except.map] at answered
        | error => exact World.short_of_blames blocks
    · split at raises <;> simp at raises
  obtain ⟨reply, same, -, short⟩ := ensure_induction_reply holds
    (fun excursion stepped before =>
      ⟨((World.proceeds_stepped stepped).fixed key).presence.trans before.1,
        World.fallsShort_stepped excursion before.1 stepped before.2⟩)
    rested known held ⟨held, start⟩
  rw [same] at fails
  cases reply with
  | ok flag => contradiction
  | error given => exact short given (Or.inl rfl)

namespace LoadPlan

variable {world next : World} {target : Level} {entry : PlannedUnit × UnitKey}
  {entries : List (PlannedUnit × UnitKey)} {outcome : Except Fault Unit}
  {sinks : Sinks} {plan : LoadPlan}

/-- The outcome for a unit agrees with what has become of the unit. -/
inductive Settles (world : World) (target : Level) :
    PlannedUnit × UnitKey → Except Fault Unit → Prop
  | refused {planned : PlannedUnit} {key : UnitKey} {fault : Fault}
      (refusal : planned.refusal = some fault) :
      Settles world target (planned, key) (.error fault)
  | reached {planned : PlannedUnit} {key : UnitKey}
      (made : planned.refusal = none)
      (reached : target ≤ (world.unit key).level) :
      Settles world target (planned, key) (.ok ())
  | failed {planned : PlannedUnit} {key : UnitKey} {cause : Cause}
      (made : planned.refusal = none)
      (stored : (world.unit key).failure.cause = some cause)
      (short : (world.unit key).level < target) :
      Settles world target (planned, key) (.error (.load cause))

/-- A failed unit stays where it failed, so its outcome still agrees with it when other
units have been driven. -/
theorem Settles.later (settles : Settles world target entry outcome)
    (proceeds : world.Proceeds next) (grounded : world.Grounded entry.2)
    (groundedToo : next.Grounded entry.2) : Settles next target entry outcome := by
  cases settles with
  | refused refusal => exact .refused refusal
  | reached made reached => exact .reached made (proceeds.reached reached)
  | @failed planned key cause made stored short =>
      have kept := (proceeds.grows key).failure cause stored
      obtain ⟨level, fault, -, captured, step⟩ := grounded.accounted cause stored
      obtain ⟨above, other, -, again, later⟩ := groundedToo.accounted cause kept
      have same : level = above := congrArg Cause.level (captured.symm.trans again)
      have stays : (world.unit key).level = (next.unit key).level :=
        Level.next_injective step (same ▸ later)
      exact .failed made kept (stays ▸ short)

theorem settles_drive (rested : world.Rested sinks)
    (drivable : Drivable world [entry]) :
    Settles (drive target world entry).1 target entry
      (drive target world entry).2 := by
  obtain ⟨planned, key⟩ := entry
  unfold drive
  split
  · rename_i fault refusal
    exact .refused refusal
  · rename_i made
    obtain ⟨known, held⟩ := drivable _ (List.mem_singleton_self _) made
    obtain ⟨-, reply, ended, answers⟩ :=
      @Machine.load_ensure key target sinks world rested known held
    simp only [LoadPlan.domain, ended]
    rcases answers with ⟨⟨flag, rfl⟩, reached⟩ | ⟨cause, rfl, stored⟩
    · have clear := conclude_of_reached reached
      exact clear.symm ▸ .reached made reached
    · exact .failed made stored (Machine.short_of_error rested known held ended)

/-- Each outcome still agrees with its unit when all units have been driven. -/
theorem settles_driveAll (rested : world.Rested sinks)
    (drivable : Drivable world entries) :
    List.Forall₂ (Settles (driveAll target world entries).1 target) entries
      (driveAll target world entries).2 := by
  induction entries generalizing world with
  | nil => exact .nil
  | cons entry entries ih =>
      rw [driveAll]
      obtain ⟨loads, -⟩ :=
        @loads_drive world target entry sinks rested drivable.head
      have settles := @settles_drive world target entry sinks rested drivable.head
      have between := loads.rested rested
      have rest := drivable.tail.later loads.proceeds
      obtain ⟨further, -⟩ := @loads_driveAll _ target _ _ between rest
      exact .cons (settles.later further.proceeds (between.grounded _)
        ((further.rested between).grounded _)) (ih between rest)

/-- Runs change the world of a plan only. -/
theorem units_runAll (plan : LoadPlan) (targets : List Level) :
    (plan.runAll targets).units = plan.units := by
  induction targets generalizing plan with
  | nil => rfl
  | cons target targets ih => exact ih _

end LoadPlan

/-- The report on a unit agrees with its entry and with what has become of it. -/
structure UnitReport.Describes (report : UnitReport) (spec : UnitSpec) (unit : LoadUnit)
    (target : Level) : Prop where
  name : report.name = spec.name
  refused : report.status = .refused ↔ spec.invalid = true
  unmade : report.status = .refused → report.snapshot = none ∧
    report.fault = some (.imageValidation (spec.name ++ " is not an executable image"))
  shown : report.status ≠ .refused → report.snapshot = some unit.snapshot
  reached : report.status ≠ .refused →
    (report.status = .ok ↔ target ≤ unit.snapshot.level)
  clean : report.status = .ok → report.fault = none ∧
    (target = .active → unit.snapshot.activated = true)
  failed : report.status = .failed → ∃ cause,
    unit.failure.cause = some cause ∧ unit.snapshot.error = some cause.display ∧
      report.fault.map Fault.message = some ("Load failed: " ++ cause.display) ∧
      (report.fault.map fun fault => fault.resultCode.display) =
        some cause.code.display

/-- Nothing went wrong exactly where the status says so. -/
def UnitReport.IsCandid (report : UnitReport) : Prop :=
  report.status = .ok ↔ report.fault = none

theorem LoadUnit.checkActivated_of_reached {unit : LoadUnit}
    (active : .active ≤ unit.level) : unit.checkActivated = true := by
  simp [LoadUnit.checkActivated, LoadUnit.checkNoError, LoadUnit.isActive, active]

namespace LoadPlan

variable {world : World} {target : Level} {planned : PlannedUnit} {key : UnitKey}
  {outcome : Except Fault Unit} {spec : UnitSpec}

/-- The status is that of the outcome, unless the unit was refused. -/
theorem candid_unitReport (world : World)
    (refuses : ∀ fault, planned.refusal = some fault → outcome = .error fault) :
    (unitReport world planned key outcome).IsCandid := by
  unfold UnitReport.IsCandid unitReport
  cases refusal : planned.refusal with
  | some fault => simp [refuses fault refusal]
  | none => cases outcome <;> simp

theorem describes_of_settles
    (settles : Settles world target (spec.planned, key) outcome) :
    (unitReport world spec.planned key outcome).Describes spec (world.unit key)
      target := by
  have refusal := spec.refusal_planned
  cases settles with
  | @refused _ _ fault given =>
      have invalid : spec.invalid = true := by
        by_contra valid
        simp [refusal, valid] at given
      rw [refusal, if_pos invalid] at given
      cases given
      constructor <;> simp [unitReport, refusal, invalid]
      rfl
  | reached made reached =>
      have valid : spec.invalid = false := by
        simpa [refusal] using made
      constructor <;> simp [unitReport, refusal, valid]
      · rfl
      · exact reached
      · rintro rfl
        exact LoadUnit.checkActivated_of_reached reached
  | failed made stored short =>
      have valid : spec.invalid = false := by
        simpa [refusal] using made
      constructor <;> simp [unitReport, refusal, valid]
      · rfl
      · exact Nat.not_le.mpr short
      · exact ⟨_, stored, by simp [LoadUnit.snapshot, stored], rfl, rfl⟩

end LoadPlan

namespace LoadReport

variable {report : LoadReport}

theorem failures_eq (candid : ∀ entry ∈ report.units, entry.IsCandid) :
    report.failures = report.units.countP fun entry => entry.fault.isSome := by
  refine List.countP_congr fun entry member => ?_
  have same : entry.status = .ok ↔ entry.fault = none := candid entry member
  rw [bne_iff_ne, Ne, same]
  exact Option.ne_none_iff_isSome

theorem firstFault?_eq_some_iff {fault : Fault} :
    report.firstFault? = some fault ↔
      ∃ before entry later, report.units = before ++ entry :: later ∧
        entry.fault = some fault ∧ ∀ other ∈ before, other.fault = none :=
  List.findSome?_eq_some_iff

/-- Something went wrong first exactly if something went wrong. -/
theorem firstFault?_isSome_iff (candid : ∀ entry ∈ report.units, entry.IsCandid) :
    report.firstFault?.isSome = true ↔ 0 < report.failures := by
  rw [failures_eq candid, List.countP_pos_iff, firstFault?, List.findSome?_isSome_iff]

end LoadReport

namespace Manifest

variable {manifest : Manifest} {world : World} {target : Level}
  {outcomes : List (Except Fault Unit)}

/-- A report on the units of a manifest agrees with them, and counts and names first
what went wrong. -/
structure Coherent (manifest : Manifest) (target : Level) (world : World)
    (report : LoadReport) : Prop where
  /-- There is one report for each entry, in the order of the entries. -/
  units : List.Forall₂
    (fun (entry : UnitSpec × UnitKey) (report : UnitReport) =>
      report.Describes entry.1 (world.unit entry.2) target)
    manifest.units.zipIdx report.units
  failures : report.failures =
    report.units.countP fun entry => entry.fault.isSome
  first : ∀ fault, report.firstFault? = some fault ↔
    ∃ before entry later, report.units = before ++ entry :: later ∧
      entry.fault = some fault ∧ ∀ other ∈ before, other.fault = none

theorem candid_of_describes {report : UnitReport} {spec : UnitSpec} {unit : LoadUnit}
    (describes : report.Describes spec unit target) : report.IsCandid := by
  refine ⟨fun fine => (describes.clean fine).1, fun unblamed => ?_⟩
  cases status : report.status with
  | ok => rfl
  | refused =>
      rw [(describes.unmade status).2] at unblamed
      contradiction
  | failed =>
      obtain ⟨cause, -, -, message, -⟩ := describes.failed status
      rw [unblamed] at message
      contradiction

/-- When the outcomes agree with the units, so do the reports. -/
theorem describes_of_forall₂ {entries : List (UnitSpec × UnitKey)}
    (settled : List.Forall₂
      (fun entry => LoadPlan.Settles world target (entry.1.planned, entry.2))
      entries outcomes) :
    List.Forall₂
      (fun (entry : UnitSpec × UnitKey) (report : UnitReport) =>
        report.Describes entry.1 (world.unit entry.2) target)
      entries (((entries.map fun entry => (entry.1.planned, entry.2)).zip outcomes).map
        fun ((planned, key), outcome) =>
          LoadPlan.unitReport world planned key outcome) := by
  induction settled with
  | nil => exact .nil
  | cons settles _ ih => exact .cons (LoadPlan.describes_of_settles settles) ih

theorem candid_of_forall₂ {entries : List (UnitSpec × UnitKey)}
    {reports : List UnitReport}
    (coherent : List.Forall₂
      (fun (entry : UnitSpec × UnitKey) (report : UnitReport) =>
        report.Describes entry.1 (world.unit entry.2) target) entries reports) :
    ∀ report ∈ reports, report.IsCandid := by
  induction coherent with
  | nil => simp
  | cons describes _ ih =>
      exact List.forall_mem_cons.mpr ⟨candid_of_describes describes, ih⟩

theorem coherent_load (accepted : manifest.validate = .ok ()) (targets : List Level)
    (target : Level) :
    manifest.Coherent target
      ((manifest.build.runAll targets).load target false).1.world
      ((manifest.build.runAll targets).load target false).2 := by
  have idle := (idle_build (sound_of_validate accepted)).runAll targets
  have entries : (manifest.build.runAll targets).units.zipIdx =
      manifest.units.zipIdx.map fun entry => (entry.1.planned, entry.2) := by
    rw [LoadPlan.units_runAll, units_build, List.zipIdx_map]
    rfl
  have settled := @LoadPlan.settles_driveAll _ target _ _ idle.rested idle.drivable
  generalize same : LoadPlan.driveAll target (manifest.build.runAll targets).world
    (manifest.build.runAll targets).units.zipIdx = driven at settled
  have load : (manifest.build.runAll targets).load target false =
      ({ manifest.build.runAll targets with world := driven.1 },
        ({ manifest.build.runAll targets with world := driven.1 } :
          LoadPlan).report target false driven.2) := by
    simp only [LoadPlan.load, LoadPlan.run, same, Bool.false_eq_true, if_false]
  rw [entries, List.forall₂_map_left_iff] at settled
  have units := describes_of_forall₂ settled
  rw [← entries] at units
  rw [load]
  exact {
    units
    failures := LoadReport.failures_eq (candid_of_forall₂ units)
    first := fun fault => LoadReport.firstFault?_eq_some_iff }

/-- However a plan is loaded for the first time, the statuses are those of the
outcomes. -/
theorem candid_load (sound : manifest.Sound) (target : Level) (parallel : Bool) :
    ∀ entry ∈ (manifest.build.load target parallel).2.units, entry.IsCandid := by
  have candid {world : World} {outcomes : List (Except Fault Unit)}
      (ends : manifest.Ends target world outcomes) :
      ∀ entry ∈ (({ manifest.build with world } : LoadPlan).report target parallel
        outcomes).units, entry.IsCandid := by
    rw [ends.report]
    intro entry member
    obtain ⟨⟨planned, key⟩, -, rfl⟩ := List.mem_map.mp member
    refine LoadPlan.candid_unitReport world fun fault refusal => ?_
    have given : planned.refusal = some fault := refusal
    simp [LoadPlan.verdict, given]
  cases parallel with
  | true => exact candid (ends_parallel sound target)
  | false => exact candid (ends_run sound target)

/-- The report of a load agrees with the units, whatever earlier runs have left behind,
and a load from the command line fails exactly if its report counts a failure. -/
theorem reports_cohere (accepted : manifest.validate = .ok ()) (targets : List Level)
    (target : Level) :
    manifest.Coherent target
        ((manifest.build.runAll targets).load target false).1.world
        ((manifest.build.runAll targets).load target false).2 ∧
      ∀ resolve flags path (options : CommandLine.LoadOptions),
        ofPath resolve path = .ok manifest →
          ((∃ fault, (CommandLine.load resolve flags path options).result =
              .error fault) ↔
            0 < ((options.apply manifest).build.load options.target
              options.parallel).2.failures) := by
  refine ⟨coherent_load accepted targets target,
    fun resolve flags path options read => ?_⟩
  have sound : (options.apply manifest).Sound := sound_of_validate accepted
  have first := LoadReport.firstFault?_isSome_iff
    (candid_load sound options.target options.parallel)
  rw [← first]
  simp only [CommandLine.load, read]
  cases ((options.apply manifest).build.load options.target
    options.parallel).2.firstFault? <;> simp

/-- The text of a manifest whose first unit fails and whose second one is refused. -/
def quarrelText : String :=
  "[[unit]]\nname = \"Lib\"\nfail_at = \"vtable-fixups\"\n" ++
  "[[unit]]\nname = \"Bad\"\ninvalid = true\n"

def quarrel : Manifest where
  units := [
    { name := "Lib", failAt := some .vtableFixups },
    { name := "Bad", invalid := true }]

theorem quarrel_coherent :
    let resolve : CommandLine.Resolver := fun path => .file path quarrelText.toUTF8
    quarrel.validate = .ok () ∧
      quarrel.Coherent .active
        ((quarrel.build.runAll [.active, .deliverEvents]).load .active false).1.world
        ((quarrel.build.runAll [.active, .deliverEvents]).load .active false).2 ∧
      ofPath resolve "quarrel.toml" = .ok quarrel ∧
      ∃ fault, (CommandLine.load resolve {} "quarrel.toml" {}).result =
        .error fault := by
  intro resolve
  have accepted : quarrel.validate = .ok () := by decide +kernel
  have read : ofPath resolve "quarrel.toml" = .ok quarrel := by
    have parsed : (ofPath resolve "quarrel.toml").toOption = some quarrel := by
      decide +kernel
    cases given : ofPath resolve "quarrel.toml" with
    | ok manifest =>
        rw [given] at parsed
        exact congrArg Except.ok (Option.some.inj parsed)
    | error fault => simp [given, Except.toOption] at parsed
  obtain ⟨coherent, fails⟩ :=
    reports_cohere accepted [.active, .deliverEvents] .active
  exact ⟨accepted, coherent, read,
    (fails resolve {} "quarrel.toml" {} read).mpr (by decide +kernel)⟩

end Manifest

end LoadLadder
