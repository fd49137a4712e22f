import LoadLadder.Proofs.PlanRuns
import LoadLadder.Proofs.SubStepOrder

/-!
# Loads that nest

Activating a unit loads the units it depends on, and their activation loads further
ones.  Nothing marks the units that were visited: what keeps the descent finite in a
graph that turns back on itself is that a driver stops at an entry which its own
thread holds, and that no sub-step of a unit begins twice.  From the first it follows
how deep drivers nest, from the second how often sub-steps run, in one load or in
many.
-/

namespace LoadLadder

/-- The driver that is at work in a task, if there is one. -/
def Task.drivers : Task → Nat
  | .drive _ _ _ | .announce _ _ _ _ => 1
  | _ => 0

/-- The driver that waits, if there is one. -/
def Waiting.drivers : Waiting → Nat
  | .onSubStep _ _ _ | .onListener _ _ _ _ => 1
  | _ => 0

/-- How many drivers a thread has begun and not ended, each inside a sub-step of the
one before. -/
def Thread.nesting (thread : Thread) : Nat :=
  thread.task.drivers + (thread.stack.map Waiting.drivers).sum

namespace World

theorem drivers_le_one (task : Task) : task.drivers ≤ 1 := by
  cases task <;> simp [Task.drivers]

/-- Drivers that wait hold the entries of their units. -/
theorem drivers_of_chained {seat : Seat} {stack : List Waiting}
    (chained : Chained seat stack) :
    (stack.map Waiting.drivers).sum = (stack.flatMap Waiting.holds).length := by
  induction chained with
  | bottom => rfl
  | driven below ih =>
      simp [Waiting.drivers, Waiting.holds, ih, Nat.add_comm]
  | initializing remains below ih | depending below ih =>
      simpa [Waiting.drivers, Waiting.holds] using ih

theorem chained_of_chains {world : World} {thread : Thread}
    (chains : world.Chains thread) : ∃ seat, Chained seat thread.stack := by
  obtain ⟨task, stack⟩ := thread
  cases task with
  | drive | activateDependencies => exact ⟨_, chains⟩
  | subStep => exact ⟨_, chains.2⟩
  | announce => exact ⟨_, chains.2.2⟩
  | callback => exact chains.elim
  | answer => exact chains

end World

theorem begunLevels_append (key : UnitKey) (past more : List Milestone) :
    begunLevels key (past ++ more) =
      begunLevels key past ++ begunLevels key more :=
  List.filterMap_append

theorem begunLevels_begins (key : UnitKey) (level : Level) :
    begunLevels key [.begins key level] = [level] :=
  List.filterMap_cons_some (if_pos rfl)

namespace Crew

variable {crew : Crew} {world : World} {me : ThreadId} {after : Thread}
  {key : UnitKey} {goal : Level} {sinks : Sinks}
  {aims : ThreadId → Option UnitKey} {schedule : List ThreadId}

/-- A thread that comes back to a unit at work in it goes no deeper, so beside one
driver for each unit there is at most one more. -/
theorem nesting_le (orderly : crew.Orderly sinks goal aims) (me : ThreadId) :
    (crew.thread me).nesting ≤ crew.world.unitCount + 1 := by
  obtain ⟨seat, chained⟩ := World.chained_of_chains (orderly.chains me)
  have waiting := World.drivers_of_chained chained
  have once : (crew.thread me).holds.Nodup :=
    List.nodup_iff_count_le_one.mpr fun key => orderly.count_le me key
  have known : (crew.thread me).holds ⊆ List.range crew.world.unitCount :=
    fun key holds =>
      List.mem_range.mpr (World.known_of_holds (orderly.supports me) holds)
  have few := (List.subperm_of_subset once known).length_le
  have working := World.drivers_le_one (crew.thread me).task
  rw [List.length_range, Thread.holds, List.length_append] at few
  rw [Thread.nesting]
  omega

/-- Each sub-step that begins is one fewer to begin. -/
theorem begun_follow (orderly : crew.Orderly sinks goal aims) (key : UnitKey)
    (members : ∀ me ∈ schedule, me < crew.threads.length) :
    (begunLevels key (crew.passed schedule)).length +
      ((crew.follow schedule).unbegun key).card ≤ (crew.unbegun key).card := by
  induction schedule generalizing crew with
  | nil => simp [passed, begunLevels, follow]
  | cons me schedule ih =>
      have member := members me List.mem_cons_self
      have rest : ∀ you ∈ schedule, you < (crew.act me).threads.length := by
        intro you later
        rw [length_act]
        exact members you (List.mem_cons_of_mem me later)
      have later := ih (orderly_act orderly me) rest
      have follows : crew.follow (me :: schedule) = (crew.act me).follow schedule :=
        rfl
      rw [passed, begunLevels_append, List.length_append, follows]
      suffices now : (begunLevels key (crew.world.milestones (crew.thread me)
          ((crew.act me).thread me))).length +
            ((crew.act me).unbegun key).card ≤ (crew.unbegun key).card by
        omega
      rcases act_cases crew me with
        ⟨idle, turn⟩ | ⟨world, after, -, stepped, acted⟩
      · rw [idle, World.milestones_of_turn turn]
        simp [begunLevels]
      · rw [acted, thread_acted member, if_pos rfl]
        cases World.drives_stepped stepped key with
        | climbs rechecks healthy above same driving passed =>
            have fewer := Finset.card_lt_card
              (unbegun_ssubset orderly member stepped rechecks healthy above
                (driving ▸ List.mem_cons_self))
            rw [passed, begunLevels_begins, List.length_singleton, Nat.add_comm]
            exact fewer
        | goesOn driving unbegun =>
            rw [unbegun]
            simpa using Finset.card_le_card
              (unbegun_subset orderly member stepped key)

end Crew

namespace World

/-- The levels that a unit can still climb. -/
def ahead (world : World) (key : UnitKey) : Finset Level :=
  Crew.unbegun { world, threads := [] } key

/-- There are seven levels above the lowest. -/
theorem card_ahead_le (world : World) (key : UnitKey) :
    (world.ahead key).card ≤ 7 := by
  have above : world.ahead key ⊆ Level.all.toFinset.erase .created := by
    intro level ahead
    obtain ⟨high, -, -⟩ := Crew.mem_unbegun.mp ahead
    refine Finset.mem_erase.mpr ⟨?_, by simp [Level.mem_all]⟩
    rintro rfl
    exact high (Nat.zero_le _)
  exact Finset.card_le_card above

end World

/-- In a crew that drives nothing, what is not begun lies ahead. -/
theorem Crew.unbegun_of_undriven {crew : Crew} {key : UnitKey}
    (undriven : ∀ me, (crew.thread me).driving key = []) :
    crew.unbegun key = crew.world.ahead key := by
  have idle (me : ThreadId) :
      (thread { world := crew.world, threads := [] } me).driving key = [] := rfl
  ext level
  rw [World.ahead, mem_unbegun, mem_unbegun]
  simp only [undriven, idle]

namespace Machine

/-- A machine that is about to drive a unit to a target. -/
def driving (world : World) (through : DomainKey) (key : UnitKey)
    (target : Level) : Machine :=
  ⟨world, ⟨.ensure world through key target, []⟩⟩

/-- One machine is what another one becomes in a step. -/
def Follows (later earlier : Machine) : Prop :=
  earlier.step? = some later

/-- The machine makes only so many steps, ends with an answer, and nests drivers no
deeper than `depth`. -/
structure ComesToRest (machine : Machine) (depth : Nat) : Prop where
  wellFounded : Acc Follows machine
  answered : ∃ reply, machine.run.thread = ⟨.answer reply, []⟩
  nested : ∀ steps, (machine.advance steps).thread.nesting ≤ depth

/-- What the drivers of a machine do within so many steps. -/
def passedWithin : (bound : Nat) → Machine → List Milestone
  | 0, _ => []
  | bound + 1, machine =>
      match machine.step? with
      | none => []
      | some next =>
          machine.world.milestones machine.thread next.thread ++
            passedWithin bound next

/-- What the drivers of a machine do until it is at rest. -/
def passed (machine : Machine) : List Milestone :=
  machine.passedWithin machine.world.budget

theorem passedWithin_eq (bound : Nat) (machine : Machine) :
    machine.passedWithin bound =
      machine.crew.passed (List.replicate bound mainThread) := by
  induction bound generalizing machine with
  | zero => rfl
  | succ bound ih =>
      rw [passedWithin, List.replicate_succ, Crew.passed]
      cases step : machine.step? with
      | none =>
          have stops : machine.passedWithin bound = [] := by
            cases bound with
            | zero => rfl
            | succ bound => simp [passedWithin, step]
          have silent : machine.world.milestones machine.thread
              machine.thread = [] :=
            World.milestones_of_turn (Option.map_eq_none_iff.mp step)
          rw [act_crew_of_stops step, ← ih, stops, List.append_nil]
          exact silent.symm
      | some next =>
          rw [act_crew_of_step step, ← ih]
          rfl

/-- A machine that stops is not the start of an infinite descent. -/
theorem acc_of_stops {machine : Machine} {bound : Nat}
    (stops : (machine.advance bound).step? = none) : Acc Follows machine := by
  induction bound generalizing machine with
  | zero =>
      refine ⟨_, fun later follows => ?_⟩
      rw [Follows, show machine.step? = none from stops] at follows
      contradiction
  | succ bound ih =>
      refine ⟨_, fun later follows => ih ?_⟩
      rw [Follows] at follows
      rwa [advance, follows] at stops

variable {world : World} {key other : UnitKey} {target : Level} {sinks : Sinks}

theorem comesToRest_driving (rested : world.Rested sinks)
    (known : key < world.unitCount) (held : (world.unit key).presence = .held) :
    (driving world 0 key target).ComesToRest (world.unitCount + 1) := by
  obtain ⟨aims, starts, -⟩ := @starts_of_setsOut (driving world 0 key target)
    target (some key) (.sent known held rfl)
  obtain ⟨reply, answered⟩ :=
    Crew.answered_of_isDone (isDone_run rested starts) mainThread
  have rests : (driving world 0 key target).run.thread = ⟨.answer reply, []⟩ :=
    answered
  have stops : (driving world 0 key target).run.step? = none := by
    rw [step?, rests]
    rfl
  refine ⟨acc_of_stops stops, ⟨reply, rests⟩, fun steps => ?_⟩
  · have orderly := Crew.orderly_follow (Crew.orderly_of_starts rested starts)
      (List.replicate steps mainThread)
    rw [← crew_advance] at orderly
    have proceeds := Crew.proceeds_follow (driving world 0 key target).crew
      (List.replicate steps mainThread)
    rw [← crew_advance] at proceeds
    have shallow := Crew.nesting_le orderly mainThread
    rw [proceeds.count] at shallow
    exact shallow

theorem begun_driving (rested : world.Rested sinks)
    (known : key < world.unitCount) (held : (world.unit key).presence = .held) :
    (begunLevels other (driving world 0 key target).passed).length +
      ((ensure world 0 key target).1.ahead other).card ≤
        (world.ahead other).card := by
  obtain ⟨aims, starts, -⟩ := @starts_of_setsOut (driving world 0 key target)
    target (some key) (.sent known held rfl)
  have members : ∀ me ∈ List.replicate (driving world 0 key target).world.budget
      mainThread, me < (driving world 0 key target).crew.threads.length := by
    intro me member
    rw [List.eq_of_mem_replicate member]
    exact Nat.one_pos
  have begun := Crew.begun_follow (Crew.orderly_of_starts rested starts) other members
  have done := isDone_run rested starts
  rw [← passedWithin_eq, ← crew_run, Crew.unbegun_of_undriven fun me => ?_,
    Crew.unbegun_of_undriven fun me => (starts me).undriven other] at begun
  · exact begun
  · obtain ⟨reply, rests⟩ := Crew.answered_of_isDone done me
    rw [rests]
    rfl

end Machine

namespace LoadPlan

variable {world : World} {target : Level} {key : UnitKey}
  {entries : List (PlannedUnit × UnitKey)} {machine : Machine} {sinks : Sinks}
  {plan : LoadPlan}

/-- The machines that run when units are driven one after the other. -/
def machines (target : Level) :
    World → List (PlannedUnit × UnitKey) → List Machine
  | _, [] => []
  | world, entry :: entries =>
      let later := machines target (drive target world entry).1 entries
      match entry.1.refusal with
      | some _ => later
      | none => .driving world domain entry.2 target :: later

/-- The machines that run in several sequential runs of a plan. -/
def allMachines : LoadPlan → List Level → List Machine
  | _, [] => []
  | plan, target :: targets =>
      machines target plan.world plan.units.zipIdx ++
        allMachines (plan.run target false).1 targets

theorem comesToRest_machines (rested : world.Rested sinks)
    (drivable : Drivable world entries)
    (runs : machine ∈ machines target world entries) :
    machine.ComesToRest (world.unitCount + 1) := by
  induction entries generalizing world with
  | nil => exact absurd runs List.not_mem_nil
  | cons entry entries ih =>
      obtain ⟨loads, -⟩ :=
        @loads_drive world target entry sinks rested drivable.head
      have later (among : machine ∈
          machines target (drive target world entry).1 entries) :
          machine.ComesToRest (world.unitCount + 1) :=
        loads.proceeds.count ▸ ih (loads.rested rested)
          (drivable.tail.later loads.proceeds) among
      rw [machines] at runs
      split at runs
      · exact later runs
      · rename_i made
        obtain ⟨known, held⟩ := drivable entry List.mem_cons_self made
        rcases List.mem_cons.mp runs with rfl | among
        · exact Machine.comesToRest_driving rested known held
        · exact later among

theorem begun_machines (rested : world.Rested sinks)
    (drivable : Drivable world entries) :
    (begunLevels key ((machines target world entries).flatMap
      Machine.passed)).length +
        ((driveAll target world entries).1.ahead key).card ≤
          (world.ahead key).card := by
  induction entries generalizing world with
  | nil => simp [machines, driveAll, begunLevels]
  | cons entry entries ih =>
      obtain ⟨loads, -⟩ :=
        @loads_drive world target entry sinks rested drivable.head
      have later := ih (loads.rested rested) (drivable.tail.later loads.proceeds)
      rw [machines, driveAll]
      rcases refusal : entry.1.refusal with _ | fault
      · obtain ⟨known, held⟩ := drivable entry List.mem_cons_self refusal
        have now : (begunLevels key _).length + _ ≤ _ :=
          @Machine.begun_driving world entry.2 key target sinks rested known held
        have driven : (drive target world entry).1 =
            (Machine.ensure world 0 entry.2 target).1 := by
          simp [drive, refusal, domain]
        rw [← driven] at now
        rw [List.flatMap_cons, begunLevels_append, List.length_append]
        simp only [domain]
        omega
      · have skipped : (drive target world entry).1 = world := by
          simp [drive, refusal]
        simp only [skipped] at later ⊢
        exact later

theorem Idle.allMachines (idle : plan.Idle sinks) (targets : List Level) :
    (∀ machine ∈ plan.allMachines targets,
      machine.ComesToRest (plan.world.unitCount + 1)) ∧
    ∀ key, (begunLevels key ((plan.allMachines targets).flatMap
      Machine.passed)).length ≤ (plan.world.ahead key).card := by
  induction targets generalizing plan with
  | nil => simp [LoadPlan.allMachines, begunLevels]
  | cons target targets ih =>
      obtain ⟨loads, later⟩ := idle.run target
      obtain ⟨rest, begun⟩ := ih later
      rw [LoadPlan.allMachines]
      refine ⟨fun machine runs => ?_, fun key => ?_⟩
      · rcases List.mem_append.mp runs with now | afterwards
        · exact comesToRest_machines idle.rested idle.drivable now
        · exact loads.proceeds.count ▸ rest machine afterwards
      · have now := @begun_machines plan.world target key _ sinks idle.rested
          idle.drivable
        have afterwards := begun key
        rw [List.flatMap_append, begunLevels_append, List.length_append]
        exact Nat.le_trans (Nat.add_le_add_left afterwards _) now

end LoadPlan

namespace Manifest

variable {manifest : Manifest}

/-- Whatever the units of a manifest depend on, sequential runs of its plan come to
rest.  On the way a thread never has more drivers than there are units and one more,
and over all runs together a unit begins at most seven sub-steps. -/
theorem loading_terminates (valid : manifest.validate = .ok ())
    (targets : List Level) :
    (∀ machine ∈ manifest.build.allMachines targets,
      machine.ComesToRest (manifest.units.length + 1)) ∧
    ∀ key, (begunLevels key ((manifest.build.allMachines targets).flatMap
      Machine.passed)).length ≤ 7 := by
  obtain ⟨rest, begun⟩ :=
    (idle_build (sound_of_validate valid)).allMachines targets
  rw [unitCount_build] at rest
  exact ⟨rest, fun key =>
    Nat.le_trans (begun key) (World.card_ahead_le _ key)⟩

/-- A unit that depends on itself and twice on another, which depends on it in turn
and on one that is made to fail. -/
def tangle : Manifest where
  units := [
    { name := "App", dependsOn := ["App", "Lib", "Lib"] },
    { name := "Lib", dependsOn := ["App", "Base"] },
    { name := "Base", failAt := some .vtableFixups }]

/-- While the first unit is loaded, its drivers nest three deep. -/
theorem tangle_terminates :
    tangle.validate = .ok () ∧
    (∀ machine ∈ tangle.build.allMachines [.loaded, .active],
      machine.ComesToRest 4) ∧
    ((tangle.build.allMachines [.active]).head?.any fun machine =>
      (machine.advance 155).thread.nesting == 3) = true ∧
    begunLevels 0 ((tangle.build.allMachines [.loaded, .active]).flatMap
      Machine.passed) = Level.active.ladder ∧
    ∀ key, (begunLevels key ((tangle.build.allMachines
      [.loaded, .active]).flatMap Machine.passed)).length ≤ 7 := by
  have valid : tangle.validate = .ok () := by decide +kernel
  obtain ⟨rest, begun⟩ := loading_terminates valid [.loaded, .active]
  exact ⟨valid, rest, by decide +kernel, by decide +kernel, begun⟩

end Manifest

end LoadLadder
