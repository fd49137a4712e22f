import LoadLadder.Proofs.LoadAgreement

/-!
# Parallel loads

Each unit of a plan is driven by a thread of its own.  The threads may begin at any
time and take their turns in any order; each asks for its unit, drives it, and looks
at it once more when it has been answered.  In whatever order this happens, all
threads come to their ends, and the report is the one on loading one unit after the
other.
-/

namespace LoadLadder

/-- How far a thread is with its unit. -/
inductive Errand
  | waiting
  | driving
  | ended (outcome : Except Fault Unit)

namespace Errand

def stage : Errand → Nat
  | waiting => 0
  | driving => 1
  | ended _ => 2

/-- The outcome of an errand; one that is not over counts as having succeeded. -/
def outcome : Errand → Except Fault Unit
  | ended outcome => outcome
  | _ => .ok ()

end Errand

/-- The threads that load a plan, one for each unit, and how far they are. -/
structure Muster where
  crew : Crew
  errand : ThreadId → Errand

namespace Muster

/-- No thread has begun. -/
def ofPlan (plan : LoadPlan) : Muster where
  crew := { world := plan.world, threads := plan.units.map fun _ => {} }
  errand := fun _ => .waiting

def note (muster : Muster) (me : ThreadId) (errand : Errand) : Muster :=
  { muster with errand := Function.update muster.errand me errand }

/-- The thread asks for its unit as it finds the world now. -/
def begin (target : Level) (muster : Muster) (me : ThreadId) : Muster :=
  let task := .ensure muster.crew.world LoadPlan.domain me target
  { muster with crew := muster.crew.setThread me { task } }.note me .driving

/-- The thread has been answered and looks at its unit once more. -/
def finish (target : Level) (muster : Muster) (me : ThreadId) : Muster :=
  muster.note me (.ended (LoadPlan.conclude muster.crew.world me target
    (muster.crew.thread me).outcome))

/-- One turn of one thread. -/
def turn (units : List PlannedUnit) (target : Level) (muster : Muster)
    (me : ThreadId) : Muster :=
  match units[me]?, muster.errand me with
  | some planned, .waiting =>
      match planned.refusal with
      | some fault => muster.note me (.ended (.error fault))
      | none => muster.begin target me
  | some _, .driving =>
      if (muster.crew.thread me).isDone then muster.finish target me
      else { muster with crew := muster.crew.act me }
  | _, _ => muster

def run (units : List PlannedUnit) (target : Level) (muster : Muster)
    (schedule : List ThreadId) : Muster :=
  schedule.foldl (turn units target) muster

/-- All errands are over. -/
def IsOver (units : List PlannedUnit) (muster : Muster) : Prop :=
  ∀ me < units.length, ∃ outcome, muster.errand me = .ended outcome

def outcomes (units : List PlannedUnit) (muster : Muster) :
    List (Except Fault Unit) :=
  units.zipIdx.map fun entry => (muster.errand entry.2).outcome

/-- The report when all errands are over. -/
def report (plan : LoadPlan) (target : Level) (muster : Muster) : LoadReport :=
  ({ plan with world := muster.crew.world } : LoadPlan).report target true
    (muster.outcomes plan.units)

/-- What a turn of a thread comes to. -/
inductive Turned (units : List PlannedUnit) (target : Level) (me : ThreadId)
    (muster : Muster) : Muster → Prop
  | idle (still : units[me]? = none ∨ ∃ outcome, muster.errand me = .ended outcome) :
      Turned units target me muster muster
  | refused {planned : PlannedUnit} {fault : Fault}
      (entry : units[me]? = some planned) (waits : muster.errand me = .waiting)
      (refusal : planned.refusal = some fault) :
      Turned units target me muster (muster.note me (.ended (.error fault)))
  | begun {planned : PlannedUnit} (entry : units[me]? = some planned)
      (waits : muster.errand me = .waiting) (made : planned.refusal = none) :
      Turned units target me muster (muster.begin target me)
  | finished {planned : PlannedUnit} (entry : units[me]? = some planned)
      (drives : muster.errand me = .driving)
      (done : (muster.crew.thread me).isDone = true) :
      Turned units target me muster (muster.finish target me)
  | acted {planned : PlannedUnit} (entry : units[me]? = some planned)
      (drives : muster.errand me = .driving)
      (busy : (muster.crew.thread me).isDone = false) :
      Turned units target me muster { muster with crew := muster.crew.act me }

variable {units : List PlannedUnit} {target : Level} {muster next : Muster}
  {me you : ThreadId} {schedule : List ThreadId}

theorem turned (units : List PlannedUnit) (target : Level) (muster : Muster)
    (me : ThreadId) : Turned units target me muster (muster.turn units target me) := by
  unfold turn
  split
  · rename_i planned entry waits
    split
    · rename_i fault refusal
      exact .refused entry waits refusal
    · rename_i made
      exact .begun entry waits made
  · rename_i planned entry drives
    split
    · rename_i done
      exact .finished entry drives done
    · rename_i busy
      exact .acted entry drives (Bool.eq_false_of_not_eq_true busy)
  · rename_i apart still
    refine .idle ?_
    cases entry : units[me]? with
    | none => exact Or.inl rfl
    | some planned =>
        cases errand : muster.errand me with
        | waiting => exact absurd errand (apart planned entry)
        | driving => exact absurd errand (still planned entry)
        | ended outcome => exact Or.inr ⟨outcome, rfl⟩

/-- Errands only go forward. -/
theorem Turned.stage_le (turned : Turned units target me muster next)
    (you : ThreadId) :
    (muster.errand you).stage ≤ (next.errand you).stage := by
  have noted (later : Errand)
      (forward : (muster.errand me).stage ≤ later.stage) :
      (muster.errand you).stage ≤
        (Function.update muster.errand me later you).stage := by
    by_cases same : you = me
    · subst same
      rwa [Function.update_self]
    · rw [Function.update_of_ne same]
  cases turned with
  | idle => exact Nat.le_refl _
  | refused entry waits => exact noted _ (by simp [waits, Errand.stage])
  | begun entry waits => exact noted _ (by simp [waits, Errand.stage])
  | finished entry drives => exact noted _ (by simp [drives, Errand.stage])
  | acted => exact Nat.le_refl _

/-- A thread that has its turn has begun. -/
theorem Turned.stage_pos (turned : Turned units target me muster next)
    (member : me < units.length) : 0 < (next.errand me).stage := by
  cases turned with
  | idle still =>
      rcases still with missing | ⟨outcome, ended⟩
      · simp [member] at missing
      · simp [ended, Errand.stage]
  | refused | begun | finished => simp [note, begin, finish, Errand.stage]
  | acted entry drives => simp [drives, Errand.stage]

/-- A thread that has its turn when it has been answered is through. -/
theorem Turned.stage_of_isDone (turned : Turned units target me muster next)
    (member : me < units.length) (begun : 0 < (muster.errand me).stage)
    (done : (muster.crew.thread me).isDone = true) :
    1 < (next.errand me).stage := by
  cases turned with
  | idle still =>
      rcases still with missing | ⟨outcome, ended⟩
      · simp [member] at missing
      · simp [ended, Errand.stage]
  | refused | finished => simp [note, finish, Errand.stage]
  | begun entry waits => simp [waits, Errand.stage] at begun
  | acted entry drives busy =>
      rw [done] at busy
      contradiction

theorem stage_le_run (muster : Muster) (schedule : List ThreadId)
    (me : ThreadId) : (muster.errand me).stage ≤
      ((muster.run units target schedule).errand me).stage := by
  induction schedule generalizing muster with
  | nil => exact Nat.le_refl _
  | cons you schedule ih =>
      exact Nat.le_trans ((turned units target muster you).stage_le me) (ih _)

/-- A stage that a thread gets to by a turn of its own is kept. -/
theorem stage_run {bound : Nat} (holds : Muster → Prop)
    (keeps : ∀ muster you, holds muster → holds (muster.turn units target you))
    (rises : ∀ muster, holds muster →
      bound < ((muster.turn units target me).errand me).stage)
    (start : holds muster) (member : me ∈ schedule) :
    bound < ((muster.run units target schedule).errand me).stage := by
  induction schedule generalizing muster with
  | nil => exact absurd member List.not_mem_nil
  | cons you schedule ih =>
      rcases List.mem_cons.mp member with rfl | later
      · exact Nat.lt_of_lt_of_le (rises muster start)
          (stage_le_run _ schedule _)
      · exact ih (keeps muster you start) later

end Muster

namespace Muster

open Crew

variable {manifest : Manifest} {target : Level} {muster next : Muster}
  {aims : ThreadId → Option UnitKey} {planned : PlannedUnit} {me you : ThreadId}
  {outcome : Except Fault Unit} {schedule : List ThreadId}

/-- The threads drive the units that they were made for, and whoever is through has
an outcome that says how far its unit has come. -/
structure Underway (manifest : Manifest) (target : Level) (muster : Muster)
    (aims : ThreadId → Option UnitKey) : Prop where
  tended : muster.crew.Tended manifest.consumers target aims
  capped : muster.crew.world.Capped target
  proceeds : manifest.build.world.Proceeds muster.crew.world
  size : muster.crew.threads.length = manifest.build.units.length
  rests : ∀ me, muster.errand me ≠ .driving →
    ∃ reply, muster.crew.thread me = ⟨.answer reply, []⟩
  drives : ∀ me, muster.errand me = .driving → aims me = some me ∧
    ∃ planned, manifest.build.units[me]? = some planned ∧ planned.refusal = none
  told : ∀ me outcome, muster.errand me = .ended outcome →
    ∃ planned, manifest.build.units[me]? = some planned ∧
      LoadPlan.Concludes muster.crew.world target (planned, me) outcome

theorem Underway.note (underway : muster.Underway manifest target aims)
    (rests : ∃ reply, muster.crew.thread me = ⟨.answer reply, []⟩)
    (entry : manifest.build.units[me]? = some planned)
    (concludes : LoadPlan.Concludes muster.crew.world target (planned, me)
      outcome) :
    (muster.note me (.ended outcome)).Underway manifest target aims where
  tended := underway.tended
  capped := underway.capped
  proceeds := underway.proceeds
  size := underway.size
  rests := by
    intro you still
    by_cases same : you = me
    · exact same ▸ rests
    · exact underway.rests you (by simpa [Muster.note, same] using still)
  drives := by
    intro you driving
    by_cases same : you = me
    · simp [Muster.note, same] at driving
    · exact underway.drives you (by simpa [Muster.note, same] using driving)
  told := by
    intro you other ended
    by_cases same : you = me
    · subst same
      obtain rfl : outcome = other := by simpa [Muster.note] using ended
      exact ⟨planned, entry, concludes⟩
    · exact underway.told you other (by simpa [Muster.note, same] using ended)

/-- A thread that begins is sent for the unit of its entry. -/
theorem Underway.begin (underway : muster.Underway manifest target aims)
    (entry : manifest.build.units[me]? = some planned)
    (waits : muster.errand me = .waiting) (made : planned.refusal = none) :
    (muster.begin target me).Underway manifest target
      (Function.update aims me (some me)) := by
  obtain ⟨reply, rests⟩ := underway.rests me (by simp [waits])
  have within : me < muster.crew.threads.length := by
    rw [underway.size]
    exact (List.getElem?_eq_some_iff.mp entry).1
  have drivable : me < manifest.build.world.unitCount ∧
      (manifest.build.world.unit me).presence = .held :=
    manifest.drivable_build (planned, me)
      (List.mk_mem_zipIdx_iff_getElem?.mpr entry) made
  have sets : muster.crew.world.SetsOut target
      ⟨.ensure muster.crew.world 0 me target, []⟩ (some me) :=
    .sent (underway.proceeds.count.symm ▸ drivable.1)
      ((underway.proceeds.fixed me).presence.trans drivable.2) rfl
  refine ⟨tended_of_setsOut rests sets within underway.tended, underway.capped,
    underway.proceeds, ?_, fun you still => ?_, fun you driving => ?_,
    fun you other ended => ?_⟩
  · simpa [Muster.begin, Muster.note, setThread] using underway.size
  · have apart : me ≠ you := by
      rintro rfl
      simp [Muster.begin, Muster.note] at still
    obtain ⟨answer, answered⟩ := underway.rests you
      (by simpa [Muster.begin, Muster.note, Ne.symm apart] using still)
    exact ⟨answer, (thread_setThread within _ you).trans
      ((if_neg apart).trans answered)⟩
  · by_cases same : you = me
    · subst same
      exact ⟨Function.update_self .., planned, entry, made⟩
    · rw [Function.update_of_ne same]
      exact underway.drives you
        (by simpa [Muster.begin, Muster.note, same] using driving)
  · have apart : you ≠ me := by
      rintro rfl
      simp [Muster.begin, Muster.note] at ended
    exact underway.told you other
      (by simpa [Muster.begin, Muster.note, apart] using ended)

theorem Underway.finish (underway : muster.Underway manifest target aims)
    (drives : muster.errand me = .driving)
    (done : (muster.crew.thread me).isDone = true) :
    (muster.finish target me).Underway manifest target aims := by
  obtain ⟨reply, rests⟩ := Thread.answered_of_isDone done
  obtain ⟨aimed, planned, entry, made⟩ := underway.drives me drives
  have answers := answers_of_rests underway.tended rests aimed
  refine underway.note ⟨reply, rests⟩ entry ?_
  rw [rests]
  exact LoadPlan.concludes_of_answers made answers

theorem Underway.act (underway : muster.Underway manifest target aims)
    (me : ThreadId) :
    ({ muster with crew := muster.crew.act me } : Muster).Underway manifest target
      aims := by
  have proceeds := proceeds_act muster.crew me
  refine ⟨tended_act underway.tended me,
    World.capped_act underway.tended underway.capped me,
    underway.proceeds.trans proceeds,
    (length_act muster.crew me).trans underway.size, fun you still => ?_,
    underway.drives, fun you outcome ended => ?_⟩
  · obtain ⟨reply, rests⟩ := underway.rests you still
    exact ⟨reply, rests_act rests me⟩
  · obtain ⟨planned, entry, concludes⟩ := underway.told you outcome ended
    exact ⟨planned, entry, concludes.later proceeds⟩

theorem Turned.underway (turned : Turned manifest.build.units target me muster next)
    (underway : muster.Underway manifest target aims) :
    ∃ aims, next.Underway manifest target aims := by
  cases turned with
  | idle => exact ⟨aims, underway⟩
  | refused entry waits refusal =>
      exact ⟨aims, underway.note (underway.rests me (by simp [waits])) entry
        (.refused refusal)⟩
  | begun entry waits made => exact ⟨_, underway.begin entry waits made⟩
  | finished entry drives done => exact ⟨aims, underway.finish drives done⟩
  | acted => exact ⟨aims, underway.act me⟩

theorem underway_run (underway : muster.Underway manifest target aims)
    (schedule : List ThreadId) :
    ∃ aims, (muster.run manifest.build.units target schedule).Underway manifest
      target aims := by
  induction schedule generalizing muster aims with
  | nil => exact ⟨aims, underway⟩
  | cons me schedule ih =>
      obtain ⟨later, further⟩ :=
        (turned manifest.build.units target muster me).underway underway
      exact ih further

theorem underway_ofPlan (sound : manifest.Sound) (target : Level) :
    (ofPlan manifest.build).Underway manifest target fun _ => none := by
  have rests (me : ThreadId) :
      (ofPlan manifest.build).crew.thread me = ⟨.answer (.ok true), []⟩ := by
    rw [Crew.thread, ofPlan, List.getD_eq_getElem?_getD, List.getElem?_map]
    cases manifest.build.units[me]? <;> rfl
  have starts : (ofPlan manifest.build).crew.Starts target fun _ => none :=
    fun me => .resting (rests me)
  have tended := tended_of_starts (Manifest.rested_build sound) starts
  refine ⟨tended, manifest.capped_build target, .refl _, by simp [ofPlan],
    fun me _ => ⟨_, rests me⟩, fun me driving => ?_, fun me outcome ended => ?_⟩
  · cases driving
  · cases ended

/-- When all errands are over, the run is. -/
theorem ends_of_isOver (underway : muster.Underway manifest target aims)
    (ended : muster.IsOver manifest.build.units) :
    manifest.Ends target muster.crew.world
      (muster.outcomes manifest.build.units) := by
  have done : muster.crew.isDone = true := by
    by_contra busy
    obtain ⟨me, within, busy⟩ :=
      not_isDone_iff.mp (Bool.eq_false_of_not_eq_true busy)
    obtain ⟨outcome, ended⟩ := ended me (underway.size ▸ within)
    obtain ⟨reply, rests⟩ := underway.rests me (by simp [ended])
    simp [rests, Thread.isDone] at busy
  refine Manifest.ends_of_concludes (rested_of_isDone underway.tended done)
    underway.capped underway.proceeds ?_
  rw [outcomes, List.forall₂_map_right_iff, List.forall₂_same]
  rintro ⟨planned, me⟩ member
  have entry := List.mk_mem_zipIdx_iff_getElem?.mp member
  obtain ⟨outcome, ended⟩ := ended me (List.getElem?_eq_some_iff.mp entry).1
  obtain ⟨other, found, concludes⟩ := underway.told me outcome ended
  rw [entry] at found
  cases found
  rwa [ended]

/-- Once a thread has begun, its turns are the steps of the crew. -/
theorem Turned.crew (turned : Turned manifest.build.units target me muster next)
    (underway : muster.Underway manifest target aims)
    (begun : ∀ me < manifest.build.units.length, 0 < (muster.errand me).stage) :
    next.crew = muster.crew.act me := by
  have idle (still : muster.errand me ≠ .driving) :
      muster.crew = muster.crew.act me := by
    obtain ⟨reply, rests⟩ := underway.rests me still
    exact (act_of_rests rests).symm
  cases turned with
  | idle still =>
      refine idle fun drives => ?_
      rcases still with missing | ⟨outcome, ended⟩
      · obtain ⟨-, planned, entry, -⟩ := underway.drives me drives
        rw [missing] at entry
        contradiction
      · rw [ended] at drives
        contradiction
  | refused entry waits => exact idle (by simp [waits])
  | begun entry waits =>
      have waited := begun me (List.getElem?_eq_some_iff.mp entry).1
      simp [waits, Errand.stage] at waited
  | finished entry drives done =>
      obtain ⟨reply, rests⟩ := Thread.answered_of_isDone done
      exact (act_of_rests rests).symm
  | acted => rfl

theorem crew_run (underway : muster.Underway manifest target aims)
    (begun : ∀ me < manifest.build.units.length, 0 < (muster.errand me).stage)
    (schedule : List ThreadId) :
    (muster.run manifest.build.units target schedule).crew =
      muster.crew.follow schedule := by
  induction schedule generalizing muster aims with
  | nil => rfl
  | cons me schedule ih =>
      have turned := turned manifest.build.units target muster me
      obtain ⟨later, further⟩ := turned.underway underway
      have still (you : ThreadId) (within : you < manifest.build.units.length) :=
        Nat.lt_of_lt_of_le (begun you within) (turned.stage_le you)
      refine (ih further still).trans ?_
      rw [turned.crew underway begun]
      rfl

end Muster

theorem Crew.Fair.window {members : Nat} {turns : Nat → ThreadId}
    (fair : Crew.Fair members turns) :
    ∃ moment, ∀ me < members, me ∈ (List.range moment).map turns := by
  induction members with
  | zero => exact ⟨0, fun me none => absurd none (Nat.not_lt_zero me)⟩
  | succ members ih =>
      obtain ⟨moment, all⟩ := ih fun me within => fair me (Nat.lt_succ_of_lt within)
      obtain ⟨late, -, last⟩ := fair members (Nat.lt_succ_self members) 0
      refine ⟨max moment (late + 1), fun me within => ?_⟩
      rcases Nat.lt_succ_iff_lt_or_eq.mp within with earlier | rfl
      · obtain ⟨turn, early, mine⟩ := List.mem_map.mp (all me earlier)
        refine List.mem_map.mpr ⟨turn, ?_, mine⟩
        rw [List.mem_range] at early ⊢
        omega
      · exact List.mem_map.mpr ⟨late, by simp, last⟩

namespace Muster

open Crew

variable {manifest : Manifest} {target : Level} {muster : Muster}
  {aims : ThreadId → Option UnitKey} {turns : Nat → ThreadId}

/-- The threads after so many turns of an infinite schedule. -/
def afterTurns (units : List PlannedUnit) (target : Level) (muster : Muster)
    (turns : Nat → ThreadId) (moment : Nat) : Muster :=
  muster.run units target ((List.range moment).map turns)

theorem afterTurns_add (units : List PlannedUnit) (target : Level)
    (muster : Muster) (turns : Nat → ThreadId) (start more : Nat) :
    muster.afterTurns units target turns (start + more) =
      (muster.afterTurns units target turns start).afterTurns units target
        (fun moment => turns (start + moment)) more := by
  simp [afterTurns, run, List.range_add, Function.comp_def]

/-- When the crew is done, one more turn for each thread is enough. -/
theorem isOver_of_isDone (underway : muster.Underway manifest target aims)
    (begun : ∀ me < manifest.build.units.length, 0 < (muster.errand me).stage)
    (done : muster.crew.isDone = true) {schedule : List ThreadId}
    (all : ∀ me < manifest.build.units.length, me ∈ schedule) :
    (muster.run manifest.build.units target schedule).IsOver
      manifest.build.units := by
  -- The crew stays done, so each thread's own turn finds it answered.
  let through (muster : Muster) : Prop :=
    (∃ aims, muster.Underway manifest target aims) ∧
      (∀ me < manifest.build.units.length, 0 < (muster.errand me).stage) ∧
      muster.crew.isDone = true
  intro me within
  have last : 1 < ((muster.run manifest.build.units target
      schedule).errand me).stage := by
    refine stage_run through (fun muster you still => ?_) (fun muster still => ?_)
      ⟨⟨aims, underway⟩, begun, done⟩ (all me within)
    · obtain ⟨⟨aims, underway⟩, begun, done⟩ := still
      have turned := turned manifest.build.units target muster you
      refine ⟨turned.underway underway, fun me within =>
        Nat.lt_of_lt_of_le (begun me within) (turned.stage_le me), ?_⟩
      obtain ⟨reply, rests⟩ := answered_of_isDone done you
      rw [turned.crew underway begun, act_of_rests rests]
      exact done
    · obtain ⟨-, begun, done⟩ := still
      obtain ⟨reply, rests⟩ := answered_of_isDone done me
      refine (turned manifest.build.units target muster me).stage_of_isDone
        within (begun me within) ?_
      rw [rests]
      rfl
  cases errand : (muster.run manifest.build.units target schedule).errand me with
  | ended outcome => exact ⟨outcome, rfl⟩
  | waiting | driving => simp [errand, Errand.stage] at last

/-- If every thread has its turn again and again, all errands are over some
time. -/
theorem isOver_of_fair (underway : muster.Underway manifest target aims)
    (fair : Fair manifest.build.units.length turns) :
    ∃ moment, (muster.afterTurns manifest.build.units target turns
      moment).IsOver manifest.build.units := by
  -- Within a window of turns everybody begins.  From then on the turns are the steps
  -- of the crew, which comes to its end, and one more window is enough.
  obtain ⟨first, all⟩ := fair.window
  have begun (me : ThreadId) (within : me < manifest.build.units.length) :
      0 < ((muster.afterTurns manifest.build.units target turns
        first).errand me).stage :=
    stage_run (fun _ => True) (fun _ _ _ => trivial)
      (fun muster _ => (turned _ target muster me).stage_pos within) trivial
      (all me within)
  obtain ⟨later, assembled⟩ :=
    underway_run underway ((List.range first).map turns)
  obtain ⟨more, done⟩ := isDone_of_fair assembled.tended.orderly
    (assembled.size ▸ fair.drop first)
  obtain ⟨last, everyone⟩ := ((fair.drop first).drop more).window
  have acts := crew_run assembled begun
    ((List.range more).map fun moment => turns (first + moment))
  obtain ⟨latest, answered⟩ := underway_run assembled
    ((List.range more).map fun moment => turns (first + moment))
  refine ⟨first + (more + last), ?_⟩
  rw [afterTurns_add, afterTurns_add]
  exact isOver_of_isDone answered
    (fun me within => Nat.lt_of_lt_of_le (begun me within)
      (stage_le_run _ _ me)) (acts ▸ done) everyone

end Muster

namespace Manifest

variable {manifest : Manifest} {target : Level}

theorem thread_crew {planned : PlannedUnit} {me : ThreadId}
    (entry : manifest.build.units[me]? = some planned) :
    (manifest.build.crew target).thread me =
      match planned.refusal with
      | some fault => ⟨.answer (.error fault), []⟩
      | none => ⟨.ensure manifest.build.world LoadPlan.domain me target, []⟩ := by
  cases refusal : planned.refusal <;>
    simp [Crew.thread, LoadPlan.crew, entry, refusal]

/-- Each thread of the crew is sent for the unit of its entry, unless that was
refused. -/
theorem starts_crew (manifest : Manifest) (target : Level) :
    ∃ aims, (manifest.build.crew target).Starts target aims ∧
      ∀ me planned, manifest.build.units[me]? = some planned →
        planned.refusal = none → aims me = some me := by
  have sets (me : ThreadId) : ∃ aim, manifest.build.world.SetsOut target
      ((manifest.build.crew target).thread me) aim ∧
        ∀ planned, manifest.build.units[me]? = some planned →
          planned.refusal = none → aim = some me := by
    cases entry : manifest.build.units[me]? with
    | none =>
        have outside := List.getElem?_eq_none_iff.mp entry
        have rests : (manifest.build.crew target).thread me =
            ⟨.answer (.ok true), []⟩ := by
          simp [Crew.thread, LoadPlan.crew, outside]
        exact ⟨none, .resting rests, fun planned found => by contradiction⟩
    | some planned =>
        have thread := @thread_crew manifest target planned me entry
        cases refusal : planned.refusal with
        | some fault =>
            rw [refusal] at thread
            refine ⟨none, .resting thread, fun other same made => ?_⟩
            cases same
            rw [refusal] at made
            contradiction
        | none =>
            rw [refusal] at thread
            have drivable := manifest.drivable_build (planned, me)
              (List.mk_mem_zipIdx_iff_getElem?.mpr entry) refusal
            exact ⟨some me, .sent drivable.1 drivable.2 thread, fun _ _ _ => rfl⟩
  choose aims starts sought using sets
  exact ⟨aims, starts, sought⟩

/-- When the crew is done, each of its outcomes says how far its unit has come. -/
theorem concludes_crewOutcomes {crew : Crew} {aims : ThreadId → Option UnitKey}
    (tended : crew.Tended manifest.consumers target aims)
    (done : crew.isDone = true)
    (size : crew.threads.length = manifest.build.units.length)
    (sought : ∀ me planned, manifest.build.units[me]? = some planned →
      planned.refusal = none → aims me = some me)
    (refused : ∀ me planned fault, manifest.build.units[me]? = some planned →
      planned.refusal = some fault →
        crew.thread me = ⟨.answer (.error fault), []⟩) :
    List.Forall₂ (LoadPlan.Concludes crew.world target)
      manifest.build.units.zipIdx (LoadPlan.crewOutcomes crew target) := by
  rw [List.forall₂_iff_get]
  refine ⟨by simp [LoadPlan.crewOutcomes, Crew.outcomes, size], ?_⟩
  intro me within there
  have member : me < manifest.build.units.length := by simpa using within
  have entry := List.getElem?_eq_getElem member
  obtain ⟨reply, rests⟩ := Crew.answered_of_isDone done me
  have outcome : (LoadPlan.crewOutcomes crew target).get ⟨me, there⟩ =
      LoadPlan.conclude crew.world me target (crew.thread me).outcome := by
    simp [LoadPlan.crewOutcomes, Crew.outcomes, Crew.thread, size, member]
  rw [outcome]
  simp only [List.get_eq_getElem, List.getElem_zipIdx, Nat.zero_add]
  cases refusal : manifest.build.units[me].refusal with
  | some fault =>
      rw [refused me _ fault entry refusal]
      exact .refused refusal
  | none =>
      rw [rests]
      exact LoadPlan.concludes_of_answers refusal
        (Crew.answers_of_rests tended rests (sought me _ entry refusal))

/-- The run that lets all threads act in turn comes to its end. -/
theorem ends_parallel (sound : manifest.Sound) (target : Level) :
    manifest.Ends target (manifest.build.run target true).1.world
      (manifest.build.run target true).2 := by
  obtain ⟨aims, starts, sought⟩ := manifest.starts_crew target
  have tended := Crew.tended_of_starts (rested_build sound) starts
  have size : (manifest.build.crew target).threads.length =
      manifest.build.units.length := by simp [LoadPlan.crew]
  have enough : (manifest.build.crew target).effort ≤
      (manifest.build.crew target).budget := by
    refine Nat.le_trans (Crew.effort_le_budget (fun me => (starts me).cost _) ?_)
      (Nat.le_mul_of_pos_left _ (Nat.succ_pos _))
    change _ ≤ manifest.build.world.unitCount + 1
    rw [size, units_build, unitCount_build, List.length_map]
    exact Nat.le_succ _
  have done := Crew.isDone_advance tended.orderly enough
  obtain ⟨schedule, ended⟩ := Crew.advance_eq_follow
    (manifest.build.crew target).budget (manifest.build.crew target)
  have tended := Crew.tended_follow tended schedule
  have capped : ((manifest.build.crew target).follow
      schedule).world.Capped target :=
    Crew.follow_induction (fun crew => crew.world.Capped target)
      (fun crew tended capped me => World.capped_act tended capped me)
      (Crew.tended_of_starts (rested_build sound) starts)
      (manifest.capped_build target) schedule
  rw [ended] at done
  have concluded := concludes_crewOutcomes tended done
    ((Crew.length_follow _ schedule).trans size) sought
    fun me planned fault entry refusal => by
      have thread := @thread_crew manifest target planned me entry
      rw [refusal] at thread
      exact Crew.rests_follow thread schedule
  have proceeds := Crew.proceeds_follow (manifest.build.crew target) schedule
  have ends := ends_of_concludes (Crew.rested_of_isDone tended done) capped
    proceeds concluded
  rw [← ended] at ends
  exact ends

/-- Nobody reports that a unit is still being loaded. -/
theorem not_loadInProgress_of_ends {world : World}
    {outcomes : List (Except Fault Unit)}
    (ends : manifest.Ends target world outcomes) (parallel : Bool)
    {report : UnitReport}
    (member : report ∈ (({ manifest.build with world } : LoadPlan).report target
      parallel outcomes).units) (unit : String) (level wanted : Level) :
    report.fault ≠ some (.loadInProgress unit level wanted) := by
  rw [ends.report] at member
  obtain ⟨⟨planned, key⟩, entry, rfl⟩ := List.mem_map.mp member
  obtain ⟨spec, -, rfl⟩ := mem_entries.mp entry
  cases invalid : spec.invalid <;>
    cases failure : (world.unit key).failure.cause <;>
      simp [LoadPlan.unitReport, LoadPlan.verdict, UnitSpec.refusal_planned,
        invalid, failure]

/-- The threads that load a plan may take their turns in any order: when all of them
are through, they report what a load of one unit after the other reports.  Wherever
they have got to, they come through if each of them has its turn again and again.
No unit is reported as still being loaded. -/
theorem parallel_load_agrees (valid : manifest.validate = .ok ())
    (mild : manifest.Mild) (target : Level) :
    let plan := manifest.build
    let alone := (plan.load target false).2
    let after := (Muster.ofPlan plan).run plan.units target
    (∀ schedule, (after schedule).IsOver plan.units →
      (after schedule).report plan target = { alone with parallel := true }) ∧
    (∀ schedule turns, Crew.Fair plan.units.length turns → ∃ moment,
      ((after schedule).afterTurns plan.units target turns moment).IsOver
        plan.units) ∧
    (plan.load target true).2 = { alone with parallel := true } ∧
    ∀ report ∈ alone.units, ∀ unit level wanted,
      report.fault ≠ some (.loadInProgress unit level wanted) := by
  intro plan alone after
  have sound := sound_of_validate valid
  have sequential := ends_run sound target
  have underway (schedule : List ThreadId) :=
    Muster.underway_run (Muster.underway_ofPlan sound target) schedule
  refine ⟨fun schedule ended => ?_, fun schedule turns fair => ?_, ?_,
    fun report member => ?_⟩
  · obtain ⟨aims, underway⟩ := underway schedule
    exact report_congr sound mild (Muster.ends_of_isOver underway ended)
      sequential false true
  · obtain ⟨aims, underway⟩ := underway schedule
    exact Muster.isOver_of_fair underway fair
  · exact report_congr sound mild (ends_parallel sound target) sequential false
      true
  · exact not_loadInProgress_of_ends sequential false member

/-- Two units that need each other, and one that needs both. -/
def circle : Manifest where
  units := [
    { name := "A", dependsOn := ["B"] },
    { name := "B", dependsOn := ["A"] },
    { name := "C", dependsOn := ["A", "B"] }]

/-- Three threads that take turns come through. -/
theorem circle_agrees : circle.validate = .ok () ∧ circle.Mild ∧ ∃ moment,
    ((Muster.ofPlan circle.build).afterTurns circle.build.units .active (· % 3)
      moment).report circle.build .active =
        { (circle.build.load .active false).2 with parallel := true } := by
  have valid : circle.validate = .ok () := by decide +kernel
  have mild : circle.Mild := Or.inr (by decide)
  have fair : Crew.Fair circle.build.units.length (· % 3) := by
    intro me member early
    have few : me < 3 := by simpa [units_build, circle] using member
    refine ⟨3 * early + me, by omega, ?_⟩
    change (3 * early + me) % 3 = me
    omega
  obtain ⟨agrees, ends, -⟩ := parallel_load_agrees valid mild .active
  obtain ⟨moment, ended⟩ := ends [] (· % 3) fair
  exact ⟨valid, mild, moment, agrees _ ended⟩

end Manifest

end LoadLadder
