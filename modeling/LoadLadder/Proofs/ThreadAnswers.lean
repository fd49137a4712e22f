import LoadLadder.Proofs.EntryOwnership

/-!
# What threads answer

A thread takes a frame off its stack only when it answers to this frame, so whatever
lies on the stack stays there until the work above it has been answered.

An operation that finds its unit failed may answer that it did nothing.  Only a
sub-step that the client asks for itself does so, and its answer goes to the client:
no driver ever hears that its sub-step did nothing.
-/

namespace LoadLadder

/-- What an act does to the stack of its thread. -/
inductive Thread.Shifts (thread after : Thread) : Prop
  | keeps (stack : after.stack = thread.stack)
  | pushes {waiting : Waiting} (stack : after.stack = waiting :: thread.stack)
  | pops {reply : Reply} {waiting : Waiting}
      (answers : thread = ⟨.answer reply, waiting :: after.stack⟩)

/-- A frame stays on the stack unless the thread answers to it. -/
theorem Thread.Shifts.stays {thread after : Thread} (shifts : thread.Shifts after)
    {above below : List Waiting} {waiting : Waiting}
    (stack : thread.stack = above ++ waiting :: below) :
    (∃ above, after.stack = above ++ waiting :: below) ∨
      ∃ reply, thread = ⟨.answer reply, waiting :: below⟩ := by
  cases shifts with
  | keeps same => exact Or.inl ⟨above, same.trans stack⟩
  | @pushes top more => exact Or.inl ⟨top :: above, by rw [more, stack]; rfl⟩
  | @pops reply top answers =>
      rw [answers] at stack
      cases above with
      | nil =>
          obtain ⟨rfl, rfl⟩ := List.cons.inj stack
          exact Or.inr ⟨reply, answers⟩
      | cons other above => exact Or.inl ⟨above, (List.cons.inj stack).2⟩

/-- If the thread answers that nothing was done, it is the client that hears of
it. -/
def Thread.Candid (thread : Thread) : Prop :=
  thread.task = .answer (.ok false) → thread.turn = .answered (.ok false)

namespace World

variable {world next : World} {repertoire : Repertoire} {me : ThreadId}
  {thread after : Thread} {deeds : List Deed}

/-- A thread that has a step to take does nothing else. -/
theorem stepped_of_busy (act : world.Act repertoire me thread deeds next after)
    (busy : (world.step me thread).isSome = true) :
    world.Stepped me thread next after := by
  cases act with
  | step step => exact stepped_of_step step
  | operate operation turn | call operation turn => simp [turn] at busy
  | resume answered =>
      subst answered
      simp [World.step] at busy
  | finish result called =>
      subst called
      simp [World.step] at busy

theorem deeds_of_busy (act : world.Act repertoire me thread deeds next after)
    (busy : (world.step me thread).isSome = true) :
    deeds = world.deeds thread := by
  cases act with
  | step step => rfl
  | operate operation turn | call operation turn => simp [turn] at busy
  | resume answered =>
      subst answered
      simp [World.step] at busy
  | finish result called =>
      subst called
      simp [World.step] at busy

theorem shifts_stepped (stepped : world.Stepped me thread next after) :
    thread.Shifts after := by
  cases stepped with
  | climbs | activates | tellsClient => exact .pushes rfl
  | initializes runs =>
      rcases runs with ⟨-, rfl⟩ | ⟨-, rfl⟩ <;> exact .pushes rfl
  | reported goes =>
      rcases goes with ⟨-, rfl⟩ | ⟨-, rfl⟩
      · exact .keeps rfl
      · exact .pushes rfl
  | succeeded | abandoned | broke | initialized | uninitialized | hooked
  | activated | unactivated | listened => exact .pops rfl
  | _ => exact .keeps rfl

theorem shifts_act (act : world.Act repertoire me thread deeds next after) :
    thread.Shifts after := by
  cases act with
  | step step => exact shifts_stepped (stepped_of_step step)
  | operate => exact .keeps rfl
  | call operation turn =>
      rcases turn_cases turn with
        ⟨callback, stack, rfl⟩ | ⟨reply, rfl⟩ | ⟨reply, callback, stack, rfl⟩
      · exact .pushes rfl
      · exact .keeps rfl
      · exact .keeps rfl
  | resume answered => exact .pops answered
  | finish result called =>
      subst called
      exact .keeps rfl

theorem map_true_ne_false (result : Except Fault Unit) :
    (result.map fun _ => true) ≠ Except.ok false := by
  cases result <;> simp [Except.map]

theorem ensure_ne_false (through : DomainKey) (key : UnitKey) (target : Level) :
    Task.ensure world through key target ≠ .answer (.ok false) := by
  unfold Task.ensure
  split
  · simp
  · split
    · simp
    · intro same
      injection same with same
      exact map_true_ne_false _ same

/-- A step does not answer that nothing was done. -/
theorem task_stepped_ne_false (stepped : world.Stepped me thread next after) :
    after.task ≠ .answer (.ok false) := by
  cases stepped with
  | required =>
      intro same
      injection same with same
      exact map_true_ne_false _ same
  | initializes runs => rcases runs with ⟨-, rfl⟩ | ⟨-, rfl⟩ <;> simp
  | reported goes => rcases goes with ⟨-, rfl⟩ | ⟨-, rfl⟩ <;> simp
  | activates => exact ensure_ne_false _ _ _
  | _ => simp

theorem candid_act (act : world.Act repertoire me thread deeds next after)
    (candid : thread.Candid) : after.Candid := by
  cases act with
  | step step =>
      intro nothing
      exact absurd nothing (task_stepped_ne_false (stepped_of_step step))
  | operate => exact candid
  | call operation turn =>
      intro nothing
      rcases turn_cases turn with
        ⟨callback, stack, rfl⟩ | ⟨reply, rfl⟩ | ⟨reply, callback, stack, rfl⟩ <;>
      · simp only [Thread.call] at nothing ⊢
        simp [Thread.turn, nothing]
  | resume answered => simp [Thread.Candid]
  | finish result called =>
      intro nothing
      injection nothing with same
      exact absurd same (map_true_ne_false result)

end World

namespace Crew

theorem candid_run {repertoire : Repertoire} {setups : List Setup}
    {members : Nat} {crew : Crew} {deeds : List Deed}
    (run : Run repertoire (idle setups members) deeds crew) (me : ThreadId) :
    (crew.thread me).Candid := by
  induction run with
  | start =>
      rw [thread_idle]
      simp [Thread.Candid]
  | snoc run move ih =>
      cases move with
      | collect => exact ih
      | @act you world thread deeds member act =>
          rw [thread_acted member]
          split
          · rename_i same
            subst same
            exact World.candid_act act ih
          · exact ih

end Crew

end LoadLadder
