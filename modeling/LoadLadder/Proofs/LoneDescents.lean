import LoadLadder.Proofs.RestingWorlds

/-!
# Descents without company

Nobody but the thread of a machine owns an entry.  When the thread is refused one, it
has come back to a unit that waits on its own stack.  What every step of the thread
keeps holds when the machine has ensured a level of a unit.
-/

namespace LoadLadder

namespace World

/-- Whoever asks in vain for an entry has come back to a unit on its own stack. -/
def Revisits (world : World) (me : ThreadId) (thread : Thread) : Prop :=
  ∀ key target phase stack entries verdict,
    thread = ⟨.drive key target phase, stack⟩ →
    phase.asked (world.homeOf key).entries me (world.unit key).id =
      some (entries, verdict) →
    verdict ≠ .acquired → key ∈ stack.flatMap Waiting.holds

/-- What is known about the thread of a machine that loads a unit. -/
structure Excursion (world : World) (sinks : Sinks) (root : UnitKey)
    (goal : Level) (thread : Thread) : Prop where
  planned : world.Planned sinks
  grounded : ∀ key, world.Grounded key
  supports : world.Supports thread
  chains : world.Chains thread
  steady : ∀ key, world.Steady thread key
  once : ∀ key, thread.holds.count key ≤ 1
  revisits : world.Revisits mainThread thread
  delving : world.Delving (some root) goal thread

end World

namespace Entries

variable {entries after : Entries} {me : ThreadId} {unit : UnitId}
  {phase : Phase} {verdict : Verdict}

/-- An entry is refused only if somebody owns it. -/
theorem exists_owner_of_denied
    (asked : phase.asked entries me unit = some (after, verdict))
    (denied : verdict ≠ .acquired) : ∃ owner, entries.owner? unit = some owner := by
  refine Option.ne_none_iff_exists'.mp fun free => denied ?_
  cases phase with
  | acquire =>
      rw [Phase.asked, request_of_free free] at asked
      cases asked
      rfl
  | blocked =>
      have free : (entries.stopWaiting me).owner? unit = none := free
      have asked : some ((entries.stopWaiting me).request me unit) =
        some (after, verdict) := asked
      rw [request_of_free free] at asked
      cases asked
      rfl
  | _ => contradiction

end Entries

namespace Crew

variable {crew : Crew} {root : UnitKey} {goal : Level} {sinks : Sinks}
  {aims : ThreadId → Option UnitKey}

theorem thread_beside (lone : crew.threads.length = 1) {me : ThreadId}
    (other : me ≠ mainThread) : crew.thread me = {} := by
  have outside : crew.threads.length ≤ me := by
    rw [lone]
    exact Nat.pos_of_ne_zero other
  simp [thread, outside]

/-- The only thread of a crew is refused only what it holds itself. -/
theorem revisits_of_lone (orderly : crew.Orderly sinks goal aims)
    (lone : crew.threads.length = 1) :
    crew.world.Revisits mainThread (crew.thread mainThread) := by
  intro key target phase stack entries verdict current asked denied
  have known : key < crew.world.unitCount := by
    have supports := orderly.supports mainThread
    rw [current] at supports
    exact supports.1
  rw [orderly.planned.watched.homeOf known] at asked
  obtain ⟨owner, owned⟩ := Entries.exists_owner_of_denied asked denied
  have holds := orderly.holds_of_owner known owned
  by_cases mine : owner = mainThread
  · rw [mine, current] at holds
    have outside : Task.holds (.drive key target phase) = [] := by
      cases phase with
      | acquire | blocked => rfl
      | _ => contradiction
    simpa [Thread.holds, outside] using holds
  · rw [thread_beside lone mine] at holds
    simp [Thread.holds, Task.holds] at holds

theorem excursion_of_lone (orderly : crew.Orderly sinks goal aims)
    (lone : crew.threads.length = 1) (aimed : aims mainThread = some root) :
    crew.world.Excursion sinks root goal (crew.thread mainThread) where
  planned := orderly.planned
  grounded := orderly.grounded
  supports := orderly.supports mainThread
  chains := orderly.chains mainThread
  steady := orderly.steady mainThread
  once := orderly.count_le mainThread
  revisits := revisits_of_lone orderly lone
  delving := aimed ▸ orderly.delving mainThread

end Crew

namespace Machine

variable {world : World} {key : UnitKey} {goal : Level} {sinks : Sinks}

/-- What every step on the way keeps holds when a level of a unit has been ensured, with
the reply that the client gets. -/
theorem ensure_induction_reply (holds : World → Thread → Prop)
    (step : ∀ {world next : World} {thread after : Thread},
      world.Excursion sinks key goal thread →
        world.Stepped mainThread thread next after →
          holds world thread → holds next after)
    (rested : world.Rested sinks) (known : key < world.unitCount)
    (held : (world.unit key).presence = .held)
    (start : holds world ⟨.ensure world 0 key goal, []⟩) :
    ∃ reply : Reply, (ensure world 0 key goal).2 = reply.map (fun _ => ()) ∧
      holds (ensure world 0 key goal).1 ⟨.answer reply, []⟩ := by
  let machine : Machine := ⟨world, ⟨.ensure world 0 key goal, []⟩⟩
  obtain ⟨aims, starts, aimed⟩ := @starts_of_setsOut machine goal (some key)
    (.sent known held rfl)
  let kept (crew : Crew) : Prop :=
    crew.threads.length = 1 ∧ holds crew.world (crew.thread mainThread)
  have acted (crew : Crew) (tended : crew.Tended sinks goal aims)
      (before : kept crew) (me : ThreadId) : kept (crew.act me) := by
    obtain ⟨lone, before⟩ := before
    rcases Crew.act_cases crew me with
      ⟨idle, -⟩ | ⟨next, after, member, stepped, acted⟩
    · rw [idle]
      exact ⟨lone, before⟩
    · have main : me = mainThread := Nat.lt_one_iff.mp (lone ▸ member)
      subst main
      rw [acted]
      refine ⟨by simpa [Crew.setThread] using lone, ?_⟩
      rw [Crew.thread_acted member, if_pos rfl]
      exact step (Crew.excursion_of_lone tended.orderly lone aimed) stepped before
  have ended := Crew.follow_induction kept acted
    (Crew.tended_of_starts rested starts) ⟨rfl, start⟩
    (List.replicate machine.world.budget mainThread)
  rw [← machine.crew_run] at ended
  obtain ⟨reply, rests⟩ :=
    Crew.answered_of_isDone (isDone_run rested starts) mainThread
  have answered : machine.run.thread = ⟨.answer reply, []⟩ := rests
  refine ⟨reply, ?_, rests ▸ ended.2⟩
  rw [ensure, answered]
  rfl

/-- What every step on the way keeps holds when a level of a unit has been ensured. -/
theorem ensure_induction (holds : World → Thread → Prop)
    (step : ∀ {world next : World} {thread after : Thread},
      world.Excursion sinks key goal thread →
        world.Stepped mainThread thread next after →
          holds world thread → holds next after)
    (rested : world.Rested sinks) (known : key < world.unitCount)
    (held : (world.unit key).presence = .held)
    (start : holds world ⟨.ensure world 0 key goal, []⟩) :
    ∃ reply, holds (ensure world 0 key goal).1 ⟨.answer reply, []⟩ := by
  obtain ⟨reply, -, ended⟩ :=
    ensure_induction_reply holds step rested known held start
  exact ⟨reply, ended⟩

end Machine

end LoadLadder
