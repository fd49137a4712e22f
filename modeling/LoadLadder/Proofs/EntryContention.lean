import LoadLadder.Proofs.EntryWalk
import Mathlib.Order.WellFoundedSet

/-!
# Contention for load entries

Any number of threads ask for the load entries of one domain, sleep until an
entry may be free, and give entries back, each at one instant and in any
order.  A woken thread asks again, so another thread may take the entry before
it does, and its own record of waiting stays in the table meanwhile.

The waits-for relation of every state that threads can reach is acyclic: a
thread begins to wait only where the walk from the wanted unit does not come
back to it, and a thread that takes an entry is running and waits for nobody.
Following a blocked thread therefore ends at a thread that can go on, or at an
entry that is free.
-/

namespace LoadLadder

open Relation

section Relations

variable {α : Type*} {before after : α → α → Prop}

theorem acyclic_of_fewer_edges
    (edges : ∀ first second, after first second → before first second)
    (acyclic : ∀ node, ¬ TransGen before node node) (node : α) :
    ¬ TransGen after node node := by
  intro cycle
  exact acyclic node (TransGen.mono edges node node cycle)

/-- An added edge closes a cycle only if its target led back to its source. -/
theorem acyclic_of_added_edge (source target : α)
    (edges : ∀ first second, after first second →
      before first second ∨ first = source ∧ second = target)
    (apart : ¬ ReflTransGen before target source)
    (acyclic : ∀ node, ¬ TransGen before node node) (node : α) :
    ¬ TransGen after node node := by
  have split : ∀ {first second}, TransGen after first second →
      TransGen before first second ∨
        ReflTransGen before first source ∧
          ReflTransGen before target second := by
    intro first second chain
    induction chain with
    | single edge =>
        rcases edges _ _ edge with old | ⟨rfl, rfl⟩
        · exact Or.inl (TransGen.single old)
        · exact Or.inr ⟨ReflTransGen.refl, ReflTransGen.refl⟩
    | tail _ edge ih =>
        rcases edges _ _ edge with old | ⟨rfl, rfl⟩
        · rcases ih with chain | ⟨leads, follows⟩
          · exact Or.inl (chain.tail old)
          · exact Or.inr ⟨leads, follows.tail old⟩
        · rcases ih with chain | ⟨leads, follows⟩
          · exact Or.inr ⟨chain.to_reflTransGen, ReflTransGen.refl⟩
          · exact absurd follows apart
  intro cycle
  rcases split cycle with old | ⟨leads, follows⟩
  · exact acyclic node old
  · exact apart (follows.trans leads)

/-- Edges into a node without outgoing edges close no cycle. -/
theorem acyclic_of_added_sink (sink : α)
    (edges : ∀ first second, after first second →
      before first second ∨ second = sink)
    (final : ∀ second, ¬ after sink second)
    (acyclic : ∀ node, ¬ TransGen before node node) (node : α) :
    ¬ TransGen after node node := by
  have split : ∀ {first second}, TransGen after first second →
      TransGen before first second ∨ second = sink := by
    intro first second chain
    induction chain with
    | single edge => exact (edges _ _ edge).imp_left TransGen.single
    | tail _ edge ih =>
        rcases edges _ _ edge with old | atSink
        · rcases ih with chain | rfl
          · exact Or.inl (chain.tail old)
          · exact absurd edge (final _)
        · exact Or.inr atSink
  intro cycle
  rcases split cycle with old | rfl
  · exact acyclic node old
  · obtain ⟨second, edge, -⟩ := TransGen.head'_iff.mp cycle
    exact final second edge

end Relations

namespace Entries

/-- A thread that is awake waits for nothing. -/
def stopWaiting (entries : Entries) (thread : ThreadId) : Entries :=
  { entries with waiting := entries.waiting.filter fun wait => wait.1 != thread }

theorem waitsFor?_stopWaiting (entries : Entries) (thread other : ThreadId) :
    (entries.stopWaiting thread).waitsFor? other =
      if thread = other then none else entries.waitsFor? other := by
  obtain ⟨owners, waiting⟩ := entries
  simp only [waitsFor?, stopWaiting]
  induction waiting with
  | nil => simp
  | cons wait waiting ih =>
      obtain ⟨waiter, unit⟩ := wait
      by_cases gone : waiter = thread
      · by_cases same : thread = other
        · simpa [gone, same] using ih
        · have missed : (other == thread) = false := by
            simpa using Ne.symm same
          simpa [gone, same, List.lookup_cons, missed] using ih
      · by_cases found : other = waiter
        · simp [gone, found, Ne.symm gone]
        · have missed : (other == waiter) = false := by simpa using found
          simpa [gone, List.lookup_cons, missed] using ih

theorem owner?_cons (entries : Entries) (unit other : UnitId)
    (thread : ThreadId) :
    ({ entries with owners := (unit, thread) :: entries.owners } :
        Entries).owner? other =
      if other = unit then some thread else entries.owner? other := by
  by_cases same : other = unit
  · simp [owner?, same]
  · have missed : (other == unit) = false := by simpa using same
    simp [owner?, List.lookup_cons, missed, same]

theorem waitsFor?_cons (entries : Entries) (thread other : ThreadId)
    (unit : UnitId) :
    ({ entries with waiting := (thread, unit) :: entries.waiting } :
        Entries).waitsFor? other =
      if other = thread then some unit else entries.waitsFor? other := by
  by_cases same : other = thread
  · simp [waitsFor?, same]
  · have missed : (other == thread) = false := by simpa using same
    simp [waitsFor?, List.lookup_cons, missed, same]

/-- What a request can do to the table, and the answer that goes with it. -/
theorem request_cases (entries : Entries) (thread : ThreadId)
    (unit : UnitId) :
    (entries.owner? unit = none ∧
      entries.request thread unit =
        ({ entries with owners := (unit, thread) :: entries.owners },
          .acquired)) ∨
    (entries.owner? unit = some thread ∧
      entries.request thread unit = (entries, .reentrant)) ∨
    (entries.wouldDeadlock thread unit = true ∧
      entries.request thread unit = (entries, .wouldDeadlock)) ∨
    ((entries.owner? unit).isSome ∧
      entries.wouldDeadlock thread unit = false ∧
      entries.request thread unit =
        ({ entries with waiting := (thread, unit) :: entries.waiting },
          .blocked)) := by
  cases owned : entries.owner? unit with
  | none => exact Or.inl ⟨rfl, request_of_free owned thread⟩
  | some owner =>
      by_cases own : owner = thread
      · subst own
        exact Or.inr (Or.inl ⟨rfl, request_of_owned owned⟩)
      · cases closes : entries.wouldDeadlock thread unit with
        | true => simp [request, owned, own, closes]
        | false => simp [request, owned, own, closes]

theorem waitsFor?_mem_keys {entries : Entries} {thread : ThreadId}
    {unit : UnitId} (waits : entries.waitsFor? thread = some unit) :
    thread ∈ entries.waiting.map Prod.fst := by
  rw [waitsFor?, List.lookup_eq_some_iff] at waits
  obtain ⟨before, after, waiting, -⟩ := waits
  simp [waiting]

end Entries

/-- Threads that contend for the load entries of one domain. -/
structure Contention where
  entries : Entries := {}
  /-- The unit whose entry a blocked thread sleeps for; a running thread
  sleeps for none. -/
  asleep : ThreadId → Option UnitId := fun _ => none
  /-- The units whose guards a thread holds, the latest first. -/
  guards : ThreadId → List UnitId := fun _ => []

namespace Contention

/-- A thread receives the answer to its request for a unit's entry. -/
def receive (state : Contention) (thread : ThreadId) (unit : UnitId) :
    Entries × Verdict → Contention
  | (entries, .acquired) =>
      { entries
        asleep := Function.update state.asleep thread none
        guards := Function.update state.guards thread
          (unit :: state.guards thread) }
  | (entries, .blocked) =>
      { state with
        entries
        asleep := Function.update state.asleep thread (some unit) }
  | (entries, .reentrant) =>
      { state with entries, asleep := Function.update state.asleep thread none }
  | (entries, .wouldDeadlock) =>
      { state with entries, asleep := Function.update state.asleep thread none }

/-- A thread asks for a unit's entry. -/
def ask (state : Contention) (thread : ThreadId) (unit : UnitId) :
    Contention :=
  state.receive thread unit (state.entries.request thread unit)

/-- A thread that slept for a unit's entry asks for it again. -/
def retry (state : Contention) (thread : ThreadId) (unit : UnitId) :
    Contention :=
  state.receive thread unit (state.entries.wake thread unit)

/-- A thread gives a guard back. -/
def surrender (state : Contention) (thread : ThreadId) (unit : UnitId) :
    Contention :=
  { state with
    entries := state.entries.release unit
    guards := Function.update state.guards thread
      ((state.guards thread).erase unit) }

/-- What one thread does at one instant. -/
inductive Step : Contention → Contention → Prop
  /-- A running thread asks for a unit's entry. -/
  | ask {state : Contention} {thread : ThreadId} (unit : UnitId)
      (running : state.asleep thread = none) :
      Step state (state.ask thread unit)
  /-- A blocked thread is woken, with or without a reason, and asks again. -/
  | retry {state : Contention} {thread : ThreadId} {unit : UnitId}
      (blocked : state.asleep thread = some unit) :
      Step state (state.retry thread unit)
  /-- A running thread gives back a guard that it holds. -/
  | surrender {state : Contention} {thread : ThreadId} {unit : UnitId}
      (running : state.asleep thread = none)
      (held : unit ∈ state.guards thread) :
      Step state (state.surrender thread unit)

/-- The table says who sleeps for what and who holds which guard, no entry has
two owners, and no thread waits for itself through others. -/
structure Sound (state : Contention) : Prop where
  waits : ∀ thread, state.entries.waitsFor? thread = state.asleep thread
  owns : ∀ unit thread,
    state.entries.owner? unit = some thread ↔ unit ∈ state.guards thread
  guards_nodup : ∀ thread, (state.guards thread).Nodup
  owners_nodup : (state.entries.owners.map Prod.fst).Nodup
  acyclic : ∀ thread, ¬ TransGen state.entries.WaitsFor thread thread

theorem sound_initial : Sound {} where
  waits := fun _ => rfl
  owns := by simp [Entries.owner?]
  guards_nodup := by simp
  owners_nodup := by simp
  acyclic := by
    intro thread cycle
    obtain ⟨second, ⟨unit, waits, -⟩, -⟩ := TransGen.head'_iff.mp cycle
    simp [Entries.waitsFor?] at waits

variable {state : Contention} {thread : ThreadId} {unit : UnitId}

/-- A woken thread is running before it asks again. -/
def rouse (state : Contention) (thread : ThreadId) : Contention :=
  { state with
    entries := state.entries.stopWaiting thread
    asleep := Function.update state.asleep thread none }

theorem retry_eq_ask_rouse (state : Contention) (thread : ThreadId)
    (unit : UnitId) :
    state.retry thread unit = (state.rouse thread).ask thread unit := by
  rw [retry, ask]
  have again : (state.rouse thread).entries.request thread unit =
      state.entries.wake thread unit := rfl
  rw [again]
  obtain ⟨entries, verdict⟩ := state.entries.wake thread unit
  cases verdict <;> simp [receive, rouse]

theorem sound_rouse (sound : state.Sound) (thread : ThreadId) :
    (state.rouse thread).Sound where
  waits := by
    intro other
    rw [rouse, Entries.waitsFor?_stopWaiting, sound.waits]
    by_cases same : thread = other
    · simp [same]
    · simp [same, Function.update_of_ne (Ne.symm same)]
  owns := sound.owns
  guards_nodup := sound.guards_nodup
  owners_nodup := sound.owners_nodup
  acyclic := by
    refine acyclic_of_fewer_edges ?_ sound.acyclic
    rintro first second ⟨unit, waits, owned⟩
    rw [rouse, Entries.waitsFor?_stopWaiting] at waits
    split at waits
    · contradiction
    · exact ⟨unit, waits, owned⟩

theorem sound_acquired (sound : state.Sound)
    (running : state.asleep thread = none)
    (free : state.entries.owner? unit = none) :
    (state.receive thread unit
      ({ state.entries with owners := (unit, thread) :: state.entries.owners },
        .acquired)).Sound where
  waits := by
    intro other
    refine (sound.waits other).trans ?_
    by_cases same : other = thread
    · simp [receive, same, running]
    · simp [receive, Function.update_of_ne same]
  owns := by
    intro other holder
    rw [receive, Entries.owner?_cons]
    by_cases same : other = unit
    · subst same
      have unheld : other ∉ state.guards holder := by
        rw [← sound.owns, free]
        simp
      by_cases own : holder = thread
      · simp [own]
      · simp [Function.update_of_ne own, unheld, Ne.symm own]
    · rw [if_neg same, sound.owns]
      by_cases own : holder = thread
      · simp [own, same]
      · simp [Function.update_of_ne own]
  guards_nodup := by
    intro holder
    by_cases own : holder = thread
    · subst own
      have unheld : unit ∉ state.guards holder := by
        rw [← sound.owns, free]
        simp
      simp [receive, unheld, sound.guards_nodup holder]
    · simpa [receive, Function.update_of_ne own] using
        sound.guards_nodup holder
  owners_nodup := by
    simp only [receive, List.map_cons, List.nodup_cons]
    refine ⟨?_, sound.owners_nodup⟩
    intro member
    obtain ⟨⟨key, holder⟩, owned, rfl⟩ := List.mem_map.mp member
    simp [Entries.owner?, List.lookup_eq_none_iff] at free
    exact free key holder owned rfl
  acyclic := by
    have awake : state.entries.waitsFor? thread = none := by
      rw [sound.waits, running]
    refine acyclic_of_added_sink thread ?_ ?_ sound.acyclic
    · rintro first second ⟨awaited, waits, owned⟩
      rw [receive, Entries.owner?_cons] at owned
      by_cases same : awaited = unit
      · simp only [same, if_true, Option.some.injEq] at owned
        exact Or.inr owned.symm
      · rw [if_neg same] at owned
        exact Or.inl ⟨awaited, waits, owned⟩
    · rintro second ⟨awaited, waits, -⟩
      have waitsBefore : state.entries.waitsFor? thread = some awaited := waits
      rw [awake] at waitsBefore
      contradiction

theorem sound_blocked (sound : state.Sound)
    (running : state.asleep thread = none)
    (apart : state.entries.wouldDeadlock thread unit = false) :
    (state.receive thread unit
      ({ state.entries with
          waiting := (thread, unit) :: state.entries.waiting },
        .blocked)).Sound where
  waits := by
    intro other
    rw [receive, Entries.waitsFor?_cons]
    by_cases same : other = thread
    · simp [same]
    · simp [same, sound.waits]
  owns := sound.owns
  guards_nodup := sound.guards_nodup
  owners_nodup := sound.owners_nodup
  acyclic := by
    have awake : state.entries.waitsFor? thread = none := by
      rw [sound.waits, running]
    cases owned : state.entries.owner? unit with
    | none =>
        refine acyclic_of_fewer_edges ?_ sound.acyclic
        rintro first second ⟨awaited, waits, ownedBy⟩
        rw [receive, Entries.waitsFor?_cons] at waits
        by_cases same : first = thread
        · simp only [same, if_true, Option.some.injEq] at waits
          subst waits
          have unowned : state.entries.owner? unit = some second := ownedBy
          rw [owned] at unowned
          contradiction
        · rw [if_neg same] at waits
          exact ⟨awaited, waits, ownedBy⟩
    | some owner =>
        refine acyclic_of_added_edge thread owner ?_ ?_ sound.acyclic
        · rintro first second ⟨awaited, waits, ownedBy⟩
          rw [receive, Entries.waitsFor?_cons] at waits
          by_cases same : first = thread
          · simp only [same, if_true, Option.some.injEq] at waits
            subst waits
            have ownedSecond : state.entries.owner? unit = some second :=
              ownedBy
            rw [owned, Option.some.injEq] at ownedSecond
            exact Or.inr ⟨same, ownedSecond.symm⟩
          · rw [if_neg same] at waits
            exact Or.inl ⟨awaited, waits, ownedBy⟩
        · intro chain
          have closes : state.entries.wouldDeadlock thread unit = true :=
            Entries.wouldDeadlock_iff_meets.mpr
              (Entries.exists_meets_of_reflTransGen owned chain)
          rw [apart] at closes
          contradiction

theorem sound_refused (sound : state.Sound)
    (running : state.asleep thread = none) :
    Sound { state with asleep := Function.update state.asleep thread none } := by
  have same : Function.update state.asleep thread none = state.asleep := by
    rw [← running, Function.update_eq_self]
  rw [same]
  exact sound

theorem sound_ask (sound : state.Sound)
    (running : state.asleep thread = none) (unit : UnitId) :
    (state.ask thread unit).Sound := by
  rw [ask]
  rcases state.entries.request_cases thread unit with
    ⟨free, request⟩ | ⟨-, request⟩ | ⟨-, request⟩ | ⟨-, apart, request⟩
  · rw [request]
    exact sound_acquired sound running free
  · rw [request]
    exact sound_refused sound running
  · rw [request]
    exact sound_refused sound running
  · rw [request]
    exact sound_blocked sound running apart

theorem sound_surrender (sound : state.Sound)
    (held : unit ∈ state.guards thread) :
    (state.surrender thread unit).Sound where
  waits := sound.waits
  owns := by
    have owned := (sound.owns unit thread).mpr held
    intro other holder
    rw [surrender, Entries.owner?_release]
    by_cases same : unit = other
    · subst same
      by_cases own : holder = thread
      · simp [own, (sound.guards_nodup thread).mem_erase_iff]
      · have unheld : unit ∉ state.guards holder := by
          rw [← sound.owns, owned, Option.some.injEq]
          exact Ne.symm own
        simp [Function.update_of_ne own, unheld]
    · rw [if_neg same, sound.owns]
      by_cases own : holder = thread
      · simp [own, List.mem_erase_of_ne (Ne.symm same)]
      · simp [Function.update_of_ne own]
  guards_nodup := by
    intro holder
    by_cases own : holder = thread
    · simpa [surrender, own] using (sound.guards_nodup thread).erase unit
    · simpa [surrender, Function.update_of_ne own] using
        sound.guards_nodup holder
  owners_nodup :=
    sound.owners_nodup.sublist (List.filter_sublist.map Prod.fst)
  acyclic := by
    refine acyclic_of_fewer_edges ?_ sound.acyclic
    rintro first second ⟨awaited, waits, owned⟩
    rw [surrender, Entries.owner?_release] at owned
    split at owned
    · contradiction
    · exact ⟨awaited, waits, owned⟩

/-- Whatever a thread does, the table stays sound. -/
theorem sound_step {next : Contention} (step : Step state next)
    (sound : state.Sound) : next.Sound := by
  cases step with
  | ask unit running => exact sound_ask sound running unit
  | retry blocked =>
      rw [retry_eq_ask_rouse]
      exact sound_ask (sound_rouse sound _) (by simp [rouse]) _
  | surrender running held => exact sound_surrender sound held

theorem sound_of_reached (reached : ReflTransGen Step {} state) :
    state.Sound := by
  induction reached with
  | refl => exact sound_initial
  | tail _ step ih => exact sound_step step ih

/-- Following the waits-for relation from a thread ends, at a thread that is
running or at one that sleeps for an entry which is free. -/
def ChainEnds (state : Contention) (thread : ThreadId) : Prop :=
  ∃ last, ReflTransGen state.entries.WaitsFor thread last ∧
    (state.asleep last = none ∨
      ∃ unit, state.asleep last = some unit ∧
        state.entries.owner? unit = none)

theorem chainEnds_of_blocked (sound : state.Sound)
    (blocked : state.asleep thread ≠ none) : state.ChainEnds thread := by
  let sleepers := {sleeper | state.asleep sleeper ≠ none}
  have finite : sleepers.Finite := by
    refine (state.entries.waiting.map Prod.fst).finite_toSet.subset ?_
    intro sleeper asleep
    obtain ⟨unit, sleeps⟩ := Option.ne_none_iff_exists'.mp asleep
    rw [← sound.waits] at sleeps
    exact Entries.waitsFor?_mem_keys sleeps
  let follows := fun first second : ThreadId =>
    TransGen state.entries.WaitsFor second first
  have : IsStrictOrder ThreadId follows :=
    { irrefl := sound.acyclic
      trans := fun _ _ _ later earlier => earlier.trans later }
  -- Sleepers are finitely many, so the induction is along the acyclic chain.
  have wellFounded : sleepers.WellFoundedOn follows := finite.wellFoundedOn
  refine wellFounded.induction (P := state.ChainEnds) blocked ?_
  intro sleeper asleep ih
  obtain ⟨unit, sleeps⟩ := Option.ne_none_iff_exists'.mp asleep
  cases owned : state.entries.owner? unit with
  | none => exact ⟨sleeper, ReflTransGen.refl, Or.inr ⟨unit, sleeps, owned⟩⟩
  | some owner =>
      have edge : state.entries.WaitsFor sleeper owner :=
        ⟨unit, by rw [sound.waits, sleeps], owned⟩
      by_cases running : state.asleep owner = none
      · exact ⟨owner, ReflTransGen.single edge, Or.inl running⟩
      · obtain ⟨last, chain, ends⟩ := ih owner running (TransGen.single edge)
        exact ⟨last, chain.head edge, ends⟩

/-- The verdicts that do not blame the asking thread. -/
def Unblamed (verdict : Verdict) : Prop :=
  verdict = .acquired ∨ verdict = .blocked

/-- A thread that owns nothing is never in its own way. -/
theorem unblamed_of_no_guards (sound : state.Sound)
    (free : state.guards thread = []) (unit : UnitId) :
    Unblamed (state.entries.request thread unit).2 := by
  have unowned : ∀ other, state.entries.owner? other ≠ some thread := by
    intro other owned
    rw [sound.owns, free] at owned
    exact List.not_mem_nil owned
  rcases state.entries.request_cases thread unit with
    ⟨-, request⟩ | ⟨owned, -⟩ | ⟨closes, -⟩ | ⟨-, -, request⟩
  · exact Or.inl (by rw [request])
  · exact absurd owned (unowned unit)
  · obtain ⟨hops, met, -, owned⟩ := Entries.wouldDeadlock_iff_meets.mp closes
    exact absurd owned (unowned met)
  · exact Or.inr (by rw [request])

/-- Threads that contend for entries never deadlock.  Whatever the order of
their steps, the table names at most one owner of each unit, which is the one
thread with the unit's guard; the waits-for relation is acyclic; from every
blocked thread it leads to a thread that is running or to an entry that is
free; and a thread without guards, asking or asking again, is never told that
it is in its own way. -/
theorem deadlock_free (reached : ReflTransGen Step {} state) :
    ((state.entries.owners.map Prod.fst).Nodup ∧
      ∀ unit first second, unit ∈ state.guards first →
        unit ∈ state.guards second → first = second) ∧
    (∀ unit thread, state.entries.owner? unit = some thread ↔
      unit ∈ state.guards thread) ∧
    (∀ thread, ¬ TransGen state.entries.WaitsFor thread thread) ∧
    (∀ thread, state.asleep thread ≠ none → state.ChainEnds thread) ∧
    (∀ thread, state.guards thread = [] → ∀ unit,
      Unblamed (state.entries.request thread unit).2 ∧
        Unblamed (state.entries.wake thread unit).2) := by
  have sound := sound_of_reached reached
  refine ⟨⟨sound.owners_nodup, ?_⟩, sound.owns, sound.acyclic,
    fun thread blocked => chainEnds_of_blocked sound blocked, ?_⟩
  · intro unit first second heldFirst heldSecond
    rw [← sound.owns] at heldFirst heldSecond
    exact Option.some.inj (heldFirst.symm.trans heldSecond)
  · intro thread free unit
    exact ⟨unblamed_of_no_guards sound free unit,
      unblamed_of_no_guards (sound_rouse sound thread) free unit⟩

/-- Two threads own a unit each and want the other's; the second is told that
it may not wait and gives its unit back, and a third thread takes that unit
before the first is woken. -/
def overtaken : Contention :=
  let crossed := ((({} : Contention).ask 0 ⟨1⟩).ask 1 ⟨2⟩).ask 0 ⟨2⟩
  (((crossed.ask 2 ⟨2⟩).ask 1 ⟨1⟩).surrender 1 ⟨2⟩).retry 2 ⟨2⟩

theorem overtaken_reached : ReflTransGen Step {} overtaken := by
  refine ReflTransGen.refl.tail (.ask ⟨1⟩ ?_) |>.tail (.ask ⟨2⟩ ?_)
    |>.tail (.ask ⟨2⟩ ?_) |>.tail (.ask ⟨2⟩ ?_) |>.tail (.ask ⟨1⟩ ?_)
    |>.tail (.surrender ?_ ?_) |>.tail (.retry ?_)
  all_goals decide

/-- The first thread still waits, now for the third. -/
theorem deadlock_free_overtaken :
    ReflTransGen Step {} overtaken ∧
      overtaken.asleep 0 = some ⟨2⟩ ∧ overtaken.guards 2 = [⟨2⟩] ∧
      (∀ thread, ¬ TransGen overtaken.entries.WaitsFor thread thread) ∧
      overtaken.ChainEnds 0 ∧
      Unblamed (overtaken.entries.wake 1 ⟨2⟩).2 := by
  obtain ⟨-, -, acyclic, ends, unblamed⟩ := deadlock_free overtaken_reached
  exact ⟨overtaken_reached, by decide, by decide, acyclic,
    ends 0 (by decide), (unblamed 1 (by decide) ⟨2⟩).2⟩

end Contention

end LoadLadder
