import LoadLadder.Entries
import Mathlib.Data.List.Dedup
import Mathlib.Data.List.Nodup
import Mathlib.Data.List.Perm.Subperm
import Mathlib.Data.Nat.Find
import Mathlib.Logic.Relation

/-!
# Walks through load entries

From a unit one comes to its owner, and from the owner to the unit that the
owner waits for.  The search for a closed waits-for cycle follows this walk
for one hop more than there are owned entries.  This file shows that the
bound cuts no walk short of its answer, whatever the table: before the walk
meets a unit of the asking thread for the first time it passes no unit twice,
and every unit that it passes is owned.  A walk that runs into a circle of
other threads comes to its bound without having met the thread, and never
would have.
-/

namespace LoadLadder

namespace Entries

open Relation

variable {entries : Entries} {thread : ThreadId}

/-- The owner of a unit waits for the next one. -/
def LeadsOn (entries : Entries) (unit next : UnitId) : Prop :=
  ∃ owner, entries.owner? unit = some owner ∧
    entries.waitsFor? owner = some next

/-- The units that have an owner, each of them once. -/
def ownedUnits (entries : Entries) : List UnitId :=
  (entries.owners.map Prod.fst).dedup

/-- The unit that the owner of a unit waits for. -/
def hop? (entries : Entries) (unit : UnitId) : Option UnitId :=
  (entries.owner? unit).bind entries.waitsFor?

/-- The unit that a number of hops leads to. -/
def walk? (entries : Entries) (unit : UnitId) : (hops : Nat) → Option UnitId
  | 0 => some unit
  | hops + 1 => (entries.hop? unit).bind fun next => walk? entries next hops

@[simp]
theorem walk?_zero (entries : Entries) (unit : UnitId) :
    entries.walk? unit 0 = some unit :=
  rfl

theorem walk?_succ (entries : Entries) (unit : UnitId) (hops : Nat) :
    entries.walk? unit (hops + 1) =
      (entries.hop? unit).bind fun next => entries.walk? next hops :=
  rfl

theorem walk?_add (entries : Entries) (unit : UnitId) (first second : Nat) :
    entries.walk? unit (first + second) =
      (entries.walk? unit first).bind fun middle =>
        entries.walk? middle second := by
  induction first generalizing unit with
  | zero => simp
  | succ first ih =>
      rw [Nat.succ_add, walk?_succ, walk?_succ]
      cases entries.hop? unit with
      | none => rfl
      | some next => simpa using ih next

/-- A unit of `thread` is met after some number of hops from `unit`. -/
def Meets (entries : Entries) (thread : ThreadId) (unit : UnitId)
    (hops : Nat) : Prop :=
  ∃ met, entries.walk? unit hops = some met ∧
    entries.owner? met = some thread

theorem meets_zero {unit : UnitId} :
    entries.Meets thread unit 0 ↔ entries.owner? unit = some thread := by
  simp [Meets]

theorem meets_succ {unit : UnitId} {hops : Nat} :
    entries.Meets thread unit (hops + 1) ↔
      ∃ next, entries.hop? unit = some next ∧
        entries.Meets thread next hops := by
  simp only [Meets, walk?_succ, Option.bind_eq_some_iff]
  constructor
  · rintro ⟨met, ⟨next, hop, walk⟩, owned⟩
    exact ⟨next, hop, met, walk, owned⟩
  · rintro ⟨next, hop, met, walk, owned⟩
    exact ⟨met, ⟨next, hop, walk⟩, owned⟩

/-- The bounded search finds exactly what is met within its bound. -/
theorem leadsTo_eq_true_iff (bound : Nat) (unit : UnitId) :
    entries.leadsTo thread bound unit = true ↔
      ∃ hops < bound, entries.Meets thread unit hops := by
  induction bound generalizing unit with
  | zero => simp [leadsTo]
  | succ bound ih =>
      cases owned : entries.owner? unit with
      | none =>
          simp only [leadsTo, owned, Bool.false_eq_true, false_iff]
          rintro ⟨hops, -, meets⟩
          cases hops with
          | zero => simp [meets_zero, owned] at meets
          | succ hops =>
              obtain ⟨next, hop, -⟩ := meets_succ.mp meets
              simp [hop?, owned] at hop
      | some owner =>
          by_cases own : owner = thread
          · subst own
            have found : entries.leadsTo owner (bound + 1) unit = true := by
              simp [leadsTo, owned]
            exact iff_of_true found
              ⟨0, Nat.succ_pos bound, meets_zero.mpr owned⟩
          · have missed : ¬ entries.Meets thread unit 0 := by
              simp [meets_zero, owned, own]
            cases waits : entries.waitsFor? owner with
            | none =>
                simp only [leadsTo, owned, own, waits, if_false,
                  Bool.false_eq_true, false_iff]
                rintro ⟨hops, -, meets⟩
                cases hops with
                | zero => exact missed meets
                | succ hops =>
                    obtain ⟨next, hop, -⟩ := meets_succ.mp meets
                    simp [hop?, owned, waits] at hop
            | some awaited =>
                have hop : entries.hop? unit = some awaited := by
                  simp [hop?, owned, waits]
                simp only [leadsTo, owned, own, waits, if_false, ih awaited]
                constructor
                · rintro ⟨hops, within, meets⟩
                  exact ⟨hops + 1, Nat.succ_lt_succ within,
                    meets_succ.mpr ⟨awaited, hop, meets⟩⟩
                · rintro ⟨hops, within, meets⟩
                  cases hops with
                  | zero => exact absurd meets missed
                  | succ hops =>
                      obtain ⟨next, hopNext, meetsNext⟩ :=
                        meets_succ.mp meets
                      rw [hop, Option.some.injEq] at hopNext
                      subst hopNext
                      exact ⟨hops, Nat.lt_of_succ_lt_succ within, meetsNext⟩

theorem mem_ownedUnits {unit : UnitId}
    (owned : entries.owner? unit = some thread) :
    unit ∈ entries.ownedUnits := by
  rw [owner?, List.lookup_eq_some_iff] at owned
  obtain ⟨before, after, owners, -⟩ := owned
  simp [ownedUnits, owners]

theorem length_ownedUnits_le (entries : Entries) :
    entries.ownedUnits.length ≤ entries.owners.length := by
  have fewer := (List.dedup_sublist (entries.owners.map Prod.fst)).length_le
  simpa [ownedUnits] using fewer

/-- Every unit that a walk leaves, and the unit of a thread that it meets in
the end, is owned. -/
theorem walk?_mem_ownedUnits {unit met : UnitId} {hops position : Nat}
    (meets : entries.Meets thread unit hops) (within : position ≤ hops)
    (passes : entries.walk? unit position = some met) :
    met ∈ entries.ownedUnits := by
  obtain ⟨last, walk, owned⟩ := meets
  obtain ⟨rest, rfl⟩ := Nat.exists_eq_add_of_le within
  rw [walk?_add, passes, Option.bind_some] at walk
  cases rest with
  | zero =>
      rw [walk?_zero, Option.some.injEq] at walk
      subst walk
      exact mem_ownedUnits owned
  | succ rest =>
      rw [walk?_succ, Option.bind_eq_some_iff] at walk
      obtain ⟨next, hop, -⟩ := walk
      obtain ⟨owner, ownedBy, -⟩ := Option.bind_eq_some_iff.mp hop
      exact mem_ownedUnits ownedBy

/-- A walk that comes back to a unit it has passed could have gone on from
there at once. -/
theorem meets_of_repeat {unit met : UnitId} {hops first second : Nat}
    (meets : entries.Meets thread unit hops) (within : second ≤ hops)
    (passesFirst : entries.walk? unit first = some met)
    (passesSecond : entries.walk? unit second = some met) :
    entries.Meets thread unit (first + (hops - second)) := by
  obtain ⟨last, walk, owned⟩ := meets
  refine ⟨last, ?_, owned⟩
  rw [← Nat.add_sub_cancel' within, walk?_add, passesSecond] at walk
  rw [walk?_add, passesFirst]
  exact walk

theorem exists_walk?_of_meets {unit : UnitId} {hops position : Nat}
    (meets : entries.Meets thread unit hops) (within : position ≤ hops) :
    ∃ met, entries.walk? unit position = some met := by
  obtain ⟨last, walk, -⟩ := meets
  rw [← Nat.add_sub_cancel' within, walk?_add,
    Option.bind_eq_some_iff] at walk
  obtain ⟨met, passes, -⟩ := walk
  exact ⟨met, passes⟩

/-- Up to the first meeting a walk passes no unit twice. -/
theorem eq_of_walk?_eq {unit met : UnitId} {hops first second : Nat}
    (meets : entries.Meets thread unit hops)
    (minimal : ∀ fewer < hops, ¬ entries.Meets thread unit fewer)
    (firstWithin : first ≤ hops) (secondWithin : second ≤ hops)
    (passesFirst : entries.walk? unit first = some met)
    (passesSecond : entries.walk? unit second = some met) :
    first = second := by
  rcases Nat.lt_trichotomy first second with before | equal | after
  · exact absurd (meets_of_repeat meets secondWithin passesFirst passesSecond)
      (minimal _ (by omega))
  · exact equal
  · exact absurd (meets_of_repeat meets firstWithin passesSecond passesFirst)
      (minimal _ (by omega))

/-- A walk that has not met the thread before has made fewer hops than there
are owned units. -/
theorem lt_length_of_first_meets {unit : UnitId} {hops : Nat}
    (meets : entries.Meets thread unit hops)
    (minimal : ∀ fewer < hops, ¬ entries.Meets thread unit fewer) :
    hops < entries.ownedUnits.length := by
  let passed := (List.range (hops + 1)).map fun position =>
    (entries.walk? unit position).getD unit
  have passedNodup : passed.Nodup := by
    refine List.Nodup.map_on ?_ List.nodup_range
    intro first firstWithin second secondWithin same
    rw [List.mem_range, Nat.lt_succ_iff] at firstWithin secondWithin
    obtain ⟨metFirst, passesFirst⟩ := exists_walk?_of_meets meets firstWithin
    obtain ⟨metSecond, passesSecond⟩ :=
      exists_walk?_of_meets meets secondWithin
    simp only [passesFirst, passesSecond, Option.getD_some] at same
    subst same
    exact eq_of_walk?_eq meets minimal firstWithin secondWithin passesFirst
      passesSecond
  have passedOwned : passed ⊆ entries.ownedUnits := by
    intro met member
    obtain ⟨position, within, rfl⟩ := List.mem_map.mp member
    rw [List.mem_range, Nat.lt_succ_iff] at within
    obtain ⟨met, passes⟩ := exists_walk?_of_meets meets within
    rw [passes, Option.getD_some]
    exact walk?_mem_ownedUnits meets within passes
  have bounded := (passedNodup.subperm passedOwned).length_le
  simp only [passed, List.length_map, List.length_range] at bounded
  omega

/-- What a walk meets at all, it meets in fewer hops than there are owned
units. -/
theorem exists_meets_lt {unit : UnitId} {hops : Nat}
    (meets : entries.Meets thread unit hops) :
    ∃ shortest < entries.ownedUnits.length,
      entries.Meets thread unit shortest := by
  classical
  have ever : ∃ hops, entries.Meets thread unit hops := ⟨hops, meets⟩
  exact ⟨Nat.find ever,
    lt_length_of_first_meets (Nat.find_spec ever)
      (fun fewer isFewer => Nat.find_min ever isFewer),
    Nat.find_spec ever⟩

/-- With a hop for each owned unit the search has found whatever there is to
find. -/
theorem leadsTo_iff_meets {unit : UnitId} {bound : Nat}
    (enough : entries.ownedUnits.length ≤ bound) :
    entries.leadsTo thread bound unit = true ↔
      ∃ hops, entries.Meets thread unit hops := by
  rw [leadsTo_eq_true_iff]
  constructor
  · rintro ⟨hops, -, meets⟩
    exact ⟨hops, meets⟩
  · rintro ⟨hops, meets⟩
    obtain ⟨shortest, bounded, meetsShortest⟩ := exists_meets_lt meets
    exact ⟨shortest, by omega, meetsShortest⟩

/-- A thread that would wait for a unit is told so exactly when the walk from
that unit, however long, meets a unit that the thread owns. -/
theorem wouldDeadlock_iff_meets {unit : UnitId} :
    entries.wouldDeadlock thread unit = true ↔
      ∃ hops, entries.Meets thread unit hops := by
  have fewer := entries.length_ownedUnits_le
  exact leadsTo_iff_meets (by omega)

theorem hop?_eq_some_iff {unit next : UnitId} :
    entries.hop? unit = some next ↔ entries.LeadsOn unit next :=
  Option.bind_eq_some_iff

/-- Walks of any length go from a unit wherever owners and their waits lead. -/
theorem exists_walk?_iff {unit met : UnitId} :
    (∃ hops, entries.walk? unit hops = some met) ↔
      ReflTransGen entries.LeadsOn unit met := by
  constructor
  · rintro ⟨hops, walk⟩
    induction hops generalizing unit with
    | zero =>
        rw [walk?_zero, Option.some.injEq] at walk
        exact walk ▸ ReflTransGen.refl
    | succ hops ih =>
        rw [walk?_succ, Option.bind_eq_some_iff] at walk
        obtain ⟨next, hop, rest⟩ := walk
        exact (ih rest).head (hop?_eq_some_iff.mp hop)
  · intro path
    induction path using ReflTransGen.head_induction_on with
    | refl => exact ⟨0, rfl⟩
    | @head unit next edge _ ih =>
        obtain ⟨hops, walk⟩ := ih
        refine ⟨hops + 1, ?_⟩
        rw [walk?_succ, hop?_eq_some_iff.mpr edge, Option.bind_some]
        exact walk

theorem exists_meets_iff {unit : UnitId} :
    (∃ hops, entries.Meets thread unit hops) ↔
      ∃ met, ReflTransGen entries.LeadsOn unit met ∧
        entries.owner? met = some thread := by
  simp only [Meets, ← exists_walk?_iff]
  constructor
  · rintro ⟨hops, met, walk, owned⟩
    exact ⟨met, ⟨hops, walk⟩, owned⟩
  · rintro ⟨met, ⟨hops, walk⟩, owned⟩
    exact ⟨hops, met, walk, owned⟩

/-- Tables that say the same of every unit and every thread give the same
answer, however many rows say it and though the bound counts the rows. -/
theorem wouldDeadlock_congr {others : Entries} {unit : UnitId}
    (owners : others.owner? = entries.owner?)
    (waiting : others.waitsFor? = entries.waitsFor?) :
    others.wouldDeadlock thread unit = entries.wouldDeadlock thread unit := by
  have same : others.LeadsOn = entries.LeadsOn := by
    funext first second
    simp only [LeadsOn, owners, waiting]
  rw [Bool.eq_iff_iff, wouldDeadlock_iff_meets, wouldDeadlock_iff_meets,
    exists_meets_iff, exists_meets_iff, same, owners]

/-- The bounded search is exact, whatever the table says and whichever circles
it holds: it finds a closed cycle exactly where owners and the units that they
wait for lead, in any number of hops, to a unit of the thread.  No further hop
would change its answer, and one hop for each owned unit would do. -/
theorem bounded_walk_is_exact (entries : Entries) (thread : ThreadId)
    (unit : UnitId) :
    (entries.wouldDeadlock thread unit = true ↔
      ∃ met, ReflTransGen entries.LeadsOn unit met ∧
        entries.owner? met = some thread) ∧
    ∀ further, entries.leadsTo thread (entries.ownedUnits.length + further)
        unit =
      entries.wouldDeadlock thread unit := by
  constructor
  · rw [wouldDeadlock_iff_meets, exists_meets_iff]
  · intro further
    have found : entries.leadsTo thread (entries.ownedUnits.length + further)
        unit = true ↔ entries.wouldDeadlock thread unit = true := by
      rw [wouldDeadlock_iff_meets]
      exact leadsTo_iff_meets (by omega)
    exact Bool.eq_iff_iff.mpr found

/-- Two threads wait for each other.  A third one that would wait for either
closes no cycle, though the walk never ends, and one of the two does. -/
example :
    let circle : Entries :=
      { owners := [(⟨1⟩, 1), (⟨2⟩, 2)], waiting := [(1, ⟨2⟩), (2, ⟨1⟩)] }
    circle.wouldDeadlock 3 ⟨1⟩ = false ∧ circle.wouldDeadlock 2 ⟨1⟩ = true := by
  decide

/-- A thread waits for a unit that another thread, or the thread itself,
owns. -/
def WaitsFor (entries : Entries) (waiter owner : ThreadId) : Prop :=
  ∃ unit, entries.waitsFor? waiter = some unit ∧
    entries.owner? unit = some owner

/-- A chain of waiting threads from the owner of a unit to `thread` is a walk
that meets a unit of `thread`. -/
theorem exists_meets_of_reflTransGen {unit : UnitId} {owner : ThreadId}
    (owned : entries.owner? unit = some owner)
    (chain : ReflTransGen entries.WaitsFor owner thread) :
    ∃ hops, entries.Meets thread unit hops := by
  induction chain using ReflTransGen.head_induction_on generalizing unit with
  | refl => exact ⟨0, meets_zero.mpr owned⟩
  | head edge _ ih =>
      obtain ⟨awaited, waits, ownedNext⟩ := edge
      obtain ⟨hops, meets⟩ := ih ownedNext
      exact ⟨hops + 1,
        meets_succ.mpr ⟨awaited, by simp [hop?, owned, waits], meets⟩⟩

end Entries

end LoadLadder
