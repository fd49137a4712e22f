import LoadLadder.Codes

/-!
# Load entries

Which thread progresses which unit, and which thread waits for which unit.  A thread asks for a
unit's entry before it runs a sub-step of the unit.  If another thread owns the entry, the asking
thread waits, unless waiting would close a cycle in the waits-for relation: the owner waits for a
unit whose owner waits, and so on, back to a unit that the asking thread owns.
-/

namespace LoadLadder

/-- The name of a thread. -/
abbrev ThreadId := Nat

/-- The load entries of one domain. -/
structure Entries where
  owners : List (UnitId × ThreadId) := []
  waiting : List (ThreadId × UnitId) := []
  deriving DecidableEq, Repr, Inhabited

/-- The answer to a thread that asks for a unit's entry. -/
inductive Verdict
  | acquired
  | reentrant
  | wouldDeadlock
  | blocked
  deriving DecidableEq, Repr

namespace Entries

def owner? (entries : Entries) (unit : UnitId) : Option ThreadId :=
  entries.owners.lookup unit

def waitsFor? (entries : Entries) (thread : ThreadId) : Option UnitId :=
  entries.waiting.lookup thread

/-- Follows owners and the units they wait for, for a bounded number of hops, in search of a unit
that `thread` owns. -/
def leadsTo (entries : Entries) (thread : ThreadId) : (hops : Nat) → UnitId → Bool
  | 0, _ => false
  | hops + 1, unit =>
      match entries.owner? unit with
      | none => false
      | some owner =>
          if owner = thread then true
          else
            match entries.waitsFor? owner with
            | none => false
            | some awaited => leadsTo entries thread hops awaited

/-- A thread that waited for the unit would close a cycle.  A chain without repetition passes
through no more units than are owned. -/
def wouldDeadlock (entries : Entries) (thread : ThreadId) (unit : UnitId) : Bool :=
  entries.leadsTo thread (entries.owners.length + 1) unit

def request (entries : Entries) (thread : ThreadId) (unit : UnitId) : Entries × Verdict :=
  match entries.owner? unit with
  | none => ({ entries with owners := (unit, thread) :: entries.owners }, .acquired)
  | some owner =>
      if owner = thread then (entries, .reentrant)
      else if entries.wouldDeadlock thread unit then (entries, .wouldDeadlock)
      else ({ entries with waiting := (thread, unit) :: entries.waiting }, .blocked)

/-- A waiting thread is woken: it no longer waits, and asks again. -/
def wake (entries : Entries) (thread : ThreadId) (unit : UnitId) : Entries × Verdict :=
  { entries with waiting := entries.waiting.filter fun wait => wait.1 != thread }.request
    thread unit

def release (entries : Entries) (unit : UnitId) : Entries :=
  { entries with owners := entries.owners.filter fun owned => owned.1 != unit }

theorem request_of_free {entries : Entries} {unit : UnitId} (free : entries.owner? unit = none)
    (thread : ThreadId) :
    entries.request thread unit =
      ({ entries with owners := (unit, thread) :: entries.owners }, .acquired) := by
  simp [request, free]

theorem request_of_owned {entries : Entries} {thread : ThreadId} {unit : UnitId}
    (owned : entries.owner? unit = some thread) :
    entries.request thread unit = (entries, .reentrant) := by
  simp [request, owned]

theorem owner?_release (entries : Entries) (unit other : UnitId) :
    (entries.release unit).owner? other =
      if unit = other then none else entries.owner? other := by
  obtain ⟨owners, waiting⟩ := entries
  simp only [owner?, release]
  induction owners with
  | nil => simp
  | cons owned owners inductionHypothesis =>
      obtain ⟨held, thread⟩ := owned
      by_cases released : held = unit
      · subst released
        by_cases same : held = other
        · simpa [same] using inductionHypothesis
        · have missed : (other == held) = false := by simpa using Ne.symm same
          simpa [same, List.lookup_cons, missed] using inductionHypothesis
      · by_cases found : other = held
        · have kept : unit ≠ held := Ne.symm released
          simp [found, released, kept]
        · have missed : (other == held) = false := by simpa using found
          simpa [released, List.lookup_cons, missed] using inductionHypothesis

end Entries

end LoadLadder
