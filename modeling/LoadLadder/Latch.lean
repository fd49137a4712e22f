/-!
# One-shot latches

Every unit tells each kind of listener at most once that it was loaded.  The kinds that have been
told are the set bits of one word, and a bit is never cleared: claiming a latch sets its bit and
answers whether the bit was free.
-/

namespace LoadLadder

/-- The listeners that learn about a unit exactly once. -/
inductive ListenerKind
  | tracing
  | profiler
  | debugger
  /-- The debugger's module-level load, delivered through the code container. -/
  | debuggerModule
  | hostLoadEvent
  deriving DecidableEq, Repr, Inhabited

namespace ListenerKind

def all : List ListenerKind :=
  [tracing, profiler, debugger, debuggerModule, hostLoadEvent]

def index : ListenerKind → Nat
  | tracing => 0
  | profiler => 1
  | debugger => 2
  | debuggerModule => 3
  | hostLoadEvent => 4

def bit (kind : ListenerKind) : BitVec 8 :=
  BitVec.twoPow 8 kind.index

def name : ListenerKind → String
  | tracing => "tracing"
  | profiler => "profiler"
  | debugger => "debugger"
  | debuggerModule => "debugger-module"
  | hostLoadEvent => "host-load-event"

def ofName? (text : String) : Option ListenerKind :=
  all.find? fun kind => kind.name == text

def title : ListenerKind → String
  | tracing => "Tracing"
  | profiler => "Profiler"
  | debugger => "Debugger"
  | debuggerModule => "DebuggerModule"
  | hostLoadEvent => "HostLoadEvent"

theorem mem_all (kind : ListenerKind) : kind ∈ all := by
  cases kind <;> decide

theorem index_lt (kind : ListenerKind) : kind.index < 8 := by
  cases kind <;> decide

theorem index_injective {left right : ListenerKind} (same : left.index = right.index) :
    left = right := by
  cases left <;> cases right <;> simp_all [index]

end ListenerKind

/-- The latches of one unit. -/
structure Latches where
  word : BitVec 8 := 0
  deriving DecidableEq, Repr, Inhabited

namespace Latches

def isSet (latches : Latches) (kind : ListenerKind) : Bool :=
  latches.word.getLsbD kind.index

def claim (latches : Latches) (kind : ListenerKind) : Latches :=
  ⟨latches.word ||| kind.bit⟩

def testAndSet (latches : Latches) (kind : ListenerKind) : Latches × Bool :=
  (latches.claim kind, !latches.isSet kind)

/-- The kinds that have been told, in the order of their bits. -/
def claimed (latches : Latches) : List ListenerKind :=
  ListenerKind.all.filter latches.isSet

@[simp]
theorem isSet_claim (latches : Latches) (claimed kind : ListenerKind) :
    (latches.claim claimed).isSet kind = (latches.isSet kind || decide (claimed = kind)) := by
  have bound := claimed.index_lt
  have same : (claimed.index = kind.index) = (claimed = kind) :=
    propext ⟨ListenerKind.index_injective, fun equal => equal ▸ rfl⟩
  simp [isSet, claim, ListenerKind.bit, BitVec.getLsbD_twoPow, bound, same]

/-- Claiming a latch again changes nothing. -/
theorem claim_of_isSet {latches : Latches} {kind : ListenerKind}
    (told : latches.isSet kind = true) : latches.claim kind = latches := by
  have word : latches.word ||| kind.bit = latches.word := by
    refine BitVec.eq_of_getLsbD_eq fun place within => ?_
    have there : place = kind.index → latches.word.getLsbD place = true := fun same => same ▸ told
    simp only [ListenerKind.bit, BitVec.getLsbD_or, BitVec.getLsbD_twoPow, kind.index_lt]
    by_cases same : kind.index = place <;> simp_all
  rw [claim, word]

@[simp]
theorem isSet_default (kind : ListenerKind) : ({} : Latches).isSet kind = false := by
  simp [isSet]

theorem mem_claimed {latches : Latches} {kind : ListenerKind} :
    kind ∈ latches.claimed ↔ latches.isSet kind = true := by
  simp [claimed, ListenerKind.mem_all]

end Latches

/-- A step of a client that plays with the latches of one unit. -/
inductive LatchStep
  | testAndSet (kind : ListenerKind)
  | isSet (kind : ListenerKind)
  | claimed
  /-- Claims a latch and, if it was free, takes further steps before going on. -/
  | notifyOnce (kind : ListenerKind) (action : List LatchStep)
  deriving Repr

/-- What a client learns from a step: an answer, and the kinds claimed after the step. -/
inductive LatchAnswer
  | flag (value : Bool) (claimed : List ListenerKind)
  | nothing (claimed : List ListenerKind)
  /-- The action ran, with the answers of its steps, or it did not run. -/
  | notified (inner : Option (List LatchAnswer)) (claimed : List ListenerKind)
  deriving Repr

mutual

/-- Takes one step.  The latch is claimed before the action runs, so the action finds it claimed. -/
def LatchStep.run (latches : Latches) : LatchStep → Latches × LatchAnswer
  | .testAndSet kind =>
      let (after, fresh) := latches.testAndSet kind
      (after, .flag fresh after.claimed)
  | .isSet kind => (latches, .flag (latches.isSet kind) latches.claimed)
  | .claimed => (latches, .nothing latches.claimed)
  | .notifyOnce kind action =>
      let (after, fresh) := latches.testAndSet kind
      if fresh then
        let (final, answers) := LatchStep.runAll after action
        (final, .notified (some answers) final.claimed)
      else (after, .notified none after.claimed)

def LatchStep.runAll (latches : Latches) : List LatchStep → Latches × List LatchAnswer
  | [] => (latches, [])
  | step :: steps =>
      let (after, answer) := LatchStep.run latches step
      let (final, answers) := LatchStep.runAll after steps
      (final, answer :: answers)

end

end LoadLadder
