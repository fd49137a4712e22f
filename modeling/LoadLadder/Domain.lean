import LoadLadder.Entries
import LoadLadder.LoadUnit

/-!
# Load domains

A domain owns the units it created once they are registered, keeps their load entries, and knows the
consumers that are told about them.  The registry is kept in the order of the units' numbers.
-/

namespace LoadLadder

/-- Settings of a domain.  Missing activation is an error unless told otherwise. -/
structure LoaderConfig where
  expandModulesOnLoad : Bool := false
  strictActivationChecks : Bool := true
  deriving DecidableEq, Repr, Inhabited

/-- Who is told about finished loads. -/
inductive TracingSink
  | recorder
  | log
  deriving DecidableEq, Repr, Inhabited

/-- The debugger interface of a domain. -/
inductive DebuggerSink
  | absent
  /-- A recording debugger that does or does not consume module loads. -/
  | attached (consumes : Bool)
  deriving DecidableEq, Repr, Inhabited

/-- The consumers of a domain.  All but tracing are optional. -/
structure Sinks where
  tracing : TracingSink := .recorder
  profiler : Bool := false
  debugger : DebuggerSink := .absent
  inspection : Bool := false
  deriving DecidableEq, Repr, Inhabited

def Sinks.isDebuggerAttached (sinks : Sinks) : Bool :=
  sinks.debugger != .absent

/-- What a domain does with a completed sub-step. -/
structure Hook where
  records : Bool := false
  client : Bool := false
  deriving DecidableEq, Repr, Inhabited

/-- A receiver of units that became active. -/
inductive Listener
  | recorder
  | client (number : Nat)
  deriving DecidableEq, Repr, Inhabited

/-- A domain. -/
structure Domain where
  config : LoaderConfig := {}
  sinks : Sinks := {}
  hook : Hook := {}
  listeners : List Listener := []
  registry : List (UnitId × UnitKey) := []
  entries : Entries := {}
  nextUnit : Nat := 1
  held : Bool := true
  deriving Repr, Inhabited

namespace Domain

/-- A domain in which the recorder stands in for every consumer. -/
def observed : Domain where
  sinks := {
    tracing := .recorder
    profiler := true
    debugger := .attached true
    inspection := true }
  hook := { records := true }
  listeners := [.recorder]

/-- Puts a unit into a registry, at its place by number. -/
def insertByNumber (id : UnitId) (unit : UnitKey) :
    List (UnitId × UnitKey) → List (UnitId × UnitKey)
  | [] => [(id, unit)]
  | entry :: entries =>
      if id.number < entry.1.number then (id, unit) :: entry :: entries
      else entry :: insertByNumber id unit entries

/-- Registers a unit; a registered number is left alone. -/
def register (domain : Domain) (id : UnitId) (unit : UnitKey) : Domain :=
  if (domain.registry.lookup id).isSome then domain
  else { domain with registry := insertByNumber id unit domain.registry }

def registered? (domain : Domain) (id : UnitId) : Option UnitKey :=
  domain.registry.lookup id

def unregister (domain : Domain) (id : UnitId) : Domain :=
  { domain with registry := domain.registry.filter fun entry => entry.1 != id }

/-- The registered units, in the order of their numbers. -/
def units (domain : Domain) : List UnitKey :=
  domain.registry.map Prod.snd

end Domain

end LoadLadder
