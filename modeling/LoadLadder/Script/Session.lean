import LoadLadder.Script.Step

/-!
# Sessions

Running a scripted client against a machine.  Scripts that run because the loader called back may
start loads that call back again, up to a fixed depth; a callback beyond that depth is noted and
succeeds at once.
-/

namespace LoadLadder

/-- A note that the client takes. -/
inductive Note
  /-- A step of a script, with what it answered, how many events were recorded by then, and the
  levels of the units. -/
  | step (who action : String) (answer : Answer) (events : Nat) (levels : List (Option Level))
  /-- A transition that the hook observed, and the unit's level at that time. -/
  | observed (unit : String) (step level : Level)
  | received (tag : String) (snapshot : Snapshot)
  /-- A script that was not run because scripts were nested too deeply. -/
  | tooDeep (who : String)
  deriving Repr

/-- A machine with its scripted client. -/
structure Session where
  machine : Machine
  initializers : Store (List Step) := {}
  listeners : Store ListenerScript := {}
  listenerCount : Nat := 0
  hooks : Store HookScript := {}
  size : Nat := 0
  notes : List Note := []
  deriving Repr

namespace Session

def world (session : Session) : World :=
  session.machine.world

def levels (session : Session) : List (Option Level) :=
  (List.range session.world.unitCount).map fun key =>
    if session.world.holdsUnit key then some (session.world.unit key).level else none

def note (session : Session) (entry : Note) : Session :=
  { session with notes := session.notes ++ [entry] }

/-- Puts an operation to the machine.  Only a load leaves the answer open. -/
def submit (session : Session) (operation : Operation) : Session × Option Answer :=
  match operation.refusal? session.world with
  | some refusal => (session, some refusal)
  | none =>
      match operation.task? session.world with
      | some task =>
          let machine := session.machine
          ({ session with machine := { machine with thread := machine.thread.call task } }, none)
      | none =>
          let (world, answer) := operation.complete session.world mainThread
          ({ session with machine := { session.machine with world } }, some answer)

def collect (session : Session) : Session :=
  let machine := session.machine
  { session with
    machine := { machine with world := machine.world.collect machine.thread.pinned } }

/-- Runs the machine until it is the client's turn.  A unit goes with the last reference to it, so
units are destroyed after every step. -/
def advance : (bound : Nat) → Session → Session
  | 0, session => session
  | bound + 1, session =>
      match session.machine.step? with
      | none => session
      | some machine => advance bound { session with machine }.collect

/-- Runs an operation to its answer; `serve` answers the callbacks of a load. -/
def operate (serve : Session → Session) (session : Session) (operation : Operation) :
    Session × Answer :=
  match session.submit operation with
  | (session, some answer) => (session.collect, answer)
  | (session, none) =>
      let session := serve session
      let answer := match session.machine.thread.turn with
        | .answered reply => operation.ofReply reply
        | _ => .done
      let machine := session.machine
      let session := { session with machine := { machine with thread := machine.thread.resume } }
      (session.collect, answer)

def takeStep (serve : Session → Session) (session : Session) : Step → Session × Answer
  | .operation operation _ => session.operate serve operation
  | .create home image container initializer _ =>
      let key := session.world.unitCount
      let (session, answer) := session.operate serve (.create home image container)
      ({ session with initializers := session.initializers.set key initializer }, answer)
  | .subscribe domain tag steps _ =>
      let number := session.listenerCount
      let session := { session with
        listeners := session.listeners.set number ⟨tag, steps⟩
        listenerCount := number + 1 }
      session.operate serve (.subscribe domain number)
  | .fail fault _ => (session, .fault fault)

/-- Runs a script, noting every step, to its end or to the first fault that propagates. -/
def runScript (serve : Session → Session) (who : String) :
    Session → List Step → Session × Except Fault Unit
  | session, [] => (session, .ok ())
  | session, step :: steps =>
      let (session, answer) := session.takeStep serve step
      let session := session.note
        (.step who step.name answer session.world.events.length session.levels)
      match answer with
      | .fault fault =>
          if step.propagates then (session, .error fault) else runScript serve who session steps
      | _ => runScript serve who session steps

/-- How scripts are run in a callback. -/
abbrev Runner := String → Session → List Step → Session × Except Fault Unit

/-- Runs those scripts of a hook that concern a transition, up to the first that fails. -/
def runHook (runner : Runner) (unit : String) (level : Level) :
    Session → List HookEntry → Session × Except Fault Unit
  | session, [] => (session, .ok ())
  | session, entry :: entries =>
      if entry.level = level && entry.unit.all (· == unit) then
        match runner "hook" session entry.steps with
        | (session, .ok ()) => runHook runner unit level session entries
        | (session, .error fault) => (session, .error fault)
      else runHook runner unit level session entries

def respond (runner : Runner) (callback : Callback) (session : Session) : Session :=
  let (session, result) : Session × Except Fault Unit := match callback with
    | .initializer key =>
        runner (session.world.unit key).name session (session.initializers.get key)
    | .listener number snapshot =>
        let script := session.listeners.get number
        let session := session.note (.received script.tag snapshot)
        ((runner script.tag session script.steps).1, .ok ())
    | .hook key level =>
        let unit := session.world.unit key
        let script := session.hooks.get unit.home
        let session :=
          if script.observes then session.note (.observed unit.name level unit.level) else session
        match runHook runner unit.name level session script.entries with
        | (session, .ok ()) =>
            (session,
              if script.fails then .error (.step level "hook failed") else .ok ())
        | (session, .error fault) => (session, .error fault)
  let machine := session.machine
  { session with machine := { machine with thread := machine.thread.finish result } }

/-- Runs the machine, answering callbacks, until it answers the client's operation. -/
def serveWith (runner : Runner) : (bound : Nat) → Session → Session
  | 0, session => session
  | bound + 1, session =>
      let session := session.advance session.world.budget
      match session.machine.thread.turn with
      | .callback callback => serveWith runner bound (session.respond runner callback)
      | _ => session

/-- A number of callbacks that no operation needs.  A callback can add to the callbacks that follow
it only through the steps of a script inside the script that it runs. -/
def callbackBudget (session : Session) : Nat :=
  Nat.pow (session.size + 2) (session.size + 2) * session.world.budget

/-- Runs the machine to an answer, with scripts nested at most to a depth. -/
def serve : (depth : Nat) → Session → Session
  | 0, session =>
      session.serveWith (fun who session _ => (session.note (.tooDeep who), .ok ()))
        session.callbackBudget
  | depth + 1, session =>
      session.serveWith (fun who session steps => runScript (serve depth) who session steps)
        session.callbackBudget

/-- Scripts nest at most four deep. -/
def scriptDepth : Nat := 4

def start (scenario : Scenario) : Session :=
  let world := scenario.domains.foldl (fun world plan => world.addDomain plan.domain) {}
  { machine := { world }
    hooks := ⟨scenario.domains.map DomainPlan.hook⟩
    size := scenario.size }

/-- What can be seen after a step in the foreground: its answer, the levels, and what was recorded,
noted and logged meanwhile. -/
structure Report where
  answer : Answer
  levels : List (Option Level)
  events : List Event
  notes : List Note
  trace : List TraceRecord
  deriving Repr

def report (session : Session) (step : Step) : Session × Report :=
  let (after, answer) := session.takeStep (serve scriptDepth) step
  (after,
    { answer
      levels := after.levels
      events := after.world.events.drop session.world.events.length
      notes := after.notes.drop session.notes.length
      trace := after.world.trace.drop session.world.trace.length })

def reports (session : Session) : List Step → List Report
  | [] => []
  | step :: steps =>
      let (session, report) := session.report step
      report :: reports session steps

end Session

def Scenario.play (scenario : Scenario) : List Session.Report :=
  (Session.start scenario).reports scenario.steps

end LoadLadder
