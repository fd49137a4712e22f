import LoadLadder.Proofs.CrewRuns

/-!
# Accounts of what clients request

A run says what is done to the units, but not at whose request.  An account of a run
follows the same acts and knows of each whether the loader took a step or what the
client requested, so one can say what a client may request in the situation that the
crew is in, and note at every act whatever one wants to know of it later.
-/

namespace LoadLadder

/-- What the client requests when it is its turn. -/
inductive Request
  /-- An operation. -/
  | asks (operation : Operation)
  /-- To go on with its callback after a load. -/
  | resumes
  /-- To end its callback. -/
  | ends (result : Except Fault Unit)
  deriving Repr

namespace World

variable {world next : World} {me : ThreadId} {thread after : Thread}
  {request : Option Request}

/-- What becomes of the world and of a thread when the loader takes a step there, or
when the client requests something.  Nothing does when it is the turn of the other, or
when the client lacks what it needs. -/
def play (world : World) (me : ThreadId) (thread : Thread) :
    Option Request → Option (World × Thread)
  | none => world.step me thread
  | some (.asks operation) =>
      if (world.step me thread).isNone && (operation.refusal? world).isNone then
        match operation.task? world with
        | some task => some (world, thread.call task)
        | none => some ((operation.complete world me).1, thread)
      else none
  | some .resumes =>
      match thread with
      | ⟨.answer _, .onOperation callback :: stack⟩ =>
          some (world, ⟨.callback callback, stack⟩)
      | _ => none
  | some (.ends result) =>
      match thread.task with
      | .callback _ => some (world, thread.finish result)
      | _ => none

/-- What is done to the units meanwhile. -/
def played (world : World) (thread : Thread) : Option Request → List Deed
  | none => world.deeds thread
  | some (.asks operation) =>
      match operation.task? world with
      | some _ => []
      | none => operation.deeds world
  | some _ => []

/-- What a request makes of the world and of a thread, with the tests that led
there. -/
inductive Granted (world : World) (me : ThreadId) (thread : Thread) :
    Request → World → Thread → Prop
  | operate (operation : Operation) (turn : world.step me thread = none)
      (granted : operation.refusal? world = none)
      (instant : operation.task? world = none) :
      Granted world me thread (.asks operation) (operation.complete world me).1
        thread
  | call (operation : Operation) {task : Task}
      (turn : world.step me thread = none)
      (granted : operation.refusal? world = none)
      (loads : operation.task? world = some task) :
      Granted world me thread (.asks operation) world (thread.call task)
  | resume {reply : Reply} {callback : Callback} {stack : List Waiting}
      (answered : thread = ⟨.answer reply, .onOperation callback :: stack⟩) :
      Granted world me thread .resumes world ⟨.callback callback, stack⟩
  | finish {callback : Callback} {stack : List Waiting}
      (result : Except Fault Unit) (called : thread = ⟨.callback callback, stack⟩) :
      Granted world me thread (.ends result) world (thread.finish result)

theorem granted_of_play {requested : Request}
    (plays : world.play me thread (some requested) = some (next, after)) :
    world.Granted me thread requested next after := by
  cases requested with
  | asks operation =>
      simp only [play] at plays
      split at plays
      · rename_i granted
        simp only [Bool.and_eq_true, Option.isNone_iff_eq_none] at granted
        obtain ⟨turn, granted⟩ := granted
        cases loads : operation.task? world with
        | some task =>
            simp only [loads, Option.some.injEq, Prod.mk.injEq] at plays
            obtain ⟨rfl, rfl⟩ := plays
            exact .call operation turn granted loads
        | none =>
            simp only [loads, Option.some.injEq, Prod.mk.injEq] at plays
            obtain ⟨rfl, rfl⟩ := plays
            exact .operate operation turn granted loads
      · contradiction
  | resumes =>
      simp only [play] at plays
      split at plays
      · cases plays
        exact .resume rfl
      · contradiction
  | ends result =>
      obtain ⟨task, stack⟩ := thread
      cases task with
      | callback callback =>
          cases plays
          exact .finish result rfl
      | _ => contradiction

/-- A client that only asks for what is in a repertoire acts within it. -/
theorem act_of_asked {repertoire : Repertoire}
    (plays : world.play me thread request = some (next, after))
    (asked : ∀ operation, request = some (.asks operation) →
      repertoire world operation) :
    world.Act repertoire me thread (world.played thread request) next after := by
  cases request with
  | none => exact .step plays
  | some requested =>
      cases granted_of_play plays with
      | operate operation turn granted instant =>
          simpa [played, instant] using
            Act.operate operation turn (asked operation rfl) granted instant
      | call operation turn granted loads =>
          simpa [played, loads] using
            Act.call operation turn (asked operation rfl) granted loads
      | resume answered => exact .resume answered
      | finish result called => exact .finish result called

theorem act_of_play (plays : world.play me thread request = some (next, after)) :
    world.Act .full me thread (world.played thread request) next after :=
  act_of_asked plays fun _ _ => trivial

theorem exists_play_of_act {repertoire : Repertoire} {deeds : List Deed}
    (act : world.Act repertoire me thread deeds next after) :
    ∃ request, world.play me thread request = some (next, after) ∧
      world.played thread request = deeds := by
  cases act with
  | step step => exact ⟨none, step, rfl⟩
  | operate operation turn asked granted instant =>
      exact ⟨some (.asks operation), by simp [play, turn, granted, instant],
        by simp [played, instant]⟩
  | call operation turn asked granted loads =>
      exact ⟨some (.asks operation), by simp [play, turn, granted, loads],
        by simp [played, loads]⟩
  | resume answered =>
      subst answered
      exact ⟨some .resumes, rfl, rfl⟩
  | finish result called =>
      subst called
      exact ⟨some (.ends result), rfl, rfl⟩

end World

/-- What a client may request in which thread of a crew. -/
abbrev Conduct := Crew → ThreadId → Request → Prop

/-- The client may request anything. -/
def Conduct.free : Conduct := fun _ _ _ => True

instance (crew : Crew) (me : ThreadId) (request : Request) :
    Decidable (Conduct.free crew me request) :=
  inferInstanceAs (Decidable True)

/-- What one wants to know of an act. -/
abbrev Noting (α : Type) := World → ThreadId → Thread → Option Request → List α

namespace Crew

variable {α : Type} {conduct : Conduct} {note : Noting α} {first crew next : Crew}
  {past : List α} {deeds : List Deed}

/-- What happens from one state of a crew to another when the client keeps to its
conduct, and what is noted meanwhile. -/
inductive Account (conduct : Conduct) (note : Noting α) (first : Crew) :
    List α → Crew → Prop
  | start : Account conduct note first [] first
  | play {crew : Crew} {past : List α} {me : ThreadId} {request : Option Request}
      {world : World} {thread : Thread}
      (account : Account conduct note first past crew)
      (member : me < crew.threads.length)
      (conducted : ∀ requested, request = some requested →
        conduct crew me requested)
      (plays : crew.world.play me (crew.thread me) request =
        some (world, thread)) :
      Account conduct note first
        (past ++ note crew.world me (crew.thread me) request)
        ({ crew with world }.setThread me thread)
  | collect {crew : Crew} {past : List α}
      (account : Account conduct note first past crew) :
      Account conduct note first past
        { crew with world := crew.world.collect crew.pinned }

theorem Account.run (account : Account conduct note first past crew) :
    ∃ deeds, Run .full first deeds crew := by
  induction account with
  | start => exact ⟨_, .start⟩
  | play account member conducted plays ih =>
      obtain ⟨deeds, run⟩ := ih
      exact ⟨_, run.snoc (.act member (World.act_of_play plays))⟩
  | collect account ih =>
      obtain ⟨deeds, run⟩ := ih
      exact ⟨_, run.snoc .collect⟩

theorem Account.members (account : Account conduct note first past crew) :
    crew.threads.length = first.threads.length := by
  induction account with
  | start => rfl
  | play account member conducted plays ih => simpa [setThread] using ih
  | collect account ih => exact ih

/-- Every run has an account, and its deeds can be noted there. -/
theorem exists_account_of_run {repertoire : Repertoire}
    (run : Run repertoire first deeds crew) :
    Account .free (fun world _ => world.played) first deeds crew := by
  induction run with
  | start => exact .start
  | snoc run move ih =>
      cases move with
      | collect => simpa using ih.collect
      | act member act =>
          obtain ⟨request, plays, rfl⟩ := World.exists_play_of_act act
          exact ih.play member (fun _ _ => trivial) plays

/-- What is to happen next. -/
inductive Cue
  | steps (thread : ThreadId)
  | requests (thread : ThreadId) (request : Request)
  | collects

namespace Cue

def asks (me : ThreadId) (operation : Operation) : Cue :=
  .requests me (.asks operation)

def goesOn (me : ThreadId) : Cue :=
  .requests me .resumes

def returns (me : ThreadId) : Cue :=
  .requests me (.ends (.ok ()))

/-- The loader takes some steps in a thread. -/
def climbs (me : ThreadId) (count : Nat) : List Cue :=
  List.replicate count (.steps me)

end Cue

/-- The crew after a cue, if it can be followed. -/
def enact (crew : Crew) : Cue → Option Crew
  | .steps me => played me none
  | .requests me request => played me (some request)
  | .collects => some { crew with world := crew.world.collect crew.pinned }
where
  played (me : ThreadId) (request : Option Request) : Option Crew :=
    if me < crew.threads.length then
      (crew.world.play me (crew.thread me) request).map fun (world, thread) =>
        { crew with world }.setThread me thread
    else none

/-- What is noted when a cue is followed. -/
def noted (note : Noting α) (crew : Crew) : Cue → List α
  | .steps me => note crew.world me (crew.thread me) none
  | .requests me request => note crew.world me (crew.thread me) (some request)
  | .collects => []

/-- A cue keeps to the conduct. -/
def Cue.Keeps (conduct : Conduct) (crew : Crew) : Cue → Prop
  | .requests me request => conduct crew me request
  | _ => True

instance [∀ crew me request, Decidable (conduct crew me request)] (crew : Crew) :
    DecidablePred (Cue.Keeps conduct crew)
  | .requests me request => inferInstanceAs (Decidable (conduct crew me request))
  | .steps _ => inferInstanceAs (Decidable True)
  | .collects => inferInstanceAs (Decidable True)

/-- The crew after a script, if the script can be followed within the conduct. -/
def enactAll (conduct : Conduct)
    [∀ crew me request, Decidable (conduct crew me request)] :
    Crew → List Cue → Option Crew
  | crew, [] => some crew
  | crew, cue :: script =>
      if cue.Keeps conduct crew then
        (crew.enact cue).bind fun next => enactAll conduct next script
      else none

/-- What is noted when a script is followed. -/
def notedAll (note : Noting α) : Crew → List Cue → List α
  | _, [] => []
  | crew, cue :: script =>
      crew.noted note cue ++ ((crew.enact cue).elim [] fun next =>
        notedAll note next script)

theorem Account.enact {cue : Cue} (account : Account conduct note first past crew)
    (keeps : cue.Keeps conduct crew) (enacted : crew.enact cue = some next) :
    Account conduct note first (past ++ crew.noted note cue) next := by
  have plays {me : ThreadId} {request : Option Request}
      (conducted : ∀ requested, request = some requested →
        conduct crew me requested)
      (played : Crew.enact.played crew me request = some next) :
      Account conduct note first
        (past ++ note crew.world me (crew.thread me) request) next := by
    unfold Crew.enact.played at played
    split at played
    · rename_i member
      obtain ⟨⟨world, thread⟩, plays, rfl⟩ := Option.map_eq_some_iff.mp played
      exact account.play member conducted plays
    · contradiction
  cases cue with
  | steps me => exact plays (by simp) enacted
  | requests me request =>
      refine plays ?_ enacted
      rintro requested ⟨⟩
      exact keeps
  | collects =>
      cases enacted
      simpa [noted] using account.collect

/-- A script that can be followed has an account. -/
theorem Account.enactAll
    [∀ crew me request, Decidable (conduct crew me request)] {script : List Cue}
    (account : Account conduct note first past crew)
    (enacted : crew.enactAll conduct script = some next) :
    Account conduct note first (past ++ crew.notedAll note script) next := by
  induction script generalizing crew past with
  | nil =>
      cases enacted
      simpa [notedAll] using account
  | cons cue script ih =>
      rw [Crew.enactAll] at enacted
      split at enacted
      · rename_i keeps
        obtain ⟨after, first, rest⟩ := Option.bind_eq_some_iff.mp enacted
        have later := ih (account.enact keeps first) rest
        rw [notedAll, first]
        simpa [List.append_assoc] using later
      · contradiction

end Crew

end LoadLadder
