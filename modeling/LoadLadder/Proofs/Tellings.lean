import LoadLadder.Proofs.UnitDeeds

/-!
# What a climb tells

A climb carries out the actions of one level after another.  What it tells the
consumers, and which latches it claims on the way, depends only on the actions
that were carried out, on whether a debugger is attached, and on the configuration
that the debugger is sent.
-/

namespace LoadLadder

/-- What holds at the bottom and is handed up holds at every level. -/
theorem Level.climb_induction {holds : Level → Prop} (bottom : holds .created)
    (up : ∀ level above : Level, level.next = some above → holds level →
      holds above) (level : Level) : holds level := by
  have begun := up .created .begun rfl bottom
  have beforeTypeLoad := up .begun .beforeTypeLoad rfl begun
  have eagerFixups := up .beforeTypeLoad .eagerFixups rfl beforeTypeLoad
  have deliverEvents := up .eagerFixups .deliverEvents rfl eagerFixups
  have vtableFixups := up .deliverEvents .vtableFixups rfl deliverEvents
  have loaded := up .vtableFixups .loaded rfl vtableFixups
  have active := up .loaded .active rfl loaded
  cases level <;> assumption

/-- The latches that a climb has claimed and what it has said. -/
structure Telling where
  told : List ListenerKind := []
  said : List Notice := []

namespace Telling

/-- A latch has been claimed. -/
def hasTold (telling : Telling) (kind : ListenerKind) : Bool :=
  telling.told.contains kind

/-- Claims a latch and says something if it was free. -/
def once (telling : Telling) (kind : ListenerKind) (notices : List Notice) :
    Telling :=
  if telling.hasTold kind then telling
  else ⟨kind :: telling.told, telling.said ++ notices⟩

@[simp]
theorem hasTold_once (telling : Telling) (kind other : ListenerKind)
    (notices : List Notice) :
    (telling.once kind notices).hasTold other =
      (telling.hasTold other || decide (kind = other)) := by
  unfold once
  split
  · by_cases same : kind = other <;> simp_all
  · by_cases same : kind = other
    · simp [hasTold, same]
    · simp [hasTold, same, Ne.symm same]

@[simp]
theorem said_once (telling : Telling) (kind : ListenerKind)
    (notices : List Notice) :
    (telling.once kind notices).said =
      telling.said ++ if telling.hasTold kind then [] else notices := by
  unfold once
  split <;> simp

@[simp]
theorem hasTold_mk (telling : Telling) (kind : ListenerKind)
    (said : List Notice) :
    hasTold ⟨telling.told, said⟩ kind = telling.hasTold kind :=
  rfl

variable (attached : Bool) (config : DebuggingConfig)

/-- Carries out one action of a level. -/
def perform (level : Level) (telling : Telling) : Action → Telling
  | .announceProfiler => telling.once .profiler [.profiler .ok]
  | .announceTracing => telling.once .tracing [.tracing .ok]
  | .announceDebugger =>
      if telling.hasTold .debugger then telling
      else if attached then
        (telling.once .debugger [.unitLoad config]).once .debuggerModule
          [.moduleLoad]
      else telling.once .debugger []
  | .showInspection => ⟨telling.told, telling.said ++ [.moduleLoaded]⟩
  | .reportTransition => ⟨telling.told, telling.said ++ [.transition level]⟩
  | _ => telling

/-- Carries out some actions of a level, in order. -/
def performAll (level : Level) (telling : Telling) (actions : List Action) :
    Telling :=
  actions.foldl (perform attached config level) telling

/-- A whole climb up to a level. -/
def climb (top : Level) : Telling :=
  (Level.all.filter fun level => level ≤ top).foldl
    (fun telling level => performAll attached config level telling level.actions)
    {}

/-- The latches of a unit are those that the climb has claimed; the host's is
claimed afterwards. -/
def Matches (telling : Telling) (latches : Latches) : Prop :=
  ∀ kind, kind ≠ .hostLoadEvent →
    latches.isSet kind = telling.hasTold kind

variable {attached config}

theorem climb_next {level above : Level} (step : level.next = some above) :
    climb attached config above =
      performAll attached config above (climb attached config level)
        above.actions := by
  cases level <;> cases step <;> rfl

/-- What a climb says on its way to a level from the one below. -/
def rung (attached : Bool) (config : DebuggingConfig) :
    Level → List Notice
  | .created => []
  | .beforeTypeLoad => [.profiler .ok, .transition .beforeTypeLoad]
  | .deliverEvents =>
      [.tracing .ok] ++
      (if attached then [.unitLoad config, .moduleLoad] else []) ++
      [.transition .deliverEvents]
  | .loaded => [.moduleLoaded, .transition .loaded]
  | level => [.transition level]

theorem hasTold_climb (level : Level) (kind : ListenerKind) :
    (climb attached config level).hasTold kind =
      match kind with
      | .profiler => decide (.beforeTypeLoad ≤ level)
      | .tracing | .debugger => decide (.deliverEvents ≤ level)
      | .debuggerModule => attached && decide (.deliverEvents ≤ level)
      | .hostLoadEvent => false := by
  induction level using Level.climb_induction generalizing kind with
  | bottom => cases attached <;> cases kind <;> rfl
  | up level above step ih =>
      rw [climb_next step]
      cases attached <;> cases level <;> cases step <;> cases kind <;>
        simp [performAll, Level.actions, perform, ih, Level.le_def, Level.rank]

theorem said_climb_next {level above : Level}
    (step : level.next = some above) :
    (climb attached config above).said =
      (climb attached config level).said ++ rung attached config above := by
  rw [climb_next step]
  cases attached <;> cases level <;> cases step <;>
    simp [performAll, Level.actions, perform, rung, hasTold_climb,
      Level.le_def, Level.rank]

theorem performAll_append (level : Level) (telling : Telling)
    (actions : List Action) (action : Action) :
    performAll attached config level telling (actions ++ [action]) =
      (performAll attached config level telling actions).perform attached
        config level action := by
  simp [performAll]

theorem performAll_of_allStop (level : Level) (telling : Telling)
    {actions : List Action} (stops : ∀ action ∈ actions, action.mayStop = true) :
    performAll attached config level telling actions = telling := by
  induction actions with
  | nil => rfl
  | cons action actions ih =>
      have silent : telling.perform attached config level action = telling := by
        have stop := stops action (by simp)
        cases action <;> first | rfl | contradiction
      rw [performAll, List.foldl_cons, silent]
      exact ih fun later member => stops later (by simp [member])

/-- Whatever may stop a sub-step stands at its beginning. -/
theorem pairwise_mayStop (level : Level) :
    level.actions.Pairwise fun earlier later =>
      later.mayStop = true → earlier.mayStop = true := by
  cases level <;> decide

/-- Before an action that may stop the sub-step, the sub-step says nothing. -/
theorem performAll_of_mayStop {level : Level} {done rest : List Action}
    {action : Action} (stops : action.mayStop = true)
    (split : done ++ action :: rest = level.actions) (telling : Telling) :
    performAll attached config level telling done = telling := by
  have ordered := pairwise_mayStop level
  rw [← split, List.pairwise_append] at ordered
  exact performAll_of_allStop level telling fun earlier member =>
    ordered.2.2 earlier member action (by simp) stops

/-- After the initializer, the sub-step has said nothing yet. -/
theorem performAll_of_initialized {done rest : List Action}
    (split : done ++ .runInitializer :: rest = Level.active.actions)
    (telling : Telling) :
    performAll attached config .active telling (done ++ [.runInitializer]) =
      telling := by
  rw [performAll_append, performAll_of_mayStop rfl split]
  rfl

end Telling

namespace World

variable (world : World) (key : UnitKey) (telling : Telling) (level : Level)
  (action : Action)

theorem said_perform
    (agrees : telling.Matches (world.unit key).latches) :
    (telling.perform (world.sinksOf key).isDebuggerAttached
      (world.unit key).sentConfig level action).said =
      telling.said ++ world.actionNotices key level action := by
  have profiler := agrees .profiler (by decide)
  have tracing := agrees .tracing (by decide)
  have debugger := agrees .debugger (by decide)
  have debuggerModule := agrees .debuggerModule (by decide)
  cases action with
  | announceProfiler =>
      rw [Telling.perform, Telling.said_once, actionNotices, profiler]
  | announceTracing =>
      rw [Telling.perform, Telling.said_once, actionNotices, tracing]
  | announceDebugger =>
      have covered : AttachFlags.assemblyLoad.contains .assemblyLoad = true := by
        decide
      simp only [Telling.perform, actionNotices, debugger, loadNotices,
        debuggerModule, covered, if_true]
      cases told : telling.hasTold .debugger with
      | true => simp
      | false =>
          cases (world.sinksOf key).isDebuggerAttached with
          | false => simp
          | true => simp [told]
  | _ => simp [Telling.perform, actionNotices]

theorem latches_perform_of_unclaimed (unclaimed : action.claims = false) :
    ((world.perform key action).1.unit key).latches =
      (world.unit key).latches := by
  by_cases publishes : action = .publish
  · subst publishes
    simp [perform, LoadUnit.raiseLevel]
  · exact ((alike_perform world key publishes unclaimed).unit key).latches

theorem isSet_perform (kind : ListenerKind) :
    ((world.perform key action).1.unit key).latches.isSet kind =
      ((world.unit key).latches.isSet kind || match action with
        | .announceProfiler => decide (kind = .profiler)
        | .announceTracing => decide (kind = .tracing)
        | .announceDebugger => decide (kind = .debugger) ||
            (decide (kind = .debuggerModule) &&
              !(world.unit key).latches.isSet .debugger &&
              (world.sinksOf key).isDebuggerAttached)
        | _ => false) := by
  cases claims : action.claims with
  | false =>
      rw [latches_perform_of_unclaimed world key action claims]
      cases action <;> simp [Action.claims] at claims ⊢
  | true =>
      cases action with
      | announceProfiler =>
          change ((world.once key .profiler
            fun next => next.tellProfiler key .ok).unit key).latches.isSet _ = _
          rw [unit_once _ _ _ .profiler fun _ => unit_tellProfiler _ _ _ _,
            unit_claim, if_pos rfl]
          simp [eq_comm]
      | announceTracing =>
          change ((world.once key .tracing
            fun next => next.tellTracing key .ok).unit key).latches.isSet _ = _
          rw [unit_once _ _ _ .tracing fun _ => unit_tellTracing _ _ _ _,
            unit_claim, if_pos rfl]
          simp [eq_comm]
      | announceDebugger =>
          rw [← Bool.or_assoc]
          exact isSet_announceDebugger world key kind
      | _ => simp [Action.claims] at claims

theorem matches_perform
    (agrees : telling.Matches (world.unit key).latches) :
    (telling.perform (world.sinksOf key).isDebuggerAttached
      (world.unit key).sentConfig level action).Matches
      ((world.perform key action).1.unit key).latches := by
  intro kind other
  have before := agrees kind other
  have debugger := agrees .debugger (by decide)
  rw [isSet_perform, before]
  cases action with
  | announceProfiler | announceTracing => simp [Telling.perform, eq_comm]
  | announceDebugger =>
      rw [debugger]
      simp only [Telling.perform]
      cases told : telling.hasTold .debugger with
      | true => by_cases same : kind = .debugger <;> simp [same, told]
      | false =>
          cases (world.sinksOf key).isDebuggerAttached <;>
            simp [eq_comm, Bool.or_assoc]
  | _ => simp [Telling.perform, Telling.hasTold]

theorem isSet_host_perform :
    ((world.perform key action).1.unit key).latches.isSet .hostLoadEvent =
      (world.unit key).latches.isSet .hostLoadEvent := by
  rw [isSet_perform]
  cases action <;> simp

end World

end LoadLadder
