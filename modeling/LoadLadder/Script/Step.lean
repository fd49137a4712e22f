import LoadLadder.Operation

/-!
# Scripts

A scripted client: what it does in the foreground, and what it does when it is called back.  A step
is an operation, the making of a unit or a subscription whose callback runs a further script, or a
plain failure.  A step marked as propagating ends its script when it answers a fault, and the fault
becomes the result of the callback.
-/

namespace LoadLadder

/-- A step of a scripted client. -/
inductive Step
  | operation (operation : Operation) (propagates : Bool)
  /-- Makes a unit whose static initializer runs a script. -/
  | create (home : DomainKey) (image : Image) (container : Container) (initializer : List Step)
      (propagates : Bool)
  | subscribe (domain : DomainKey) (tag : String) (steps : List Step) (propagates : Bool)
  | fail (fault : Fault) (propagates : Bool)
  deriving Repr

namespace Step

def name : Step → String
  | operation request _ => request.name
  | create .. => "create"
  | subscribe .. => "subscribe"
  | fail .. => "fail"

def propagates : Step → Bool
  | operation _ propagates => propagates
  | create _ _ _ _ propagates => propagates
  | subscribe _ _ _ propagates => propagates
  | fail _ propagates => propagates

mutual

/-- How many steps a step stands for, its scripts included. -/
def size : Step → Nat
  | create _ _ _ initializer _ => sizeAll initializer + 1
  | subscribe _ _ steps _ => sizeAll steps + 1
  | operation .. => 1
  | fail .. => 1

def sizeAll : List Step → Nat
  | [] => 0
  | step :: steps => size step + sizeAll steps

end

end Step

/-- What the client does after the sub-steps of one level. -/
structure HookEntry where
  level : Level
  unit : Option String
  steps : List Step
  deriving Repr

/-- The client's scheduling hook of a domain. -/
structure HookScript where
  observes : Bool := false
  entries : List HookEntry := []
  fails : Bool := false
  deriving Repr, Inhabited

def HookScript.size (script : HookScript) : Nat :=
  script.entries.foldl (fun total entry => total + Step.sizeAll entry.steps) 0

/-- The client's listener. -/
structure ListenerScript where
  tag : String
  steps : List Step
  deriving Repr, Inhabited

/-- A domain as the client sets it up. -/
structure DomainPlan where
  domain : Domain
  hook : HookScript := {}
  deriving Repr

/-- Domains and the steps that a client takes with them. -/
structure Scenario where
  domains : List DomainPlan
  steps : List Step
  deriving Repr

def Scenario.size (scenario : Scenario) : Nat :=
  scenario.domains.foldl (fun total plan => total + plan.hook.size) (Step.sizeAll scenario.steps)

end LoadLadder
