import LoadLadder.Codes
import LoadLadder.Level
import LoadLadder.Text.Byte

/-!
# Faults

What can go wrong while a unit is loaded, the wording of each fault, and the result code it carries.
The first failure of a unit is kept as a `Cause`; raising it again yields a `Fault.load` that quotes
the cause, so a failure that travels through several units quotes one cause inside another.
-/

namespace LoadLadder

/-- The failure that stopped a unit, as it was when it happened. -/
structure Cause where
  code : ResultCode
  message : String
  unit : String
  level : Level
  deriving DecidableEq, Repr, Inhabited

/-- The wording of a cause: who failed, where, with which code, and why. -/
def Cause.display (cause : Cause) : String :=
  cause.unit ++ " failed at " ++ cause.level.name ++ " (" ++ cause.code.display ++ "): "
    ++ cause.message

/-- An operation that breaks the loader's contract. -/
inductive Breach
  /-- A unit is driven through a domain that did not create it. -/
  | foreignDomain (unit : String) (home through : DomainId)
  | alreadyFailed (unit rejected : String)
  | noSubStep (level : Level)
  | imageNotMapped (unit : String)
  | activatedBeforeLoaded (unit : String)
  /-- Code is about to run in a unit that is not activated. -/
  | notActivated (unit : String) (level : Level)
  | attachInProcess (unit : String)
  | reported (message : String)
  deriving DecidableEq, Repr

def Breach.message : Breach → String
  | .foreignDomain unit home through =>
      unit ++ " belongs to " ++ home.display ++ " but was driven through " ++ through.display
  | .alreadyFailed unit rejected =>
      "error already recorded for " ++ unit ++ "; rejected: " ++ rejected
  | .noSubStep level => "no sub-step leads to " ++ level.name
  | .imageNotMapped unit => "image of " ++ unit ++ " must be loaded before types are"
  | .activatedBeforeLoaded unit => unit ++ " activated before it was loaded"
  | .notActivated unit level => unit ++ " is not activated (level " ++ level.name ++ ")"
  | .attachInProcess unit => "in-process debugger attach requested for " ++ unit
  | .reported message => message

/-- A setting, argument or manifest that makes no sense. -/
inductive Misconfiguration
  | unknownLevel (text : String)
  | invalidByte (text : String) (error : Text.ByteError)
  | malformedManifest
  | blankUnitName
  | duplicateUnit (unit : String)
  | unknownDependency (unit dependency : String)
  /-- A failure is asked for at a level where none can be injected. -/
  | uninjectable (unit : String) (level : Level)
  | reported (message : String)
  deriving DecidableEq, Repr

def Misconfiguration.message : Misconfiguration → String
  | .unknownLevel text => "Unknown load level '" ++ text ++ "'"
  | .invalidByte text error => "Invalid byte '" ++ text ++ "': " ++ error.message
  | .malformedManifest => "Invalid manifest"
  | .blankUnitName => "Unit with empty name"
  | .duplicateUnit unit => "Duplicate unit '" ++ unit ++ "'"
  | .unknownDependency unit dependency =>
      "Unit '" ++ unit ++ "' depends on unknown unit '" ++ dependency ++ "'"
  | .uninjectable unit level =>
      "Unit '" ++ unit ++ "' cannot fail at " ++ level.name ++ "; choose one of "
        ++ ", ".intercalate (Level.failurePoints.map Level.name)
  | .reported message => message

/-- A file that cannot be used. -/
inductive FileTrouble
  | invalidPath (path reason : String)
  /-- The path leads to something that is not a regular file. -/
  | notRegular (path : String)
  | tooLarge (size limit : Nat)
  | unreadable (path reason : String)
  | reported (message : String)
  deriving DecidableEq, Repr

def FileTrouble.message : FileTrouble → String
  | .invalidPath path reason => "Invalid file path '" ++ path ++ "': " ++ reason
  | .notRegular path => "Path '" ++ path ++ "' is not a regular file"
  | .tooLarge size limit =>
      "Manifest size " ++ Text.showNat size ++ " bytes exceeds maximum allowed "
        ++ Text.showNat limit ++ " bytes"
  | .unreadable path reason => "Cannot read '" ++ path ++ "': " ++ reason
  | .reported message => message

/-- Whatever keeps an operation from succeeding. -/
inductive Fault
  /-- A unit failed earlier or just now; its cause is kept. -/
  | load (cause : Cause)
  /-- The debuggable attribute does not start as it must. -/
  | malformedAttribute (length : Nat) (reason : String)
  /-- The unit is below the required level, and nothing has failed. -/
  | loadInProgress (unit : String) (current required : Level)
  | contract (breach : Breach)
  | imageValidation (message : String)
  | step (level : Level) (message : String)
  | configuration (misconfiguration : Misconfiguration)
  | io (trouble : FileTrouble)
  deriving DecidableEq, Repr

namespace Fault

def message : Fault → String
  | load cause => "Load failed: " ++ cause.display
  | malformedAttribute length reason =>
      "Malformed attribute blob (" ++ Text.showNat length ++ " bytes): " ++ reason
  | loadInProgress unit current required =>
      "Load of " ++ unit ++ " still in progress: at " ++ current.name ++ ", " ++ required.name
        ++ " required"
  | contract breach => "Contract violation: " ++ breach.message
  | imageValidation message => "Image validation failed: " ++ message
  | step level message => level.name ++ " step failed: " ++ message
  | configuration misconfiguration => "Configuration error: " ++ misconfiguration.message
  | io trouble => "I/O error: " ++ trouble.message

/-- The code a fault is reported with; a failure raised again keeps the code of its cause. -/
def resultCode : Fault → ResultCode
  | load cause => cause.code
  | malformedAttribute .. => .badImageFormat
  | imageValidation _ => .badImageFormat
  | loadInProgress .. => .loadInProgress
  | contract _ => .contractViolation
  | step .. => .fail
  | configuration _ => .fail
  | io _ => .fail

def cause? : Fault → Option Cause
  | load cause => some cause
  | _ => none

end Fault

/-- The cause that a fault at a level becomes for a unit. -/
def Cause.capture (fault : Fault) (unit : String) (level : Level) : Cause where
  code := fault.resultCode
  message := fault.message
  unit := unit
  level := level

/-- A write-once cell for the cause that stops a unit. -/
structure CauseCell where
  cause : Option Cause := none
  deriving DecidableEq, Repr, Inhabited

namespace CauseCell

def isSet (cell : CauseCell) : Bool :=
  cell.cause.isSome

/-- Keeps the first cause; a later one is rejected and changes nothing. -/
def record (cell : CauseCell) (cause : Cause) : CauseCell × Except Fault Cause :=
  match cell.cause with
  | none => (⟨some cause⟩, .ok cause)
  | some _ => (cell, .error (.contract (.alreadyFailed cause.unit cause.message)))

/-- Raises the kept cause when it keeps a unit at `current` from reaching `target`. -/
def raiseIfBlocking (cell : CauseCell) (current target : Level) : Except Fault Unit :=
  match cell.cause with
  | some cause => if current < target then .error (.load cause) else .ok ()
  | none => .ok ()

end CauseCell

end LoadLadder
