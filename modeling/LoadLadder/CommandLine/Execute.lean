import LoadLadder.CommandLine.Arguments
import LoadLadder.CommandLine.FileTree
import LoadLadder.Document.Json.Writer
import LoadLadder.Manifest.Report

/-!
# Carrying out commands

What each subcommand prints, and how it ends.  A load prints its report even when units failed, and
then ends with the first of their faults.
-/

namespace LoadLadder

namespace Manifest

/-- The longest manifest that is read, in bytes. -/
def sizeLimit : Nat := 1024 * 1024

def ofPath (resolve : CommandLine.Resolver) (path : String) : Except Fault Manifest :=
  match resolve path with
  | .nowhere reason => .error (.io (.invalidPath path reason))
  | .irregular => .error (.io (.notRegular path))
  | .file canonical content =>
      if sizeLimit < content.size then .error (.io (.tooLarge content.size sizeLimit))
      else
        match String.fromUTF8? content with
        | none =>
            .error (.io (.unreadable canonical "stream did not contain valid UTF-8"))
        | some source => ofToml source

end Manifest

namespace CommandLine

/-- What was printed, and how the command ended. -/
structure Completion where
  output : String
  result : Except Fault Unit
  deriving Repr

/-- A command that prints nothing and ends with a fault. -/
def Completion.failed (fault : Fault) : Completion :=
  ⟨"", .error fault⟩

def printed (node : Node) : String :=
  Json.indented node ++ "\n"

/-- The settings of a manifest as the options change them.  An option can only turn a setting on. -/
def LoadOptions.apply (options : LoadOptions) (manifest : Manifest) : Manifest :=
  { manifest with
    loader := {
      expandModulesOnLoad := options.expand || manifest.loader.expandModulesOnLoad
      strictActivationChecks := options.strict || manifest.loader.strictActivationChecks } }

def noticeLine? (report : UnitReport) : Option String :=
  report.snapshot.map fun snapshot =>
    "  " ++ report.name ++ ": tracing=" ++ Text.showNat report.tracingEvents ++ " profiler="
      ++ Text.showNat report.profilerEvents ++ " debugger=" ++ Text.showNat report.debuggerLoads
      ++ " notified=[" ++ ", ".intercalate (snapshot.notified.map ListenerKind.title) ++ "]"

def renderLoad (flags : Flags) (report : LoadReport) : String :=
  if flags.jsonMode then printed report.toNode
  else if flags.verbose then
    report.render ++ Text.ofLines (report.units.filterMap noticeLine?)
  else report.render

def load (resolve : Resolver) (flags : Flags) (path : String) (options : LoadOptions) :
    Completion :=
  match Manifest.ofPath resolve path with
  | .error fault => .failed fault
  | .ok manifest =>
      let plan := (options.apply manifest).build
      let report := (plan.load options.target options.parallel).2
      { output := renderLoad flags report
        result := match report.firstFault? with
          | some fault => .error fault
          | none => .ok () }

def readByte (text : String) : Except Fault UInt8 :=
  (Text.readByte text).mapError fun error => .configuration (.invalidByte text error)

def showBool (value : Bool) : String :=
  if value then "true" else "false"

def renderBlob (jsonMode : Bool) (length : Nat) (config : DebuggingConfig) : String :=
  if jsonMode then
    printed (.table [
      ("length", .integer length),
      ("track_jit_info", .boolean config.trackJitInfo),
      ("ignore_symbols", .boolean config.ignoreSymbols),
      ("allow_optimizations", .boolean config.allowOptimizations)])
  else
    Text.ofLines [
      "Debuggable Attribute",
      "====================",
      "Length:              " ++ Text.showNat length,
      "Track JIT info:      " ++ showBool config.trackJitInfo,
      "Ignore symbols:      " ++ showBool config.ignoreSymbols,
      "Allow optimizations: " ++ showBool config.allowOptimizations]

def blob (flags : Flags) (bytes : List String) : Completion :=
  match bytes.mapM readByte with
  | .error fault => .failed fault
  | .ok bytes =>
      match DebuggingConfig.ofBlob (some bytes) with
      | .error fault => .failed fault
      | .ok config => ⟨renderBlob flags.jsonMode bytes.length config, .ok ()⟩

def levels (flags : Flags) : Completion :=
  let output :=
    if flags.jsonMode then
      printed (.list (Level.all.map fun level =>
        .table [("ordinal", .integer level.rank), ("name", .text level.name)]))
    else
      Text.ofLines ("Load Levels" :: "===========" :: Level.all.map fun level =>
        "  " ++ Text.showNat level.rank ++ "  " ++ level.name)
  ⟨output, .ok ()⟩

def execute (resolve : Resolver) (invocation : Invocation) : Completion :=
  match invocation.command with
  | .load manifest options => load resolve invocation.flags manifest options
  | .blob bytes => blob invocation.flags bytes
  | .levels => levels invocation.flags

end CommandLine

end LoadLadder
