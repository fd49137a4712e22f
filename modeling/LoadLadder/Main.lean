import LoadLadder.CommandLine.Execute

/-!
# The command

Reads the arguments, looks up the manifest they name, and prints what the command prints.  Faults
are reported on the error stream, and the exit code tells success from failure.
-/

namespace LoadLadder.CommandLine

def usage : String :=
  Text.ofLines [
    "Usage: ladder [-v] [-q] [--json-mode] [COMMAND]",
    "",
    "Commands:",
    "  load -m MANIFEST [-t LEVEL] [--parallel] [--strict] [--expand]",
    "          Drive every unit of a manifest to a target level",
    "  blob [BYTES]...",
    "          Decode a debuggable attribute blob (decimal or 0x-prefixed bytes)",
    "  levels  List the load levels in order",
    "  help    Print this message"]

def locate (path : String) : IO Destination := do
  try
    let canonical ← IO.FS.realPath path
    let content ← IO.FS.readBinFile path
    return .file (toString canonical) content
  catch error =>
    match error with
    | .noFileOrDirectory .. => return FileTree.missing
    | .inappropriateType .. => return .irregular
    | .illegalOperation .. => return .irregular
    | other => return .nowhere (toString other)

def resolverFor (invocation : Invocation) : IO Resolver := do
  match invocation.command with
  | .load path _ =>
      let destination ← locate path
      return fun _ => destination
  | _ => return fun _ => FileTree.missing

def runCommand (arguments : List String) : IO UInt32 := do
  match readArguments arguments with
  | .error .help =>
      IO.print usage
      return 0
  | .error .usage =>
      IO.eprint usage
      return 2
  | .ok invocation =>
      let completion := execute (← resolverFor invocation) invocation
      IO.print completion.output
      match completion.result with
      | .ok () => return 0
      | .error fault =>
          IO.eprintln ("Error: " ++ fault.message)
          return 1

end LoadLadder.CommandLine

def main (arguments : List String) : IO UInt32 :=
  LoadLadder.CommandLine.runCommand arguments
