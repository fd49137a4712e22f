import LoadLadder.Level

/-!
# Command-line arguments

What the arguments of the command mean.  Three flags may stand in front of the subcommand or after
it, once in each place.  Without a subcommand the levels are listed.  Reading goes from left to
right and stops at the first argument that makes no sense or that asks for help.
-/

namespace LoadLadder.CommandLine

/-- How loading is asked for. -/
structure LoadOptions where
  target : Level := .active
  parallel : Bool := false
  /-- Running code in a unit that is not activated is an error. -/
  strict : Bool := false
  /-- Every type of a unit is loaded when it is activated. -/
  expand : Bool := false
  deriving DecidableEq, Repr, Inhabited

/-- What the command is to do. -/
inductive Command
  | load (manifest : String) (options : LoadOptions)
  | blob (bytes : List String)
  | levels
  deriving DecidableEq, Repr

/-- The flags that concern every subcommand. -/
structure Flags where
  verbose : Bool := false
  quiet : Bool := false
  jsonMode : Bool := false
  deriving DecidableEq, Repr, Inhabited

def Flags.union (left right : Flags) : Flags where
  verbose := left.verbose || right.verbose
  quiet := left.quiet || right.quiet
  jsonMode := left.jsonMode || right.jsonMode

/-- What the arguments ask for. -/
structure Invocation where
  flags : Flags
  command : Command
  deriving DecidableEq, Repr

/-- Why there is nothing to carry out. -/
inductive Stop
  | help
  | usage
  deriving DecidableEq, Repr

/-- The exit code of a command that stops at its arguments. -/
def Stop.exitCode : Stop → Nat
  | help => 0
  | usage => 2

/-- The subcommands that can be called. -/
inductive Subcommand
  | load
  | blob
  | levels
  deriving DecidableEq, Repr

def Subcommand.ofName? : String → Option Subcommand
  | "load" => some load
  | "blob" => some blob
  | "levels" => some levels
  | _ => none

/-- The options and flags. -/
inductive Setting
  | verbose
  | quiet
  | jsonMode
  | help
  | version
  | manifest
  | target
  | parallel
  | strict
  | expand
  deriving DecidableEq, Repr

namespace Setting

def ofLong? : String → Option Setting
  | "verbose" => some verbose
  | "quiet" => some quiet
  | "json-mode" => some jsonMode
  | "help" => some help
  | "version" => some version
  | "manifest" => some manifest
  | "target" => some target
  | "parallel" => some parallel
  | "strict" => some strict
  | "expand" => some expand
  | _ => none

def ofShort? : Char → Option Setting
  | 'v' => some verbose
  | 'q' => some quiet
  | 'h' => some help
  | 'V' => some version
  | 'm' => some manifest
  | 't' => some target
  | _ => none

/-- The setting can be used at the top, where there is no subcommand, or in a subcommand. -/
def isKnownIn (place : Option Subcommand) : Setting → Bool
  | verbose => true
  | quiet => true
  | jsonMode => true
  | help => true
  | version => place = none
  | _ => place = some .load

def takesValue (setting : Setting) : Bool :=
  setting = manifest || setting = target

end Setting

/-- What has been read in one place, at the top or in a subcommand. -/
structure Reading where
  given : List Setting := []
  manifest : String := ""
  target : Level := .active
  /-- The arguments that are neither settings nor their values. -/
  words : List String := []
  deriving Repr

namespace Reading

def flags (reading : Reading) : Flags where
  verbose := reading.given.contains .verbose
  quiet := reading.given.contains .quiet
  jsonMode := reading.given.contains .jsonMode

/-- Notes a setting without a value; it may be given once. -/
def switch (reading : Reading) (setting : Setting) : Except Stop Reading :=
  if setting = .help || setting = .version then .error .help
  else if reading.given.contains setting then .error .usage
  else .ok { reading with given := setting :: reading.given }

/-- Notes a setting with its value; it may be given once. -/
def assign (reading : Reading) (setting : Setting) (value : String) : Except Stop Reading :=
  if reading.given.contains setting then .error .usage
  else
    let reading := { reading with given := setting :: reading.given }
    if setting = .manifest then
      if value.isEmpty then .error .usage else .ok { reading with manifest := value }
    else
      match Level.parse? value with
      | some level => .ok { reading with target := level }
      | none => .error .usage

end Reading

/-- What an argument leaves open. -/
inductive Open
  | nothing
  | value (setting : Setting)
  deriving Repr

/-- Reads a cluster of letters after a single dash.  A letter that takes a value takes the rest of
the cluster, without an equals sign in front of it. -/
def readCluster (place : Option Subcommand) :
    Reading → List Char → Except Stop (Reading × Open)
  | reading, [] => .ok (reading, .nothing)
  | reading, letter :: rest =>
      match (Setting.ofShort? letter).filter fun setting => setting.isKnownIn place with
      | none => .error .usage
      | some setting =>
          if setting.takesValue then
            match rest with
            | [] => .ok (reading, .value setting)
            | '=' :: value =>
                (reading.assign setting (String.ofList value)).map fun reading =>
                  (reading, .nothing)
            | value =>
                (reading.assign setting (String.ofList value)).map fun reading =>
                  (reading, .nothing)
          else
            match reading.switch setting with
            | .ok reading => readCluster place reading rest
            | .error stop => .error stop

/-- Reads what follows two dashes: a long name, perhaps with an equals sign and a value. -/
def readLong (place : Option Subcommand) (reading : Reading) (chars : List Char) :
    Except Stop (Reading × Open) :=
  let (name, rest) := chars.span (· != '=')
  match (Setting.ofLong? (String.ofList name)).filter fun setting => setting.isKnownIn place with
  | none => .error .usage
  | some setting =>
      match setting.takesValue, rest with
      | true, [] => .ok (reading, .value setting)
      | true, _ :: value =>
          (reading.assign setting (String.ofList value)).map fun reading => (reading, .nothing)
      | false, [] => (reading.switch setting).map fun reading => (reading, .nothing)
      | false, _ :: _ => .error .usage

/-- The shape of an argument. -/
inductive Shape
  | endOfSettings
  | long (chars : List Char)
  | cluster (chars : List Char)
  | word
  deriving Repr

def shapeOf (argument : String) : Shape :=
  match argument.toList with
  | ['-', '-'] => .endOfSettings
  | '-' :: '-' :: chars => .long chars
  | ['-'] => .word
  | '-' :: chars => .cluster chars
  | _ => .word

/-- Reads one argument that is not a word, nor a value, nor the end of the settings. -/
def readSetting (place : Option Subcommand) (reading : Reading) : Shape →
    Except Stop (Reading × Open)
  | .long chars => readLong place reading chars
  | .cluster chars => readCluster place reading chars
  | _ => .error .usage

/-- Reads the arguments of a subcommand.  Only `blob` takes words. -/
def readSubcommand (place : Subcommand) :
    Open → Reading → List String → Except Stop Reading
  | .nothing, reading, [] => .ok reading
  | .value _, _, [] => .error .usage
  | .value setting, reading, argument :: arguments =>
      match shapeOf argument with
      | .word =>
          match reading.assign setting argument with
          | .ok reading => readSubcommand place .nothing reading arguments
          | .error stop => .error stop
      | _ => .error .usage
  | .nothing, reading, argument :: arguments =>
      match shapeOf argument with
      | .word =>
          if place = .blob then
            readSubcommand place .nothing { reading with words := reading.words ++ [argument] }
              arguments
          else .error .usage
      | .endOfSettings =>
          if place = .blob then .ok { reading with words := reading.words ++ arguments }
          else if arguments.isEmpty then .ok reading
          else .error .usage
      | shape =>
          match readSetting (some place) reading shape with
          | .ok (reading, rest) => readSubcommand place rest reading arguments
          | .error stop => .error stop

/-- The command that the arguments of a subcommand spell. -/
def commandOf (place : Subcommand) (reading : Reading) : Except Stop Command :=
  match place with
  | .levels => .ok .levels
  | .blob => .ok (.blob reading.words)
  | .load =>
      if reading.given.contains .manifest then
        .ok (.load reading.manifest {
          target := reading.target
          parallel := reading.given.contains .parallel
          strict := reading.given.contains .strict
          expand := reading.given.contains .expand })
      else .error .usage

/-- Help is given on the command, or on the one subcommand that is named. -/
def helpOn : List String → Stop
  | [] => .help
  | [topic] => if topic == "help" || (Subcommand.ofName? topic).isSome then .help else .usage
  | _ => .usage

def readFrom : Reading → List String → Except Stop Invocation
  | reading, [] => .ok { flags := reading.flags, command := .levels }
  | reading, argument :: arguments =>
      match shapeOf argument with
      | .word =>
          if argument == "help" then .error (helpOn arguments)
          else
            match Subcommand.ofName? argument with
            | none => .error .usage
            | some place =>
                match readSubcommand place .nothing {} arguments with
                | .error stop => .error stop
                | .ok inner =>
                    (commandOf place inner).map fun command =>
                      { flags := reading.flags.union inner.flags, command }
      | .endOfSettings =>
          if arguments.isEmpty then .ok { flags := reading.flags, command := .levels }
          else .error .usage
      | shape =>
          match readSetting none reading shape with
          | .ok (reading, _) => readFrom reading arguments
          | .error stop => .error stop

def readArguments (arguments : List String) : Except Stop Invocation :=
  readFrom {} arguments

end LoadLadder.CommandLine
