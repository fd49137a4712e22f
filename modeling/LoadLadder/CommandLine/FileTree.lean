/-!
# Files

What a path leads to, and a working directory that is held in memory.  Paths are resolved step by
step: every step but the last must lead to a directory, and a path ends where its last step leads.
-/

namespace LoadLadder.CommandLine

/-- What a path leads to. -/
inductive Destination
  | nowhere (reason : String)
  | irregular
  /-- To a regular file, with the shortest path that leads there. -/
  | file (canonical : String) (content : ByteArray)

/-- A way to resolve paths. -/
abbrev Resolver := String → Destination

/-- An entry of a directory. -/
inductive FileEntry
  | file (content : ByteArray)
  | directory

/-- A working directory with everything below it.  Entries are named by their paths from there, and
the directories that such a path passes through exist. -/
structure FileTree where
  home : String
  entries : List (List String × FileEntry)

namespace FileTree

/-- The steps of a path.  Empty steps and single dots lead nowhere else. -/
def steps (path : String) : List String :=
  (path.splitOn "/").filter fun step => !step.isEmpty && step != "."

def wantsDirectory (path : String) : Bool :=
  match (path.splitOn "/").getLast? with
  | some last => last.isEmpty || last == "."
  | none => false

def entry? (tree : FileTree) (place : List String) : Option FileEntry :=
  match tree.entries.lookup place with
  | some entry => some entry
  | none =>
      if place.isEmpty || tree.entries.any fun entry => place.isPrefixOf entry.1 then
        some .directory
      else none

/-- The longest name of a file, in bytes. -/
def nameLimit : Nat := 255

/-- The longest path, in bytes, with the mark that ends it. -/
def pathLimit : Nat := 4096

def missing : Destination := .nowhere "No such file or directory (os error 2)"

def notDirectory : Destination := .nowhere "Not a directory (os error 20)"

def tooLong : Destination := .nowhere "File name too long (os error 36)"

def nullCharacter : Destination := .nowhere "file name contained an unexpected NUL byte"

/-- The length of the path to a place below the working directory, in bytes. -/
def lengthTo (tree : FileTree) (place : List String) : Nat :=
  place.foldl (fun length step => length + 1 + step.utf8ByteSize) tree.home.utf8ByteSize

/-- Follows steps from a place below the working directory, or from so many directories above it.
A step is taken only after those in front of it have led somewhere, so of two faults the first one
counts.  Only the path to the place reached so far has a longest length, however many steps led
there. -/
def follow (tree : FileTree) (wantsDirectory : Bool) :
    (above : Nat) → (place : List String) → List String → Destination
  | above, place, [] =>
      if 0 < above then .irregular
      else
        match tree.entry? place with
        | none => missing
        | some .directory => .irregular
        | some (.file content) =>
            if wantsDirectory then notDirectory
            else .file ("/".intercalate (tree.home :: place)) content
  | above, place, step :: steps =>
      if 0 < above then
        if step == ".." then follow tree wantsDirectory (above + 1) place steps
        else if nameLimit < step.utf8ByteSize then tooLong
        else missing
      else
        match tree.entry? place with
        | none => missing
        | some (.file _) =>
            if pathLimit ≤ tree.lengthTo (place ++ [step]) then tooLong else notDirectory
        | some .directory =>
            if step == ".." then
              if place.isEmpty then follow tree wantsDirectory 1 [] steps
              else follow tree wantsDirectory 0 place.dropLast steps
            else if nameLimit < step.utf8ByteSize then tooLong
            else follow tree wantsDirectory 0 (place ++ [step]) steps

/-- What a path leads to.  Of what lies outside the working directory, only the directories above it
are known; a path from the root starts in the uppermost of them. -/
def resolve (tree : FileTree) : Resolver := fun path =>
  if path.contains '\x00' then nullCharacter
  else if path.isEmpty then missing
  else if path.startsWith "/" then tree.follow (wantsDirectory path) 1 [] (steps path)
  else tree.follow (wantsDirectory path) 0 [] (steps path)

end FileTree

end LoadLadder.CommandLine
