import LoadLadder.Document.Node

/-!
# Tables of TOML

Assembling the statements of a document.  A table may be begun by a longer header, by dotted keys,
or by a header of its own, and what may still be added to it depends on which: a table is opened by
a header at most once, and dotted keys add only to what dotted keys began.
-/

namespace LoadLadder.Toml

/-- How a table came to be. -/
inductive Origin
  | implied
  | dotted
  | opened
  deriving DecidableEq, Repr

/-- A value, a table, or an array of tables. -/
inductive Tree
  | value (node : Node)
  | table (origin : Origin) (entries : List (String × Tree))
  /-- The table that was opened last, and those before it, latest first. -/
  | tables (latest : List (String × Tree)) (earlier : List (List (String × Tree)))
  deriving Repr

/-- The entries of a table. -/
abbrev Entries := List (String × Tree)

namespace Entries

def put (key : String) (tree : Tree) : Entries → Entries
  | [] => [(key, tree)]
  | entry :: entries =>
      if entry.1 = key then (key, tree) :: entries else entry :: put key tree entries

def assign (value : Node) : (path : List String) → Entries → Option Entries
  | [], _ => none
  | [key], entries =>
      if (entries.lookup key).isSome then none else some (put key (.value value) entries)
  | key :: next :: path, entries =>
      match entries.lookup key with
      | none =>
          (assign value (next :: path) []).map fun inner => put key (.table .dotted inner) entries
      | some (.table origin inner) =>
          if origin = .opened || (path.isEmpty && origin = .implied) then none
          else
            (assign value (next :: path) inner).map fun inner =>
              put key (.table origin inner) entries
      | some (.tables latest earlier) =>
          if path.isEmpty then none
          else
            (assign value (next :: path) latest).map fun latest =>
              put key (.tables latest earlier) entries
      | some (.value _) => none

def changeAt (change : Entries → Option Entries) : (path : List String) → Entries → Option Entries
  | [], entries => change entries
  | key :: path, entries =>
      match entries.lookup key with
      | none => (changeAt change path []).map fun inner => put key (.table .implied inner) entries
      | some (.table origin inner) =>
          (changeAt change path inner).map fun inner => put key (.table origin inner) entries
      | some (.tables latest earlier) =>
          (changeAt change path latest).map fun latest => put key (.tables latest earlier) entries
      | some (.value _) => none

def openTable (key : String) (entries : Entries) : Option Entries :=
  match entries.lookup key with
  | none => some (put key (.table .opened []) entries)
  | some (.table .implied inner) => some (put key (.table .opened inner) entries)
  | _ => none

def openNext (key : String) (entries : Entries) : Option Entries :=
  match entries.lookup key with
  | none => some (put key (.tables [] []) entries)
  | some (.tables latest earlier) => some (put key (.tables [] (latest :: earlier)) entries)
  | _ => none

end Entries

mutual

def Tree.toNode : Tree → Node
  | .value node => node
  | .table _ entries => .table (Entries.toNodes entries)
  | .tables latest earlier => .list (Entries.toTables earlier [.table (Entries.toNodes latest)])

def Entries.toNodes : List (String × Tree) → List (String × Node)
  | [] => []
  | (key, tree) :: entries => (key, tree.toNode) :: Entries.toNodes entries

/-- Tables in the order in which they were opened, in front of others. -/
def Entries.toTables : List (List (String × Tree)) → List Node → List Node
  | [], later => later
  | entries :: earlier, later =>
      Entries.toTables earlier (.table (Entries.toNodes entries) :: later)

end

/-- A statement of a document. -/
inductive Statement
  | assign (path : List String) (value : Node)
  | table (path : List String)
  | tables (path : List String)
  deriving Repr

/-- A document under assembly: its tables, and the path of the one that was opened last. -/
structure Assembly where
  root : Entries := []
  current : List String := []
  deriving Repr

namespace Assembly

def add (assembly : Assembly) : Statement → Option Assembly
  | .assign path value =>
      (assembly.root.changeAt (Entries.assign value path) assembly.current).map fun root =>
        { assembly with root }
  | .table path =>
      match path.getLast? with
      | none => none
      | some key =>
          (assembly.root.changeAt (Entries.openTable key) path.dropLast).map fun root =>
            { root, current := path }
  | .tables path =>
      match path.getLast? with
      | none => none
      | some key =>
          (assembly.root.changeAt (Entries.openNext key) path.dropLast).map fun root =>
            { root, current := path }

def addAll : Assembly → List Statement → Option Assembly
  | assembly, [] => some assembly
  | assembly, statement :: statements =>
      match assembly.add statement with
      | some assembly => addAll assembly statements
      | none => none

end Assembly

def tableOf? (statements : List Statement) : Option Node :=
  (Assembly.addAll {} statements).map fun assembly => .table (Entries.toNodes assembly.root)

end LoadLadder.Toml
