/-!
# Documents

The tree that a JSON or TOML document denotes, and the ways in which a record is spelled in it.  A
record is a table with its fields as keys, or a list with its fields in order.  The two formats
differ in little: how a variant without content may be spelled as a table, and whether a list may be
longer than its record.
-/

namespace LoadLadder

/-- A node of a document. -/
inductive Node
  | null
  | boolean (value : Bool)
  | integer (value : Int)
  | text (value : String)
  | list (items : List Node)
  | table (entries : List (String × Node))
  /-- Something that is no value of any field here: a real number, a date, an integer that lacks a
  value, or a text or table with characters that do not exist. -/
  | other
  deriving Repr, Inhabited

/-- What distinguishes the two formats. -/
inductive Dialect
  | json
  | toml
  deriving DecidableEq, Repr

namespace Dialect

def isEmptyContent : Dialect → Node → Bool
  | .json, .null => true
  | .toml, .list [] => true
  | .toml, .table [] => true
  | _, _ => false

/-- A list may have more items than its record has fields. -/
def allowsSurplus : Dialect → Bool
  | .json => false
  | .toml => true

end Dialect

/-- What becomes of keys that name no field. -/
inductive UnknownKeys
  | ignored
  | refused
  deriving DecidableEq, Repr

namespace Node

/-- The value of one field of a table.  The outer option is for a field that is given twice. -/
def field? (entries : List (String × Node)) (name : String) : Option (Option Node) :=
  match entries.filter fun entry => entry.1 == name with
  | [] => some none
  | [entry] => some (some entry.2)
  | _ => none

/-- The values of a record's fields, in the order of their names. -/
def fields? (dialect : Dialect) (unknown : UnknownKeys) (names : List String) :
    Node → Option (List (Option Node))
  | table entries =>
      if unknown = .refused && entries.any fun entry => !names.contains entry.1 then none
      else names.mapM (field? entries)
  | list items =>
      if names.length < items.length && !dialect.allowsSurplus then none
      else some ((items.map some ++ List.replicate names.length none).take names.length)
  | _ => none

def variant? (dialect : Dialect) : Node → Option String
  | text name => some name
  | table [(name, content)] => if dialect.isEmptyContent content then some name else none
  | _ => none

def natural? (bound : Nat) : Node → Option Nat
  | integer (.ofNat number) => if number ≤ bound then some number else none
  | _ => none

end Node

/-- Types whose values can be written to documents and read from them. -/
class Documented (α : Type) where
  toNode : α → Node
  ofNode? : Dialect → Node → Option α

namespace Documented

variable {α : Type} [Documented α]

instance : Documented Bool where
  toNode := .boolean
  ofNode?
    | _, .boolean value => some value
    | _, _ => none

instance : Documented String where
  toNode := .text
  ofNode?
    | _, .text value => some value
    | _, _ => none

instance : Documented UInt8 where
  toNode byte := .integer byte.toNat
  ofNode? _ node := (node.natural? 255).map UInt8.ofNat

instance : Documented (List α) where
  toNode items := .list (items.map toNode)
  ofNode?
    | dialect, .list items => items.mapM (ofNode? dialect)
    | _, _ => none

instance : Documented (Option α) where
  toNode
    | none => .null
    | some value => toNode value
  ofNode?
    | _, .null => some none
    | dialect, node => (ofNode? dialect node).map some

def required (dialect : Dialect) (node? : Option Node) : Option α :=
  node?.bind (ofNode? dialect)

def optional (dialect : Dialect) (default : α) : Option Node → Option α
  | none => some default
  | some node => ofNode? dialect node

end Documented

end LoadLadder
