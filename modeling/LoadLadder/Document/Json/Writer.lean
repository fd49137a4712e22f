import LoadLadder.Document.Node
import LoadLadder.Text.Digits

/-!
# Writing JSON

A node as a JSON text, either on one line or with every item on a line of its own.
-/

namespace LoadLadder.Json

/-- Where items are placed. -/
structure Layout where
  /-- What stands in front of an item, and of a closing bracket, at a depth of nesting. -/
  lead : Nat → List Char
  colon : List Char

def Layout.compact : Layout where
  lead _ := []
  colon := [':']

/-- Every item on its own line, indented by two blanks for each level of nesting. -/
def Layout.indented : Layout where
  lead depth := '\n' :: List.replicate (2 * depth) ' '
  colon := [':', ' ']

def escape (char : Char) : List Char :=
  match char with
  | '\"' => ['\\', '\"']
  | '\\' => ['\\', '\\']
  | '\n' => ['\\', 'n']
  | '\r' => ['\\', 'r']
  | '\t' => ['\\', 't']
  | '\x08' => ['\\', 'b']
  | '\x0c' => ['\\', 'f']
  | _ =>
      if char.toNat < 0x20 then '\\' :: 'u' :: Text.hexadecimal Text.lowerDigit 4 char.toNat
      else [char]

def writeText (text : String) : List Char :=
  '\"' :: text.toList.flatMap escape ++ ['\"']

mutual

/-- A node at a depth of nesting.  What no document holds is written like a missing value. -/
def write (layout : Layout) (depth : Nat) : Node → List Char
  | .null => ['n', 'u', 'l', 'l']
  | .other => ['n', 'u', 'l', 'l']
  | .boolean true => ['t', 'r', 'u', 'e']
  | .boolean false => ['f', 'a', 'l', 's', 'e']
  | .integer value => Text.signedDecimal value
  | .text value => writeText value
  | .list [] => ['[', ']']
  | .list (item :: items) =>
      '[' :: layout.lead (depth + 1) ++ write layout (depth + 1) item
        ++ writeItems layout (depth + 1) items ++ layout.lead depth ++ [']']
  | .table [] => ['{', '}']
  | .table ((key, value) :: entries) =>
      '{' :: layout.lead (depth + 1) ++ writeText key ++ layout.colon
        ++ write layout (depth + 1) value ++ writeEntries layout (depth + 1) entries
        ++ layout.lead depth ++ ['}']

def writeItems (layout : Layout) (depth : Nat) : List Node → List Char
  | [] => []
  | item :: items =>
      ',' :: layout.lead depth ++ write layout depth item ++ writeItems layout depth items

def writeEntries (layout : Layout) (depth : Nat) : List (String × Node) → List Char
  | [] => []
  | (key, value) :: entries =>
      ',' :: layout.lead depth ++ writeText key ++ layout.colon ++ write layout depth value
        ++ writeEntries layout depth entries

end

def compact (node : Node) : String :=
  String.ofList (write .compact 0 node)

def indented (node : Node) : String :=
  String.ofList (write .indented 0 node)

end LoadLadder.Json
