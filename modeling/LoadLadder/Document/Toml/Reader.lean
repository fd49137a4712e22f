import LoadLadder.Document.Toml.Scalar
import LoadLadder.Document.Toml.Tree

/-!
# Reading TOML

A node from a TOML text: its statements one by one, and then the tables that they denote.  Arrays
and inline tables may extend over several lines and end with a comma.
-/

namespace LoadLadder.Toml

def nestingLimit : Nat := 80

mutual

/-- A value at the front of a text, and what follows it.  Brackets may be nested so many levels
deep. -/
def readValue : (fuel levels : Nat) → List Char → Option (Node × List Char)
  | 0, _, _ => none
  | fuel + 1, levels, chars =>
      match chars, levels with
      | '\"' :: '\"' :: '\"' :: rest, _ =>
          (readBasicLines (.plain false) [] (skipFirstLineEnd rest)).map fun (text, rest) =>
            (.text text, rest)
      | '\"' :: rest, _ =>
          (readBasic (.plain false) [] rest).map fun (text, rest) => (.text text, rest)
      | '\'' :: '\'' :: '\'' :: rest, _ =>
          (readLiteralLines [] (skipFirstLineEnd rest)).map fun (text, rest) => (.text text, rest)
      | '\'' :: rest, _ => (readLiteral rest).map fun (text, rest) => (.text text, rest)
      | '[' :: _, 0 => none
      | '[' :: rest, levels + 1 => readItems fuel levels [] (skipVoid false rest)
      | '{' :: _, 0 => none
      | '{' :: rest, levels + 1 => readEntries fuel levels [] (skipVoid false rest)
      | chars, _ => readScalar chars

def readItems : (fuel levels : Nat) → (taken : List Node) → List Char →
    Option (Node × List Char)
  | 0, _, _, _ => none
  | _ + 1, _, taken, ']' :: rest => some (.list taken.reverse, rest)
  | fuel + 1, levels, taken, chars =>
      match readValue fuel levels chars with
      | none => none
      | some (item, rest) =>
          match skipVoid false rest with
          | ']' :: rest => some (.list (item :: taken).reverse, rest)
          | ',' :: rest => readItems fuel levels (item :: taken) (skipVoid false rest)
          | _ => none

/-- The entries of an inline table up to its closing brace.  Lines may end between any two parts of
an entry but not within its path. -/
def readEntries : (fuel levels : Nat) → (taken : List Statement) → List Char →
    Option (Node × List Char)
  | 0, _, _, _ => none
  | _ + 1, _, taken, '}' :: rest => (tableOf? taken.reverse).map fun table => (table, rest)
  | fuel + 1, levels, taken, chars =>
      match readPath keyLimit chars with
      | none => none
      | some (path, rest) =>
          match skipVoid false rest with
          | '=' :: rest =>
              match readValue fuel levels (skipVoid false rest) with
              | none => none
              | some (value, rest) =>
                  let taken := .assign path value :: taken
                  match skipVoid false rest with
                  | '}' :: rest => (tableOf? taken.reverse).map fun table => (table, rest)
                  | ',' :: rest => readEntries fuel levels taken (skipVoid false rest)
                  | _ => none
          | _ => none

end

/-- A statement at the front of a text, and what follows it. -/
def readStatement (fuel : Nat) : List Char → Option (Statement × List Char)
  | '[' :: '[' :: rest =>
      match readPath keyLimit rest with
      | some (path, ']' :: ']' :: rest) => some (.tables path, rest)
      | _ => none
  | '[' :: rest =>
      match readPath keyLimit rest with
      | some (path, ']' :: rest) => some (.table path, rest)
      | _ => none
  | chars =>
      match readPath keyLimit chars with
      | some (path, '=' :: rest) =>
          (readValue fuel nestingLimit (skipBlank rest)).map fun (value, rest) =>
            (.assign path value, rest)
      | _ => none

/-- The statements of a document, each on lines of its own. -/
def readStatements : (fuel : Nat) → (taken : List Statement) → List Char → Option (List Statement)
  | 0, _, _ => none
  | fuel + 1, taken, chars =>
      match skipVoid false chars with
      | [] => some taken.reverse
      | chars =>
          match readStatement fuel chars with
          | none => none
          | some (statement, rest) =>
              match endOfLine? rest with
              | none => none
              | some rest => readStatements fuel (statement :: taken) rest

/-- A mark of the encoding in front of a document is no part of it. -/
def skipByteOrderMark : List Char → List Char
  | '\uFEFF' :: rest => rest
  | chars => chars

/-- The node that a text denotes.  Every bracket, item and statement takes a character, so twice the
length of the text is fuel enough. -/
def read? (text : String) : Option Node :=
  let chars := skipByteOrderMark text.toList
  (readStatements (2 * chars.length + 2) [] chars).bind tableOf?

def decode? {α : Type} [Documented α] (text : String) : Option α :=
  (read? text).bind (Documented.ofNode? .toml)

end LoadLadder.Toml
