import LoadLadder.Document.Node
import LoadLadder.Text.Digits

/-!
# Reading JSON

A node from a JSON text.  The reader is strict: numbers have no superfluous zeros, texts hold no
control characters, there are no trailing commas, and nothing but blanks follows the document.  A
text whose escapes denote no characters is accepted, but is no text: fields that hold it are refused
and unknown fields that hold it are ignored.
-/

namespace LoadLadder.Json

def isBlank (char : Char) : Bool :=
  char == ' ' || char == '\n' || char == '\t' || char == '\r'

def skipBlank (chars : List Char) : List Char :=
  chars.dropWhile isBlank

/-- A piece of a quoted text: a character, or a code unit that was spelled in hexadecimal. -/
inductive Piece
  | char (char : Char)
  | codeUnit (unit : Nat)
  deriving Repr

def escaped? : Char → Option Char
  | '\"' => some '\"'
  | '\\' => some '\\'
  | '/' => some '/'
  | 'b' => some '\x08'
  | 'f' => some '\x0c'
  | 'n' => some '\n'
  | 'r' => some '\r'
  | 't' => some '\t'
  | _ => none

def codeUnit? (a b c d : Char) : Option Nat := do
  let a ← Text.digitValue? 16 a
  let b ← Text.digitValue? 16 b
  let c ← Text.digitValue? 16 c
  let d ← Text.digitValue? 16 d
  return 16 * (16 * (16 * a + b) + c) + d

/-- The pieces up to the closing quote, and what follows it. -/
def readPieces : List Char → Option (List Piece × List Char)
  | [] => none
  | '\"' :: rest => some ([], rest)
  | '\\' :: 'u' :: a :: b :: c :: d :: rest =>
      match codeUnit? a b c d, readPieces rest with
      | some unit, some (pieces, rest) => some (.codeUnit unit :: pieces, rest)
      | _, _ => none
  | '\\' :: letter :: rest =>
      match escaped? letter, readPieces rest with
      | some char, some (pieces, rest) => some (.char char :: pieces, rest)
      | _, _ => none
  | char :: rest =>
      if char.toNat < 0x20 || char == '\\' then none
      else
        match readPieces rest with
        | some (pieces, rest) => some (.char char :: pieces, rest)
        | none => none

def isHighSurrogate (unit : Nat) : Bool :=
  0xD800 ≤ unit && unit < 0xDC00

def isLowSurrogate (unit : Nat) : Bool :=
  0xDC00 ≤ unit && unit < 0xE000

/-- The characters of a text; two code units that form a pair denote one character. -/
def assemble : List Piece → Option (List Char)
  | [] => some []
  | .char char :: pieces => (assemble pieces).map fun chars => char :: chars
  | .codeUnit unit :: pieces =>
      if isHighSurrogate unit then
        match pieces with
        | .codeUnit low :: pieces =>
            if isLowSurrogate low then
              let code := 0x10000 + 0x400 * (unit - 0xD800) + (low - 0xDC00)
              (assemble pieces).map fun chars => Char.ofNat code :: chars
            else none
        | _ => none
      else if isLowSurrogate unit then none
      else (assemble pieces).map fun chars => Char.ofNat unit :: chars

/-- A text after its opening quote; it is missing if its escapes denote no characters. -/
def readText (chars : List Char) : Option (Option String × List Char) :=
  (readPieces chars).map fun (pieces, rest) => ((assemble pieces).map String.ofList, rest)

/-- The digits at the front of a text; there must be one. -/
def readDigits (chars : List Char) : Option (List Char × List Char) :=
  let (digits, rest) := chars.span Char.isDigit
  if digits.isEmpty then none else some (digits, rest)

/-- What follows the fraction of a number, and whether there was one. -/
def skipFraction : List Char → Option (Bool × List Char)
  | '.' :: rest => (readDigits rest).map fun (_, rest) => (true, rest)
  | chars => some (false, chars)

/-- What follows the exponent of a number, and whether there was one. -/
def skipExponent : List Char → Option (Bool × List Char)
  | char :: rest =>
      if char == 'e' || char == 'E' then
        let unsigned := match rest with
          | '+' :: rest => rest
          | '-' :: rest => rest
          | rest => rest
        (readDigits unsigned).map fun (_, rest) => (true, rest)
      else some (false, char :: rest)
  | [] => some (false, [])

def isCanonical : List Char → Bool
  | ['0'] => true
  | '0' :: _ => false
  | _ => true

/-- A number without its sign.  It is an integer if it has neither fraction nor exponent; zero with
a minus sign is none either. -/
def readMagnitude (negative : Bool) (chars : List Char) : Option (Node × List Char) := do
  let (digits, rest) ← readDigits chars
  if !isCanonical digits then none
  else
    let (hasFraction, rest) ← skipFraction rest
    let (hasExponent, rest) ← skipExponent rest
    let value := Text.valueOf 10 digits
    if hasFraction || hasExponent || (negative && value == 0) then some (.other, rest)
    else if negative then some (.integer (-value), rest)
    else some (.integer value, rest)

def readNumber : List Char → Option (Node × List Char)
  | '-' :: rest => readMagnitude true rest
  | chars => readMagnitude false chars

/-- A table, unless one of its keys denotes no characters. -/
def tableOf (entries : List (Option String × Node)) : Node :=
  match entries.mapM fun entry => entry.1.map fun key => (key, entry.2) with
  | some entries => .table entries
  | none => .other

mutual

/-- A node at the front of a text, and what follows it. -/
def readNode : (fuel : Nat) → List Char → Option (Node × List Char)
  | 0, _ => none
  | fuel + 1, chars =>
      match skipBlank chars with
      | 'n' :: 'u' :: 'l' :: 'l' :: rest => some (.null, rest)
      | 't' :: 'r' :: 'u' :: 'e' :: rest => some (.boolean true, rest)
      | 'f' :: 'a' :: 'l' :: 's' :: 'e' :: rest => some (.boolean false, rest)
      | '\"' :: rest => (readText rest).map fun (text, rest) => (text.elim .other .text, rest)
      | '[' :: rest =>
          match skipBlank rest with
          | ']' :: rest => some (.list [], rest)
          | rest => (readItems fuel rest).map fun (items, rest) => (.list items, rest)
      | '{' :: rest =>
          match skipBlank rest with
          | '}' :: rest => some (.table [], rest)
          | rest => (readEntries fuel rest).map fun (entries, rest) => (tableOf entries, rest)
      | chars => readNumber chars

def readItems : (fuel : Nat) → List Char → Option (List Node × List Char)
  | 0, _ => none
  | fuel + 1, chars =>
      match readNode fuel chars with
      | none => none
      | some (item, rest) =>
          match skipBlank rest with
          | ']' :: rest => some ([item], rest)
          | ',' :: rest => (readItems fuel rest).map fun (items, rest) => (item :: items, rest)
          | _ => none

def readEntries : (fuel : Nat) → List Char → Option (List (Option String × Node) × List Char)
  | 0, _ => none
  | fuel + 1, chars =>
      match skipBlank chars with
      | '\"' :: rest =>
          match readText rest with
          | none => none
          | some (key, rest) =>
              match skipBlank rest with
              | ':' :: rest =>
                  match readNode fuel rest with
                  | none => none
                  | some (value, rest) =>
                      match skipBlank rest with
                      | '}' :: rest => some ([(key, value)], rest)
                      | ',' :: rest =>
                          (readEntries fuel rest).map fun (entries, rest) =>
                            ((key, value) :: entries, rest)
                      | _ => none
              | _ => none
      | _ => none

end

/-- The node that a text denotes.  Every bracket and every item takes a character, so twice the
length of the text is fuel enough. -/
def read? (text : String) : Option Node :=
  let chars := text.toList
  match readNode (2 * chars.length + 2) chars with
  | some (node, rest) => if (skipBlank rest).isEmpty then some node else none
  | none => none

def decode? {α : Type} [Documented α] (text : String) : Option α :=
  (read? text).bind (Documented.ofNode? .json)

end LoadLadder.Json
