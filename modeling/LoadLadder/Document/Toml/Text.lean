import LoadLadder.Text.Digits

/-!
# Texts and keys of TOML

The characters of a TOML document up to its values: blanks, comments, the four kinds of quoted
texts, and keys.  Control characters other than the tabulator occur nowhere, and lines end with a
line feed that may have a carriage return in front of it.
-/

namespace LoadLadder.Toml

def isBlank (char : Char) : Bool :=
  char == ' ' || char == '\t'

def skipBlank (chars : List Char) : List Char :=
  chars.dropWhile isBlank

/-- A character that may stand in a comment or a quoted text. -/
def isPrintable (char : Char) : Bool :=
  char == '\t' || (0x20 ≤ char.toNat && char.toNat != 0x7F)

/-- What follows blanks, comments and line ends.  An ill-formed comment or line end is left in front
of the result, where nothing can be read from it. -/
def skipVoid : (inComment : Bool) → List Char → List Char
  | _, [] => []
  | _, '\n' :: rest => skipVoid false rest
  | _, '\r' :: '\n' :: rest => skipVoid false rest
  | true, char :: rest => if isPrintable char then skipVoid true rest else char :: rest
  | false, ' ' :: rest => skipVoid false rest
  | false, '\t' :: rest => skipVoid false rest
  | false, '#' :: rest => skipVoid true rest
  | false, char :: rest => char :: rest

/-- What follows the line, if nothing but a comment stands on the rest of it. -/
def endOfLine? (chars : List Char) : Option (List Char) :=
  let rest := match skipBlank chars with
    | '#' :: rest => rest.dropWhile isPrintable
    | rest => rest
  match rest with
  | [] => some []
  | '\n' :: rest => some rest
  | '\r' :: '\n' :: rest => some rest
  | _ => none

/-- What a letter after a backslash means. -/
inductive Escape
  | char (char : Char)
  /-- So many hexadecimal digits of a character's code follow. -/
  | code (digits : Nat)
  deriving Repr

def escape? : Char → Option Escape
  | '\"' => some (.char '\"')
  | '\\' => some (.char '\\')
  | 'b' => some (.char '\x08')
  | 'e' => some (.char '\x1b')
  | 'f' => some (.char '\x0c')
  | 'n' => some (.char '\n')
  | 'r' => some (.char '\r')
  | 't' => some (.char '\t')
  | 'x' => some (.code 2)
  | 'u' => some (.code 4)
  | 'U' => some (.code 8)
  | _ => none

/-- The character of a code, unless the code denotes none. -/
def charOfCode? (code : Nat) : Option Char :=
  if code.isValidChar then some (Char.ofNat code) else none

/-- Where a reader stands within a text in double quotes. -/
inductive TextState
  /-- Between characters.  After a backslash that ended a line, white space is dropped. -/
  | plain (dropping : Bool)
  | escape
  /-- After a backslash and blanks, which must be followed by the end of the line. -/
  | gap
  | code (digits value : Nat)
  deriving Repr

/-- The state after an escape's letter, with the character that the letter adds. -/
def afterLetter? (letter : Char) (taken : List Char) : Option (TextState × List Char) :=
  match escape? letter with
  | some (.char char) => some (.plain false, char :: taken)
  | some (.code digits) => some (.code digits 0, taken)
  | none => none

/-- The state after one more digit of a code, with the character that the code adds. -/
def afterDigit? (digits value : Nat) (char : Char) (taken : List Char) :
    Option (TextState × List Char) := do
  let digit ← Text.digitValue? 16 char
  let value := 16 * value + digit
  if digits ≤ 1 then
    let char ← charOfCode? value
    return (.plain false, char :: taken)
  else return (.code (digits - 1) value, taken)

/-- A text in double quotes on one line, after its opening quote. -/
def readBasic : TextState → (taken : List Char) → List Char → Option (String × List Char)
  | _, _, [] => none
  | .plain _, taken, '\"' :: rest => some (String.ofList taken.reverse, rest)
  | .plain _, taken, '\\' :: rest => readBasic .escape taken rest
  | .plain _, taken, char :: rest =>
      if isPrintable char then readBasic (.plain false) (char :: taken) rest else none
  | .escape, taken, char :: rest =>
      match afterLetter? char taken with
      | some (state, taken) => readBasic state taken rest
      | none => none
  | .code digits value, taken, char :: rest =>
      match afterDigit? digits value char taken with
      | some (state, taken) => readBasic state taken rest
      | none => none
  | .gap, _, _ => none

/-- A text in three double quotes, after its opening quotes.  Up to two quotes in front of the
closing ones belong to the text. -/
def readBasicLines : TextState → (taken : List Char) → List Char → Option (String × List Char)
  | _, _, [] => none
  | .plain true, taken, ' ' :: rest => readBasicLines (.plain true) taken rest
  | .plain true, taken, '\t' :: rest => readBasicLines (.plain true) taken rest
  | .plain true, taken, '\n' :: rest => readBasicLines (.plain true) taken rest
  | .plain true, taken, '\r' :: '\n' :: rest => readBasicLines (.plain true) taken rest
  | .plain _, taken, '\"' :: '\"' :: '\"' :: '\"' :: '\"' :: rest =>
      some (String.ofList ('\"' :: '\"' :: taken).reverse, rest)
  | .plain _, taken, '\"' :: '\"' :: '\"' :: '\"' :: rest =>
      some (String.ofList ('\"' :: taken).reverse, rest)
  | .plain _, taken, '\"' :: '\"' :: '\"' :: rest => some (String.ofList taken.reverse, rest)
  | .plain _, taken, '\\' :: rest => readBasicLines .escape taken rest
  | .plain _, taken, '\r' :: '\n' :: rest =>
      readBasicLines (.plain false) ('\n' :: '\r' :: taken) rest
  | .plain _, taken, char :: rest =>
      if char == '\n' || isPrintable char then
        readBasicLines (.plain false) (char :: taken) rest
      else none
  | .escape, taken, ' ' :: rest => readBasicLines .gap taken rest
  | .escape, taken, '\t' :: rest => readBasicLines .gap taken rest
  | .escape, taken, '\n' :: rest => readBasicLines (.plain true) taken rest
  | .escape, taken, '\r' :: '\n' :: rest => readBasicLines (.plain true) taken rest
  | .escape, taken, char :: rest =>
      match afterLetter? char taken with
      | some (state, taken) => readBasicLines state taken rest
      | none => none
  | .gap, taken, ' ' :: rest => readBasicLines .gap taken rest
  | .gap, taken, '\t' :: rest => readBasicLines .gap taken rest
  | .gap, taken, '\n' :: rest => readBasicLines (.plain true) taken rest
  | .gap, taken, '\r' :: '\n' :: rest => readBasicLines (.plain true) taken rest
  | .gap, _, _ => none
  | .code digits value, taken, char :: rest =>
      match afterDigit? digits value char taken with
      | some (state, taken) => readBasicLines state taken rest
      | none => none

/-- A text in single quotes on one line, after its opening quote. -/
def readLiteral (chars : List Char) : Option (String × List Char) :=
  let (content, rest) := chars.span fun char => isPrintable char && char != '\''
  match rest with
  | '\'' :: rest => some (String.ofList content, rest)
  | _ => none

/-- A text in three single quotes, after its opening quotes. -/
def readLiteralLines : (taken : List Char) → List Char → Option (String × List Char)
  | _, [] => none
  | taken, '\'' :: '\'' :: '\'' :: '\'' :: '\'' :: rest =>
      some (String.ofList ('\'' :: '\'' :: taken).reverse, rest)
  | taken, '\'' :: '\'' :: '\'' :: '\'' :: rest =>
      some (String.ofList ('\'' :: taken).reverse, rest)
  | taken, '\'' :: '\'' :: '\'' :: rest => some (String.ofList taken.reverse, rest)
  | taken, '\r' :: '\n' :: rest => readLiteralLines ('\n' :: '\r' :: taken) rest
  | taken, char :: rest =>
      if char == '\n' || isPrintable char then readLiteralLines (char :: taken) rest else none

/-- A line end right after opening quotes does not belong to the text. -/
def skipFirstLineEnd : List Char → List Char
  | '\n' :: rest => rest
  | '\r' :: '\n' :: rest => rest
  | chars => chars

def isBareKeyChar (char : Char) : Bool :=
  char.isAlphanum || char == '_' || char == '-'

def readKey : List Char → Option (String × List Char)
  | '\"' :: rest => readBasic (.plain false) [] rest
  | '\'' :: rest => readLiteral rest
  | chars =>
      let (key, rest) := chars.span isBareKeyChar
      if key.isEmpty then none else some (String.ofList key, rest)

/-- The most keys that a path may have. -/
def keyLimit : Nat := 80

/-- At most so many keys, joined by dots, and what follows them and the blanks after them. -/
def readPath : (limit : Nat) → List Char → Option (List String × List Char)
  | 0, _ => none
  | limit + 1, chars =>
      match readKey (skipBlank chars) with
      | none => none
      | some (key, rest) =>
          match skipBlank rest with
          | '.' :: rest => (readPath limit rest).map fun (path, rest) => (key :: path, rest)
          | rest => some ([key], rest)

end LoadLadder.Toml
