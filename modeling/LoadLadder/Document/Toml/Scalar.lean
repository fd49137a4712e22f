import LoadLadder.Document.Node
import LoadLadder.Document.Toml.Text

/-!
# Unquoted values of TOML

Truth values and integers, and the shapes of real numbers, dates and times.  The latter are only
recognized: no field of any record here takes them.
-/

namespace LoadLadder.Toml

def isDigitIn (radix : Nat) (char : Char) : Bool :=
  (Text.digitValue? radix char).isSome

/-- Every underscore stands between two digits, given whether the text comes after a digit. -/
def underscoresSeparate (isDigit : Char → Bool) : (afterDigit : Bool) → List Char → Bool
  | _, [] => true
  | afterDigit, '_' :: rest =>
      afterDigit && rest.head?.any isDigit && underscoresSeparate isDigit false rest
  | _, char :: rest => underscoresSeparate isDigit (isDigit char) rest

def groupedValue? (radix : Nat) (chars : List Char) : Option Nat :=
  let digits := chars.filter (· != '_')
  if digits.isEmpty || !digits.all (isDigitIn radix) then none
  else some (Text.valueOf radix digits)

/-- The form of an integer in a radix of its own, after the mark of the radix.  There need not be a
digit. -/
def isRadixForm (radix : Nat) (chars : List Char) : Bool :=
  chars.all (fun char => char == '_' || isDigitIn radix char)
    && underscoresSeparate (isDigitIn radix) false chars

def hasIdleZero (chars : List Char) : Bool :=
  chars.head? == some '0' && 1 < chars.countP Char.isDigit

/-- The form of an integer in decimal, after its sign.  Of what follows the first underscore, the
form only asks that it holds no space and no mark of a real number, and that underscores separate
digits of any radix. -/
def isDecimalForm (chars : List Char) : Bool :=
  match chars.dropWhile Char.isDigit with
  | [] => !chars.isEmpty && !hasIdleZero chars
  | '_' :: rest =>
      chars.head? != some '0'
        && rest.all (fun char => char ∉ [' ', '.', 'e', 'E'])
        && underscoresSeparate (isDigitIn 16) false chars
  | _ => false

def integerNode (value? : Option Int) : Node :=
  match value? with
  | some value => .integer value
  | none => .other

/-- An integer in a radix of its own, after the mark of the radix. -/
def radixInteger? (radix : Nat) (digits : List Char) : Option Node :=
  if isRadixForm radix digits then
    some (integerNode ((groupedValue? radix digits).map Int.ofNat))
  else none

def decimalInteger? (ofMagnitude : Nat → Int) (digits : List Char) : Option Node :=
  if isDecimalForm digits then
    some (integerNode ((groupedValue? 10 digits).map ofMagnitude))
  else none

/-- An integer.  Its form is settled here; whether it has a value matters only to a field that takes
it. -/
def integer? : List Char → Option Node
  | '0' :: 'x' :: digits => radixInteger? 16 digits
  | '0' :: 'o' :: digits => radixInteger? 8 digits
  | '0' :: 'b' :: digits => radixInteger? 2 digits
  | '+' :: digits => decimalInteger? Int.ofNat digits
  | '-' :: digits => decimalInteger? (fun magnitude => -(magnitude : Int)) digits
  | digits => decimalInteger? Int.ofNat digits

def dropSign : List Char → List Char
  | '+' :: rest => rest
  | '-' :: rest => rest
  | chars => chars

/-- The text up to a character and, if the character occurs, the text after it. -/
def cutAt (isMark : Char → Bool) (chars : List Char) : List Char × Option (List Char) :=
  let (front, rest) := chars.span fun char => !isMark char
  (front, rest.tail?)

def isDigitRun (chars : List Char) : Bool :=
  chars.any Char.isDigit && chars.all fun char => char.isDigit || char == '_'

def isReal (chars : List Char) : Bool :=
  let unsigned := dropSign chars
  let (mantissa, exponent?) := cutAt (fun char => char == 'e' || char == 'E') unsigned
  let (whole, fraction?) := cutAt (· == '.') mantissa
  unsigned == ['i', 'n', 'f'] || unsigned == ['n', 'a', 'n']
    || ((fraction?.isSome || exponent?.isSome)
      && isDigitRun whole && !hasIdleZero whole
      && fraction?.all isDigitRun
      && exponent?.all (fun digits => isDigitRun (dropSign digits))
      && underscoresSeparate Char.isDigit false unsigned)

def twoDigits? (a b : Char) : Option Nat := do
  return 10 * (← Text.digitValue? 10 a) + (← Text.digitValue? 10 b)

def daysInMonth (year month : Nat) : Nat :=
  if month == 2 then
    if year % 4 == 0 && (year % 100 != 0 || year % 400 == 0) then 29 else 28
  else if [4, 6, 9, 11].contains month then 30
  else 31

def skipDate : List Char → Option (List Char)
  | a :: b :: c :: d :: '-' :: e :: f :: '-' :: g :: h :: rest => do
      let year := 100 * (← twoDigits? a b) + (← twoDigits? c d)
      let month ← twoDigits? e f
      let day ← twoDigits? g h
      if 1 ≤ month && month ≤ 12 && 1 ≤ day && day ≤ daysInMonth year month then some rest
      else none
  | _ => none

def skipSecondFraction : List Char → Option (List Char)
  | '.' :: rest =>
      let (digits, rest) := rest.span Char.isDigit
      if digits.isEmpty then none else some rest
  | chars => some chars

def skipSeconds : List Char → Option (List Char)
  | ':' :: a :: b :: rest =>
      match twoDigits? a b with
      | some second => if second ≤ 60 then skipSecondFraction rest else none
      | none => none
  | chars => some chars

def skipTime : List Char → Option (List Char)
  | a :: b :: ':' :: c :: d :: rest => do
      let hour ← twoDigits? a b
      let minute ← twoDigits? c d
      if hour ≤ 23 && minute ≤ 59 then skipSeconds rest else none
  | _ => none

/-- The text is an offset from universal time, or there is none. -/
def isOffset : List Char → Bool
  | [] => true
  | ['Z'] => true
  | ['z'] => true
  | sign :: a :: b :: ':' :: c :: d :: [] =>
      (sign == '+' || sign == '-')
        && (twoDigits? a b).any (· ≤ 23) && (twoDigits? c d).any (· ≤ 59)
  | _ => false

def isMoment (chars : List Char) : Bool :=
  match skipDate chars with
  | some [] => true
  | some (mark :: rest) =>
      (mark == 'T' || mark == 't' || mark == ' ') && (skipTime rest).any isOffset
  | none => skipTime chars == some []

/-- A character of an unquoted value: anything but blanks, line ends and marks of the structure. -/
def isScalarChar (char : Char) : Bool :=
  char ∉ ['=', ',', '[', ']', '{', '}', ' ', '\t', '#', '\r', '\n']

def scalar? (chars : List Char) : Option Node :=
  if chars = ['t', 'r', 'u', 'e'] then some (.boolean true)
  else if chars = ['f', 'a', 'l', 's', 'e'] then some (.boolean false)
  else
    match integer? chars with
    | some node => some node
    | none => if isReal chars || isMoment chars then some .other else none

/-- A character that begins a word of an unquoted value. -/
def startsWord (char : Char) : Bool :=
  isScalarChar char && char ∉ ['.', '\"', '\'']

/-- The text of an unquoted value, and what follows it.  Blanks belong to it if a word comes after
them, as in a date and a time. -/
def readScalarText : List Char → List Char × List Char
  | [] => ([], [])
  | char :: rest =>
      if isScalarChar char || (isBlank char && (skipBlank rest).head?.any startsWord) then
        let (text, rest) := readScalarText rest
        (char :: text, rest)
      else ([], char :: rest)

def readScalar (chars : List Char) : Option (Node × List Char) :=
  let (text, rest) := readScalarText chars
  (scalar? text).map fun node => (node, rest)

end LoadLadder.Toml
