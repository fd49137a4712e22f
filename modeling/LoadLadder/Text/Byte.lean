import LoadLadder.Text.Digits
import LoadLadder.Text.Layout

/-!
# Reading bytes

A byte is written in decimal, or in hexadecimal after `0x` or `0X`, with an optional plus sign in
front of the digits and white space around the whole.  Digits are taken from the left, and reading
stops at the first character that is no digit or that carries the value past 255.
-/

namespace LoadLadder.Text

/-- Why a text is not a byte. -/
inductive ByteError
  | empty
  | invalidDigit
  | tooLarge
  deriving DecidableEq, Repr

def ByteError.message : ByteError → String
  | .empty => "cannot parse integer from empty string"
  | .invalidDigit => "invalid digit found in string"
  | .tooLarge => "number too large to fit in target type"

/-- Continues a number with more digits, as long as it stays a byte. -/
def readByteDigits (radix : Nat) : (value : Nat) → List Char → Except ByteError Nat
  | value, [] => .ok value
  | value, char :: chars =>
      match digitValue? radix char with
      | none => .error .invalidDigit
      | some digit =>
          if 255 < radix * value + digit then .error .tooLarge
          else readByteDigits radix (radix * value + digit) chars

/-- Digits after an optional plus sign; a sign alone is no number. -/
def readUnsignedByte (radix : Nat) : List Char → Except ByteError Nat
  | [] => .error .empty
  | ['+'] => .error .invalidDigit
  | '+' :: digits => readByteDigits radix 0 digits
  | digits => readByteDigits radix 0 digits

def readByte (text : String) : Except ByteError UInt8 :=
  let number :=
    match strip text.toList with
    | '0' :: 'x' :: digits => readUnsignedByte 16 digits
    | '0' :: 'X' :: digits => readUnsignedByte 16 digits
    | digits => readUnsignedByte 10 digits
  number.map UInt8.ofNat

end LoadLadder.Text
