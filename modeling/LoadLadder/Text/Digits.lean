/-!
# Digits

Writing natural numbers and integers in decimal, fixed-width hexadecimal, and the value of one
digit in a radix of at most sixteen.
-/

namespace LoadLadder.Text

/-- The value of a digit in a radix of at most sixteen; letters count in either case. -/
def digitValue? (radix : Nat) (char : Char) : Option Nat :=
  let code := char.toNat
  let value? : Option Nat :=
    if 48 ≤ code && code ≤ 57 then some (code - 48)
    else if 97 ≤ code && code ≤ 102 then some (code - 87)
    else if 65 ≤ code && code ≤ 70 then some (code - 55)
    else none
  value?.bind fun value => if value < radix then some value else none

theorem digitValue?_lt {radix value : Nat} {char : Char}
    (digit : digitValue? radix char = some value) : value < radix := by
  simp only [digitValue?, Option.bind_eq_some_iff] at digit
  obtain ⟨raw, _, bounded⟩ := digit
  split at bounded
  · cases bounded; assumption
  · simp at bounded

def upperDigit (value : Nat) : Char :=
  if value < 10 then Char.ofNat (48 + value) else Char.ofNat (55 + value)

def lowerDigit (value : Nat) : Char :=
  if value < 10 then Char.ofNat (48 + value) else Char.ofNat (87 + value)

/-- The last `width` hexadecimal digits of a number, most significant first. -/
def hexadecimal (digit : Nat → Char) : (width : Nat) → Nat → List Char
  | 0, _ => []
  | width + 1, number => hexadecimal digit width (number / 16) ++ [digit (number % 16)]

@[simp]
theorem length_hexadecimal (digit : Nat → Char) (width number : Nat) :
    (hexadecimal digit width number).length = width := by
  induction width generalizing number with
  | zero => rfl
  | succ width ih => simp [hexadecimal, ih]

/-- The decimal digits of a number, without leading zeros. -/
def decimal (number : Nat) : List Char :=
  if number < 10 then [lowerDigit number]
  else decimal (number / 10) ++ [lowerDigit (number % 10)]

/-- An integer in decimal, with a minus sign when it is negative. -/
def signedDecimal : Int → List Char
  | .ofNat number => decimal number
  | .negSucc number => '-' :: decimal (number + 1)

/-- The number that a run of digits denotes, read from the left. -/
def valueOf (radix : Nat) (digits : List Char) : Nat :=
  digits.foldl (fun value char => radix * value + (digitValue? radix char).getD 0) 0

def showNat (number : Nat) : String :=
  String.ofList (decimal number)

end LoadLadder.Text
