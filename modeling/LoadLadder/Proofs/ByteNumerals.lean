import LoadLadder.CommandLine.Execute
import LoadLadder.Proofs.Numerals

/-!
# Numerals for bytes

A byte is spelled in decimal, or in hexadecimal after a mark, with an optional plus
sign in front of the digits and white space around the whole.  The reader goes through
the digits once and gives up as soon as the number is too large for a byte.  This file
shows that it reads exactly the numerals of numbers up to 255, however many digits they
have, and refuses everything else with a quotation of the text.
-/

namespace LoadLadder

namespace Text

/-- One digit or more, after an optional plus sign. -/
def SpellsUnsigned (radix : Nat) (text : List Char) (number : Nat) : Prop :=
  ∃ digits, (text = digits ∨ text = '+' :: digits) ∧ digits ≠ [] ∧
    Denotes radix digits number

/-- The numerals of the command line: hexadecimal after `0x` or `0X`, and decimal
otherwise. -/
inductive SpellsNumber : List Char → Nat → Prop
  | hexadecimal {mark : Char} {digits : List Char} {number : Nat}
      (marked : mark = 'x' ∨ mark = 'X') (spells : SpellsUnsigned 16 digits number) :
      SpellsNumber ('0' :: mark :: digits) number
  | decimal {text : List Char} {number : Nat}
      (unmarked : ∀ digits, text ≠ '0' :: 'x' :: digits ∧ text ≠ '0' :: 'X' :: digits)
      (spells : SpellsUnsigned 10 text number) : SpellsNumber text number

variable {radix number : Nat} {char : Char} {digits text : List Char}

theorem denotes_cons {front value : Nat} (narrow : radix ≤ 16)
    (has : digitValue? radix char = some value) :
    (∃ values, List.Forall₂ (IsDigit radix) (char :: digits) values ∧
        extend radix front values = number) ↔
      ∃ values, List.Forall₂ (IsDigit radix) digits values ∧
        extend radix (radix * front + value) values = number := by
  constructor
  · rintro ⟨values, are, same⟩
    cases are with
    | @cons _ first _ rest digit are =>
        rw [(digitValue?_eq_some_iff narrow).mpr digit] at has
        cases has
        exact ⟨rest, are, same⟩
  · rintro ⟨values, are, same⟩
    have digit := (digitValue?_eq_some_iff narrow).mp has
    exact ⟨value :: values, .cons digit are, same⟩

/-- Digits that go on from a byte are read if the number that they make is a byte
still. -/
theorem readByteDigits_eq_ok_iff {front : Nat} (narrow : radix ≤ 16)
    (positive : 0 < radix) (fits : front ≤ 255) :
    readByteDigits radix front digits = .ok number ↔
      number ≤ 255 ∧ ∃ values, List.Forall₂ (IsDigit radix) digits values ∧
        extend radix front values = number := by
  induction digits generalizing front with
  | nil =>
      rw [readByteDigits]
      constructor
      · intro same
        cases same
        exact ⟨fits, [], .nil, rfl⟩
      · rintro ⟨-, values, are, same⟩
        cases are
        exact congrArg Except.ok same
  | cons char digits ih =>
      rw [readByteDigits]
      cases has : digitValue? radix char with
      | none =>
          constructor
          · intro same
            contradiction
          · rintro ⟨-, values, are, same⟩
            cases are with
            | cons digit are =>
                rw [(digitValue?_eq_some_iff narrow).mpr digit] at has
                contradiction
      | some value =>
          rw [denotes_cons narrow has]
          by_cases large : 255 < radix * front + value
          · simp only [large, if_true]
            constructor
            · intro same
              contradiction
            · rintro ⟨small, values, -, same⟩
              have grown := le_extend positive (radix * front + value) values
              omega
          · simp only [large, if_false]
            exact ih (by omega)

theorem readByteDigits_zero_iff (narrow : radix ≤ 16) (positive : 0 < radix) :
    readByteDigits radix 0 digits = .ok number ↔
      number ≤ 255 ∧ Denotes radix digits number := by
  rw [denotes_iff_extend]
  exact readByteDigits_eq_ok_iff narrow positive (by decide)

/-- A sign is no digit. -/
theorem not_denotes_plus (narrow : radix ≤ 16) :
    ¬ Denotes radix ('+' :: digits) number := by
  rintro ⟨values, are, -⟩
  cases are with
  | cons digit are =>
      have has := (digitValue?_eq_some_iff narrow).mpr digit
      have none : digitValue? 16 '+' = none := by decide
      rw [digitValue?_narrow_iff narrow, none] at has
      exact absurd has.1 (by simp)

theorem SpellsUnsigned.unique {first second : Nat} (narrow : radix ≤ 16)
    (one : SpellsUnsigned radix text first) (other : SpellsUnsigned radix text second) :
    first = second := by
  obtain ⟨digits, spelled, -, denotes⟩ := one
  obtain ⟨others, spelledOther, -, denotesOther⟩ := other
  have same : digits = others := by
    rcases spelled with rfl | rfl <;> rcases spelledOther with same | same
    · exact same
    · rw [same] at denotes
      exact absurd denotes (not_denotes_plus narrow)
    · rw [← same] at denotesOther
      exact absurd denotesOther (not_denotes_plus narrow)
    · exact (List.cons.inj same).2
  rw [← valueOf_of_denotes narrow denotes, ← valueOf_of_denotes narrow denotesOther, same]

theorem readUnsignedByte_eq_ok_iff (narrow : radix ≤ 16) (positive : 0 < radix) :
    readUnsignedByte radix text = .ok number ↔
      number ≤ 255 ∧ SpellsUnsigned radix text number := by
  unfold readUnsignedByte
  split
  · constructor
    · intro same
      contradiction
    · rintro ⟨-, digits, rfl | signed, some, -⟩
      · exact absurd rfl some
      · contradiction
  · constructor
    · intro same
      contradiction
    · rintro ⟨-, digits, rfl | signed, some, denotes⟩
      · exact absurd denotes (not_denotes_plus narrow)
      · cases signed
        exact absurd rfl some
  · rename_i digits some
    rw [readByteDigits_zero_iff narrow positive]
    constructor
    · rintro ⟨small, denotes⟩
      have any : digits ≠ [] := fun none => some (by rw [none])
      exact ⟨small, digits, Or.inr rfl, any, denotes⟩
    · rintro ⟨small, other, rfl | signed, any, denotes⟩
      · exact absurd denotes (not_denotes_plus narrow)
      · cases signed
        exact ⟨small, denotes⟩
  · rename_i any single signed
    rw [readByteDigits_zero_iff narrow positive]
    constructor
    · rintro ⟨small, denotes⟩
      exact ⟨small, text, Or.inl rfl, any, denotes⟩
    · rintro ⟨small, digits, rfl | plus, -, denotes⟩
      · exact ⟨small, denotes⟩
      · exact absurd plus (signed digits)

/-- A number that is read is small enough to be kept as a byte. -/
theorem map_readUnsignedByte_iff {byte : UInt8} (narrow : radix ≤ 16)
    (positive : 0 < radix) :
    (readUnsignedByte radix text).map UInt8.ofNat = .ok byte ↔
      SpellsUnsigned radix text byte.toNat := by
  have reads (number : Nat) := @readUnsignedByte_eq_ok_iff radix number text narrow positive
  have bound : byte.toNat ≤ 255 := Nat.le_of_lt_succ byte.toNat_lt
  constructor
  · intro same
    cases read : readUnsignedByte radix text with
    | error error =>
        rw [read] at same
        contradiction
    | ok number =>
        obtain ⟨small, spells⟩ := (reads number).mp read
        have kept : UInt8.ofNat number = byte := by
          rw [read] at same
          exact Except.ok.inj same
        have value : byte.toNat = number := by
          rw [← kept]
          exact UInt8.toNat_ofNat_of_lt (Nat.lt_succ_of_le small)
        rw [value]
        exact spells
  · intro spells
    rw [(reads byte.toNat).mpr ⟨bound, spells⟩]
    exact congrArg Except.ok UInt8.ofNat_toNat

theorem spellsNumber_marked_iff {mark : Char} (marked : mark = 'x' ∨ mark = 'X') :
    SpellsNumber ('0' :: mark :: digits) number ↔ SpellsUnsigned 16 digits number := by
  constructor
  · intro spells
    cases spells with
    | hexadecimal _ spells => exact spells
    | decimal unmarked =>
        rcases marked with rfl | rfl
        · exact absurd rfl (unmarked digits).1
        · exact absurd rfl (unmarked digits).2
  · exact .hexadecimal marked

theorem spellsNumber_unmarked_iff
    (unmarked : ∀ digits, text ≠ '0' :: 'x' :: digits ∧ text ≠ '0' :: 'X' :: digits) :
    SpellsNumber text number ↔ SpellsUnsigned 10 text number := by
  constructor
  · intro spells
    cases spells with
    | @hexadecimal mark digits number marked =>
        rcases marked with rfl | rfl
        · exact absurd rfl (unmarked digits).1
        · exact absurd rfl (unmarked digits).2
    | decimal _ spells => exact spells
  · exact .decimal unmarked

/-- A text spells one number at most. -/
theorem SpellsNumber.unique {first second : Nat} (one : SpellsNumber text first)
    (other : SpellsNumber text second) : first = second := by
  cases one with
  | hexadecimal marked spells =>
      exact spells.unique (by decide) ((spellsNumber_marked_iff marked).mp other)
  | decimal unmarked spells =>
      exact spells.unique (by decide) ((spellsNumber_unmarked_iff unmarked).mp other)

theorem readByte_eq_ok_iff (text : String) (byte : UInt8) :
    readByte text = .ok byte ↔ SpellsNumber (strip text.toList) byte.toNat := by
  unfold readByte
  split
  · rename_i digits stripped
    rw [stripped, spellsNumber_marked_iff (Or.inl rfl)]
    exact map_readUnsignedByte_iff (by decide) (by decide)
  · rename_i digits stripped
    rw [stripped, spellsNumber_marked_iff (Or.inr rfl)]
    exact map_readUnsignedByte_iff (by decide) (by decide)
  · rename_i lower upper
    rw [spellsNumber_unmarked_iff fun digits => ⟨lower digits, upper digits⟩]
    exact map_readUnsignedByte_iff (by decide) (by decide)

end Text

namespace CommandLine

variable {text : String}

theorem readByte_eq_ok_iff {byte : UInt8} :
    readByte text = .ok byte ↔
      Text.SpellsNumber (Text.strip text.toList) byte.toNat := by
  rw [← Text.readByte_eq_ok_iff, readByte]
  cases Text.readByte text <;> simp [Except.mapError]

/-- A byte is read exactly from the numerals of numbers up to 255.  Whatever else there
may be is refused with a quotation of it, the numerals of larger numbers among them,
for no text spells two numbers. -/
theorem readByte_accepts_numerals (text : String) :
    (∀ byte : UInt8, readByte text = .ok byte ↔
      Text.SpellsNumber (Text.strip text.toList) byte.toNat) ∧
    ((∀ byte : UInt8, ¬ Text.SpellsNumber (Text.strip text.toList) byte.toNat) ↔
      ∃ error, readByte text = .error (.configuration (.invalidByte text error)) ∧
        Fault.message (.configuration (.invalidByte text error)) =
          "Configuration error: " ++
            ("Invalid byte '" ++ text ++ "': " ++ error.message)) ∧
    ∀ number, Text.SpellsNumber (Text.strip text.toList) number →
      (∃ byte, readByte text = .ok byte) → number ≤ 255 := by
  refine ⟨fun byte => readByte_eq_ok_iff, ?_, ?_⟩
  · constructor
    · intro unspelled
      cases read : Text.readByte text with
      | ok byte =>
          exact absurd ((Text.readByte_eq_ok_iff text byte).mp read) (unspelled byte)
      | error error =>
          refine ⟨error, ?_, rfl⟩
          rw [readByte, read]
          rfl
    · rintro ⟨error, refused, -⟩ byte spells
      rw [readByte_eq_ok_iff.mpr spells] at refused
      contradiction
  · rintro number spells ⟨byte, read⟩
    rw [spells.unique (readByte_eq_ok_iff.mp read)]
    exact Nat.le_of_lt_succ byte.toNat_lt

/-- Zeros in front, a sign, capitals and white space change nothing. -/
theorem readByte_accepts_numerals_padded :
    readByte "\t0X+000000fF\n" = .ok 255 ∧
      Text.SpellsNumber (Text.strip "\t0X+000000fF\n".toList) 255 ∧ 255 ≤ 255 := by
  have read : readByte "\t0X+000000fF\n" = .ok 255 := by decide +kernel
  have accepts := readByte_accepts_numerals "\t0X+000000fF\n"
  have spells : Text.SpellsNumber (Text.strip "\t0X+000000fF\n".toList) 255 :=
    (accepts.1 255).mp read
  exact ⟨read, spells, accepts.2.2 255 spells ⟨255, read⟩⟩

end CommandLine

end LoadLadder
