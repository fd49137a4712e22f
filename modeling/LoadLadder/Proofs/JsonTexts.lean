import LoadLadder.Document.Json.Reader
import LoadLadder.Document.Json.Writer
import LoadLadder.Proofs.Numerals
import Mathlib.Data.List.TakeDrop

/-!
# JSON texts

The reader gives back every node that the writer has written, whichever way the writer
lays it out.  A written node is read in front of any text that cannot be taken for the
rest of a number, so that the items of lists and tables are read one after the other.
-/

namespace LoadLadder

/-- No part of a node is one that documents cannot hold. -/
inductive Node.Whole : Node → Prop
  | null : Whole .null
  | boolean (value : Bool) : Whole (.boolean value)
  | integer (value : Int) : Whole (.integer value)
  | text (value : String) : Whole (.text value)
  | list {items : List Node} (each : ∀ item ∈ items, Whole item) : Whole (.list items)
  | table {entries : List (String × Node)} (each : ∀ entry ∈ entries, Whole entry.2) :
      Whole (.table entries)

theorem mapM_eq_some {α β : Type} {items : List α} {read : α → Option β} (result : α → β)
    (each : ∀ item ∈ items, read item = some (result item)) :
    items.mapM read = some (items.map result) := by
  induction items with
  | nil => rfl
  | cons item items ih =>
      simp only [List.forall_mem_cons] at each
      simp [each.1, ih each.2]

namespace Json

variable {char : Char} {chars blanks rest : List Char} {layout : Layout} {depth fuel : Nat}

/-- Nothing but blanks stands between items and behind colons. -/
structure Layout.Blank (layout : Layout) : Prop where
  lead : ∀ depth, ∀ char ∈ layout.lead depth, isBlank char = true
  colon : ∃ blanks, layout.colon = ':' :: blanks ∧ ∀ char ∈ blanks, isBlank char = true

theorem Layout.blank_compact : Layout.compact.Blank where
  lead depth char member := by simp [Layout.compact] at member
  colon := ⟨[], rfl, by simp⟩

theorem Layout.blank_indented : Layout.indented.Blank where
  lead depth char member := by
    simp only [Layout.indented, List.mem_cons, List.mem_replicate] at member
    rcases member with rfl | ⟨-, rfl⟩ <;> rfl
  colon := ⟨[' '], rfl, by simp [isBlank]⟩

theorem skipBlank_append (blank : ∀ char ∈ blanks, isBlank char = true) :
    skipBlank (blanks ++ rest) = skipBlank rest :=
  List.dropWhile_append_of_pos blank

theorem skipBlank_cons (solid : isBlank char = false) :
    skipBlank (char :: rest) = char :: rest := by
  simp [skipBlank, solid]

theorem readNode_append (blank : ∀ char ∈ blanks, isBlank char = true) :
    readNode fuel (blanks ++ rest) = readNode fuel rest := by
  cases fuel with
  | zero => simp only [readNode]
  | succ fuel => simp only [readNode, skipBlank_append blank]

theorem readItems_append (blank : ∀ char ∈ blanks, isBlank char = true) :
    readItems fuel (blanks ++ rest) = readItems fuel rest := by
  cases fuel with
  | zero => simp only [readItems]
  | succ fuel => simp only [readItems, readNode_append blank]

theorem readEntries_append (blank : ∀ char ∈ blanks, isBlank char = true) :
    readEntries fuel (blanks ++ rest) = readEntries fuel rest := by
  cases fuel with
  | zero => simp only [readEntries]
  | succ fuel => simp only [readEntries, skipBlank_append blank]

/-- A piece stands for one character, whatever follows it. -/
def Piece.Spells (piece : Piece) (char : Char) : Prop :=
  ∀ pieces, assemble (piece :: pieces) = (assemble pieces).map fun chars => char :: chars

theorem Piece.spells_char (char : Char) : (Piece.char char).Spells char :=
  fun _ => rfl

theorem Piece.spells_codeUnit (control : char.toNat < 0x20) :
    (Piece.codeUnit char.toNat).Spells char := by
  intro pieces
  have notHigh : isHighSurrogate char.toNat = false := by
    simp only [isHighSurrogate, Bool.and_eq_false_iff, decide_eq_false_iff_not]
    omega
  have notLow : isLowSurrogate char.toNat = false := by
    simp only [isLowSurrogate, Bool.and_eq_false_iff, decide_eq_false_iff_not]
    omega
  conv_lhs => unfold assemble
  simp [notHigh, notLow]

/-- Four hexadecimal digits are read as the code unit that they are the digits of. -/
theorem readPieces_hexadecimal {unit : Nat} (small : unit < 0x10000) :
    readPieces ('\\' :: 'u' :: Text.hexadecimal Text.lowerDigit 4 unit ++ chars) =
      (readPieces chars).map fun (pieces, rest) => (.codeUnit unit :: pieces, rest) := by
  have digit (value : Nat) :
      Text.digitValue? 16 (Text.lowerDigit (value % 16)) = some (value % 16) := by
    apply (Text.digitValue?_eq_some_iff (Nat.le_refl 16)).mpr
    exact ⟨Nat.mod_lt value (by decide), Or.inl rfl⟩
  have whole : 16 * (16 * (16 * (unit / 16 / 16 / 16 % 16) + unit / 16 / 16 % 16)
      + unit / 16 % 16) + unit % 16 = unit := by
    omega
  simp only [Text.hexadecimal, List.nil_append, List.cons_append, readPieces, codeUnit?,
    digit, Option.bind_eq_bind, Option.bind_some, Option.pure_def, whole]
  cases readPieces chars <;> rfl

theorem readPieces_letter {letter : Char} (escaped : escaped? letter = some char) :
    readPieces ('\\' :: letter :: chars) =
      (readPieces chars).map fun (pieces, rest) => (.char char :: pieces, rest) := by
  rw [readPieces]
  · rw [escaped]
    cases readPieces chars <;> rfl
  · rintro a b c d rest rfl -
    exact nomatch escaped

theorem readPieces_plain (notQuote : char ≠ '\"') (notBackslash : char ≠ '\\')
    (notControl : ¬ char.toNat < 0x20) :
    readPieces (char :: chars) =
      (readPieces chars).map fun (pieces, rest) => (.char char :: pieces, rest) := by
  rw [readPieces]
  · simp only [notControl, notBackslash, decide_false, Bool.false_or, beq_iff_eq, if_false]
    cases readPieces chars <;> rfl
  · exact notQuote
  · exact fun _ _ _ _ _ same _ => notBackslash same
  · exact fun _ _ same _ => notBackslash same

/-- A character is read from its escape as one piece that stands for it. -/
theorem readPieces_escape (char : Char) (chars : List Char) :
    ∃ piece : Piece, piece.Spells char ∧
      readPieces (escape char ++ chars) =
        (readPieces chars).map fun (pieces, rest) => (piece :: pieces, rest) := by
  unfold escape
  split
  case h_8 notQuote notBackslash _ _ _ _ _ =>
    split
    · rename_i control
      exact ⟨_, Piece.spells_codeUnit control, readPieces_hexadecimal (by omega)⟩
    · rename_i notControl
      exact ⟨_, Piece.spells_char char, readPieces_plain notQuote notBackslash notControl⟩
  all_goals exact ⟨_, Piece.spells_char _, readPieces_letter rfl⟩

theorem readPieces_escapes (text rest : List Char) :
    ∃ pieces, readPieces (text.flatMap escape ++ '\"' :: rest) = some (pieces, rest) ∧
      assemble pieces = some text := by
  induction text with
  | nil => exact ⟨[], by simp [readPieces], rfl⟩
  | cons char text ih =>
      obtain ⟨pieces, read, assembled⟩ := ih
      obtain ⟨piece, spells, first⟩ :=
        readPieces_escape char (text.flatMap escape ++ '\"' :: rest)
      refine ⟨piece :: pieces, ?_, ?_⟩
      · rw [List.flatMap_cons, List.append_assoc, first, read]
        rfl
      · rw [spells, assembled]
        rfl

/-- A text is read from what is written behind its opening quote. -/
theorem readText_escapes (text : String) (rest : List Char) :
    readText (text.toList.flatMap escape ++ '\"' :: rest) = some (some text, rest) := by
  obtain ⟨pieces, read, assembled⟩ := readPieces_escapes text.toList rest
  simp [readText, read, assembled]

/-- A text goes on in a way that no number does. -/
def Apart (rest : List Char) : Prop :=
  ∀ char ∈ rest.head?, char.isDigit = false ∧ char ≠ '.' ∧ char ≠ 'e' ∧ char ≠ 'E'

theorem apart_nil : Apart [] := by
  simp [Apart]

theorem apart_cons
    (stops : char.isDigit = false ∧ char ≠ '.' ∧ char ≠ 'e' ∧ char ≠ 'E') :
    Apart (char :: rest) := by
  intro first member
  cases member
  exact stops

theorem apart_append (blank : ∀ char ∈ blanks, isBlank char = true) (apart : Apart rest) :
    Apart (blanks ++ rest) := by
  cases blanks with
  | nil => exact apart
  | cons first blanks =>
      apply apart_cons
      have isBlank := blank first List.mem_cons_self
      simp only [Json.isBlank, Bool.or_eq_true, beq_iff_eq] at isBlank
      rcases isBlank with ((rfl | rfl) | rfl) | rfl <;> decide

theorem isCanonical_decimal (number : Nat) : isCanonical (Text.decimal number) = true := by
  obtain ⟨digit, digits, same, front⟩ := Text.decimal_cases number
  rcases Nat.eq_zero_or_pos number with rfl | positive
  · rw [Text.decimal, if_pos (by decide)]
    rfl
  · rw [same]
    unfold isCanonical
    split
    · rfl
    · rename_i zero
      simp only [List.cons.injEq] at zero
      exact absurd zero.1 (front positive)
    · rfl

theorem readDigits_decimal (number : Nat) (apart : Apart rest) :
    readDigits (Text.decimal number ++ rest) = some (Text.decimal number, rest) := by
  obtain ⟨digit, digits, same, -⟩ := Text.decimal_cases number
  have noMore : rest.takeWhile Char.isDigit = [] ∧ rest.dropWhile Char.isDigit = rest := by
    cases rest with
    | nil => exact ⟨rfl, rfl⟩
    | cons char rest => simp [(apart char rfl).1]
  have digitsOnly : ∀ char ∈ Text.decimal number, char.isDigit = true :=
    fun char => Text.isDigit_of_mem_decimal number
  have taken : (Text.decimal number ++ rest).span Char.isDigit =
      (Text.decimal number, rest) := by
    rw [List.span_eq_takeWhile_dropWhile, List.takeWhile_append_of_pos digitsOnly,
      List.dropWhile_append_of_pos digitsOnly, noMore.1, noMore.2, List.append_nil]
  rw [readDigits, taken]
  simp [same]

theorem skipFraction_apart (apart : Apart rest) : skipFraction rest = some (false, rest) := by
  unfold skipFraction
  split
  · have := apart _ rfl
    simp at this
  · rfl

theorem skipExponent_apart (apart : Apart rest) : skipExponent rest = some (false, rest) := by
  cases rest with
  | nil => rfl
  | cons char rest =>
      obtain ⟨-, -, lower, upper⟩ := apart char rfl
      simp [skipExponent, lower, upper]

theorem readMagnitude_decimal {negative : Bool} {number : Nat} (apart : Apart rest)
    (signed : negative = true → 0 < number) :
    readMagnitude negative (Text.decimal number ++ rest) =
      some (.integer (if negative then -number else number), rest) := by
  have value : Text.valueOf 10 (Text.decimal number) = number :=
    Text.valueOf_of_denotes (by decide) (Text.denotes_decimal number)
  have nonzero : negative = true → number ≠ 0 :=
    fun negated => Nat.ne_of_gt (signed negated)
  cases negative <;>
    simp [readMagnitude, readDigits_decimal number apart, isCanonical_decimal,
      skipFraction_apart apart, skipExponent_apart apart, value, nonzero]

/-- An integer is read from its decimal digits and its sign. -/
theorem readNumber_signedDecimal (value : Int) (apart : Apart rest) :
    readNumber (Text.signedDecimal value ++ rest) = some (.integer value, rest) := by
  cases value with
  | ofNat number =>
      have read : readMagnitude false (Text.decimal number ++ rest) =
          some (.integer number, rest) :=
        readMagnitude_decimal apart Bool.noConfusion
      obtain ⟨digit, digits, same, -⟩ := Text.decimal_cases number
      have notSign : digit ≠ '-' := by
        rintro rfl
        have sign := Text.isDigit_of_mem_decimal number (same ▸ List.mem_cons_self)
        exact absurd sign (by decide)
      rw [Text.signedDecimal, same, List.cons_append, readNumber, ← List.cons_append, ← same,
        read]
      · rfl
      · simp [notSign]
  | negSucc number =>
      rw [Text.signedDecimal, List.cons_append, readNumber,
        readMagnitude_decimal apart fun _ => Nat.succ_pos number]
      rfl

theorem signedDecimal_cases (value : Int) :
    ∃ char chars, Text.signedDecimal value = char :: chars ∧
      (char = '-' ∨ char.isDigit = true) := by
  cases value with
  | ofNat number =>
      obtain ⟨digit, digits, same, -⟩ := Text.decimal_cases number
      exact ⟨digit, digits, same, Or.inr (Text.isDigit_of_mem_decimal number (by simp [same]))⟩
  | negSucc number => exact ⟨'-', _, rfl, Or.inl rfl⟩

theorem isBlank_eq_false (first : char = '-' ∨ char.isDigit = true) :
    isBlank char = false := by
  by_contra blank
  simp only [isBlank, Bool.not_eq_false, Bool.or_eq_true, beq_iff_eq] at blank
  rcases blank with ((rfl | rfl) | rfl) | rfl <;> exact absurd first (by decide)

/-- What starts like a number is read as a number. -/
theorem readNode_number (first : char = '-' ∨ char.isDigit = true) :
    readNode (fuel + 1) (char :: chars) = readNumber (char :: chars) := by
  rw [readNode, skipBlank_cons (isBlank_eq_false first)]
  split
  case h_7 => rfl
  all_goals
    rename_i same
    rw [(List.cons.inj same).1] at first
    exact absurd first (by decide)

/-- A written node starts with a character that is not blank and closes no list. -/
theorem write_cases (layout : Layout) (depth : Nat) (node : Node) :
    ∃ char chars, write layout depth node = char :: chars ∧
      isBlank char = false ∧ char ≠ ']' := by
  match node with
  | .null | .other | .boolean true | .boolean false | .text _ | .list [] | .list (_ :: _)
  | .table [] | .table (_ :: _) =>
      simp [write, writeText, isBlank]
  | .integer value =>
      obtain ⟨char, chars, same, first⟩ := signedDecimal_cases value
      refine ⟨char, chars, by rw [write, same], isBlank_eq_false first, ?_⟩
      rintro rfl
      exact absurd first (by decide)

/-- A node is read from its text, whatever comes behind it.  A step of fuel goes to the
node and another to the list or table around it, so each character pays for two. -/
def Reads (layout : Layout) (node : Node) : Prop :=
  ∀ depth fuel rest, Apart rest → 2 * (write layout depth node).length ≤ fuel →
    readNode fuel (write layout depth node ++ rest) = some (node, rest)

/-- A written node is not empty, so that there is fuel for it. -/
theorem reads_of_fueled {node : Node}
    (read : ∀ depth fuel rest, Apart rest → 2 * (write layout depth node).length ≤ fuel + 1 →
      readNode (fuel + 1) (write layout depth node ++ rest) = some (node, rest)) :
    Reads layout node := by
  intro depth fuel rest apart enough
  cases fuel with
  | zero =>
      obtain ⟨char, chars, same, -, -⟩ := write_cases layout depth node
      simp [same] at enough
  | succ fuel => exact read depth fuel rest apart enough

theorem reads_integer (value : Int) : Reads layout (.integer value) := by
  apply reads_of_fueled
  intro depth fuel rest apart enough
  obtain ⟨char, chars, same, first⟩ := signedDecimal_cases value
  have read := readNumber_signedDecimal value apart
  rw [write]
  rw [same, List.cons_append] at read ⊢
  rw [readNode_number first, read]

theorem writeText_append (text : String) (rest : List Char) :
    writeText text ++ rest = '\"' :: (text.toList.flatMap escape ++ '\"' :: rest) := by
  simp [writeText]

theorem reads_text (text : String) : Reads layout (.text text) := by
  apply reads_of_fueled
  intro depth fuel rest apart enough
  rw [write, writeText_append, readNode, skipBlank_cons rfl]
  simp only [readText_escapes]
  rfl

theorem readItems_write (blank : layout.Blank) {item : Node} {items : List Node}
    (first : Reads layout item) (others : ∀ item ∈ items, Reads layout item)
    (closing : ∀ char ∈ blanks, isBlank char = true)
    (enough : 2 * ((write layout depth item).length + (writeItems layout depth items).length)
      < fuel) (rest : List Char) :
    readItems fuel (write layout depth item ++ (writeItems layout depth items ++
      (blanks ++ ']' :: rest))) = some (item :: items, rest) := by
  induction items generalizing item fuel with
  | nil =>
      cases fuel with
      | zero => exact absurd enough (Nat.not_lt_zero _)
      | succ fuel =>
          have apart : Apart (blanks ++ ']' :: rest) :=
            apart_append closing (apart_cons (by decide))
          rw [readItems, writeItems, List.nil_append, first depth fuel _ apart (by omega)]
          simp only [skipBlank_append closing, skipBlank_cons (show isBlank ']' = false from rfl)]
  | cons next items ih =>
      simp only [List.forall_mem_cons] at others
      simp only [writeItems, List.length_cons, List.length_append] at enough
      cases fuel with
      | zero => exact absurd enough (Nat.not_lt_zero _)
      | succ fuel =>
          have less : 2 * ((write layout depth next).length +
              (writeItems layout depth items).length) < fuel := by
            omega
          have later := ih others.1 others.2 less
          simp only [writeItems, List.cons_append, List.append_assoc]
          rw [readItems, first depth fuel _ (apart_cons (by decide)) (by omega)]
          simp only [skipBlank_cons (show isBlank ',' = false from rfl),
            readItems_append (blank.lead depth), later, Option.map_some]

/-- What is read behind an entry: that there are no more entries, or these. -/
def readMore (fuel : Nat) (entry : Option String × Node) (chars : List Char) :
    Option (List (Option String × Node) × List Char) :=
  match skipBlank chars with
  | '}' :: rest => some ([entry], rest)
  | ',' :: rest => (readEntries fuel rest).map fun (entries, rest) => (entry :: entries, rest)
  | _ => none

/-- The key and the value of an entry are read, whatever the entry is followed by. -/
theorem readEntries_entry (blank : layout.Blank) (key : String) {value : Node}
    (reads : Reads layout value) (apart : Apart rest)
    (enough : 2 * (write layout depth value).length ≤ fuel) :
    readEntries (fuel + 1)
        (writeText key ++ (layout.colon ++ (write layout depth value ++ rest))) =
      readMore fuel (some key, value) rest := by
  obtain ⟨blanks, colon, colonBlank⟩ := blank.colon
  rw [readEntries, writeText_append, skipBlank_cons rfl, colon, List.cons_append]
  simp only [readText_escapes, skipBlank_cons (show isBlank ':' = false from rfl),
    readNode_append colonBlank, reads depth fuel rest apart enough]
  rfl

theorem readEntries_write (blank : layout.Blank) (key : String) {value : Node}
    {entries : List (String × Node)}
    (first : Reads layout value) (others : ∀ entry ∈ entries, Reads layout entry.2)
    (closing : ∀ char ∈ blanks, isBlank char = true)
    (enough : 2 * ((write layout depth value).length +
      (writeEntries layout depth entries).length) < fuel) (rest : List Char) :
    readEntries fuel (writeText key ++ (layout.colon ++ (write layout depth value ++
      (writeEntries layout depth entries ++ (blanks ++ '}' :: rest))))) =
        some (((key, value) :: entries).map fun entry => (some entry.1, entry.2), rest) := by
  induction entries generalizing key value fuel with
  | nil =>
      cases fuel with
      | zero => exact absurd enough (Nat.not_lt_zero _)
      | succ fuel =>
          have apart : Apart (blanks ++ '}' :: rest) :=
            apart_append closing (apart_cons (by decide))
          rw [writeEntries, List.nil_append,
            readEntries_entry blank key first apart (by omega)]
          simp only [readMore, skipBlank_append closing,
            skipBlank_cons (show isBlank '}' = false from rfl)]
          rfl
  | cons next entries ih =>
      obtain ⟨nextKey, nextValue⟩ := next
      simp only [List.forall_mem_cons] at others
      simp only [writeEntries, List.length_cons, List.length_append] at enough
      cases fuel with
      | zero => exact absurd enough (Nat.not_lt_zero _)
      | succ fuel =>
          have less : 2 * ((write layout depth nextValue).length +
              (writeEntries layout depth entries).length) < fuel := by
            omega
          have later := ih nextKey others.1 others.2 less
          simp only [writeEntries, List.cons_append, List.append_assoc]
          rw [readEntries_entry blank key first (apart_cons (by decide)) (by omega)]
          simp only [readMore, skipBlank_cons (show isBlank ',' = false from rfl),
            readEntries_append (blank.lead depth), later, Option.map_some]
          rfl

theorem tableOf_map (entries : List (String × Node)) :
    tableOf (entries.map fun entry => (some entry.1, entry.2)) = .table entries := by
  have whole : (entries.map fun entry => (some entry.1, entry.2)).mapM
      (fun entry => entry.1.map fun key => (key, entry.2)) = some entries := by
    rw [List.mapM_map]
    apply (mapM_eq_some id fun _ _ => rfl).trans
    rw [List.map_id]
  rw [tableOf, whole]

theorem reads_list (blank : layout.Blank) {items : List Node}
    (each : ∀ item ∈ items, Reads layout item) : Reads layout (.list items) := by
  apply reads_of_fueled
  intro depth fuel rest apart enough
  cases items with
  | nil =>
      simp only [write, List.cons_append, List.nil_append, readNode,
        skipBlank_cons (show isBlank '[' = false from rfl),
        skipBlank_cons (show isBlank ']' = false from rfl)]
  | cons item items =>
      simp only [List.forall_mem_cons] at each
      simp only [write, List.length_cons, List.length_append] at enough
      have less : 2 * ((write layout (depth + 1) item).length +
          (writeItems layout (depth + 1) items).length) < fuel := by
        omega
      have read := readItems_write blank each.1 each.2 (blank.lead depth) less rest
      obtain ⟨char, chars, same, solid, opens⟩ := write_cases layout (depth + 1) item
      simp only [write, List.cons_append, List.append_assoc, List.nil_append]
      rw [readNode, skipBlank_cons rfl]
      simp only [skipBlank_append (blank.lead (depth + 1))]
      rw [same, List.cons_append] at read ⊢
      simp only [skipBlank_cons solid]
      split
      · rename_i closed
        exact absurd (List.cons.inj closed).1 opens
      · rw [read]
        rfl

theorem reads_table (blank : layout.Blank) {entries : List (String × Node)}
    (each : ∀ entry ∈ entries, Reads layout entry.2) : Reads layout (.table entries) := by
  apply reads_of_fueled
  intro depth fuel rest apart enough
  cases entries with
  | nil =>
      simp only [write, List.cons_append, List.nil_append, readNode,
        skipBlank_cons (show isBlank '{' = false from rfl),
        skipBlank_cons (show isBlank '}' = false from rfl)]
  | cons entry entries =>
      obtain ⟨key, value⟩ := entry
      simp only [List.forall_mem_cons] at each
      simp only [write, List.length_cons, List.length_append] at enough
      have less : 2 * ((write layout (depth + 1) value).length +
          (writeEntries layout (depth + 1) entries).length) < fuel := by
        omega
      have read := readEntries_write blank key each.1 each.2 (blank.lead depth) less rest
      simp only [write, List.cons_append, List.append_assoc, List.nil_append]
      rw [readNode, skipBlank_cons rfl]
      simp only [skipBlank_append (blank.lead (depth + 1))]
      rw [writeText_append] at read ⊢
      simp only [skipBlank_cons (show isBlank '\"' = false from rfl)]
      split
      · rename_i closed
        exact absurd (List.cons.inj closed).1 (by decide)
      · rw [read, Option.map_some, tableOf_map]

/-- The induction is on the node: each item of a list and each value of a table is read
from its own text. -/
theorem reads_of_whole (blank : layout.Blank) {node : Node} (whole : node.Whole) :
    Reads layout node := by
  induction whole with
  | null =>
      apply reads_of_fueled
      intro depth fuel rest apart enough
      simp [write, readNode, skipBlank, isBlank]
  | boolean value =>
      apply reads_of_fueled
      intro depth fuel rest apart enough
      cases value <;> simp [write, readNode, skipBlank, isBlank]
  | integer value => exact reads_integer value
  | text value => exact reads_text value
  | list _ each => exact reads_list blank each
  | table _ each => exact reads_table blank each

/-- A document is read back as the node that it was written from. -/
theorem read?_write (blank : layout.Blank) {node : Node} (whole : node.Whole) :
    read? (String.ofList (write layout 0 node)) = some node := by
  have read := reads_of_whole blank whole 0 (2 * (write layout 0 node).length + 2) []
    apart_nil (by omega)
  rw [List.append_nil] at read
  simp [read?, read, skipBlank]

theorem read?_compact {node : Node} (whole : node.Whole) :
    read? (compact node) = some node :=
  read?_write Layout.blank_compact whole

theorem read?_indented {node : Node} (whole : node.Whole) :
    read? (indented node) = some node :=
  read?_write Layout.blank_indented whole

end Json

end LoadLadder
