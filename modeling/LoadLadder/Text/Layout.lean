/-!
# White space and lines

The characters of the Unicode property `White_Space`, stripping them from both ends of a text, and
laying a text out in lines and columns.  Names and levels are compared after stripping, so a name is
blank exactly when nothing is left.
-/

namespace LoadLadder.Text

/-- The Unicode property `White_Space`. -/
def isBlank (char : Char) : Bool :=
  let code := char.toNat
  (9 ≤ code && code ≤ 13) || code == 0x20 || code == 0x85 || code == 0xA0 || code == 0x1680
    || (0x2000 ≤ code && code ≤ 0x200A) || code == 0x2028 || code == 0x2029 || code == 0x202F
    || code == 0x205F || code == 0x3000

/-- The text without the white space it starts and ends with. -/
def strip (text : List Char) : List Char :=
  ((text.dropWhile isBlank).reverse.dropWhile isBlank).reverse

/-- Every character that core counts as white space has the property. -/
theorem isBlank_of_isWhitespace (char : Char) (white : char.isWhitespace = true) :
    isBlank char = true := by
  have code : char = ' ' ∨ char = '\t' ∨ char = '\r' ∨ char = '\n' := by
    simpa [Char.isWhitespace, or_assoc] using white
  rcases code with rfl | rfl | rfl | rfl <;> decide

def ofLines (lines : List String) : String :=
  String.join (lines.map fun line => line ++ "\n")

def padTo (width : Nat) (text : String) : String :=
  text ++ String.ofList (List.replicate (width - text.length) ' ')

end LoadLadder.Text
