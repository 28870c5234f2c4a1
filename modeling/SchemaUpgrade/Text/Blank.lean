/-!
# Blank text

A text is *blank* when every character of it has the Unicode property `White_Space`.  The
property is a fixed table of 25 characters; a zero-width space is not among them, and the
empty text is blank.
-/

namespace SchemaUpgrade.Text

/-- The characters with the Unicode property `White_Space`. -/
def isBlankChar (c : Char) : Bool :=
  let n := c.toNat
  (0x9 ≤ n && n ≤ 0xD) || n == 0x20 || n == 0x85 || n == 0xA0 || n == 0x1680
    || (0x2000 ≤ n && n ≤ 0x200A) || n == 0x2028 || n == 0x2029 || n == 0x202F
    || n == 0x205F || n == 0x3000

/-- Whether nothing but white space is in the text. -/
def isBlank (text : String) : Bool :=
  text.toList.all isBlankChar

/-- The ASCII white space of the standard library is white space here. -/
theorem isBlankChar_of_isWhitespace {c : Char} (h : c.isWhitespace = true) :
    isBlankChar c = true := by
  simp only [Char.isWhitespace, Bool.or_eq_true, decide_eq_true_eq] at h
  rcases h with ((h | h) | h) | h <;> subst h <;> decide

@[simp] theorem isBlank_empty : isBlank "" = true := by
  simp [isBlank]

/-- A joined text is blank exactly when both parts are. -/
theorem isBlank_append (a b : String) : isBlank (a ++ b) = (isBlank a && isBlank b) := by
  simp [isBlank]

end SchemaUpgrade.Text
