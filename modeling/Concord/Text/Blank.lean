import Concord.Text.Range

/-!
# Blank characters

The characters that count as white space around a value: those of Unicode's bidirectional classes
for white space and separators, and its space separators. `strip` takes them off both ends of a
text, and a text is blank when nothing remains.
-/

namespace Concord.Text

/-- The code points of the blank characters. -/
def blankRanges : List Range :=
  [⟨0x9, 0xd⟩, ⟨0x1c, 0x20⟩, ⟨0x85, 0x85⟩, ⟨0xa0, 0xa0⟩, ⟨0x1680, 0x1680⟩, ⟨0x2000, 0x200a⟩,
   ⟨0x2028, 0x2029⟩, ⟨0x202f, 0x202f⟩, ⟨0x205f, 0x205f⟩, ⟨0x3000, 0x3000⟩]

/-- Whether the character is blank. -/
def isBlank (c : Char) : Bool := inRanges blankRanges c

/-- The characters without those at either end that satisfy the test. -/
def trimBoth (test : Char → Bool) (chars : List Char) : List Char :=
  ((chars.dropWhile test).reverse.dropWhile test).reverse

/-- The text without the blank characters at its ends. -/
def strip (s : String) : String := String.ofList (trimBoth isBlank s.toList)

/-- Every character that Lean's core library calls white space is blank. -/
theorem isBlank_of_isWhitespace {c : Char} (h : c.isWhitespace = true) : isBlank c = true := by
  simp only [Char.isWhitespace, Bool.or_eq_true, decide_eq_true_eq] at h
  rcases h with ((h | h) | h) | h <;> subst h <;> decide

end Concord.Text
