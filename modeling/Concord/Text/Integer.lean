import Concord.Text.Blank
import Concord.Text.Digit

/-!
# Reading integers

An integer may stand between padding and begin with a sign. Padding is any blank character but
the information separators. The digits may be of any script, and single underscores may separate
them. Texts of more than `maxDigits` digits are refused (`digitsOf?` counts them).
-/

namespace Concord.Text

/-- The largest count of digits that an integer may be read from. -/
def maxDigits : Nat := 4300

/-- The values of digits separated by single underscores: the first character after a digit is a
digit, or an underscore followed by a digit. -/
def digitsAfter : List Char → Option (List Nat)
  | [] => some []
  | '_' :: c :: rest => do
    let d ← digitValue? c
    let ds ← digitsAfter rest
    return d :: ds
  | c :: rest => do
    let d ← digitValue? c
    let ds ← digitsAfter rest
    return d :: ds

/-- The values of the digits of an unsigned integer: at least one, and the first character is a
digit. -/
def digitsOf? : List Char → Option (List Nat)
  | [] => none
  | c :: rest => do
    let d ← digitValue? c
    let ds ← digitsAfter rest
    return d :: ds

/-- The number that decimal digits stand for. -/
def ofDigits (digits : List Nat) : Nat := digits.foldl (fun n d => 10 * n + d) 0

/-- The number of an unsigned integer of at most `maxDigits` digits. -/
def natural? (chars : List Char) : Option Nat := do
  let digits ← digitsOf? chars
  guard (digits.length ≤ maxDigits)
  return ofDigits digits

/-- Whether the character may stand beside an integer: blank, and no information separator
(U+001C to U+001F). -/
def isPadding (c : Char) : Bool := isBlank c && !inRanges [⟨0x1c, 0x1f⟩] c

/-- The integer that a text stands for. -/
def integer? (s : String) : Option Int :=
  match trimBoth isPadding s.toList with
  | '-' :: rest => (natural? rest).map fun n => -(n : Int)
  | '+' :: rest => (natural? rest).map fun n => (n : Int)
  | chars => (natural? chars).map fun n => (n : Int)

end Concord.Text
