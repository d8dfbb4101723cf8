import Concord.Binary64.Rounding
import Concord.Binary64.Shortest

/-!
# The text of a number

A number is written in one of two ways: with the fewest digits that read back (`Binary64.text`), or
with a fixed count of decimal places (`Binary64.fixed`, `Binary64.signedFixed`), rounded from the
exact value with a half going to the even neighbour.
-/

namespace Concord

/-- A natural number in decimal digits, with zeros in front up to the given width. -/
def zeroPadded (width n : Nat) : String :=
  let digits := Nat.toDigits 10 n
  String.ofList (List.replicate (width - digits.length) '0' ++ digits)

namespace Numeral

/-- The digits without the zeros at the end, and the position of the decimal point counted from
the first digit. -/
def significant (n : Numeral) : List Char × Int :=
  let digits := Nat.toDigits 10 n.digits
  ((digits.reverse.dropWhile (· == '0')).reverse, n.exponent + digits.length)

/-- Digits with the point between or beside them, and at least one digit on each side of it. -/
def positional (digits : List Char) (point : Int) : String :=
  if point ≤ 0 then
    String.ofList ('0' :: '.' :: List.replicate (-point).toNat '0' ++ digits)
  else
    let whole := digits.take point.toNat
    let rest := digits.drop point.toNat
    let zeros := List.replicate (point.toNat - digits.length) '0'
    String.ofList (whole ++ zeros ++ '.' :: (if rest.isEmpty then ['0'] else rest))

/-- Digits with the point after the first one, if others follow it, and a power of ten of at least
two digits, with its sign. -/
def scientific (digits : List Char) (point : Int) : String :=
  let power := point - 1
  let rest := digits.drop 1
  String.ofList (digits.take 1 ++ (if rest.isEmpty then [] else '.' :: rest)) ++
    (if power < 0 then "e-" else "e+") ++ zeroPadded 2 power.natAbs

/-- The text of a numeral: positional while the point stands at most three zeros before the digits
and at most sixteen digits after the first, scientific otherwise. -/
def text (n : Numeral) : String :=
  let (digits, point) := n.significant
  if -4 < point ∧ point ≤ 16 then positional digits point else scientific digits point

end Numeral

namespace Binary64

/-- The sign in front of a negative number's digits. -/
def minus (negative : Bool) : String := if negative then "-" else ""

/-- The text with the fewest digits that read back as the number. -/
def text : Binary64 → String
  | nan => "nan"
  | infinite negative => minus negative ++ "inf"
  | finite negative m =>
    minus negative ++ if m.units = 0 then "0.0" else m.shortest.text

/-- The digits of a magnitude with a fixed count of decimal places. -/
def fixedDigits (places : Nat) (m : Magnitude) : String :=
  let scaled := divHalfEven (m.units * 10 ^ places) unitsPerOne
  let whole := toString (scaled / 10 ^ places)
  if places = 0 then whole else whole ++ "." ++ zeroPadded places (scaled % 10 ^ places)

/-- The text with a fixed count of decimal places. A negative number keeps its sign when its digits
are all zero. -/
def fixed (places : Nat) : Binary64 → String
  | nan => "nan"
  | infinite negative => minus negative ++ "inf"
  | finite negative m => minus negative ++ fixedDigits places m

/-- The text with a fixed count of decimal places and a sign in front also of numbers that are not
negative. -/
def signedFixed (places : Nat) (x : Binary64) : String :=
  match x with
  | infinite true | finite true _ => x.fixed places
  | _ => "+" ++ x.fixed places

end Binary64

end Concord
