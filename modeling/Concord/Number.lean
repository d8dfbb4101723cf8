import Concord.Binary64.Rounding
import Concord.Binary64.Text
import Concord.Document.Basic

/-!
# Numbers of either kind

A numeric setting is a whole number of any size or a real one. The two kinds are compared by value,
exactly, so a whole number beyond the range of binary64 is still below the positive infinity. The
main statements are `le_trans` and `le_of_lt_eq_false`: apart from not-a-number, numbers are in one
order.
-/

namespace Concord

/-- A whole number or a real one. -/
inductive Number where
  | int (value : Int)
  | real (value : Binary64)
deriving DecidableEq

namespace Number

instance : Inhabited Number := ⟨int 0⟩

/-- The position of a number in the order of values: the side of the finite numbers on which it
lies, and its value in units of binary64. Not-a-number has none. -/
def position? : Number → Option (Int × Int)
  | int z => some (0, z * unitsPerOne)
  | real .nan => none
  | real (.infinite negative) => some (if negative then (-1, 0) else (1, 0))
  | real (.finite negative m) => some (0, Binary64.signedUnits negative m.units)

/-- The first number is smaller. -/
def lt (a b : Number) : Bool :=
  match a.position?, b.position? with
  | some (s, x), some (t, y) => s < t || (s == t && x < y)
  | _, _ => false

/-- The first number is smaller or the two are equal in value. -/
def le (a b : Number) : Bool :=
  match a.position?, b.position? with
  | some (s, x), some (t, y) => s < t || (s == t && x ≤ y)
  | _, _ => false

/-- Of whole numbers, smaller is smaller. -/
theorem lt_int {x y : Int} : (int x).lt (int y) = true ↔ x < y := by
  have hpos : (0 : Int) < unitsPerOne := Int.natCast_pos.2 unitsPerOne_pos
  have heq : (int x).lt (int y) = decide (x * unitsPerOne < y * unitsPerOne) := rfl
  rw [heq, decide_eq_true_iff, Int.mul_lt_mul_right hpos]

/-- Of whole numbers, smaller or equal is smaller or equal. -/
theorem le_int {x y : Int} : (int x).le (int y) = true ↔ x ≤ y := by
  have hpos : (0 : Int) < unitsPerOne := Int.natCast_pos.2 unitsPerOne_pos
  have heq : (int x).le (int y) = decide (x * unitsPerOne ≤ y * unitsPerOne) := rfl
  rw [heq, decide_eq_true_iff, Int.mul_le_mul_right hpos]

/-- A smaller number is smaller or equal. -/
theorem le_of_lt {a b : Number} (h : a.lt b = true) : a.le b = true := by
  revert h
  unfold lt le
  split <;> simp_all
  omega

/-- What is smaller or equal to another number is no not-a-number. -/
theorem le_refl_left {a b : Number} (h : a.le b = true) : a.le a = true := by
  revert h
  unfold le
  cases a.position? <;> simp

/-- What another number is smaller or equal to is no not-a-number. -/
theorem le_refl_right {a b : Number} (h : a.le b = true) : b.le b = true := by
  revert h
  unfold le
  cases a.position? <;> cases b.position? <;> simp

/-- The order of numbers is transitive. -/
theorem le_trans {a b c : Number} (hab : a.le b = true) (hbc : b.le c = true) :
    a.le c = true := by
  revert hab hbc
  unfold le
  cases a.position? <;> cases b.position? <;> cases c.position? <;> simp
  omega

/-- Of two numbers that are no not-a-number, one that is not smaller is larger or equal. -/
theorem le_of_lt_eq_false {a b : Number} (ha : a.le a = true) (hb : b.le b = true)
    (h : a.lt b = false) : b.le a = true := by
  revert ha hb h
  unfold lt le
  cases a.position? <;> cases b.position? <;> simp
  omega

/-- A number below a smaller or equal one is smaller. -/
theorem lt_of_le_of_lt {a b c : Number} (hab : a.le b = true) (hbc : b.lt c = true) :
    a.lt c = true := by
  revert hab hbc
  unfold lt le
  cases a.position? <;> cases b.position? <;> cases c.position? <;> simp
  omega

/-- A number is not smaller than one that is smaller or equal to it. -/
theorem lt_eq_false_of_le {a b : Number} (h : a.le b = true) : b.lt a = false := by
  revert h
  unfold lt le
  cases a.position? <;> cases b.position? <;> simp
  omega

/-- The smaller one of two numbers, the first when neither is. -/
def lower (a b : Number) : Number := if b.lt a then b else a

/-- The larger one of two numbers, the first when neither is. -/
def upper (a b : Number) : Number := if a.lt b then b else a

/-- The largest natural number that is not above the number. Infinity and not-a-number have none. -/
def floor? : Number → Option Nat
  | int z => some z.toNat
  | real (.finite negative m) => some (if negative then 0 else m.whole)
  | real _ => none

/-- The nearest binary64 number. -/
def toBinary64 : Number → Binary64
  | int z => .ofInt z
  | real x => x

/-- Whether a whole number is out of the range of binary64. -/
def isTooLarge : Number → Bool
  | int z => !(Binary64.ofInt z).isFinite
  | real _ => false

/-- The text of the number, which shows its kind. -/
def text : Number → String
  | int z => toString z
  | real x => x.text

/-- The number as a document. -/
def toDocument : Number → Document
  | int z => .int z
  | real x => .real x

end Number

/-- The number that a document is. The truth values count as one and zero. -/
def Document.number? : Document → Option Number
  | .int z => some (.int z)
  | .real x => some (.real x)
  | .bool value => some (.int (if value then 1 else 0))
  | _ => none

end Concord
