import Concord.Binary64.Basic

/-!
# Documents

A document is a value of the JSON data format. Numbers keep the kind that their text gave them,
whole or real, and an object keeps its members in the order in which their names first came.

The main statement is `same_iff`: `Document.same` decides whether two documents are equal.
-/

namespace Concord

/-- A value of the data format. -/
inductive Document where
  | null
  | bool (value : Bool)
  | int (value : Int)
  | real (value : Binary64)
  | text (value : String)
  | list (items : List Document)
  | object (members : List (String × Document))

namespace Document

instance : Inhabited Document := ⟨null⟩

/-- The members with one more. A name that is present keeps its place and takes the new value. -/
def put (members : List (String × Document)) (name : String) (value : Document) :
    List (String × Document) :=
  match members with
  | [] => [(name, value)]
  | (other, old) :: rest =>
    if other = name then (name, value) :: rest else (other, old) :: put rest name value

/-- The members of a list of names and values, the last value of a name counting. -/
def ofPairs (pairs : List (String × Document)) : List (String × Document) :=
  pairs.foldl (fun members pair => put members pair.1 pair.2) []

/-- The value of a member. -/
def lookup (members : List (String × Document)) (name : String) : Option Document :=
  (members.find? (·.1 = name)).map (·.2)

/-- The value of an object's member. -/
def get? (d : Document) (name : String) : Option Document :=
  match d with
  | object members => lookup members name
  | _ => none

/-- Whether the value counts as set: not null, false, zero or empty. -/
def isSet : Document → Bool
  | null => false
  | bool value => value
  | int value => value ≠ 0
  | real (.finite _ m) => m.units ≠ 0
  | real _ => true
  | text value => value ≠ ""
  | list items => !items.isEmpty
  | object members => !members.isEmpty

/-- The parts of a value that can be walked through: the items of a list, the characters of a text,
and the names of an object. -/
def items? : Document → Option (List Document)
  | list items => some items
  | text s => some (s.toList.map fun c => text (String.ofList [c]))
  | object members => some (members.map fun m => text m.1)
  | _ => none

mutual

/-- The levels of lists and objects in a document. -/
def depth : Document → Nat
  | list items => depthOfItems items + 1
  | object members => depthOfMembers members + 1
  | _ => 0

/-- The levels of lists and objects in the items of a list. -/
def depthOfItems : List Document → Nat
  | [] => 0
  | item :: items => max (depth item) (depthOfItems items)

/-- The levels of lists and objects in the values of an object. -/
def depthOfMembers : List (String × Document) → Nat
  | [] => 0
  | (_, value) :: members => max (depth value) (depthOfMembers members)

end

mutual

/-- Two documents are the same value of the same kind. -/
def same : Document → Document → Bool
  | null, null => true
  | bool x, bool y => x == y
  | int x, int y => x == y
  | real x, real y => x = y
  | text x, text y => x == y
  | list xs, list ys => sameItems xs ys
  | object xs, object ys => sameMembers xs ys
  | _, _ => false

/-- Two lists hold the same values in the same order. -/
def sameItems : List Document → List Document → Bool
  | [], [] => true
  | x :: xs, y :: ys => same x y && sameItems xs ys
  | _, _ => false

/-- Two objects have the same members in the same order. -/
def sameMembers : List (String × Document) → List (String × Document) → Bool
  | [], [] => true
  | (n, x) :: xs, (m, y) :: ys => n == m && same x y && sameMembers xs ys
  | _, _ => false

end

mutual

/-- Documents are the same exactly when they are equal. -/
theorem same_iff (x y : Document) : same x y = true ↔ x = y := by
  cases x <;> cases y <;> simp [same, sameItems_iff, sameMembers_iff]

/-- Lists hold the same values exactly when they are equal. -/
theorem sameItems_iff (xs ys : List Document) : sameItems xs ys = true ↔ xs = ys := by
  match xs, ys with
  | [], [] | [], _ :: _ | _ :: _, [] => simp [sameItems]
  | x :: xs, y :: ys => simp [sameItems, same_iff x y, sameItems_iff xs ys]

/-- Objects have the same members exactly when they are equal. -/
theorem sameMembers_iff (xs ys : List (String × Document)) :
    sameMembers xs ys = true ↔ xs = ys := by
  match xs, ys with
  | [], [] | [], _ :: _ | _ :: _, [] => simp [sameMembers]
  | (n, x) :: xs, (m, y) :: ys => simp [sameMembers, same_iff x y, sameMembers_iff xs ys]

end

instance : DecidableEq Document := fun x y => decidable_of_iff (same x y = true) (same_iff x y)

end Document

end Concord
