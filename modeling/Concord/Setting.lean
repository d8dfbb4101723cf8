import Concord.Failure
import Concord.Number

/-!
# Settings of any kind

A setting keeps the value that the configuration gives it, of whatever kind, and its kind is looked
at only where the value is used. A use that the kind does not allow is a fault, which names the kind
of the value and what was wanted of it. The truth values count as the numbers one and zero.
-/

namespace Concord

namespace Fault

/-- Values of two kinds are not ordered. -/
def incomparable (relation left right : String) : Fault :=
  .kind ("'" ++ relation ++ "' not supported between instances of '" ++ left ++ "' and '" ++
    right ++ "'")

/-- A value has no parts that can be walked through. -/
def notIterable (d : Document) : Fault := .kind ("'" ++ d.kindName ++ "' object is not iterable")

/-- A list or an object cannot be looked up. -/
def notAKey (d : Document) : Fault := .kind ("unhashable type: '" ++ d.kindName ++ "'")

/-- A value is no whole number. -/
def notWhole (d : Document) : Fault :=
  .kind ("'" ++ d.kindName ++ "' object cannot be interpreted as an integer")

/-- A value is no text, which alone has the given operation. -/
def noText (operation : String) (d : Document) : Fault :=
  .operation ("'" ++ d.kindName ++ "' object has no attribute '" ++ operation ++ "'")

end Fault

namespace Document

/-- The number that a setting is, for a comparison with a whole number. -/
def numberFor (relation : String) (d : Document) : Except Fault Number :=
  match d.number? with
  | some n => .ok n
  | none => .error (.incomparable relation d.kindName "int")

/-- The number that a setting is, for a comparison of a real number with it. -/
def limitFor (relation : String) (d : Document) : Except Fault Number :=
  match d.number? with
  | some n => .ok n
  | none => .error (.incomparable relation "float" d.kindName)

/-- The parts of a setting that is walked through. -/
def items (d : Document) : Except Fault (List Document) :=
  match d.items? with
  | some items => .ok items
  | none => .error (.notIterable d)

/-- Whether a value can be looked up: it is no list and no object. -/
def isKey : Document → Bool
  | list _ | object _ => false
  | _ => true

/-- The text that a setting is, for an operation on texts. -/
def textFor (operation : String) (d : Document) : Except Fault String :=
  match d with
  | text s => .ok s
  | d => .error (.noText operation d)

end Document

end Concord
