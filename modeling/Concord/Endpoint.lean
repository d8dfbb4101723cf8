import Concord.Failure
import Concord.Text.Integer
import Concord.Text.Parts

/-!
# Endpoints

An endpoint is a host and a port to listen on. In a text the port stands after the last colon, and
the host may stand in brackets, since it can hold colons itself; no host means every address of the
machine. A text without a colon is a host. The main statement is `read?_host`.
-/

namespace Concord

/-- A host and a port. -/
structure Endpoint where
  host : String
  port : Int
deriving DecidableEq

namespace Endpoint

/-- The host that stands for every address of the machine. -/
def anyHost : String := "0.0.0.0"

/-- Whether the character is a bracket around a host. -/
def isBracket (c : Char) : Bool := c = '[' || c = ']'

/-- The host without the brackets around it. -/
def hostOf (chars : List Char) : String :=
  match Text.trimBoth isBracket chars with
  | [] => anyHost
  | inner => String.ofList inner

/-- The endpoint of a text. -/
def read? (text : String) (defaultPort : Int) : Except ConfigFault Endpoint :=
  match Text.cutLast ':' text.toList with
  | none => .ok ⟨text, defaultPort⟩
  | some (host, port) =>
    match Text.integer? (String.ofList port) with
    | some n => .ok ⟨hostOf host, n⟩
    | none => .error (.listen text)

/-- The text of an endpoint. -/
def text (e : Endpoint) : String := e.host ++ ":" ++ toString e.port

/-- A text without a colon is a host. -/
theorem read?_host {text : String} (defaultPort : Int) (h : ':' ∉ text.toList) :
    read? text defaultPort = .ok ⟨text, defaultPort⟩ := by
  rw [read?, Text.cutLast_eq_none.2 h]

end Endpoint

end Concord
