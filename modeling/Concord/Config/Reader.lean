import Concord.Config.Basic
import Concord.Setting

/-!
# Reading a configuration

A configuration is read from the names and values of a document (`Config.ofDocument`). A list of
pairs serves as well as an object. Names that are no settings are refused, the first of them being
reported, and those of the configuration itself before those of the journal's group.
-/

namespace Concord

namespace Document

/-- The name and the value that an entry of a list of pairs holds: its two items, characters or
names of members. -/
def pairOf (index : Nat) : Document → Except Fault (Document × Document)
  | list [name, value] => .ok (name, value)
  | list items => .error (.pairLength index items.length)
  | text s =>
    match s.toList with
    | [name, value] => .ok (text (String.ofList [name]), text (String.ofList [value]))
    | chars => .error (.pairLength index chars.length)
  | object [(name, _), (value, _)] => .ok (text name, text value)
  | object members => .error (.pairLength index members.length)
  | _ => .error (.kind ("cannot convert dictionary update sequence element #" ++ toString index ++
      " to a sequence"))

/-- The names and values of a list of pairs from the given entry on. A list or an object is no
name. -/
def pairsFrom : Nat → List Document → Except Fault (List (Document × Document))
  | _, [] => .ok []
  | index, entry :: rest => do
    let (name, value) ← pairOf index entry
    if name.isKey then
      let others ← pairsFrom (index + 1) rest
      return (name, value) :: others
    else .error (.notAKey name)

/-- The names and values of a document. -/
def entries : Document → Except Fault (List (Document × Document))
  | object members => .ok (members.map fun m => (.text m.1, m.2))
  | list items => pairsFrom 0 items
  | text s => pairsFrom 0 (s.toList.map fun c => text (String.ofList [c]))
  | d => .error (.notIterable d)

/-- The names of entries as texts, if all of them are. -/
def namedEntries : List (Document × Document) → Except KeyFault (List (String × Document))
  | [] => .ok []
  | (text name, value) :: rest => (namedEntries rest).map ((name, value) :: ·)
  | _ :: _ => .error .notAText

end Document

/-- The group of settings named `self` stands for the group itself. -/
def unknownKey (group key : String) : KeyFault :=
  if key = "self" then .reserved group key else .unexpected group key

/-- The settings of a group after all members are taken, the first unknown name being reported. -/
def setAll {γ : Type} (group : String) (set? : γ → String → Document → Option γ) :
    γ → List (String × Document) → Except KeyFault γ
  | c, [] => .ok c
  | c, (name, value) :: rest =>
    match set? c name value with
    | some c => setAll group set? c rest
    | none => .error (unknownKey group name)

/-- The name of the journal's group. -/
def logName : String := "log"

namespace Config

/-- The settings of the journal in a document. -/
def logOfDocument : Document → Except KeyFault LogConfig
  | .null => .ok {}
  | .object members => setAll "LogConfig" LogConfig.set? {} members
  | d => .error (.notAnObject "LogConfig" d.kindName)

/-- The configuration of names and values. -/
def ofMembers (members : List (String × Document)) : Except KeyFault Config := do
  let config ← setAll "Config" set? {} (members.filter (·.1 ≠ logName))
  let log ← logOfDocument ((Document.lookup members logName).getD .null)
  return { config with log }

/-- The configuration in a document. -/
def ofDocument (d : Document) : Except Trouble Config :=
  match d.entries with
  | .error fault => .error (.fault fault)
  | .ok entries =>
    match (Document.namedEntries entries).bind fun named => ofMembers (Document.ofPairs named) with
    | .error fault => .error (.failure (.config (.key fault)))
    | .ok config => .ok config

end Config

end Concord
