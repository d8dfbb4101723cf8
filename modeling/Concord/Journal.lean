/-!
# The journal

What the program reports while it runs: records of four levels, each from one of its parts.
-/

namespace Concord

/-- How grave a record is. -/
inductive Level where
  | debug
  | info
  | warning
  | error
deriving DecidableEq

namespace Level

/-- The name of a level. -/
def name : Level → String
  | debug => "DEBUG"
  | info => "INFO"
  | warning => "WARNING"
  | error => "ERROR"

/-- The number of a level: graver levels have larger numbers. -/
def number : Level → Nat
  | debug => 10
  | info => 20
  | warning => 30
  | error => 40

/-- The level of a name. -/
def ofName? (s : String) : Option Level := [debug, info, warning, error].find? (·.name = s)

end Level

/-- The parts of the program that write records. -/
inductive Part where
  | peers
  | poller
  | quorum
  | pace
  | clock
  | config
  | dropTable
  | responder
  | statusServer
  | controller
deriving DecidableEq

/-- The name under which a part writes its records. -/
def Part.name : Part → String
  | peers => "network.peer"
  | poller => "network.poller"
  | quorum => "consensus.selection"
  | pace => "consensus.poll_control"
  | clock => "core.clock"
  | config => "node.config"
  | dropTable => "network.droptable"
  | responder => "network.server"
  | statusServer => "api.server"
  | controller => "node.daemon"

/-- One record. -/
structure Record where
  level : Level
  part : Part
  message : String
deriving DecidableEq

/-- A record in one line. -/
def Record.line (r : Record) : String :=
  r.part.name ++ " - " ++ r.level.name ++ " - " ++ r.message

/-- The records at a level or above. -/
def Record.select (level : Level) (records : List Record) : List Record :=
  records.filter fun r => level.number ≤ r.level.number

end Concord
