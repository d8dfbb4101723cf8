import Concord.Failure

/-!
# The configuration

A configuration file is a document, and whatever stands in it is kept as it is until it is checked:
each setting is a document of its own, and a setting that is absent has its default.
`Config.ofMembers` takes the settings by name; `Config.toDocument` writes them in their order.

The main statement is `set?_isSome_iff`: exactly the names of `Config.names` and of
`LogConfig.names` are names of settings.
-/

namespace Concord

/-- The settings of the journal. -/
structure LogConfig where
  /-- The least grave level that is kept. -/
  level : Document := .text "INFO"
  /-- The file that the journal is written to, besides standard error. -/
  file : Document := .null
  /-- The format of a line. -/
  format : Document := .text "%(asctime)s - %(name)s - %(levelname)s - %(message)s"
  /-- The size at which the file is set aside, in mebibytes. -/
  maxSizeMb : Document := .int 100
  /-- The number of files set aside that are kept. -/
  backupCount : Document := .int 5

namespace LogConfig

/-- The names of the settings, in order. -/
def names : List String := ["level", "file", "format", "max_size_mb", "backup_count"]

/-- The settings with one more taken from a document, if it is one of them. -/
def set? (c : LogConfig) (name : String) (value : Document) : Option LogConfig :=
  match name with
  | "level" => some { c with level := value }
  | "file" => some { c with file := value }
  | "format" => some { c with format := value }
  | "max_size_mb" => some { c with maxSizeMb := value }
  | "backup_count" => some { c with backupCount := value }
  | _ => none

/-- The settings as the members of a document. -/
def members (c : LogConfig) : List (String × Document) :=
  [("level", c.level), ("file", c.file), ("format", c.format), ("max_size_mb", c.maxSizeMb),
    ("backup_count", c.backupCount)]

/-- Exactly the names of settings can be set. -/
theorem set?_isSome_iff (c : LogConfig) (name : String) (value : Document) :
    (c.set? name value).isSome ↔ name ∈ names := by
  unfold set?
  split <;> simp_all [names]

end LogConfig

/-- The peers of a configuration that names none. -/
def standardPeers : List String :=
  ["0.pool.ntp.org", "1.pool.ntp.org", "2.pool.ntp.org", "3.pool.ntp.org"]

/-- The configuration of the daemon. -/
structure Config where
  /-- The names of the time sources. -/
  peers : Document := .list (standardPeers.map .text)
  /-- The lower bound of the trust levels. -/
  minPoll : Document := .int 1
  /-- The upper bound of the trust levels. -/
  maxPoll : Document := .int 7
  /-- The number of requests to a peer in a round. -/
  maxSamples : Document := .int 3
  /-- The largest deviation of the samples of a peer. -/
  maxStd : Document := .real (.ofDecimal false 5 (-2))
  /-- The time allowed for an answer. -/
  queryTimeout : Document := .real (.ofInt 2)
  /-- The least number of eligible samples. -/
  goodFilter : Document := .int 3
  /-- Whether large corrections are allowed. -/
  forceUpdate : Document := .bool false
  /-- Whether the clock is left alone. -/
  dryRun : Document := .bool false
  /-- The endpoint of the responder, or nothing. -/
  listen : Document := .text ""
  /-- The networks whose clients are not answered. -/
  dropCidr : Document := .list []
  /-- The number of clients whose last answer is remembered. -/
  rateSize : Document := .int 4096
  /-- The least time between two answers to a client. -/
  rateInterval : Document := .real (.ofInt 2)
  /-- The endpoint of the status server, or nothing. -/
  metric : Document := .text ""
  /-- The settings of the journal. -/
  log : LogConfig := {}

namespace Config

/-- The names of the settings, in order, without the group for the journal. -/
def names : List String :=
  ["peers", "min_poll", "max_poll", "max_samples", "max_std", "query_timeout", "good_filter",
    "force_update", "dry_run", "listen", "drop_cidr", "rate_size", "rate_interval", "metric"]

/-- The settings with one more taken from a document, if it is one of them. -/
def set? (c : Config) (name : String) (value : Document) : Option Config :=
  match name with
  | "peers" => some { c with peers := value }
  | "min_poll" => some { c with minPoll := value }
  | "max_poll" => some { c with maxPoll := value }
  | "max_samples" => some { c with maxSamples := value }
  | "max_std" => some { c with maxStd := value }
  | "query_timeout" => some { c with queryTimeout := value }
  | "good_filter" => some { c with goodFilter := value }
  | "force_update" => some { c with forceUpdate := value }
  | "dry_run" => some { c with dryRun := value }
  | "listen" => some { c with listen := value }
  | "drop_cidr" => some { c with dropCidr := value }
  | "rate_size" => some { c with rateSize := value }
  | "rate_interval" => some { c with rateInterval := value }
  | "metric" => some { c with metric := value }
  | _ => none

/-- Exactly the names of settings can be set. -/
theorem set?_isSome_iff (c : Config) (name : String) (value : Document) :
    (c.set? name value).isSome ↔ name ∈ names := by
  unfold set?
  split <;> simp_all [names]

/-- The settings as the members of a document. -/
def members (c : Config) : List (String × Document) :=
  [("peers", c.peers), ("min_poll", c.minPoll), ("max_poll", c.maxPoll),
    ("max_samples", c.maxSamples), ("max_std", c.maxStd), ("query_timeout", c.queryTimeout),
    ("good_filter", c.goodFilter), ("force_update", c.forceUpdate), ("dry_run", c.dryRun),
    ("listen", c.listen), ("drop_cidr", c.dropCidr), ("rate_size", c.rateSize),
    ("rate_interval", c.rateInterval), ("metric", c.metric), ("log", .object c.log.members)]

/-- The configuration as a document. -/
def toDocument (c : Config) : Document := .object c.members

/-- The levels of lists and objects that a configuration may have when it is written. -/
def maxDepth : Nat := 496

/-- The configuration as a document that can be written. -/
def written (c : Config) : Except Fault Document :=
  if maxDepth < c.toDocument.depth then .error .nesting else .ok c.toDocument

end Config

end Concord
