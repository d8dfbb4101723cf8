import Concord.Binary64.Integral
import Concord.Document.Display
import Concord.Document.Reader

/-!
# Failures

`Failure` holds the conditions that the daemon names itself: each has a numeric code, a message and,
in most cases, details for reports. A startup failure and a refused clock correction end the daemon,
the others do not leave its loop. `Fault` holds what can go wrong below that: in the packet format,
with a number, an address or a file, or with a setting of a kind that cannot be used. `Trouble` is
either of the two.
-/

namespace Concord

/-- The codes under which failures are reported. -/
inductive Code where
  | unknownError
  | invalidConfig
  | startupFailure
  | noPeers
  | noQuorum
  | peerUnhealthy
  | clockWriteFailure
deriving DecidableEq

namespace Code

/-- All codes. -/
def all : List Code :=
  [unknownError, invalidConfig, startupFailure, noPeers, noQuorum, peerUnhealthy,
    clockWriteFailure]

/-- The number of a code. Its thousands tell the part of the daemon. -/
def number : Code → Nat
  | unknownError => 1000
  | invalidConfig => 1001
  | startupFailure => 2000
  | noPeers => 2001
  | noQuorum => 3001
  | peerUnhealthy => 4001
  | clockWriteFailure => 5001

/-- The name of a code. -/
def name : Code → String
  | unknownError => "UNKNOWN_ERROR"
  | invalidConfig => "INVALID_CONFIG"
  | startupFailure => "STARTUP_FAILURE"
  | noPeers => "NO_PEERS"
  | noQuorum => "NO_QUORUM"
  | peerUnhealthy => "PEER_UNHEALTHY"
  | clockWriteFailure => "CLOCK_WRITE_FAILURE"

/-- The code of a value: a whole number, or a real one that is equal to it. -/
def ofDocument? (d : Document) : Option Code :=
  all.find? fun code => d = .int code.number || d = .real (.ofInt code.number)

end Code

/-- An error of the operating system: its number and text, as far as they are known. -/
structure OsError where
  number : Option Int := none
  text : Option String := none
deriving DecidableEq

/-- The text of an error of the operating system. -/
def OsError.message (e : OsError) : String :=
  match e.number, e.text with
  | some n, text => "[Errno " ++ toString n ++ "] " ++ text.getD ""
  | none, some text => text
  | none, none => ""

/-! ## Configuration -/

/-- Why a document cannot be taken as settings. -/
inductive KeyFault where
  /-- The settings of the given group have no such name. -/
  | unexpected (group key : String)
  /-- The name stands for the group itself. -/
  | reserved (group key : String)
  /-- A group of settings is not an object but the named kind of value. -/
  | notAnObject (group kind : String)
  /-- A name of a setting is not a text. -/
  | notAText

/-- The text of a fault in the names of settings. -/
def KeyFault.message : KeyFault → String
  | unexpected group key =>
    group ++ ".__init__() got an unexpected keyword argument '" ++ key ++ "'"
  | reserved group key => group ++ ".__init__() got multiple values for argument '" ++ key ++ "'"
  | notAnObject group kind =>
    "qntp.node.config." ++ group ++ "() argument after ** must be a mapping, not " ++ kind
  | notAText => "keywords must be strings"

/-- Why a configuration is refused. -/
inductive ConfigFault where
  /-- The file of the path cannot be read, for the reason given. -/
  | unreadable (path reason : String)
  /-- The settings have names that they should not have. -/
  | key (fault : KeyFault)
  /-- The settings have problems. -/
  | rejected (problems : List String)
  /-- The text is no address to listen on. -/
  | listen (address : String)
  /-- The text is no network; `stripped` is the text without blanks around it. -/
  | network (cidr stripped : String)
  /-- The bounds of the poll control are out of order or range. -/
  | pollBounds (minPoll maxPoll : Document)
  /-- The poll table is too short for the upper bound. -/
  | pollTable (maxPoll : Document)
  /-- A fault stated in words. -/
  | stated (message : String) (details : Option Document)

/-- The message of a refused configuration. -/
def ConfigFault.message : ConfigFault → String
  | unreadable path reason => "cannot read " ++ path ++ ": " ++ reason
  | key fault => "unknown configuration key: " ++ fault.message
  | rejected problems => "; ".intercalate problems
  | listen address => "invalid listen address " ++ Text.quoted address
  | network cidr stripped =>
    "invalid drop CIDR " ++ Text.quoted cidr ++ ": " ++ Text.quoted stripped ++
      " does not appear to be an IPv4 or IPv6 network"
  | pollBounds minPoll maxPoll =>
    "poll bounds out of range: " ++ minPoll.plain ++ ".." ++ maxPoll.plain
  | pollTable maxPoll => "max_poll " ++ maxPoll.plain ++ " has no poll table entry"
  | stated message _ => message

/-- The details that are reported with a refused configuration. -/
def ConfigFault.details : ConfigFault → Option Document
  | unreadable path _ => some (.object [("path", .text path)])
  | rejected problems => some (.object [("errors", .list (problems.map .text))])
  | network cidr _ => some (.object [("cidr", .text cidr)])
  | stated _ details => details
  | _ => none

/-! ## Failures of the daemon -/

/-- A condition that the daemon names itself. -/
inductive Failure where
  /-- A failure with a code and no further meaning. -/
  | coded (code : Code) (message : String) (details : Option Document)
  /-- The configuration is refused. -/
  | config (fault : ConfigFault)
  /-- The daemon cannot reach a usable state. -/
  | startup (message : String) (details : Option Document)
  /-- No name in the configuration led to a usable peer. -/
  | noPeers (tried : Document)
  /-- The first synchronization found no reference. -/
  | firstSync (eligible : Int) (required : Document)
  /-- A later round found no reference. -/
  | noQuorum (eligible : Int) (required : Document)
  /-- The samples of a peer are of no use. -/
  | peerUnhealthy (address reason : String)
  /-- A correction of the clock was refused or failed. -/
  | clockWrite (offset : Binary64) (reason : String)

namespace Failure

/-- The code of a failure. -/
def code : Failure → Code
  | coded code _ _ => code
  | config _ => .invalidConfig
  | startup _ _ => .startupFailure
  | noPeers _ => .noPeers
  | firstSync _ _ => .noQuorum
  | noQuorum _ _ => .noQuorum
  | peerUnhealthy _ _ => .peerUnhealthy
  | clockWrite _ _ => .clockWriteFailure

/-- The message of a failure. -/
def message : Failure → String
  | coded _ message _ => message
  | config fault => fault.message
  | startup message _ => message
  | noPeers tried => "no available peer, tried: " ++ tried.plain
  | firstSync eligible required =>
    "first sync failed: " ++ toString eligible ++ " eligible samples, " ++ required.plain ++
      " required"
  | noQuorum eligible required =>
    "no median found: " ++ toString eligible ++ " eligible samples, " ++ required.plain ++
      " required"
  | peerUnhealthy address reason => "peer " ++ address ++ " unhealthy: " ++ reason
  | clockWrite offset reason =>
    "clock correction of " ++ offset.signedFixed 6 ++ "s failed: " ++ reason

/-- The details that are reported with a failure. -/
def details : Failure → Option Document
  | coded _ _ details => details
  | config fault => fault.details
  | startup _ details => details
  | noPeers tried => some (.object [("tried", .list (tried.items?.getD []))])
  | firstSync eligible required | noQuorum eligible required =>
    some (.object [("eligible", .int eligible), ("required", required)])
  | peerUnhealthy address reason =>
    some (.object [("address", .text address), ("reason", .text reason)])
  | clockWrite offset reason =>
    some (.object [("offset", .real offset), ("reason", .text reason)])

/-- Whether the failure keeps the daemon from starting. -/
def isStartup : Failure → Bool
  | startup _ _ | noPeers _ | firstSync _ _ => true
  | _ => false

/-- The failure in one line: its code and its message. -/
def line (f : Failure) : String := "[" ++ toString f.code.number ++ "] " ++ f.message

/-- The report of a failure. Details that are null are left out. -/
def report (f : Failure) : Document :=
  let members := [("code", .int f.code.number), ("name", .text f.code.name),
    ("message", .text f.message)]
  match f.details with
  | none | some .null => .object members
  | some details => .object (members ++ [("details", details)])

end Failure

/-! ## Faults below the daemon -/

/-- What can go wrong below the daemon's own failures. -/
inductive Fault where
  /-- A packet is too short. -/
  | packet
  /-- A field does not fit its place in a packet. -/
  | packetField
  /-- A number has no whole part. -/
  | notIntegral (cause : NotIntegral)
  /-- A text is no address. -/
  | address (text : String)
  /-- A value is no code of a failure. -/
  | code (value : Document)
  /-- A format of log lines names no field. -/
  | logFormat (format : String)
  /-- A text stands where the number of a level is needed. -/
  | logLevel (text : String)
  /-- A file cannot be opened. -/
  | opening (error : OsError)
  /-- A path holds a null character, which ends paths. -/
  | nullInPath
  /-- A whole number has too many digits. -/
  | digits (message : String)
  /-- A whole number is out of the range of binary64. -/
  | tooLarge
  /-- Lists and objects stand inside each other on too many levels. -/
  | nesting
  /-- An entry of a list of pairs has another length. -/
  | pairLength (index length : Nat)
  /-- Infinite or undefined offsets have no deviation. -/
  | deviation
  /-- A value has no such operation: the message names its kind. -/
  | operation (message : String)
  /-- A value is of the wrong kind. -/
  | kind (message : String)
  /-- Bytes are no text. -/
  | encoding (message : String)
  /-- An entry is missing. -/
  | missing (key : String)
  /-- Anything else, with a text or none. -/
  | unexpected (text : Option String)
deriving DecidableEq

namespace Fault

/-- The name of the class of an error that opening a file comes to, by its number. -/
def openingClass : Option Int → String
  | some 2 => "FileNotFoundError"
  | some 13 => "PermissionError"
  | some 20 => "NotADirectoryError"
  | some 21 => "IsADirectoryError"
  | _ => "OSError"

/-- The name of the class of faults, in log lines. -/
def className : Fault → String
  | packet | packetField => "NTPException"
  | notIntegral .nan | address _ | code _ | logFormat _ | logLevel _ | nullInPath | digits _
  | pairLength _ _ => "ValueError"
  | opening error => openingClass error.number
  | notIntegral .infinite | tooLarge => "OverflowError"
  | nesting => "RecursionError"
  | deviation | operation _ => "AttributeError"
  | kind _ => "TypeError"
  | encoding _ => "UnicodeError"
  | missing _ => "KeyError"
  | unexpected _ => "RuntimeError"

/-- The text of a fault, if it has one. -/
def text? : Fault → Option String
  | packet => some "Invalid NTP packet."
  | packetField => some "Invalid NTP packet fields."
  | notIntegral .nan => some "cannot convert float NaN to integer"
  | notIntegral .infinite => some "cannot convert float infinity to integer"
  | address text => some (Text.quoted text ++ " does not appear to be an IPv4 or IPv6 address")
  | code value => some (value.shown ++ " is not a valid ErrorCode")
  | logFormat format => some ("Invalid format '" ++ format ++ "' for '%' style")
  | logLevel text => some ("Unknown level: " ++ Text.quoted text)
  | opening error => some error.message
  | nullInPath => some "embedded null byte"
  | digits message | operation message | kind message | encoding message => some message
  | pairLength index length =>
    some ("dictionary update sequence element #" ++ toString index ++ " has length " ++
      toString length ++ "; 2 is required")
  | deviation => some "'float' object has no attribute 'numerator'"
  | tooLarge => some "int too large to convert to float"
  | nesting => some "too many levels of lists and objects"
  | missing key => some key
  | unexpected text => text

/-- The message of a fault. The key of a missing entry is quoted. -/
def message : Fault → String
  | missing key => Text.quoted key
  | f => f.text?.getD ""

/-- The fault in one line: its class and its message. -/
def line (f : Fault) : String := f.className ++ ": " ++ f.message

/-- The fault in a log line: its class with the text in quotes. -/
def shown (f : Fault) : String :=
  f.className ++ "(" ++ (f.text?.map Text.quoted).getD "" ++ ")"

end Fault

/-- What can end an operation early. -/
inductive Trouble where
  | failure (failure : Failure)
  | fault (fault : Fault)

/-- The trouble in one line. -/
def Trouble.line : Trouble → String
  | failure f => f.line
  | fault f => f.line

/-! ## Results of steps -/

/-- A result of two steps comes from results of both. -/
theorem bind_eq_ok {ε α β : Type} {first : Except ε α} {next : α → Except ε β} {b : β} :
    (first >>= next) = .ok b ↔ ∃ a, first = .ok a ∧ next a = .ok b := by
  cases first with
  | error fault => simp [bind, Except.bind]
  | ok a => simp [bind, Except.bind]

/-- A step that is known to have a result has one. -/
theorem exists_of_isOk {ε α : Type} {step : Except ε α} (h : step.isOk = true) :
    ∃ a, step = .ok a := by
  cases step with
  | error fault => cases h
  | ok a => exact ⟨a, rfl⟩

/-- A result that is found is that of the step. -/
theorem eq_ok_of_toOption {ε α : Type} {step : Except ε α} {a : α}
    (h : step.toOption = some a) : step = .ok a := by
  cases step with
  | error fault => cases h
  | ok b => exact congrArg _ (Option.some.inj h)

/-- What an error is called has no part in a result. -/
theorem mapError_eq_ok {ε δ α : Type} {step : Except ε α} {f : ε → δ} {a : α} :
    step.mapError f = .ok a ↔ step = .ok a := by
  cases step with
  | error fault =>
    constructor
    · intro h
      cases h
    · intro h
      cases h
  | ok b =>
    constructor
    · intro h
      cases h
      rfl
    · intro h
      cases h
      rfl

end Concord
