import Concord.Text.Digit
import Concord.Text.Parts
import Concord.Text.Quoted

/-!
# Command line options

Options have a long name, of which any unambiguous beginning will do, and some have a short one of
one letter. A value follows its option as the next argument, after an equals sign, or directly after
a short name; an argument that begins with a dash is no value, except a dash alone, a negative
number, and anything with a space. After two dashes nothing is an option, and two dashes attached to
an option are no value (`OptionValue.ofChars`).

`Argument.classify` tells what an argument is by itself, and `Options.read` takes all of them in
order. Reading ends with a `Stop` when help or the version is asked for, and after a misuse.
-/

namespace Concord

/-- The version of the program. -/
def programVersion : String := "0.3.0"

/-- The name of the program on its command line. -/
def programName : String := "qntp-daemon"

/-- The options. -/
inductive Switch where
  | help
  | config
  | peers
  | listen
  | metric
  | force
  | dryRun
  | logLevel
  | version
deriving DecidableEq

namespace Switch

/-- All options in order. -/
def all : List Switch :=
  [help, config, peers, listen, metric, force, dryRun, logLevel, version]

/-- The names of an option. -/
def names : Switch → List String
  | help => ["-h", "--help"]
  | config => ["-c", "--config"]
  | peers => ["-p", "--peer"]
  | listen => ["--listen"]
  | metric => ["--metric"]
  | force => ["--force"]
  | dryRun => ["--dry-run"]
  | logLevel => ["--log-level"]
  | version => ["--version"]

/-- Whether the option takes a value. -/
def takesValue : Switch → Bool
  | help | force | dryRun | version => false
  | _ => true

/-- The names of all options. -/
def allNames : List (String × Switch) := all.flatMap fun s => s.names.map (·, s)

/-- The option of a name. -/
def ofName? (name : List Char) : Option Switch :=
  (allNames.find? fun n => n.1.toList = name).map (·.2)

end Switch

/-! ## Why reading ends early -/

/-- Why the command line ends the program. -/
inductive Stop where
  /-- Help is asked for. -/
  | help
  /-- The version is asked for. -/
  | version
  /-- The beginning of a name fits several options. -/
  | ambiguous (argument : String) (names : List String)
  /-- The value of an option is missing. -/
  | noValue (switch : Switch)
  /-- An option that takes no value has one. -/
  | ignored (switch : Switch) (value : String)
  /-- Arguments are left over. -/
  | unrecognized (arguments : List String)
deriving DecidableEq

namespace Stop

/-- How the program is called. -/
def usage : String :=
  "usage: qntp-daemon [-h] [-c CONFIG] [-p PEERS] [--listen LISTEN]\n" ++
  "                   [--metric METRIC] [--force] [--dry-run]\n" ++
  "                   [--log-level LOG_LEVEL] [--version]\n"

/-- The text that help consists of. -/
def helpText : String :=
  usage ++ "\nQuorum NTP synchronization daemon\n\noptions:\n" ++
  "  -h, --help            show this help message and exit\n" ++
  "  -c CONFIG, --config CONFIG\n" ++
  "                        JSON configuration file\n" ++
  "  -p PEERS, --peer PEERS\n" ++
  "                        NTP server host name (repeatable, replaces configured\n" ++
  "                        peers)\n" ++
  "  --listen LISTEN       Serve NTP on host:port\n" ++
  "  --metric METRIC       Serve metrics and status on host:port\n" ++
  "  --force               Allow arbitrarily large clock steps\n" ++
  "  --dry-run             Never touch the system clock\n" ++
  "  --log-level LOG_LEVEL\n" ++
  "                        DEBUG, INFO, WARNING or ERROR\n" ++
  "  --version             show program's version number and exit\n"

/-- What is wrong with an option's value. -/
def aboutSwitch (switch : Switch) (problem : String) : String :=
  "argument " ++ "/".intercalate switch.names ++ ": " ++ problem

/-- What is wrong with the command line, if anything. -/
def problem? : Stop → Option String
  | help | version => none
  | ambiguous argument names =>
    some ("ambiguous option: " ++ argument ++ " could match " ++ ", ".intercalate names)
  | noValue switch => some (aboutSwitch switch "expected one argument")
  | ignored switch value =>
    some (aboutSwitch switch ("ignored explicit argument " ++ Text.quoted value))
  | unrecognized arguments => some ("unrecognized arguments: " ++ " ".intercalate arguments)

/-- The exit code. -/
def exitCode (s : Stop) : Nat := if s.problem?.isSome then 2 else 0

/-- What is printed on standard output. -/
def output : Stop → String
  | help => helpText
  | version => programName ++ " " ++ programVersion ++ "\n"
  | _ => ""

/-- What is printed on standard error. -/
def errorOutput (s : Stop) : String :=
  match s.problem? with
  | none => ""
  | some problem => usage ++ programName ++ ": error: " ++ problem ++ "\n"

end Stop

/-! ## What an argument is -/

/-- What an argument is by itself. -/
inductive Argument where
  /-- A value of an option, or nothing known. -/
  | plain (text : String)
  /-- The two dashes after which nothing is an option. -/
  | separator
  /-- An option, by a short name or a long one. A value may be attached to it, after an equals sign
  or directly after a short name. -/
  | option (switch : Switch) (isShort : Bool) (attached : Option (List Char))
  /-- Like an option, but none of them. -/
  | unknown (text : String)
deriving DecidableEq

namespace Argument

/-- Digits, at least one. -/
def isDigits (chars : List Char) : Bool := !chars.isEmpty && chars.all Text.isDecimalDigit

/-- Whether the text is a negative number: digits, or a point with digits behind it. A line feed may
follow. -/
def isNegativeNumber : List Char → Bool
  | '-' :: rest =>
    let digits := match rest.reverse with
      | '\n' :: others => others.reverse
      | _ => rest
    match Text.cutFirst '.' digits with
    | none => isDigits digits
    | some (whole, places) => whole.all Text.isDecimalDigit && isDigits places
  | _ => false

/-- The options that an argument can mean by its beginning, with their names and values. -/
def candidates (chars : List Char) : List (String × Argument) :=
  match chars with
  | '-' :: '-' :: _ =>
    let cut := Text.cutFirst '=' chars
    let beginning := (cut.map (·.1)).getD chars
    (Switch.allNames.filter fun n => beginning.isPrefixOf n.1.toList).map fun n =>
      (n.1, option n.2 false (cut.map (·.2)))
  | '-' :: c :: value =>
    (Switch.allNames.filter fun n => n.1.toList = ['-', c]).map fun n =>
      (n.1, option n.2 true (some value))
  | _ => []

/-- Whether the name is a short one. -/
def isShortName : List Char → Bool
  | ['-', c] => c ≠ '-'
  | _ => false

/-- The option whose whole name the argument is, or stands before its first equals sign. -/
def named? (chars : List Char) : Option Argument :=
  match Switch.ofName? chars with
  | some switch => some (option switch (isShortName chars) none)
  | none => do
    let (name, value) ← Text.cutFirst '=' chars
    let switch ← Switch.ofName? name
    return option switch (isShortName name) (some value)

/-- What the argument is. -/
def classify (text : String) : Except Stop Argument :=
  match text.toList with
  | [] | ['-'] => .ok (plain text)
  | c :: rest =>
    if c ≠ '-' then .ok (plain text)
    else match named? (c :: rest), candidates (c :: rest) with
      | some argument, _ => .ok argument
      | none, [(_, argument)] => .ok argument
      | none, [] =>
        .ok (if isNegativeNumber (c :: rest) || rest.contains ' ' then plain text
          else unknown text)
      | none, several => .error (.ambiguous text (several.map (·.1)))

/-- What all arguments are. -/
def classifyAll : List String → Except Stop (List Argument)
  | [] => .ok []
  | text :: rest =>
    if text = "--" then .ok (separator :: rest.map plain)
    else do
      let argument ← classify text
      let others ← classifyAll rest
      return argument :: others

end Argument

/-! ## Reading -/

/-- What an option is given. -/
inductive OptionValue where
  | text (value : String)
  /-- Two dashes, which are no value. -/
  | nothing
deriving DecidableEq

/-- What an attached text gives to an option. -/
def OptionValue.ofChars (chars : List Char) : OptionValue :=
  if chars = ['-', '-'] then nothing else text (String.ofList chars)

/-- What the command line asks for. -/
structure Options where
  /-- The path of the configuration file. -/
  config : Option OptionValue := none
  /-- The peers that replace those of the configuration. -/
  peers : List OptionValue := []
  listen : Option OptionValue := none
  metric : Option OptionValue := none
  force : Bool := false
  dryRun : Bool := false
  logLevel : Option OptionValue := none
deriving DecidableEq

namespace Options

/-- The text that an option is given, unless it is empty. -/
def text? (given : Option OptionValue) : Option String :=
  match given with
  | some (.text value) => if value = "" then none else some value
  | _ => none

/-- The options with one more, whose value does not count when it takes none. -/
def take (o : Options) (switch : Switch) (value : OptionValue) : Except Stop Options :=
  match switch with
  | .help => .error .help
  | .version => .error .version
  | .config => .ok { o with config := some value }
  | .peers => .ok { o with peers := o.peers ++ [value] }
  | .listen => .ok { o with listen := some value }
  | .metric => .ok { o with metric := some value }
  | .force => .ok { o with force := true }
  | .dryRun => .ok { o with dryRun := true }
  | .logLevel => .ok { o with logLevel := some value }

/-- What one argument comes to: options that take no value, and a last one with what is attached to
it. -/
structure Cluster where
  switches : List Switch
  last : Switch
  attached : Option OptionValue

/-- The cluster of an option and a text attached to it. The letters behind a short name that takes
no value are short names themselves, and what follows the last of them is its value. -/
def cluster (switch : Switch) (isShort : Bool) (attached : List Char) : Except Stop Cluster :=
  if switch.takesValue then .ok ⟨[], switch, some (.ofChars attached)⟩
  else match attached with
    | [] => .error (.ignored switch "")
    | c :: rest =>
      match isShort, Switch.ofName? ['-', c] with
      | true, some next =>
        if rest.isEmpty then .ok ⟨[switch], next, none⟩
        else (cluster next true rest).map fun inner =>
          { inner with switches := switch :: inner.switches }
      | _, _ => .error (.ignored switch (String.ofList (c :: rest)))

/-- The options after those that take no value. -/
def takeAll (o : Options) (switches : List Switch) : Except Stop Options :=
  switches.foldlM (fun o switch => o.take switch .nothing) o

/-- The options after all arguments, and the arguments that are left over. -/
def consume : List Argument → Options → List String → Except Stop (Options × List String)
  | [], o, extras => .ok (o, extras)
  | .plain text :: rest, o, extras => consume rest o (extras ++ [text])
  | .separator :: rest, o, extras => consume rest o (extras ++ ["--"])
  | .unknown text :: rest, o, extras => consume rest o (extras ++ [text])
  | .option switch isShort attached :: rest, o, extras => do
    let ⟨switches, last, value⟩ ← match attached with
      | none => .ok ⟨[], switch, none⟩
      | some attached => cluster switch isShort attached
    match value with
    | some value => consume rest (← (← o.takeAll switches).take last value) extras
    | none =>
      if last.takesValue then
        match rest with
        | .plain value :: rest =>
          consume rest (← (← o.takeAll switches).take last (.text value)) extras
        | _ => .error (.noValue last)
      else consume rest (← o.takeAll (switches ++ [last])) extras

/-- The options of a command line. -/
def read (arguments : List String) : Except Stop Options := do
  let classified ← Argument.classifyAll arguments
  let (o, extras) ← consume classified {} []
  if extras.isEmpty then return o else .error (.unrecognized extras)

end Options

end Concord
