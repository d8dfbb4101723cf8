import Concord.Config.File
import Concord.Config.Logging
import Concord.Controller.Run

/-!
# The program

The program reads its command line and its configuration file, sets up the journal and runs the
daemon (`Program.run`). The exit code tells how it ended: zero after it was asked to stop, one
after a failure of the daemon, two after a misuse of the command line or a refused configuration.
-/

namespace Concord.Program

/-- How the program ended. -/
inductive Ending where
  /-- The command line was all it read. -/
  | stopped (reason : Stop)
  /-- It came to its end with an exit code, and a text on standard error if there is one. -/
  | exited (code : Nat) (errorOutput : Option String)
  /-- A trouble ended it for which there is no exit code. -/
  | crashed (trouble : Trouble)

/-- What an option is given, as a setting. No value is an empty list. -/
def settingOf : OptionValue → Document
  | .text value => .text value
  | .nothing => .list []

/-- The setting, or what an option is given instead. -/
def override (setting : Document) (given : Option OptionValue) : Document :=
  (given.map settingOf).getD setting

/-- The configuration with the options of the command line. -/
def applyOptions (config : Config) (o : Options) : Config :=
  { config with
    peers := if o.peers.isEmpty then config.peers else .list (o.peers.map settingOf)
    listen := override config.listen o.listen
    metric := override config.metric o.metric
    forceUpdate := if o.force then .bool true else config.forceUpdate
    dryRun := if o.dryRun then .bool true else config.dryRun
    log := { config.log with
      level := ((Options.text? o.logLevel).map .text).getD config.log.level } }

/-- The configuration clamped, unless it has problems. -/
def checked (config : Config) : Except Trouble Config :=
  match config.clamp with
  | .error fault => .error (.fault fault)
  | .ok config =>
    match config.problems with
    | .error fault => .error (.fault fault)
    | .ok [] => .ok config
    | .ok problems => .error (.failure (.config (.rejected problems)))

/-- The configuration that the options ask for. -/
def configure (o : Options) (disk : Disk) (w : World) : Except Trouble Config × World :=
  match Options.text? o.config with
  | none => (checked (applyOptions {} o), w)
  | some path =>
    let (loaded, w) := Config.load disk path w
    (loaded.bind fun config => checked (applyOptions config o), w)

/-- The journal that the command line and the configuration describe, if both can be used. -/
def journal? (arguments : List String) (disk : Disk) : Option LogSetup := do
  let o ← (Options.read arguments).toOption
  let config ← (configure o disk {}).1.toOption
  (config.log.setup disk).toOption

/-- Run the daemon of a configuration. -/
def serve (config : Config) (disk : Disk) (pauses : List Pause) (w : World) : Ending × World :=
  match config.log.setup disk with
  | .error fault => (.crashed (.fault fault), w)
  | .ok _ =>
    let w := w.note .info .controller
      ("qntp " ++ programVersion ++ " starting with peers " ++ config.peers.plain)
    match Controller.make? config false with
    | .error trouble => (.crashed trouble, w)
    | .ok c =>
      match c.run pauses w with
      | (.ok (), _, w) => (.exited 0 none, w.note .info .controller "daemon stopped")
      | (.error (.failure failure), _, w) =>
        (.exited 1 none, w.note .error .controller ("daemon exited: " ++ failure.line))
      | (.error (.fault fault), _, w) => (.crashed (.fault fault), w)

/-- The program, with the arguments of its command line, the disk, and what happens while it
waits. -/
def run (arguments : List String) (disk : Disk) (pauses : List Pause) (w : World) :
    Ending × World :=
  match Options.read arguments with
  | .error reason => (.stopped reason, w)
  | .ok o =>
    match configure o disk w with
    | (.ok config, w) => serve config disk pauses w
    | (.error (.failure failure), w) =>
      (.exited 2 (some ("configuration error: " ++ failure.message ++ "\n")), w)
    | (.error (.fault fault), w) => (.crashed (.fault fault), w)

end Concord.Program
