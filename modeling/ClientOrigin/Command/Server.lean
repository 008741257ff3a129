import ClientOrigin.Command.Options
import ClientOrigin.Command.Report
import ClientOrigin.Lifecycle.Startup
import ClientOrigin.Log.Filter
import ClientOrigin.Log.Line
import ClientOrigin.Settings.Load

/-!
# The server command

The command loads its settings, starts the server and runs it until it is interrupted.  What it
shows of its log is decided by a filter, and the settings decide in which form.
-/

namespace ClientOrigin

open Text

/-- The server command: the file with its settings, if there is one. -/
structure ServerCommand where
  file : Option Text
  deriving DecidableEq, Repr

namespace ServerCommand

/-- The options of the command. -/
def specs : List OptionSpec := [⟨"config".toList, some 'c', true, false⟩]

/-- The command that arguments describe.  A file that the arguments do not name may be named by
the environment, and an empty name is refused. -/
def ofArguments? (arguments : List Text) (named : Option Text) : Option ServerCommand := do
  let given ← options? specs arguments
  let file := (valuesOf given "config".toList).head?.or named
  if file = some [] then none else some ⟨file⟩

/-- The settings of the command; defaults without a file. -/
def settings (c : ServerCommand) (read : Text → Except SystemError Bytes) :
    Except LoadError Settings :=
  match c.file with
  | none => .ok {}
  | some file => Settings.ofFile (read file)

/-! ## Failures -/

/-- The failure of a file, in full. -/
def describeFile : FileError → Text
  | .notText =>
    "Error \x7b kind: InvalidData, message: ".toList ++ quoted FileError.notText.message.toList ++
      " \x7d".toList
  | .system error =>
    "Os \x7b code: ".toList ++ decimal error.code ++ ", kind: ".toList ++ error.kind.toList ++
      ", message: ".toList ++ quoted error.message.toList ++ " \x7d".toList

/-- A problem, in full. -/
def describeProblem : Problem → Text
  | .invalidAddress field value =>
    "InvalidAddress \x7b field: ".toList ++ quoted field.toList ++ ", value: ".toList ++
      quoted value ++ " \x7d".toList
  | .invalidHeaderName value => "InvalidHeaderName(".toList ++ quoted value ++ [')']
  | .notPositive field => "NotPositive(".toList ++ quoted field.toList ++ [')']

/-- Why the settings could not be loaded, in full; what is wrong with a document is not told. -/
def describe : LoadError → Text
  | .file error => "Io(".toList ++ describeFile error ++ [')']
  | .document => "Parse".toList
  | .problems found =>
    "Validation([".toList ++ joined [',', ' '] (found.map describeProblem) ++ "])".toList

/-- Why the server cannot listen, in full. -/
def describeBind (error : BindError) : Text :=
  let message := quoted error.message.toList
  match error with
  | .notSocketAddress | .invalidPort | .nullInName =>
    "Error \x7b kind: InvalidInput, message: ".toList ++ message ++ " \x7d".toList
  | .invalidName | .unknownName =>
    "Custom \x7b kind: Uncategorized, error: ".toList ++ message ++ " \x7d".toList
  | .addressInUse =>
    "Os \x7b code: 98, kind: AddrInUse, message: \"Address already in use\" \x7d".toList

/-- Why the server did not start, in full. -/
def describeStart : StartupError → Text
  | .metricsAddress value => "MetricsAddress(".toList ++ quoted value ++ [')']
  | .header _ => "HeaderName(InvalidHeaderName)".toList
  | .bind address cause =>
    "Bind \x7b address: ".toList ++ quoted address ++ ", source: ".toList ++
      describeBind cause ++ " \x7d".toList

/-! ## The run -/

/-- How the command ends. -/
inductive Ending where
  | notLoaded (error : LoadError)
  | notStarted (error : StartupError)
  | interrupted
  deriving DecidableEq, Repr

namespace Ending

/-- The exit code. -/
def exit : Ending → Nat
  | .interrupted => 0
  | _ => 1

/-- What is said about the failure, if the command failed. -/
def complaint : Ending → Text
  | .notLoaded error => "Error: ".toList ++ describe error ++ ['\n']
  | .notStarted error => "Error: ".toList ++ describeStart error ++ ['\n']
  | .interrupted => []

end Ending

/-- What a run of the command shows: events of the log in a format, and how it ends. -/
structure Transcript where
  format : LogFormat
  events : List LogEvent
  ending : Ending

/-- The lines of the output. -/
def Transcript.lines (t : Transcript) : List Text :=
  match t.format with
  | .pretty => t.events.map LogEvent.prettyLine
  | .json => t.events.map LogEvent.jsonLine

/-- The log target of the command. -/
def target : String := "client_ip_server"

/-- The name of the file, if there is one, in full. -/
def describeName : Option Text → Text
  | none => "None".toList
  | some file => "Some(".toList ++ quoted file ++ [')']

/-- The command begins. -/
def begun (c : ServerCommand) (s : Settings) : LogEvent :=
  ⟨.event, .info, target, "client-ip v0.1.0 starting",
    [("config", .shown (String.ofList (describeName c.file))),
      ("bind_address", .shown (String.ofList s.listener.bindAddress)),
      ("rate_limit", .flag s.limit.enabled),
      ("request_timeout_secs", .number s.timeouts.requestSecs.toNat)]⟩

/-- The command has come to its end. -/
def completed : LogEvent := ⟨.event, .info, target, "Shutdown complete", []⟩

/-- What is logged from the start to an interruption without any request between. -/
def events (c : ServerCommand) (s : Settings) (l : Listening) (chosen : Text) : List LogEvent :=
  [c.begun s] ++ l.startEvents chosen ++ l.serveEvents chosen ++ Listening.stopEvents ++
    [completed]

/-- A run with settings that have been loaded. -/
def runWith (c : ServerCommand) (s : Settings) (asked : Option Text) (chosen : Text)
    (ids : Nat → RequestId) : Transcript :=
  let shown := fun event => (LogFilter.forServer asked s.report.logLevel).shows event
  match Listening.start s ids with
  | .ok listening =>
    ⟨s.report.logFormat, (c.events s listening chosen).filter shown, .interrupted⟩
  | .error error =>
    ⟨s.report.logFormat, (c.begun s :: Listening.failureEvents s ids).filter shown,
      .notStarted error⟩

/-- A run that is interrupted as soon as the server is up.  Files are read by `read`, the
environment may ask for a filter, and the system may choose a port. -/
def run (c : ServerCommand) (read : Text → Except SystemError Bytes) (asked : Option Text)
    (chosen : Text) (ids : Nat → RequestId) : Transcript :=
  match c.settings read with
  | .ok settings => c.runWith settings asked chosen ids
  | .error error => ⟨.pretty, [], .notLoaded error⟩

end ServerCommand

end ClientOrigin
