import ClientOrigin.Command.Query
import ClientOrigin.Command.Server

/-!
# The command line

A first argument that names a command of the query tool runs that command; any other arguments
are those of the server command.
-/

namespace ClientOrigin.CommandLine

/-- Prints a report and returns its exit code. -/
def finish (r : Report) : IO UInt32 := do
  IO.print (String.ofList r.output)
  IO.eprint (String.ofList (r.errors.getD []))
  return UInt32.ofNat r.exit

/-- The answer to wrong arguments. -/
def wrongArguments : IO UInt32 := do
  IO.eprintln "error: these arguments are not understood"
  return 2

/-- The query tool.  Nothing here opens connections, so no server can be asked. -/
def query (arguments : List Text) : IO UInt32 :=
  match QueryCommand.ofArguments? arguments with
  | none => wrongArguments
  | some (.resolve command) => finish command.report
  | some (.whoami url) => finish (.failed ("no connection to " ++ String.ofList url))

/-- The number of a failure of the system, which some of its answers give negated. -/
def failureNumber (code : UInt32) : UInt32 := if code < 0x80000000 then code else 0 - code

/-- Why the system could not read a file. -/
def systemError : IO.Error → SystemError
  | .permissionDenied .. => .permissionDenied
  | .inappropriateType _ code _ =>
    if failureNumber code = 21 then .isADirectory else .notADirectory
  | .invalidArgument _ code _ =>
    if failureNumber code = 36 then .nameTooLong else .notFound
  | _ => .notFound

/-- The content of a file. -/
def contentOf (file : Text) : IO (Except SystemError Bytes) := do
  try
    let content ← IO.FS.readBinFile (String.ofList file)
    return .ok content.toList
  catch error => return .error (systemError error)

/-- An id in the usual form. -/
def anyId : RequestId :=
  ⟨⟨Text.utf8 "00000000-0000-4000-8000-000000000000".toList, by decide⟩, by decide,
    by decide +kernel⟩

/-- The server command, from its start to its end without any request between. -/
def serve (arguments : List Text) : IO UInt32 := do
  let named ← IO.getEnv "CLIENT_IP_CONFIG"
  let asked ← IO.getEnv "RUST_LOG"
  match ServerCommand.ofArguments? arguments (named.map String.toList) with
  | none => wrongArguments
  | some command =>
    let content ← match command.file with
      | some file => contentOf file
      | none => pure (.error .notFound)
    let transcript :=
      command.run (fun _ => content) (asked.map String.toList) ['0'] fun _ => anyId
    for line in transcript.lines do
      IO.println (String.ofList line)
    IO.eprint (String.ofList transcript.ending.complaint)
    return UInt32.ofNat transcript.ending.exit

end ClientOrigin.CommandLine

open ClientOrigin in
/-- Runs the command that the arguments name. -/
def main (arguments : List String) : IO UInt32 := do
  let arguments := arguments.map String.toList
  if arguments.head?.any QueryCommand.isName then CommandLine.query arguments
  else CommandLine.serve arguments
