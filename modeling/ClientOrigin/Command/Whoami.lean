import ClientOrigin.Command.Options
import ClientOrigin.Command.Report
import ClientOrigin.Http.Message
import ClientOrigin.Rendering

/-!
# Asking a server

The command asks a server under which address it sees the caller, and shows the answer.
-/

namespace ClientOrigin.Whoami

open Text

/-- The options of the command. -/
def specs : List OptionSpec := [⟨"url".toList, some 'u', true, false⟩]

/-- The address of the server that the options name. -/
def urlOf (given : List GivenOption) : Text :=
  ((valuesOf given "url".toList).head?).getD "http://localhost:8080".toList

/-- The text without the slashes at its end. -/
def withoutSlashes (s : Text) : Text := (s.reverse.dropWhile (· = '/')).reverse

/-- The target that the server is asked for. -/
def target (url : Text) : Except TargetError Target :=
  Target.ofText (withoutSlashes url ++ "/ip".toList)

/-- The reason that is given along with a status. -/
def reason : Status → String
  | .ok => "OK"
  | .notFound => "Not Found"
  | .methodNotAllowed => "Method Not Allowed"
  | .requestTimeout => "Request Timeout"
  | .tooManyRequests => "Too Many Requests"
  | .internalError => "Internal Server Error"

/-- What the command says about an answer that is no success. -/
def complaint (r : Response) : Text :=
  "Error: server returned status ".toList ++ decimal r.status.code ++ [' '] ++
    (reason r.status).toList ++ "\nResponse: ".toList ++ r.body ++ ['\n']

/-- The report of an answer: its JSON object, indented. -/
def report (r : Response) : Report :=
  if r.status = .ok then
    match JsonObject.ofText? r.body with
    | some object => .done (object.indented ++ ['\n'])
    | none => .failed "the answer is no object of texts"
  else ⟨0, [], some (complaint r)⟩

end ClientOrigin.Whoami
