import ClientOrigin.Address.Endpoint
import ClientOrigin.Header.Map
import ClientOrigin.Http.Form
import ClientOrigin.Http.Method
import ClientOrigin.Http.Target

/-!
# Requests and responses
-/

namespace ClientOrigin

/-- A request, with the address of its connection if that is known. -/
structure Request where
  method : Method
  target : Target
  headers : HeaderMap
  peer : Option Endpoint
  deriving DecidableEq, Repr

namespace Request

/-- The address of the connection as text, empty if it is not known. -/
def peerText (r : Request) : Text := (r.peer.map Endpoint.print).getD []

/-- The arguments of the query. -/
def query (r : Request) : Query := .ofForm (r.target.query.getD [])

end Request

/-- The outcome of a request. -/
inductive Status where
  | ok
  | notFound
  | methodNotAllowed
  | requestTimeout
  | tooManyRequests
  | internalError
  deriving DecidableEq, Repr

/-- The number of the status. -/
def Status.code : Status → Nat
  | .ok => 200
  | .notFound => 404
  | .methodNotAllowed => 405
  | .requestTimeout => 408
  | .tooManyRequests => 429
  | .internalError => 500

/-- The answer to a request. -/
structure Response where
  status : Status
  headers : HeaderMap
  body : Text
  deriving DecidableEq, Repr

namespace HeaderValue

/-- The type of plain text. -/
def plainText : HeaderValue := ⟨Text.utf8 "text/plain; charset=utf-8".toList, by decide⟩

/-- The type of JSON. -/
def json : HeaderValue := ⟨Text.utf8 "application/json".toList, by decide⟩

/-- The methods that every resource answers. -/
def allowed : HeaderValue := ⟨Text.utf8 "GET,HEAD".toList, by decide⟩

end HeaderValue

namespace Response

/-- An answer without headers and body. -/
def empty (status : Status) : Response := ⟨status, .empty, []⟩

/-- An answer with a body of the given type. -/
def withBody (status : Status) (type : HeaderValue) (body : Text) : Response :=
  ⟨status, ⟨[(.contentType, type)]⟩, body⟩

/-- An answer in plain text. -/
def plain (status : Status) (body : Text) : Response := withBody status .plainText body

/-- The answer with the length of its body among the headers. -/
def measured (r : Response) : Response :=
  { r with headers := r.headers.addMissing .contentLength (.ofNat (Text.utf8 r.body).length) }

/-- The answer without its body if the request asks for none. -/
def bodyFor (r : Response) (m : Method) : Response :=
  if m = .head then { r with body := [] } else r

end Response

end ClientOrigin
