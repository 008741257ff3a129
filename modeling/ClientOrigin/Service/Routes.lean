import ClientOrigin.Rendering
import ClientOrigin.Service.Visit

/-!
# Routes

Resources are found by their exact path and answer two methods, `GET` and `HEAD`.  Whatever the
layers made of a request, its answer is completed in the end: with the methods of the resource,
with the length of the body, and without the body if none was asked for.
-/

namespace ClientOrigin

open Text

/-- What a resource answers. -/
abbrev Handler := Visit → Response

/-- Resources by path. -/
abbrev Routes := List (Text × Handler)

namespace Routes

/-- The resource of a path. -/
def find? (routes : Routes) (path : Text) : Option Handler := routes.lookup path

/-- The methods that resources answer. -/
def answers (m : Method) : Bool := m = .get || m = .head

/-- The answer of the resources, without any layer. -/
def respond (routes : Routes) (v : Visit) : Response :=
  match routes.find? v.request.target.path with
  | none => .empty .notFound
  | some handler =>
    if answers v.request.method then handler v else .empty .methodNotAllowed

/-- The service of the resources. -/
def service (routes : Routes) : Service := fun v s => ⟨routes.respond v, [], s⟩

/-- The methods of the resource are told to those who used another one. -/
def withAllowed (m : Method) (r : Response) : Response :=
  if answers m then r else { r with headers := r.headers.addMissing .allow .allowed }

/-- The completed answer to a request.  Under paths that no resource has, answers stay as they
are; targets that are no paths are measured all the same. -/
def completed (routes : Routes) (request : Request) (r : Response) : Response :=
  if (routes.find? request.target.path).isSome then
    (withAllowed request.method r).measured.bodyFor request.method
  else if request.target.path.head? = some '/' then r
  else r.measured.bodyFor request.method

end Routes

/-! ## Resources -/

namespace Handler

/-- How the request wants to see its address. -/
def rendering (r : Request) : Rendering :=
  let format := Parameter.read r.headers r.query ["x-format".toList, "format".toList]
  if eqIgnoringAsciiCase format "text".toList then .bare
  else if Parameter.readFlag r.headers r.query false ["x-pretty".toList, "pretty".toList] then
    .indented
  else .compact

/-- The type of a rendering. -/
def typeOf : Rendering → HeaderValue
  | .bare => .plainText
  | .compact => .json
  | .indented => .json

/-- An answer that needs the client; without a layer that resolves it there is none. -/
def withClient (answer : Resolution → Response) : Handler := fun v =>
  match v.client with
  | some client => answer client
  | none => .plain .internalError "Client address not resolved".toList

/-- The address that the request comes from. -/
def address : Handler := fun v =>
  withClient (fun client =>
    let rendering := rendering v.request
    .withBody .ok (typeOf rendering) (client.render rendering)) v

/-- A sign of life. -/
def health : Handler := fun _ => .plain .ok "ok".toList

/-- The address and its source on one line. -/
def who : Handler :=
  withClient fun client =>
    .plain .ok (client.address.print ++ [' '] ++ client.source.name.toList)

/-- The id of the request. -/
def id : Handler := fun v => .plain .ok v.idText

end Handler

/-- The resources of the server. -/
def Routes.server : Routes := [("/ip".toList, Handler.address), ("/health".toList, Handler.health)]

/-- Resources that show what the layers found out about a request. -/
def Routes.probe : Routes := [("/who".toList, Handler.who), ("/id".toList, Handler.id)]

end ClientOrigin
