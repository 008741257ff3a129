import ClientOrigin.Service.Layer
import ClientOrigin.Service.Routes
import ClientOrigin.Settings.Resolver

/-!
# Applications

An application is a set of routes inside layers.  It handles requests one after another, and its
clock moves between them.
-/

namespace ClientOrigin

/-- Routes inside layers, the innermost layer first. -/
structure Application where
  environment : Environment
  layers : List Layer
  routes : Routes

/-- A request that has been handled, with the answer and the events of the log. -/
structure Exchange where
  request : Request
  response : Response
  events : List LogEvent
  deriving DecidableEq, Repr

namespace Application

/-- The answer to a request, the events and the state after it. -/
def handle (app : Application) (r : Request) (s : ServiceState) : Outcome :=
  let o := Service.inside app.environment app.layers app.routes.service (.ofRequest r) s
  { o with response := app.routes.completed r o.response }

/-- What happens to an application. -/
inductive Step where
  | request (r : Request)
  | advance (nanos : Nat)
  deriving DecidableEq, Repr

/-- One step: the exchange, if it is a request, and the state after it. -/
def step (app : Application) (s : ServiceState) : Step → Option Exchange × ServiceState
  | .request r =>
    let o := app.handle r s
    (some ⟨r, o.response, o.events⟩, o.state)
  | .advance nanos => (none, s.later nanos)

/-- The steps one after another: the exchanges, and the state in the end. -/
def run (app : Application) (s : ServiceState) : List Step → List Exchange × ServiceState
  | [] => ([], s)
  | next :: rest =>
    let (exchange, s) := app.step s next
    let (exchanges, s) := app.run s rest
    (exchange.toList ++ exchanges, s)

end Application

/-- The limiter that the settings describe. -/
def Limiter.ofSettings (s : LimitSettings) : Limiter Binary64 :=
  .start s.requestsPerSecond.toNat s.burst.toNat

/-! ## Stacks of layers on their own -/

namespace Application

/-- The resolver of a stack.  The settings of the resolver are not looked at if no layer uses
it. -/
def resolverFor (layers : List Layer) (s : ResolutionSettings) : Except HeaderError Resolver :=
  if .clientAddress ∈ layers then Resolver.ofSettings s else .ok ⟨false, none, .empty⟩

/-- Some layers around the routes that show what the layers found out. -/
def ofLayers (layers : List Layer) (s : Settings) (ids : Nat → RequestId) :
    Except HeaderError Application :=
  (resolverFor layers s.resolution).map fun resolver =>
    ⟨⟨resolver, s.timeouts.requestSecs.toNat, ids⟩, layers, .probe⟩

end Application

end ClientOrigin
