import ClientOrigin.Http.Message

/-!
# Requests from their parts

The method, the target, the header lines and the address of the connection are read in this
order, and the first that cannot be read decides.
-/

namespace ClientOrigin

/-- Why parts make no request. -/
inductive RequestError where
  | invalidMethod
  | invalidTarget (error : TargetError)
  | invalidHeader (error : HeaderError)
  | invalidPeer
  deriving DecidableEq, Repr

/-- The wording of the error. -/
def RequestError.message : RequestError → String
  | .invalidMethod => "invalid HTTP method"
  | .invalidTarget error => error.message
  | .invalidHeader error => error.message
  | .invalidPeer => "invalid socket address syntax"

namespace Request

/-- The connection's address, which may be left out. -/
def readPeer : Option Text → Except RequestError (Option Endpoint)
  | none => .ok none
  | some s =>
    match Endpoint.ofText? s with
    | some peer => .ok (some peer)
    | none => .error .invalidPeer

/-- The request of the given parts. -/
def ofParts (method target : Text) (lines : List (Text × Bytes)) (peer : Option Text) :
    Except RequestError Request :=
  match Method.ofText? method with
  | none => .error .invalidMethod
  | some method => do
    let target ← (Target.ofText target).mapError .invalidTarget
    let headers ← (HeaderMap.ofLines lines).mapError .invalidHeader
    let peer ← readPeer peer
    return ⟨method, target, headers, peer⟩

end Request

end ClientOrigin
