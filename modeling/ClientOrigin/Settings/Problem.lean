import ClientOrigin.Address.Endpoint
import ClientOrigin.Header.Name
import ClientOrigin.Settings.Basic
import ClientOrigin.Text.Quoted

/-!
# Problems of settings

Settings that can be read may still make no sense.  All problems are found, in the order of the
fields, and a field that is switched off is not looked at.
-/

namespace ClientOrigin

open Text

/-- What is wrong with settings. -/
inductive Problem where
  | invalidAddress (field : String) (value : Text)
  | invalidHeaderName (value : Text)
  | notPositive (field : String)
  deriving DecidableEq, Repr

/-- The wording of the problem. -/
def Problem.message : Problem → String
  | .invalidAddress field value =>
    field ++ ": invalid socket address " ++ String.ofList (quoted value)
  | .invalidHeaderName value =>
    "client_ip.forwarded_header: invalid header name " ++ String.ofList (quoted value)
  | .notPositive field => field ++ " must be greater than zero"

namespace Settings

/-- The text is the name of a header; a blank one stands for no header. -/
def isHeaderSetting (s : Text) : Bool := trim s == [] || (HeaderName.ofText? (trim s)).isSome

/-- The field has to be a socket address. -/
def addressProblems (field : String) (value : Text) : List Problem :=
  if (Endpoint.ofText? value).isSome then [] else [.invalidAddress field value]

/-- The field has to be positive. -/
def positiveProblems (field : String) (value : Nat) : List Problem :=
  if 0 < value then [] else [.notPositive field]

/-- The problems with where the server listens. -/
def listenerProblems (s : Settings) : List Problem :=
  addressProblems "listener.bind_address" s.listener.bindAddress

/-- The problems with where metrics are shown. -/
def metricsProblems (s : Settings) : List Problem :=
  if s.report.metricsEnabled then
    addressProblems "observability.metrics_address" s.report.metricsAddress
  else []

/-- The problems with the header that a proxy writes. -/
def headerProblems (s : Settings) : List Problem :=
  if isHeaderSetting s.resolution.forwardedHeader then []
  else [.invalidHeaderName (trim s.resolution.forwardedHeader)]

/-- The problems with the rate limit. -/
def limitProblems (s : Settings) : List Problem :=
  if s.limit.enabled then
    positiveProblems "rate_limit.requests_per_second" s.limit.requestsPerSecond.toNat ++
      positiveProblems "rate_limit.burst_size" s.limit.burst.toNat
  else []

/-- The problems with the time that a request may take. -/
def timeoutProblems (s : Settings) : List Problem :=
  positiveProblems "timeouts.request_secs" s.timeouts.requestSecs.toNat

/-- All problems. -/
def problems (s : Settings) : List Problem :=
  s.listenerProblems ++ s.metricsProblems ++ s.headerProblems ++ s.limitProblems ++
    s.timeoutProblems

end Settings

end ClientOrigin
