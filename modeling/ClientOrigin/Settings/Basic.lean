import ClientOrigin.Network.Basic
import ClientOrigin.Text.Blank

/-!
# Settings

What an operator can set, section by section.  Every field has a default, so that any part of the
settings may be left out.
-/

namespace ClientOrigin

/-- Where the server listens. -/
structure ListenerSettings where
  bindAddress : Text := "0.0.0.0:8080".toList
  deriving DecidableEq, Repr

/-- How client addresses are resolved: whether a proxy stands in front, which header it writes
(none if blank), and which networks are its own. -/
structure ResolutionSettings where
  behindProxy : Bool := false
  forwardedHeader : Text := []
  trustedNetworks : List Network := []
  deriving DecidableEq, Repr

/-- How often one client may ask. -/
structure LimitSettings where
  enabled : Bool := false
  requestsPerSecond : UInt32 := 100
  burst : UInt32 := 50
  deriving DecidableEq, Repr

/-- How long a request may take. -/
structure TimeoutSettings where
  requestSecs : UInt64 := 30
  deriving DecidableEq, Repr

/-- How log events are written: as lines for people, or as JSON objects. -/
inductive LogFormat where
  | pretty
  | json
  deriving DecidableEq, Repr

/-- The name of the format. -/
def LogFormat.name : LogFormat → String
  | .pretty => "pretty"
  | .json => "json"

/-- What is reported about the server's work, and where. -/
structure ReportSettings where
  logLevel : Text := "info".toList
  logFormat : LogFormat := .pretty
  metricsEnabled : Bool := false
  metricsAddress : Text := "0.0.0.0:9090".toList
  deriving DecidableEq, Repr

/-- All settings. -/
structure Settings where
  listener : ListenerSettings := {}
  resolution : ResolutionSettings := {}
  limit : LimitSettings := {}
  timeouts : TimeoutSettings := {}
  report : ReportSettings := {}
  deriving DecidableEq, Repr

end ClientOrigin
