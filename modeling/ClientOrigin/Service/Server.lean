import ClientOrigin.Service.Application

/-!
# The server

The server tells every caller the address that it is resolved to.  Its layers are, from the
outside in: the id of the request, its echo, the span of the log, the time limit, the resolver,
and the rate limit if it is enabled.
-/

namespace ClientOrigin

/-- A server ready for requests: the application, its state at the start, and what was logged
when it was set up. -/
structure Server where
  application : Application
  state : ServiceState
  events : List LogEvent

namespace Server

/-- The log target of the server. -/
def target : String := "client_ip::http::server"

/-- The layers of the server, the innermost first. -/
def layers (s : LimitSettings) : List Layer :=
  (if s.enabled then [.rateLimit] else []) ++
    [.clientAddress, .timeout, .trace, .propagateId, .assignId]

/-- The networks of a set between brackets. -/
def networksText (set : TrustedSet) : Text :=
  ['['] ++ Text.joined [',', ' '] (set.networks.map Network.print) ++ [']']

/-- A proxy is expected, but no header is named. -/
def headerExpected : LogEvent :=
  ⟨.event, .warn, target,
    "client_ip.behind_proxy is set but forwarded_header is empty; using peer addresses", []⟩

/-- The resolver has been set up. -/
def resolverConfigured (s : ResolutionSettings) (resolver : Resolver) : LogEvent :=
  ⟨.event, .info, target, "Client IP resolution configured",
    [("behind_proxy", .flag s.behindProxy),
      ("forwarded_header", .shown (String.ofList s.forwardedHeader)),
      ("trusted_prefixes", .shown (String.ofList (networksText resolver.trusted)))]⟩

/-- What is logged when the server is set up. -/
def setupEvents (s : ResolutionSettings) (resolver : Resolver) : List LogEvent :=
  (if s.behindProxy && !resolver.usesHeader then [headerExpected] else []) ++
    [resolverConfigured s resolver]

/-- The server that the settings describe. -/
def ofSettings (s : Settings) (ids : Nat → RequestId) : Except HeaderError Server :=
  (Resolver.ofSettings s.resolution).map fun resolver =>
    { application :=
        { environment := ⟨resolver, s.timeouts.requestSecs.toNat, ids⟩
          layers := layers s.limit
          routes := .server }
      state := .start (.ofSettings s.limit)
      events := setupEvents s.resolution resolver }

end Server

end ClientOrigin
