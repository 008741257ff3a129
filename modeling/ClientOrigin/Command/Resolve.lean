import ClientOrigin.Command.Options
import ClientOrigin.Command.Report
import ClientOrigin.Rendering

/-!
# Resolving an address offline

The command answers which address a server would see, for one value of a header and one peer.
-/

namespace ClientOrigin

/-- What is to be resolved. -/
structure ResolveCommand where
  header : Text := "X-Forwarded-For".toList
  value : Option Text := none
  peer : Text := []
  trusted : List Text := []
  direct : Bool := false
  deriving DecidableEq, Repr

/-- Why an address could not be resolved offline. -/
inductive ResolveFailure where
  | invalidHeaderName
  | invalidNetwork
  | invalidHeaderValue
  deriving DecidableEq, Repr

/-- The wording of the failure. -/
def ResolveFailure.message : ResolveFailure → String
  | .invalidHeaderName => "InvalidHeaderName"
  | .invalidNetwork => "AddrParseError(())"
  | .invalidHeaderValue => "InvalidHeaderValue"

namespace ResolveCommand

/-- The options of the command. -/
def specs : List OptionSpec :=
  [⟨"header".toList, none, true, false⟩, ⟨"value".toList, none, true, false⟩,
    ⟨"peer".toList, none, true, false⟩, ⟨"trusted".toList, none, true, true⟩,
    ⟨"direct".toList, none, false, false⟩]

/-- The command that the options describe. -/
def ofOptions (given : List GivenOption) : ResolveCommand :=
  let fallback : ResolveCommand := {}
  { header := ((valuesOf given "header".toList).head?).getD fallback.header
    value := (valuesOf given "value".toList).head?
    peer := ((valuesOf given "peer".toList).head?).getD fallback.peer
    trusted := valuesOf given "trusted".toList
    direct := valuesOf given "direct".toList ≠ [] }

/-- The headers of a request with one line, or none. -/
def headersOf (header : HeaderName) : Option Text → Except ResolveFailure HeaderMap
  | none => .ok .empty
  | some value =>
    match HeaderValue.ofText? value with
    | some value => .ok ⟨[(header, value)]⟩
    | none => .error .invalidHeaderValue

/-- The resolved address.  The header name, the networks and the value are read in this order. -/
def resolve (c : ResolveCommand) : Except ResolveFailure Resolution :=
  match HeaderName.ofText? c.header with
  | none => .error .invalidHeaderName
  | some header =>
    match TrustedSet.ofTexts? c.trusted with
    | none => .error .invalidNetwork
    | some trusted =>
      (headersOf header c.value).map fun headers =>
        (Resolver.resolve ⟨!c.direct, some header, trusted⟩ headers c.peer).1

/-- The report of the command: the resolved address, indented. -/
def report (c : ResolveCommand) : Report :=
  match c.resolve with
  | .ok resolution => .done (resolution.render .indented ++ ['\n'])
  | .error failure => .failed failure.message

end ResolveCommand

end ClientOrigin
