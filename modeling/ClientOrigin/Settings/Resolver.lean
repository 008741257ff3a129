import ClientOrigin.Resolve
import ClientOrigin.Settings.Basic

/-!
# The resolver of the settings

The header setting may have white space around it, and a blank one stands for no header.
-/

namespace ClientOrigin

/-- The header that a setting names, if it names one. -/
def HeaderName.ofSetting (s : Text) : Except HeaderError (Option HeaderName) :=
  if Text.trim s = [] then .ok none
  else
    match ofText? (Text.trim s) with
    | some name => .ok (some name)
    | none => .error .invalidName

/-- The resolver that the settings describe. -/
def Resolver.ofSettings (s : ResolutionSettings) : Except HeaderError Resolver :=
  (HeaderName.ofSetting s.forwardedHeader).map fun header =>
    ⟨s.behindProxy, header, .ofList s.trustedNetworks⟩

end ClientOrigin
