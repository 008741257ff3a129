import ClientOrigin.Network.Text
import ClientOrigin.Settings.Basic
import ClientOrigin.Toml.Document

/-!
# Settings from a document

A section of the settings is a table with the names of its fields, or an array with the values of
its first fields in order.  Fields that are left out have their defaults; names that are not known
and values beyond the last field are passed over.  A value of the wrong type spoils the whole
document.
-/

namespace ClientOrigin

open Toml

/-! ## Values -/

namespace Toml.Node

/-- The content of a string. -/
def string? : Node → Option Text
  | .string content => some content
  | _ => none

/-- A truth value. -/
def boolean? : Node → Option Bool
  | .boolean value => some value
  | _ => none

/-- An integer from zero up, below `bound`. -/
def natural? (bound : Nat) : Node → Option Nat
  | .integer value => if 0 ≤ value ∧ value < bound then some value.toNat else none
  | _ => none

/-- An integer of 32 bits. -/
def word32? (node : Node) : Option UInt32 := (node.natural? 0x100000000).map UInt32.ofNat

/-- An integer of 64 bits. -/
def word64? (node : Node) : Option UInt64 := (node.natural? 0x10000000000000000).map UInt64.ofNat

/-- A string that writes a network. -/
def network? (node : Node) : Option Network := node.string? >>= Network.ofText?

/-- An array of networks. -/
def networks? : Node → Option (List Network)
  | .array items => items.mapM network?
  | .tables items => items.mapM network?
  | _ => none

/-- An empty table or an empty array. -/
def isVoid : Node → Bool
  | .table _ entries => entries.isEmpty
  | .array items => items.isEmpty
  | _ => false

end Toml.Node

/-- The format with the given name. -/
def LogFormat.ofName? (name : Text) : Option LogFormat :=
  if name = "pretty".toList then some .pretty
  else if name = "json".toList then some .json
  else none

/-- A log format: its name, alone or as the only key of a table with nothing below it. -/
def Toml.Node.logFormat? : Node → Option LogFormat
  | .string name => LogFormat.ofName? name
  | .table _ [(name, node)] => if node.isVoid then LogFormat.ofName? name else none
  | _ => none

/-! ## Sections -/

/-- The fields of a section, by name or by position. -/
inductive Fields where
  | named (entries : Entries)
  | listed (items : List Node)

namespace Fields

/-- The fields that a node gives.  A date gives none. -/
def ofNode? : Node → Option Fields
  | .table _ entries => some (.named entries)
  | .array items => some (.listed items)
  | .tables items => some (.listed items)
  | .dateTime => some (.named [])
  | _ => none

/-- The node of the field with the given position and name. -/
def get? (fields : Fields) (position : Nat) (name : String) : Option Node :=
  match fields with
  | .named entries => entries.get? name.toList
  | .listed items => items[position]?

/-- The value of a field; `fallback` if the field is left out, none if it has the wrong type. -/
def read {α : Type} (fields : Fields) (position : Nat) (name : String)
    (decode : Node → Option α) (fallback : α) : Option α :=
  match fields.get? position name with
  | none => some fallback
  | some node => decode node

end Fields

/-- Where the server listens. -/
def ListenerSettings.ofFields? (fields : Fields) : Option ListenerSettings := do
  let bindAddress ← fields.read 0 "bind_address" Node.string? ({} : ListenerSettings).bindAddress
  return { bindAddress }

/-- How client addresses are resolved. -/
def ResolutionSettings.ofFields? (fields : Fields) : Option ResolutionSettings := do
  let fallback : ResolutionSettings := {}
  let behindProxy ← fields.read 0 "behind_proxy" Node.boolean? fallback.behindProxy
  let forwardedHeader ← fields.read 1 "forwarded_header" Node.string? fallback.forwardedHeader
  let trustedNetworks ← fields.read 2 "trusted_prefixes" Node.networks? fallback.trustedNetworks
  return { behindProxy, forwardedHeader, trustedNetworks }

/-- How often one client may ask. -/
def LimitSettings.ofFields? (fields : Fields) : Option LimitSettings := do
  let fallback : LimitSettings := {}
  let enabled ← fields.read 0 "enabled" Node.boolean? fallback.enabled
  let requestsPerSecond ←
    fields.read 1 "requests_per_second" Node.word32? fallback.requestsPerSecond
  let burst ← fields.read 2 "burst_size" Node.word32? fallback.burst
  return { enabled, requestsPerSecond, burst }

/-- How long a request may take. -/
def TimeoutSettings.ofFields? (fields : Fields) : Option TimeoutSettings := do
  let requestSecs ← fields.read 0 "request_secs" Node.word64? ({} : TimeoutSettings).requestSecs
  return { requestSecs }

/-- What is reported. -/
def ReportSettings.ofFields? (fields : Fields) : Option ReportSettings := do
  let fallback : ReportSettings := {}
  let logLevel ← fields.read 0 "log_level" Node.string? fallback.logLevel
  let logFormat ← fields.read 1 "log_format" Node.logFormat? fallback.logFormat
  let metricsEnabled ← fields.read 2 "metrics_enabled" Node.boolean? fallback.metricsEnabled
  let metricsAddress ← fields.read 3 "metrics_address" Node.string? fallback.metricsAddress
  return { logLevel, logFormat, metricsEnabled, metricsAddress }

namespace Settings

/-- The section of a node. -/
def sectionOf? {α : Type} (decode : Fields → Option α) (node : Node) : Option α :=
  Fields.ofNode? node >>= decode

/-- The settings of the fields of a whole document. -/
def ofFields? (fields : Fields) : Option Settings := do
  let listener ← fields.read 0 "listener" (sectionOf? ListenerSettings.ofFields?) {}
  let resolution ← fields.read 1 "client_ip" (sectionOf? ResolutionSettings.ofFields?) {}
  let limit ← fields.read 2 "rate_limit" (sectionOf? LimitSettings.ofFields?) {}
  let timeouts ← fields.read 3 "timeouts" (sectionOf? TimeoutSettings.ofFields?) {}
  let report ← fields.read 4 "observability" (sectionOf? ReportSettings.ofFields?) {}
  return { listener, resolution, limit, timeouts, report }

/-- The settings that a document writes; none if it is no document or has a value of the wrong
type. -/
def ofToml? (s : Text) : Option Settings := do
  let entries ← document? s
  ofFields? (.named entries)

end Settings

end ClientOrigin
