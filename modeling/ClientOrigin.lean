import ClientOrigin.Lifecycle.Shutdown
import ClientOrigin.Lifecycle.Watch
import ClientOrigin.Main
import ClientOrigin.Http.Request
import ClientOrigin.Forwarded.Scan
import ClientOrigin.Proofs.Text.Encoding
import ClientOrigin.Proofs.Text.LowerCase
import ClientOrigin.Proofs.Text.Utf8
import ClientOrigin.Proofs.Toml.Document
import ClientOrigin.Proofs.Address.Dotted
import ClientOrigin.Proofs.Address.Endpoint
import ClientOrigin.Proofs.Address.Foreign
import ClientOrigin.Proofs.Address.Grammar
import ClientOrigin.Proofs.Address.Literal
import ClientOrigin.Proofs.Address.RoundTrip
import ClientOrigin.Proofs.Address.Unique
import ClientOrigin.Proofs.Network.Aggregate
import ClientOrigin.Proofs.Network.Dead
import ClientOrigin.Proofs.Network.Normal
import ClientOrigin.Proofs.Network.NormalForm
import ClientOrigin.Proofs.Network.RoundTrip
import ClientOrigin.Proofs.Forwarded.Attribute
import ClientOrigin.Proofs.Forwarded.Candidates
import ClientOrigin.Proofs.Forwarded.Complete
import ClientOrigin.Proofs.Forwarded.Elements
import ClientOrigin.Proofs.Forwarded.Homomorphism
import ClientOrigin.Proofs.Forwarded.Leftmost
import ClientOrigin.Proofs.Forwarded.Literal
import ClientOrigin.Proofs.Forwarded.PlainChain
import ClientOrigin.Proofs.Forwarded.Scan
import ClientOrigin.Proofs.Parameter
import ClientOrigin.Proofs.Resolve.Canonical
import ClientOrigin.Proofs.Resolve.Chain
import ClientOrigin.Proofs.Resolve.Fallback
import ClientOrigin.Proofs.Resolve.Rendering
import ClientOrigin.Proofs.Resolve.Rightmost
import ClientOrigin.Proofs.Settings.Arrangement
import ClientOrigin.Proofs.Settings.Problem
import ClientOrigin.Proofs.Limit.Buckets
import ClientOrigin.Proofs.Limit.Burst
import ClientOrigin.Proofs.Limit.Denied
import ClientOrigin.Proofs.Limit.Grid
import ClientOrigin.Proofs.Limit.Instant
import ClientOrigin.Proofs.Limit.Isolation
import ClientOrigin.Proofs.Limit.Paced
import ClientOrigin.Proofs.Limit.Precision
import ClientOrigin.Proofs.Limit.Pruning
import ClientOrigin.Proofs.Limit.Tracking
import ClientOrigin.Proofs.Limit.Window
import ClientOrigin.Proofs.Service.AccessLog
import ClientOrigin.Proofs.Service.Accounts
import ClientOrigin.Proofs.Service.Connection
import ClientOrigin.Proofs.Service.Layers
import ClientOrigin.Proofs.Service.Lines
import ClientOrigin.Proofs.Service.Noninterference
import ClientOrigin.Proofs.Service.Order
import ClientOrigin.Proofs.Service.RateLimit
import ClientOrigin.Proofs.Service.Record
import ClientOrigin.Proofs.Service.Representation
import ClientOrigin.Proofs.Service.RequestId
import ClientOrigin.Proofs.Service.Resources
import ClientOrigin.Proofs.Service.Server
import ClientOrigin.Proofs.Service.Stack
import ClientOrigin.Proofs.Service.Tampering
import ClientOrigin.Proofs.Command.Offline
import ClientOrigin.Proofs.Lifecycle.Signal
import ClientOrigin.Proofs.Lifecycle.Startup
import ClientOrigin.Proofs.Lifecycle.Watch
