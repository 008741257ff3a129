import ClientOrigin.Network.Aggregate
import ClientOrigin.Network.Text
import ClientOrigin.Text.Blank

/-!
# Trusted networks

The networks of the operator's own proxies.  An address is looked up in its canonical form, so a
host of an IPv4 network is trusted also where it appears as an IPv4-mapped address.
-/

namespace ClientOrigin

/-- A set of trusted networks in normal form. -/
structure TrustedSet where
  networks : List Network
  deriving DecidableEq, Repr

namespace TrustedSet

/-- No trusted network at all. -/
def empty : TrustedSet := ⟨[]⟩

/-- The set of the networks as an operator wrote them. -/
def ofList (networks : List Network) : TrustedSet :=
  ⟨Network.aggregate (networks.map Network.truncated)⟩

/-- The set of the networks that the texts write, each with white space around it; none if one of
them is no network. -/
def ofTexts? (texts : List Text) : Option TrustedSet :=
  (texts.mapM fun text => Network.ofText? (Text.trim text)).map ofList

/-- There is no trusted network. -/
def isEmpty (t : TrustedSet) : Bool := t.networks.isEmpty

/-- The address belongs to a trusted network. -/
def contains (t : TrustedSet) (a : Address) : Bool :=
  t.networks.any fun network => network.contains a.canonical

/-- The addresses that are not trusted, in order. -/
def untrusted (t : TrustedSet) (addresses : List Address) : List Address :=
  addresses.filter fun a => !t.contains a

end TrustedSet

end ClientOrigin
