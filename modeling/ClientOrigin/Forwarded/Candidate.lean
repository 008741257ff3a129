import ClientOrigin.Address.Reader
import ClientOrigin.Forwarded.Attribute
import ClientOrigin.Text.Case

/-!
# Candidates

The addresses that the value of a forwarding header names, one for each hop, from the client's
side to ours.  Both shapes of value are understood: a list of plain addresses, and a list of
entries with a `for=` attribute.  What cannot be read is left out, so one bad hop does not cost
the others.
-/

namespace ClientOrigin.Forwarded

open Text

/-- The address of one segment: of its `for=` attribute if it has one, else of the whole
segment. -/
def segmentAddress? (segment : Text) : Option Address :=
  match attribute? segment with
  | some literal => Address.ofText? literal
  | none => Address.ofText? segment

/-- The segments of a value: its comma-separated parts in lower case, without white space around
them; empty ones are left out. -/
def segments (value : Text) : List Text :=
  ((pieces ',' (lower (trim value))).map trim).filter fun segment => !segment.isEmpty

/-- The addresses that a value names, from left to right. -/
def candidates (value : Text) : List Address := (segments value).filterMap segmentAddress?

end ClientOrigin.Forwarded
