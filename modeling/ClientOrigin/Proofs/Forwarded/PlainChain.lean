import ClientOrigin.Proofs.Forwarded.Attribute
import ClientOrigin.Proofs.Forwarded.Candidates

/-!
# Chains of plain addresses

A chain of hops may write its addresses as they are printed, with letters in either case and
white space around them, and it may have hops between them that name no address (`PlainChain`).

* `hopAddress?_of_spells` — a hop that spells an address names it;
* `candidates_plainChain` — the candidates of a chain are the addresses it spells: no hop that
  names none costs, doubles or adds an address of another one.
-/

namespace ClientOrigin.Forwarded

open Text

/-! ## Addresses as hops -/

/-- The text is the printed form of the address, its letters in either case. -/
def Spells (text : Text) (a : Address) : Prop := eqIgnoringAsciiCase text a.print = true

instance (text : Text) (a : Address) : Decidable (Spells text a) :=
  inferInstanceAs (Decidable (_ = true))

theorem map_asciiLower_of_spells {text : Text} {a : Address} (h : Spells text a) :
    text.map asciiLower = a.print := by
  have printed : a.print.map asciiLower = a.print := by
    rw [List.map_congr_left fun c mem => (literalChars_plain (a.mem_print c mem)).1,
      List.map_id']
  rw [← printed]
  exact beq_iff_eq.mp h

theorem asciiLower_mem_literalChars {text : Text} {a : Address} (h : Spells text a) :
    ∀ c ∈ text, asciiLower c ∈ Address.literalChars := by
  intro c mem
  apply a.mem_print
  rw [← map_asciiLower_of_spells h]
  exact List.mem_map_of_mem mem

theorem comma_not_mem_of_spells {text : Text} {a : Address} (h : Spells text a) : ',' ∉ text := by
  intro mem
  exact absurd (asciiLower_mem_literalChars h ',' mem) (by decide)

theorem lower_of_spells {text : Text} {a : Address} (h : Spells text a) :
    lower text = a.print := by
  have ascii : ∀ c ∈ text, c.toNat < 0x80 := by
    intro c mem
    exact asciiLower_ascii (literalChars_plain (asciiLower_mem_literalChars h c mem)).2.1
  rw [lower_of_ascii ascii, map_asciiLower_of_spells h]

theorem segmentAddress?_print (a : Address) : segmentAddress? a.print = some a := by
  have noMarker : ¬ marker <:+: a.print := by
    intro inside
    have equals : '=' ∈ a.print := inside.subset (by decide)
    exact (literalChars_plain (a.mem_print '=' equals)).2.2.2.2 rfl
  have none : attribute? a.print = none := by
    unfold attribute? occurrences
    rw [occurrencesAfter_eq_nil noMarker]
    rfl
  unfold segmentAddress?
  rw [none]
  exact a.ofText?_print

/-- A hop that spells an address names it. -/
theorem hopAddress?_of_spells {text : Text} {a : Address} (h : Spells text a) :
    hopAddress? text = some a := by
  have solid : trim a.print = a.print :=
    trim_of_not_blank fun c mem => (literalChars_plain (a.mem_print c mem)).2.2.1
  unfold hopAddress?
  rw [lower_of_spells h, solid, if_neg (print_ne_nil a), segmentAddress?_print]

/-! ## Chains -/

/-- Hops and the addresses that they spell.  A hop spells an address with white space around it,
or it is blank, or it is noise: a segment without a comma that is refused once it is in lower
case and without the white space around it. -/
inductive PlainChain : List Text → List Address → Prop
  | nil : PlainChain [] []
  | address {front text back : Text} {a : Address} {hops : List Text} {addresses : List Address} :
      Blank front → Spells text a → Blank back → PlainChain hops addresses →
        PlainChain ((front ++ text ++ back) :: hops) (a :: addresses)
  | blank {hop : Text} {hops : List Text} {addresses : List Address} :
      Blank hop → PlainChain hops addresses → PlainChain (hop :: hops) addresses
  | noise {hop : Text} {hops : List Text} {addresses : List Address} :
      ',' ∉ hop → segmentAddress? (trim (lower hop)) = none → PlainChain hops addresses →
        PlainChain (hop :: hops) addresses

theorem candidates_of_padded_spells {front text back : Text} {a : Address} (before : Blank front)
    (h : Spells text a) (after : Blank back) : candidates (front ++ text ++ back) = [a] := by
  have one : ',' ∉ front ++ text ++ back := by
    simp [comma_not_mem_blank before, comma_not_mem_of_spells h, comma_not_mem_blank after]
  rw [candidates_of_not_mem one, hopAddress?_pad before after, hopAddress?_of_spells h]
  rfl

theorem candidates_of_blank {hop : Text} (h : Blank hop) : candidates hop = [] := by
  rw [← candidates_trim, trim_of_blank h]
  decide

theorem candidates_of_refused {hop : Text} (one : ',' ∉ hop)
    (refused : segmentAddress? (trim (lower hop)) = none) : candidates hop = [] := by
  rw [candidates_of_not_mem one, hopAddress?, refused, ite_self]
  rfl

/-- **Plain addresses come back.**  The candidates of a chain of plain addresses are the addresses
that it spells, in order, whatever blank or unreadable hops stand between them. -/
theorem candidates_plainChain {hops : List Text} {addresses : List Address}
    (chain : PlainChain hops addresses) : candidates (joined [','] hops) = addresses := by
  rw [candidates_joined]
  induction chain with
  | nil => rfl
  | address before spelled after _ ih =>
      rw [List.flatMap_cons, candidates_of_padded_spells before spelled after, ih]
      rfl
  | blank blank _ ih =>
      rw [List.flatMap_cons, candidates_of_blank blank, ih]
      rfl
  | noise one refused _ ih =>
      rw [List.flatMap_cons, candidates_of_refused one refused, ih]
      rfl

/-- An IPv4-mapped address in capitals and a compressed one around junk: an address with a number
that is too large, an empty hop and an attribute without an address. -/
theorem candidates_plainChain_mapped :
    let hops : List Text := [['\u2003'] ++ "::FFFF:1.2.3.4".toList ++ [' '], "300.1.1.1".toList,
      [], "For=ΑΣ".toList, [] ++ "2001:DB8::7".toList ++ []]
    let addresses : List Address :=
      [.v6 0xFFFF01020304#128, .v6 0x20010DB8000000000000000000000007#128]
    PlainChain hops addresses ∧ candidates (joined [','] hops) = addresses := by
  intro hops addresses
  have chain : PlainChain hops addresses := by
    apply PlainChain.address (by decide) (by decide +kernel) (by decide)
    apply PlainChain.noise (by decide) (by decide +kernel)
    apply PlainChain.blank (by decide)
    apply PlainChain.noise (by decide) (by decide +kernel)
    exact PlainChain.address blank_nil (by decide +kernel) blank_nil .nil
  exact ⟨chain, candidates_plainChain chain⟩

end ClientOrigin.Forwarded
