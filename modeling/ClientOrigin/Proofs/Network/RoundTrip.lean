import ClientOrigin.Proofs.Address.RoundTrip
import ClientOrigin.Proofs.Network.NormalForm
import ClientOrigin.Proofs.Text.Cutting

/-!
# Networks read back

A network is printed as an address, a slash and a length, and read in the lenient spelling of
addresses.  The slash ends the address in either family and the end of the text ends the length, so
the network is read back; and a trusted set is the set of its own networks.

* `readLength_print` — the length of a block of either family;
* `ofText?_print_trimmed` — a network as a whole text, with white space around it;
* `ofTexts?_written` — a list of such texts, by induction on the list;
* `ofTexts?_printed` — the networks of a trusted set, in any order.
-/

namespace ClientOrigin

open Text

namespace Network

/-! ## One network -/

/-- A length is read up to the end of the text. -/
theorem readLength_print {w : Nat} (b : Block w) (digits : Nat) (positive : 0 < digits)
    (room : w < 10 ^ digits) :
    readLength digits b.base ('/' :: decimal b.length) = some (b, []) := by
  have below : b.length < w + 1 := Nat.lt_succ_of_le b.length_le
  have short : (decimal b.length).length ≤ digits :=
    length_numeral_le (by decide) positive (Nat.lt_of_le_of_lt b.length_le room)
  have number : Address.readNumber 10 digits (w + 1) (decimal b.length) = some (b.length, []) := by
    have read := (Address.Numeral.ofValue (by decide) (by decide) below).read short (noDigit_nil 10)
    rw [Address.Numeral.value_ofValue, List.append_nil] at read
    exact read
  simp [readLength, Address.readChar?, number, b.length_le]

/-- A slash ends an address of either family. -/
theorem endsGroups_slash (s : Text) : Address.EndsGroups ('/' :: s) :=
  Address.endsGroups_cons (by decide) (by decide) (by decide) s

theorem print_v4 (block : Block 32) :
    (Network.v4 block).print = Address.printV4 block.base ++ '/' :: decimal block.length :=
  (List.append_cons (Address.printV4 block.base) '/' (decimal block.length)).symm

theorem print_v6 (block : Block 128) :
    (Network.v6 block).print = Address.printV6 block.base ++ '/' :: decimal block.length :=
  (List.append_cons (Address.printV6 block.base) '/' (decimal block.length)).symm

/-- The text of a network writes that network. -/
theorem ofText?_print (n : Network) : ofText? n.print = some n := by
  cases n with
  | v4 block =>
      have address := Address.readV4_printV4 .lenient block.base
        (noDigit_cons (by decide : isDigitOf 10 '/' = false) (decimal block.length))
      have length := readLength_print block 2 (by decide) (by decide)
      rw [print_v4]
      simp [ofText?, Address.whole, read, readV4, address, length]
  | v6 block =>
      have ends := endsGroups_slash (decimal block.length)
      have noV4 := Address.readOctets_printV6 .lenient block.base ends
      have address := Address.readV6_printV6 .lenient block.base ends
      have length := readLength_print block 3 (by decide) (by decide)
      rw [print_v6]
      simp [ofText?, Address.whole, read, readV4, Address.readV4, readV6, noV4, address, length]

/-- There is no white space in the text of a network. -/
theorem isBlank_of_mem_print (n : Network) : ∀ c ∈ n.print, isBlank c = false := by
  have literal : ∀ c ∈ Address.literalChars, isBlank c = false :=
    List.all_iff_forall_prop.mp (by decide)
  have digits : ∀ length, ∀ c ∈ decimal length, isBlank c = false := fun length c mem =>
    isBlank_of_isDigitOf (isDigitOf_of_mem_numeral (by decide) (by decide) length c mem)
  have parts : ∀ (a : Address) (length : Nat), ∀ c ∈ a.print ++ '/' :: decimal length,
      isBlank c = false := by
    intro a length c mem
    rcases List.mem_append.mp mem with front | back
    · exact literal c (a.mem_print c front)
    · rcases List.mem_cons.mp back with rfl | digit
      · decide
      · exact digits length c digit
  cases n with
  | v4 block =>
      rw [print_v4]
      exact parts (.v4 block.base) block.length
  | v6 block =>
      rw [print_v6]
      exact parts (.v6 block.base) block.length

/-- The text is a network as it is printed, with white space around it. -/
def Writes (text : Text) (n : Network) : Prop :=
  ∃ front back, Blank front ∧ Blank back ∧ text = front ++ n.print ++ back

/-- White space around the text of a network does not matter. -/
theorem Writes.ofText?_trim {text : Text} {n : Network} (writes : Writes text n) :
    ofText? (trim text) = some n := by
  obtain ⟨front, back, blankFront, blankBack, rfl⟩ := writes
  rw [trim_pad blankFront blankBack, trim_of_not_blank n.isBlank_of_mem_print]
  exact ofText?_print n

end Network

/-! ## Trusted sets -/

namespace TrustedSet

/-- Texts of networks make up the set of those networks. -/
theorem ofTexts?_written {texts : List Text} {networks : List Network}
    (written : List.Forall₂ Network.Writes texts networks) :
    ofTexts? texts = some (ofList networks) := by
  have read : (texts.mapM fun text => Network.ofText? (trim text)) = some networks := by
    induction written with
    | nil => rfl
    | cons writes _ rest => rw [List.mapM_cons, writes.ofText?_trim, rest]; rfl
  unfold ofTexts?
  rw [read]
  rfl

/-- The networks of a set make up that set, in any order. -/
theorem ofList_perm_networks {networks others : List Network}
    (order : others.Perm (ofList networks).networks) : ofList others = ofList networks := by
  rw [ofList_eq_iff]
  intro a
  have sameOrder : (∃ n ∈ others, n.contains a = true) ↔
      ∃ n ∈ (ofList networks).networks, n.contains a = true :=
    exists_congr fun n => and_congr_left' order.mem_iff
  rw [sameOrder]
  show (∃ n ∈ Network.aggregate (networks.map Network.truncated), _) ↔ _
  rw [Network.aggregate_contains, Network.exists_truncated_contains]

/-- **Trusted sets read back.**  Whatever networks a set was made of, the texts of its networks
make up the same set: in any order, and with any white space around each of them. -/
theorem ofTexts?_printed (networks : List Network) (texts : List Text) (others : List Network)
    (order : others.Perm (ofList networks).networks)
    (written : List.Forall₂ Network.Writes texts others) :
    ofTexts? texts = some (ofList networks) := by
  rw [ofTexts?_written written, ofList_perm_networks order]

/-- The halves of `10.0.0.0/8` with host bits, the IPv4-mapped addresses and a single one, read
back in the opposite order and with white space of several kinds around them. -/
theorem ofTexts?_printed_mapped :
    let networks : List Network :=
      [.v6 ⟨0xFFFF01020304#128, 96, by decide⟩, .v4 ⟨0x0A000001#32, 9, by decide⟩,
        .v4 ⟨0x0A812345#32, 9, by decide⟩,
        .v6 ⟨0x20010db8000000000000000000000001#128, 128, by decide⟩]
    let texts : List Text :=
      [" \t2001:db8::1/128".toList, "::ffff:0.0.0.0/96".toList, "\u300010.0.0.0/8\r\n".toList]
    ofTexts? texts = some (ofList networks) ∧ (ofList networks).networks.length = 3 := by
  intro networks texts
  have normal : (ofList networks).networks =
      [.v4 ⟨0x0A000000#32, 8, by decide⟩, .v6 ⟨0xFFFF00000000#128, 96, by decide⟩,
        .v6 ⟨0x20010db8000000000000000000000001#128, 128, by decide⟩] := by
    unfold ofList Network.aggregate Block.aggregate
    dsimp only
    -- the networks of each family are in order already
    rw [List.mergeSort_of_pairwise (by decide +kernel),
      List.mergeSort_of_pairwise (by decide +kernel)]
    decide +kernel
  have written : List.Forall₂ Network.Writes texts (ofList networks).networks.reverse := by
    rw [normal]
    refine .cons ⟨" \t".toList, [], by decide, by decide, by decide +kernel⟩ ?_
    refine .cons ⟨[], [], by decide, by decide, by decide +kernel⟩ ?_
    exact .cons ⟨"\u3000".toList, "\r\n".toList, by decide, by decide, by decide +kernel⟩ .nil
  refine ⟨ofTexts?_printed networks texts _ (List.reverse_perm _) written, ?_⟩
  rw [normal]
  rfl

end TrustedSet

end ClientOrigin
