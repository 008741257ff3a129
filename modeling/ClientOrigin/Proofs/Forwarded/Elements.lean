import ClientOrigin.Proofs.Address.Foreign
import ClientOrigin.Proofs.Forwarded.Attribute
import ClientOrigin.Proofs.Forwarded.Candidates
import ClientOrigin.Proofs.Forwarded.Marker

/-!
# Elements of the `Forwarded` header

An element gives an address in its `for=` attribute, among parameters.  In lower case it is the
first attribute of its segment (`Element.exists_lower_eq`), trimming keeps it
(`Element.exists_trim_lower_eq`), and its literal is the address, which the scanner reads where it
is canonical (`literal?_hostText`).  So a header of such elements gives back their addresses
(`candidates_elements`).  The text of an IPv4-mapped address ends in a dotted part, which the
scanner does not take in brackets: its element names no address (`candidates_text_of_mapped`).
-/

namespace ClientOrigin.Forwarded

open Text

/-! ## Elements -/

/-- Parameters in front of something, if there are any, and the character that ends them. -/
def endedBy (c : Char) : Option Text → Text
  | none => []
  | some s => s ++ [c]

/-- A part that a character introduces, if there is one. -/
def opened (c : Char) : Option Text → Text
  | none => []
  | some s => c :: s

/-- An address as the value of an attribute. -/
def hostText : Address → Text
  | .v4 bits => Address.printV4 bits
  | .v6 bits => '[' :: (Address.printV6 bits ++ [']'])

theorem hostText_v6_append (bits : BitVec 128) (s : Text) :
    hostText (.v6 bits) ++ s = '[' :: (Address.printV6 bits ++ ']' :: s) := by
  simp [hostText]

/-- An element that gives an address in its `for=` attribute: perhaps in quotes, with a port, with
parameters before it in which there is no such attribute, with any parameters behind it, and with
white space around it all. -/
structure Element where
  address : Address
  name : Text
  quoted : Bool
  port : Option Text
  before : Option Text
  after : Option Text
  front : Text
  back : Text
  isFor : eqIgnoringAsciiCase name "for".toList = true
  noMarker : ∀ s ∈ before, NoMarker s
  noComma : ∀ part ∈ [before, port, after], ',' ∉ part.getD []
  blankFront : Blank front
  blankBack : Blank back

namespace Element

/-- The attribute up to the end of its address. -/
def binding (e : Element) : Text :=
  e.name ++ '=' :: (quote e.quoted ++ hostText e.address)

/-- What stands behind the address. -/
def behind (e : Element) : Text :=
  opened ':' e.port ++ quote e.quoted ++ opened ';' e.after

/-- The element as it stands between commas. -/
def text (e : Element) : Text :=
  e.front ++ (endedBy ';' e.before ++ (e.binding ++ e.behind)) ++ e.back

theorem name_ascii (e : Element) : e.name.map asciiLower = "for".toList := by
  have same : "for".toList.map asciiLower = "for".toList := by decide
  rw [← same]
  exact beq_iff_eq.mp e.isFor

end Element

theorem mem_hostText (a : Address) :
    ∀ c ∈ hostText a, c ∈ '[' :: ']' :: Address.literalChars := by
  intro c mem
  cases a with
  | v4 bits =>
      have literal := Address.mem_printV4 bits c mem
      simp [literal]
  | v6 bits =>
      simp only [hostText, List.mem_cons, List.mem_append, List.not_mem_nil, or_false] at mem
      rcases mem with rfl | literal | rfl
      · simp
      · have literal := Address.mem_print (.v6 bits) c literal
        simp [literal]
      · simp

theorem mem_quote {quoted : Bool} {c : Char} (h : c ∈ quote quoted) : c = '"' := by
  cases quoted with
  | true => exact List.mem_singleton.mp h
  | false => exact absurd h (by simp [quote])

namespace Element

theorem binding_ascii (e : Element) : ∀ c ∈ e.binding, c.toNat < 0x80 := by
  intro c mem
  simp only [binding, List.mem_append, List.mem_cons] at mem
  rcases mem with name | rfl | open? | host
  · have small : ∀ d ∈ "for".toList, d.toNat < 0x80 :=
      List.all_iff_forall_prop.mp (by decide)
    apply asciiLower_ascii
    apply small
    rw [← e.name_ascii]
    exact List.mem_map_of_mem name
  · decide
  · rw [mem_quote open?]
    decide
  · exact (hostChars_plain c (mem_hostText e.address c host)).2.1

theorem map_binding (e : Element) :
    e.binding.map asciiLower = marker ++ (quote e.quoted ++ hostText e.address) := by
  have host : (hostText e.address).map asciiLower = hostText e.address := by
    rw [List.map_congr_left fun c mem => (hostChars_plain c (mem_hostText _ c mem)).1,
      List.map_id']
  have quote' : (quote e.quoted).map asciiLower = quote e.quoted := by
    cases e.quoted <;> decide
  unfold binding
  rw [List.map_append, List.map_cons, List.map_append, e.name_ascii, quote', host]
  rfl

theorem behind_cases (e : Element) :
    e.behind = [] ∨ ∃ c s, e.behind = c :: s ∧ c ∈ [':', '"', ';'] := by
  unfold behind
  cases e.port with
  | some port => exact .inr ⟨':', _, rfl, by decide⟩
  | none =>
      cases e.quoted with
      | true => exact .inr ⟨'"', _, rfl, by decide⟩
      | false =>
          cases e.after with
          | some after => exact .inr ⟨';', _, rfl, by decide⟩
          | none => exact .inl rfl

theorem behindChars_plain : ∀ c ∈ [':', '"', ';'],
    c.toNat < 0x80 ∧ c ≠ 'Σ' ∧ asciiLower c = c ∧ isBlank c = false ∧
      isDigitOf 10 c = false :=
  List.all_iff_forall_prop.mp (by decide)

/-- What stands behind an address does not go on with a digit, also in lower case and without the
white space at its end. -/
theorem noDigit_behind (e : Element) (before : Text) :
    NoDigit 10 (trimEnd (lowerAfter before e.behind)) := by
  rcases e.behind_cases with empty | ⟨c, s, text, mem⟩
  · rw [empty]
    exact noDigit_nil 10
  · obtain ⟨ascii, notSigma, lowered, solid, noDigit⟩ := behindChars_plain c mem
    rw [text, lowerAfter_cons notSigma, lowerForm_of_ascii ascii, lowered, List.singleton_append]
    have kept := trimEnd_append_cons solid [] (lowerAfter (c :: before) s)
    rw [List.nil_append, List.nil_append] at kept
    rw [kept]
    exact noDigit_cons noDigit _

/-- Parameters in front hide no attribute behind them. -/
def Unhidden (front : Text) : Prop :=
  front = [] ∨ ∃ s, front = s ++ [';'] ∧ ¬ marker <:+: s

theorem unhidden_trimStart {front : Text} (h : Unhidden front) : Unhidden (trimStart front) := by
  rcases h with rfl | ⟨s, rfl, fresh⟩
  · exact .inl rfl
  · refine .inr ⟨trimStart s, trimStart_append_cons (by decide) s [], ?_⟩
    exact fun inside => fresh (inside.trans (List.dropWhile_suffix isBlank).isInfix)

/-- In lower case an element begins with parameters that hide nothing, then comes its address. -/
theorem exists_lower_eq (e : Element) :
    ∃ front before, lower (endedBy ';' e.before ++ (e.binding ++ e.behind)) =
        front ++ (marker ++ (quote e.quoted ++ hostText e.address)) ++
          lowerAfter before e.behind ∧ Unhidden front := by
  have lowered : ∀ before, lowerAfter before (e.binding ++ e.behind) =
      marker ++ (quote e.quoted ++ hostText e.address) ++
        lowerAfter (e.binding.reverse ++ before) e.behind := by
    intro before
    rw [lowerAfter_append_of_ascii e.binding_ascii, e.map_binding]
  cases parameters : e.before with
  | none => exact ⟨[], _, lowered [], .inl rfl⟩
  | some s =>
      have semicolon : IsCaseBoundary ';' ∧ lowerForm ';' = [';'] := by decide +kernel
      refine ⟨lower s ++ [';'], e.binding.reverse ++ [], ?_, .inr ⟨lower s, rfl, ?_⟩⟩
      · have cut := lower_append_cons semicolon.1 s (e.binding ++ e.behind)
        have own : lower (e.binding ++ e.behind) = _ := lowered []
        rw [semicolon.2, own] at cut
        rw [endedBy, List.append_assoc, List.singleton_append, cut]
        simp
      · exact not_infix_lowerAfter (e.noMarker s parameters) []

theorem exists_hostText_eq (a : Address) :
    ∃ s c, hostText a = s ++ [c] ∧ isBlank c = false := by
  have some : hostText a ≠ [] := by
    cases a with
    | v4 bits => exact print_ne_nil (.v4 bits)
    | v6 bits => simp [hostText]
  refine ⟨(hostText a).dropLast, (hostText a).getLast some,
    (List.dropLast_concat_getLast some).symm, ?_⟩
  exact (hostChars_plain _ (mem_hostText a _ (List.getLast_mem some))).2.2.1

/-- The attribute is the first one in its segment. -/
theorem exists_trim_lower_eq (e : Element) :
    ∃ front before, trim (lower (endedBy ';' e.before ++ (e.binding ++ e.behind))) =
        front ++ (marker ++ (quote e.quoted ++
          (hostText e.address ++ trimEnd (lowerAfter before e.behind)))) ∧ Unhidden front := by
  obtain ⟨front, before, lowered, unhidden⟩ := e.exists_lower_eq
  obtain ⟨s, c, host, solid⟩ := exists_hostText_eq e.address
  refine ⟨trimStart front, before, ?_, unhidden_trimStart unhidden⟩
  have start : trimStart (front ++ (marker ++ (quote e.quoted ++ hostText e.address)) ++
      lowerAfter before e.behind) =
      trimStart front ++ (marker ++ (quote e.quoted ++ s)) ++
        c :: lowerAfter before e.behind := by
    have cut := trimStart_append_cons (c := 'f') (by decide) front
      (marker.tail ++ (quote e.quoted ++ hostText e.address) ++ lowerAfter before e.behind)
    simpa [marker, host] using cut
  unfold trim
  rw [lowered, start, trimEnd_append_cons solid, host]
  simp

theorem literal?_hostText (quoted : Bool) {a : Address} (canonical : a.IsCanonical) {rest : Text}
    (stops : NoDigit 10 rest) :
    literal? (quote quoted ++ (hostText a ++ rest)) = some a.print := by
  cases a with
  | v4 bits => exact literal?_v4 quoted bits stops
  | v6 bits =>
      rw [hostText_v6_append, literal?_v6 quoted ((Address.isCanonical_v6_iff bits).mp canonical)]
      rfl

theorem exists_occurrences_eq {front : Text} (unhidden : Unhidden front) (after : Text) :
    ∃ before, occurrences (front ++ (marker ++ after)) =
        ⟨before, after⟩ :: occurrencesAfter (some 'f') (marker.tail ++ after) ∧
      (⟨before, after⟩ : Occurrence).startsWord = true := by
  rcases unhidden with rfl | ⟨s, rfl, fresh⟩
  · exact ⟨none, occurrencesAfter_marker none after, rfl⟩
  · refine ⟨some ';', ?_, rfl⟩
    rw [List.append_assoc, List.singleton_append, occurrences,
      occurrencesAfter_append_cons fresh (by decide), occurrencesAfter_marker]

/-- The literal of the first attribute counts, and the later ones only if it has none. -/
theorem attribute?_append {front : Text} (unhidden : Unhidden front) (after : Text) :
    attribute? (front ++ (marker ++ after)) =
      (literal? after).or ((occurrencesAfter (some 'f') (marker.tail ++ after)).findSome?
        Occurrence.literal?) := by
  obtain ⟨before, found, starts⟩ := exists_occurrences_eq unhidden after
  unfold attribute?
  rw [found, List.findSome?_cons, Occurrence.literal?, if_pos starts]
  cases literal? after with
  | none => rfl
  | some literal => rfl

theorem comma_not_mem_text (e : Element) : ',' ∉ e.text := by
  have host : ',' ∉ hostText e.address := fun mem =>
    (hostChars_plain ',' (mem_hostText e.address ',' mem)).2.2.2.1 rfl
  have quote' : ',' ∉ quote e.quoted := fun mem => absurd (mem_quote mem) (by decide)
  have name : ',' ∉ e.name := by
    intro mem
    have lowered : asciiLower ',' ∈ "for".toList := by
      rw [← e.name_ascii]
      exact List.mem_map_of_mem mem
    exact absurd lowered (by decide)
  have part : ∀ s ∈ [e.before, e.port, e.after], ',' ∉ endedBy ';' s ∧ ',' ∉ opened ';' s ∧
      ',' ∉ opened ':' s := by
    intro s mem
    have none := e.noComma s mem
    cases s with
    | none => simp [endedBy, opened]
    | some s => simpa [endedBy, opened] using none
  have before := (part e.before (by simp)).1
  have port := (part e.port (by simp)).2.2
  have after := (part e.after (by simp)).2.1
  simp only [text, binding, behind, List.mem_append, List.mem_cons]
  simp [comma_not_mem_blank e.blankFront, comma_not_mem_blank e.blankBack, host, quote', name,
    before, port, after]

/-- An element with a canonical address names it. -/
theorem candidates_text {e : Element} (canonical : e.address.IsCanonical) :
    candidates e.text = [e.address] := by
  obtain ⟨front, before, scanned, unhidden⟩ := e.exists_trim_lower_eq
  have taken := literal?_hostText e.quoted canonical (e.noDigit_behind before)
  rw [candidates_of_not_mem e.comma_not_mem_text, text,
    hopAddress?_pad e.blankFront e.blankBack, hopAddress?, scanned, if_neg (by simp [marker]),
    segmentAddress?, attribute?_append unhidden, taken]
  simp [Address.ofText?_print]

/-! ## IPv4-mapped addresses -/

/-- No other attribute stands behind the address. -/
def Alone (e : Element) : Prop := NoMarker e.behind

theorem fresh_behind {e : Element} (alone : e.Alone) (before : Text) :
    ¬ marker <:+: trimEnd (lowerAfter before e.behind) := by
  have kept : trimEnd (lowerAfter before e.behind) <:+: lowerAfter before e.behind := by
    rw [trimEnd, ← List.reverse_infix, List.reverse_reverse]
    exact (List.dropWhile_suffix isBlank).isInfix
  exact fun inside => not_infix_lowerAfter alone before (inside.trans kept)

/-- Behind the attribute of an IPv6 address the next occurrence is one behind its brackets. -/
theorem occurrencesAfter_hostText (quoted : Bool) (bits : BitVec 128) (s : Text) :
    occurrencesAfter (some 'f') (marker.tail ++ (quote quoted ++ (hostText (.v6 bits) ++ s))) =
      occurrencesAfter (some ']') s := by
  have fresh : ¬ marker <:+: marker.tail ++ (quote quoted ++ '[' :: Address.printV6 bits) := by
    intro inside
    rcases List.infix_cons_iff.mp inside with front | later
    · exact absurd (List.cons_prefix_cons.mp front).1 (by decide)
    · -- the second letter of the marker stands in front only
      have mem := later.subset (by decide : 'o' ∈ marker)
      have literal : 'o' ∉ Address.printV6 bits := fun mem =>
        absurd (Address.mem_print (.v6 bits) 'o' mem) (by decide)
      have quote' : 'o' ∉ quote quoted := fun mem => absurd (mem_quote mem) (by decide)
      simp [literal, quote'] at mem
  have apart : ']' ∉ marker := by decide
  have cut := occurrencesAfter_append_cons fresh apart s (some 'f')
  rw [hostText_v6_append]
  simpa using cut

/-- An element that gives an IPv4-mapped address and no other one behind it names none: the
scanner refuses the dotted end of the address. -/
theorem candidates_text_of_mapped {e : Element} (mapped : ¬ e.address.IsCanonical)
    (alone : e.Alone) : candidates e.text = [] := by
  obtain ⟨front, before, scanned, unhidden⟩ := e.exists_trim_lower_eq
  obtain ⟨inner, address⟩ := (Address.not_isCanonical_iff e.address).mp mapped
  have isMapped := (Address.mapped?_eq_some_iff (Address.mappedForm inner) inner).mpr rfl
  rw [address] at scanned
  have equals : Address.IsForeign '=' := ⟨by decide, by decide, by decide⟩
  have noAddress := Address.ofText?_eq_none_of_mem equals
    (s := front ++ (marker ++ (quote e.quoted ++ (hostText (.v6 (Address.mappedForm inner)) ++
      trimEnd (lowerAfter before e.behind))))) (by simp [marker])
  rw [candidates_of_not_mem e.comma_not_mem_text, text,
    hopAddress?_pad e.blankFront e.blankBack, hopAddress?, scanned, if_neg (by simp [marker]),
    segmentAddress?, attribute?_append unhidden, occurrencesAfter_hostText,
    occurrencesAfter_eq_nil (fresh_behind alone before), hostText_v6_append,
    literal?_mapped e.quoted isMapped, ← hostText_v6_append]
  simp [noAddress]

end Element

/-! ## Whole headers -/

theorem candidates_eq_filter {elements : List Element}
    (told : ∀ e ∈ elements, e.address.IsCanonical ∨ e.Alone) :
    candidates (joined [','] (elements.map Element.text)) =
      (elements.map Element.address).filter fun a => a.IsCanonical := by
  rw [candidates_joined, List.flatMap_map]
  induction elements with
  | nil => rfl
  | cons e elements ih =>
      have others := ih fun other mem => told other (List.mem_cons_of_mem e mem)
      rw [List.flatMap_cons, others, List.map_cons, List.filter_cons]
      by_cases canonical : e.address.IsCanonical
      · simp [canonical, Element.candidates_text canonical]
      · have alone := (told e List.mem_cons_self).resolve_left canonical
        simp [canonical, Element.candidates_text_of_mapped canonical alone]

/-- **Elements come back.**  The candidates of elements with canonical addresses are these
addresses, in order, whatever quotes, ports and other parameters stand around them.  An
IPv4-mapped address is lost, and no other one of the header with it: where nothing else in its
element gives an address, the candidates are the canonical addresses of the elements. -/
theorem candidates_elements (elements : List Element) :
    ((∀ e ∈ elements, e.address.IsCanonical) →
      candidates (joined [','] (elements.map Element.text)) = elements.map Element.address) ∧
    ((∀ e ∈ elements, e.address.IsCanonical ∨ e.Alone) →
      candidates (joined [','] (elements.map Element.text)) =
        (elements.map Element.address).filter fun a => a.IsCanonical) := by
  refine ⟨?_, candidates_eq_filter⟩
  intro canonical
  rw [candidates_eq_filter fun e mem => .inl (canonical e mem), List.filter_eq_self]
  intro a mem
  obtain ⟨e, own, rfl⟩ := List.mem_map.mp mem
  exact decide_eq_true (canonical e own)

/-- The element `for="[::ffff:1.2.3.4]"`. -/
def Element.mapped : Element where
  address := .v6 0xFFFF01020304#128
  name := "for".toList
  quoted := true
  port := none
  before := none
  after := none
  front := []
  back := []
  isFor := by decide
  noMarker := by simp
  noComma := by decide
  blankFront := blank_nil
  blankBack := blank_nil

/-- The element ` proto=https;FOR=192.0.2.60:8080;by=_x`. -/
def Element.withPort : Element where
  address := .v4 0xC000023C#32
  name := "FOR".toList
  quoted := false
  port := some "8080".toList
  before := some "proto=https".toList
  after := some "by=_x".toList
  front := [' ']
  back := []
  isFor := by decide
  noMarker := fun s mem => by
    rw [← Option.some.inj mem]
    decide +kernel
  noComma := by decide +kernel
  blankFront := by decide
  blankBack := blank_nil

/-- The header ` proto=https;FOR=192.0.2.60:8080;by=_x` keeps its address when
`for="[::ffff:1.2.3.4]"` follows it, and the other address is lost. -/
theorem candidates_elements_withPort :
    (∀ e ∈ [Element.withPort], e.address.IsCanonical) ∧
      candidates (joined [','] ([Element.withPort].map Element.text)) = [.v4 0xC000023C#32] ∧
      (∀ e ∈ [Element.withPort, Element.mapped], e.address.IsCanonical ∨ e.Alone) ∧
      candidates (joined [','] ([Element.withPort, Element.mapped].map Element.text)) =
        [.v4 0xC000023C#32] := by
  have canonical : ∀ e ∈ [Element.withPort], e.address.IsCanonical := by
    simp [Element.withPort, Address.isCanonical_v4]
  have told : ∀ e ∈ [Element.withPort, Element.mapped], e.address.IsCanonical ∨ e.Alone := by
    have alone : Element.mapped.Alone := by
      show NoMarker ['"']
      decide
    simp [Element.withPort, Address.isCanonical_v4, alone]
  refine ⟨canonical, (candidates_elements _).1 canonical, told, ?_⟩
  rw [(candidates_elements _).2 told]
  decide +kernel

/-- An IPv4-mapped address does not come back from its element. -/
theorem candidates_mapped_ne :
    Element.mapped.text = "for=\"[::ffff:1.2.3.4]\"".toList ∧
      candidates (joined [','] ([Element.mapped].map Element.text)) ≠
        [Element.mapped].map Element.address := by
  decide +kernel

end ClientOrigin.Forwarded
