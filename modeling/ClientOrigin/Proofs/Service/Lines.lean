import ClientOrigin.Proofs.Resolve.Fallback
import ClientOrigin.Proofs.Service.Tampering
import Mathlib.Logic.Relation

/-!
# Several lines and one line

A list may be spread over several lines of a header, or stand in one line with commas in it.
`Recut` says how lines may be divided, and where lines of other headers may stand.  The bytes of a
line need not be text, and a comma may stand behind half a character.

* `exists_comma` — a line may be divided at each of its commas;
* `headerText_of_recut` — one such change leaves the text of the header as it is;
* `resolve_of_sameList` — any number of them, forwards and backwards, leave all that the resolver
  makes of the headers as it is.
-/

namespace ClientOrigin

open Text

/-- At each of its commas a value falls into two values. -/
theorem HeaderValue.exists_comma {line : HeaderValue} {front back : Bytes}
    (comma : line.bytes = front ++ 0x2C :: back) :
    ∃ x y : HeaderValue, x.bytes = front ∧ y.bytes = back ∧ line = x.comma y := by
  obtain ⟨bytes, legal⟩ := line
  obtain rfl : bytes = front ++ 0x2C :: back := comma
  have parts := legal
  rw [List.all_append, List.all_cons, Bool.and_eq_true, Bool.and_eq_true] at parts
  obtain ⟨frontLegal, _, backLegal⟩ := parts
  exact ⟨⟨front, frontLegal⟩, ⟨back, backLegal⟩, rfl, rfl, rfl⟩

namespace HeaderMap

/-- One change that is of no importance to a header: a line, of whatever name, is cut into two
consecutive lines at a comma, or a line of another name is put in somewhere. -/
inductive Recut (header : HeaderName) : HeaderMap → HeaderMap → Prop
  | cut (front back : List (HeaderName × HeaderValue)) (name : HeaderName) (x y : HeaderValue) :
      Recut header ⟨front ++ (name, x.comma y) :: back⟩ ⟨front ++ (name, x) :: (name, y) :: back⟩
  | other (front back : List (HeaderName × HeaderValue)) {name : HeaderName}
      (differs : name ≠ header) (value : HeaderValue) :
      Recut header ⟨front ++ back⟩ ⟨front ++ (name, value) :: back⟩

/-- Any number of such changes, forwards and backwards: lines may also be joined, and other lines
taken out. -/
def SameList (header : HeaderName) : HeaderMap → HeaderMap → Prop :=
  Relation.EqvGen (Recut header)

end HeaderMap

namespace Resolver

open HeaderMap

variable {header : HeaderName} {headers headers' : HeaderMap}

/-- One change leaves the text of the header as it is. -/
theorem headerText_of_recut (change : Recut header headers headers') :
    headerText header headers' = headerText header headers := by
  unfold headerText
  cases change with
  | cut front back name x y =>
      by_cases own : name = header
      · subst own
        simp only [all_append_lines, all_cons_self, List.map_append, List.map_cons,
          HeaderValue.lossy_comma]
        -- the two texts stand side by side, or in one piece with a comma between them
        have merged := joined_append_cons [','] ((all ⟨front⟩ name).map HeaderValue.lossy)
          x.lossy y.lossy ((all ⟨back⟩ name).map HeaderValue.lossy)
        rw [← merged, List.append_assoc, List.singleton_append]
      · simp only [all_append_lines, all_cons_of_ne own]
  | other front back differs value =>
      simp only [all_append_lines, all_cons_of_ne differs]

theorem headerText_of_sameList (same : SameList header headers headers') :
    headerText header headers' = headerText header headers := by
  induction same with
  | rel _ _ change => exact headerText_of_recut change
  | refl _ => rfl
  | symm _ _ _ ih => exact ih.symm
  | trans _ _ _ _ _ first second => exact second.trans first

/-- The header attempt sees nothing but the text of the header. -/
theorem fromHeader_of_headerText (r : Resolver)
    (same : headerText header headers' = headerText header headers) :
    r.fromHeader header headers' = r.fromHeader header headers := by
  unfold fromHeader
  rw [same]

/-- **Lines.**  Every comma in a line, whatever its bytes, divides it into two lines.  Dividing
lines, joining them again and putting lines of other names between them does not change what is
found in a header, or which error is given, and if it is the header that the resolver looks at, it
changes neither the client nor its source nor the log. -/
theorem resolve_of_sameList (r : Resolver) (headers headers' : HeaderMap) (peer : Text) :
    (∀ (line : HeaderValue) (front back : Bytes), line.bytes = front ++ 0x2C :: back →
      ∃ x y : HeaderValue, x.bytes = front ∧ y.bytes = back ∧ line = x.comma y) ∧
    (∀ header, SameList header headers headers' →
      r.fromHeader header headers' = r.fromHeader header headers) ∧
    ((∀ header, r.activeHeader? = some header → SameList header headers headers') →
      r.resolve headers' peer = r.resolve headers peer) := by
  have attempt : ∀ header, SameList header headers headers' →
      r.fromHeader header headers' = r.fromHeader header headers :=
    fun _ same => r.fromHeader_of_headerText (headerText_of_sameList same)
  refine ⟨fun _ _ _ comma => HeaderValue.exists_comma comma, attempt, fun same => ?_⟩
  exact resolve_congr (fun header active => attempt header (same header active)) peer

/-- A line with half a character in front of its comma, and the same in two lines with another one
between them: the error names one text for both. -/
theorem resolve_of_sameList_halfCharacter :
    let header : HeaderName := ⟨"x-forwarded-for".toList, by decide, by decide⟩
    let half : HeaderValue := ⟨[0xE2, 0x82], by decide⟩
    let rest : HeaderValue := ⟨[0x78], by decide⟩
    let r : Resolver := ⟨true, some header, .empty⟩
    let one : HeaderMap := ⟨[(header, half.comma rest)]⟩
    let two : HeaderMap := ⟨[(header, half), (.contentType, rest), (header, rest)]⟩
    SameList header one two ∧
      r.fromHeader header two = .error (.noCandidate header "\uFFFD,x".toList) ∧
      r.resolve two "1.2.3.4:80".toList = r.resolve one "1.2.3.4:80".toList := by
  intro header half rest r one two
  have cut : Recut header one ⟨[(header, half), (header, rest)]⟩ := .cut [] [] header half rest
  have other : Recut header ⟨[(header, half), (header, rest)]⟩ two :=
    .other [(header, half)] [(header, rest)] (by decide) rest
  have same : SameList header one two := .trans _ _ _ (.rel _ _ cut) (.rel _ _ other)
  obtain ⟨_, attempt, client⟩ := resolve_of_sameList r one two "1.2.3.4:80".toList
  refine ⟨same, ?_, client fun active looked => ?_⟩
  · rw [attempt header same]
    decide +kernel
  · obtain rfl := Option.some.inj looked
    exact same

end Resolver

end ClientOrigin
