import ClientOrigin.Proofs.Forwarded.Candidates
import ClientOrigin.Proofs.Text.Utf8
import ClientOrigin.Resolve

/-!
# The rightmost untrusted address

The lines of a forwarding header name a chain of addresses, line after line (`chain`).  The
header attempt reads all lines as one text, but what it finds depends on the chain alone:

* **one reading** — the candidates of the joined lines are the chain (`candidates_headerText`),
  and the outcome of the attempt is read off the chain (`fromHeader_eq`);
* **specification** — the attempt succeeds with the last address of the chain that is not
  trusted, and its three failures tell apart why there is none
  (`fromHeader_rightmost_untrusted`).
-/

namespace ClientOrigin

open Text

/-! ## Chains -/

namespace HeaderMap

/-- The values of the lines whose name is the given text, its letters in either case. -/
def named (headers : HeaderMap) (name : Text) : List HeaderValue :=
  (headers.lines.filter fun line => eqIgnoringAsciiCase line.1.text name).map (·.2)

/-- The texts of these lines with commas between them. -/
def joinedLines (headers : HeaderMap) (name : Text) : Text :=
  joined [','] ((headers.named name).map HeaderValue.lossy)

/-- The addresses that these lines name, line after line. -/
def chain (headers : HeaderMap) (name : Text) : List Address :=
  (headers.named name).flatMap fun line => Forwarded.candidates line.lossy

end HeaderMap

/-- Names are kept in lower case, so the case of ASCII letters makes no difference. -/
theorem HeaderName.map_asciiLower (name : HeaderName) : name.text.map asciiLower = name.text := by
  have same : ∀ c ∈ name.text, asciiLower c = c := by
    intro c mem
    have token := List.all_eq_true.mp name.tokens c mem
    rw [Bool.and_eq_true, Bool.not_eq_true'] at token
    unfold asciiLower Char.toLower
    rw [dif_neg]
    intro upper
    have isUpper : c.isUpper = true := decide_eq_true upper
    rw [token.2] at isUpper
    exact Bool.false_ne_true isUpper
  rw [List.map_congr_left same, List.map_id']

theorem HeaderName.eqIgnoringAsciiCase_iff (a b : HeaderName) :
    eqIgnoringAsciiCase a.text b.text = true ↔ a = b := by
  unfold eqIgnoringAsciiCase
  rw [a.map_asciiLower, b.map_asciiLower, beq_iff_eq]
  constructor
  · intro equal
    cases a
    cases b
    simp_all
  · intro equal
    rw [equal]

/-- A text in any case names the header in lower case. -/
theorem HeaderName.text_of_ofText? {s : Text} {name : HeaderName}
    (h : HeaderName.ofText? s = some name) : name.text = s.map asciiLower := by
  unfold ofText? at h
  dsimp only at h
  split at h
  · rw [← Option.some.inj h]
  · exact absurd h (by simp)

namespace HeaderMap

/-- The lines of a header are found by its name in any case. -/
theorem named_text (headers : HeaderMap) (header : HeaderName) :
    headers.named header.text = headers.all header := by
  unfold named all
  congr 2
  funext line
  rw [Bool.eq_iff_iff, HeaderName.eqIgnoringAsciiCase_iff, decide_eq_true_eq]

/-- So are the lines of a header that is named by any text of its name. -/
theorem named_of_ofText? {s : Text} {header : HeaderName} (h : HeaderName.ofText? s = some header)
    (headers : HeaderMap) : headers.named s = headers.all header := by
  rw [← named_text]
  unfold named eqIgnoringAsciiCase
  rw [header.map_asciiLower, HeaderName.text_of_ofText? h]

section Lines

variable {header name : HeaderName}

theorem all_append_lines (front back : List (HeaderName × HeaderValue)) :
    all ⟨front ++ back⟩ header = all ⟨front⟩ header ++ all ⟨back⟩ header := by
  unfold all
  rw [List.filter_append, List.map_append]

theorem all_cons_self (value : HeaderValue) (rest : List (HeaderName × HeaderValue)) :
    all ⟨(header, value) :: rest⟩ header = value :: all ⟨rest⟩ header := by
  simp [all]

theorem all_cons_of_ne (differs : name ≠ header) (value : HeaderValue)
    (rest : List (HeaderName × HeaderValue)) :
    all ⟨(name, value) :: rest⟩ header = all ⟨rest⟩ header := by
  simp [all, differs]

end Lines

theorem all_append_self (headers : HeaderMap) (name : HeaderName) (value : HeaderValue) :
    (headers.append name value).all name = headers.all name ++ [value] := by
  unfold append
  rw [all_append_lines, all_cons_self]
  rfl

theorem all_append_of_ne (headers : HeaderMap) {name other : HeaderName} (h : other ≠ name)
    (value : HeaderValue) : (headers.append name value).all other = headers.all other := by
  unfold append
  rw [all_append_lines, all_cons_of_ne h.symm]
  exact List.append_nil _

theorem headerText_eq_trim (headers : HeaderMap) (header : HeaderName) :
    Resolver.headerText header headers = trim (headers.joinedLines header.text) := by
  unfold Resolver.headerText joinedLines
  rw [named_text]

/-- The lines are read on their own: the candidates of the whole text are the chain. -/
theorem candidates_headerText (headers : HeaderMap) (header : HeaderName) :
    Forwarded.candidates (Resolver.headerText header headers) = headers.chain header.text := by
  rw [headerText_eq_trim, Forwarded.candidates_trim, joinedLines, Forwarded.candidates_joined,
    List.flatMap_map]
  rfl

/-- A blank text names no address. -/
theorem chain_eq_nil_of_blank {headers : HeaderMap} {header : HeaderName}
    (h : Blank (headers.joinedLines header.text)) : headers.chain header.text = [] := by
  rw [← candidates_headerText, headerText_eq_trim, trim_of_blank h]
  decide

end HeaderMap

/-! ## The header attempt -/

/-- The last address of a chain that is not trusted. -/
def TrustedSet.rightmost? (trusted : TrustedSet) (chain : List Address) : Option Address :=
  (trusted.untrusted chain).getLast?

namespace TrustedSet

/-- It stands where the trusted end of the chain begins. -/
theorem rightmost?_eq_some_iff (trusted : TrustedSet) (chain : List Address) (a : Address) :
    trusted.rightmost? chain = some a ↔
      ∃ pre suf, chain = pre ++ [a] ++ suf ∧ trusted.contains a = false ∧
        ∀ b ∈ suf, trusted.contains b = true := by
  unfold rightmost? untrusted
  constructor
  · intro last
    obtain ⟨kept, split⟩ := List.getLast?_eq_some_iff.mp last
    obtain ⟨front, back, rfl, _, backKept⟩ := List.filter_eq_append_iff.mp split
    obtain ⟨skipped, suf, rfl, _, own, sufKept⟩ := List.filter_eq_cons_iff.mp backKept
    refine ⟨front ++ skipped, suf, ?_, ?_, ?_⟩
    · rw [List.append_assoc, List.append_assoc, List.singleton_append]
    · rw [Bool.not_eq_true'] at own
      exact own
    · intro b mem
      have gone := List.filter_eq_nil_iff.mp sufKept b mem
      rw [Bool.not_eq_true', Bool.not_eq_false] at gone
      exact gone
  · rintro ⟨pre, suf, rfl, own, tail⟩
    have sufGone : suf.filter (fun b => !trusted.contains b) = [] := by
      rw [List.filter_eq_nil_iff]
      intro b mem
      rw [tail b mem]
      exact Bool.false_ne_true
    have kept : [a].filter (fun b => !trusted.contains b) = [a] := by
      rw [List.filter_cons, own]
      rfl
    rw [List.filter_append, List.filter_append, sufGone, kept, List.append_nil,
      List.getLast?_append, List.getLast?_singleton]
    rfl

theorem rightmost?_eq_none_iff (trusted : TrustedSet) (chain : List Address) :
    trusted.rightmost? chain = none ↔ ∀ b ∈ chain, trusted.contains b = true := by
  unfold rightmost? untrusted
  rw [List.getLast?_eq_none_iff, List.filter_eq_nil_iff]
  constructor
  · intro gone b mem
    have own := gone b mem
    rw [Bool.not_eq_true', Bool.not_eq_false] at own
    exact own
  · intro all b mem
    rw [all b mem]
    exact Bool.false_ne_true

end TrustedSet

namespace Resolver

/-- Why a chain without an untrusted address gives none. -/
def chainError (header : HeaderName) (headers : HeaderMap) : ResolveError :=
  if Blank (headers.joinedLines header.text) then .headerMissing header
  else if headers.chain header.text = [] then .noCandidate header (headerText header headers)
  else .allTrusted header (headerText header headers)

/-- The three failures tell three kinds of lines apart. -/
theorem chainError_cases (header : HeaderName) (headers : HeaderMap) :
    (Blank (headers.joinedLines header.text) ∧ headers.chain header.text = [] ∧
      chainError header headers = .headerMissing header) ∨
    (¬ Blank (headers.joinedLines header.text) ∧ headers.chain header.text = [] ∧
      chainError header headers = .noCandidate header (headerText header headers)) ∨
    (¬ Blank (headers.joinedLines header.text) ∧ headers.chain header.text ≠ [] ∧
      chainError header headers = .allTrusted header (headerText header headers)) := by
  unfold chainError
  by_cases blank : Blank (headers.joinedLines header.text)
  · exact .inl ⟨blank, HeaderMap.chain_eq_nil_of_blank blank, if_pos blank⟩
  · rw [if_neg blank]
    by_cases empty : headers.chain header.text = []
    · exact .inr (.inl ⟨blank, empty, if_pos empty⟩)
    · exact .inr (.inr ⟨blank, empty, if_neg empty⟩)

/-- The outcome of the header attempt, read off the chain. -/
theorem fromHeader_eq (r : Resolver) (header : HeaderName) (headers : HeaderMap) :
    r.fromHeader header headers =
      match r.trusted.rightmost? (headers.chain header.text) with
      | some address => .ok address
      | none => .error (chainError header headers) := by
  unfold fromHeader chainError
  dsimp only
  rw [headers.candidates_headerText]
  -- the three tests of the attempt, in the order in which it makes them
  by_cases blank : Blank (headers.joinedLines header.text)
  · have missing : headerText header headers = [] := by
      rw [headers.headerText_eq_trim, trim_of_blank blank]
    have none : r.trusted.rightmost? (headers.chain header.text) = none := by
      rw [HeaderMap.chain_eq_nil_of_blank blank]
      rfl
    rw [if_pos missing, none, if_pos blank]
  · have present : headerText header headers ≠ [] := by
      rw [headers.headerText_eq_trim, Ne, trim_eq_nil_iff]
      exact blank
    rw [if_neg present, if_neg blank]
    by_cases empty : headers.chain header.text = []
    · have none : r.trusted.rightmost? (headers.chain header.text) = none := by
        rw [empty]
        rfl
      rw [if_pos empty, none, if_pos empty]
    · rw [if_neg empty, if_neg empty]
      rfl

theorem fromHeader_eq_ok_iff (r : Resolver) (header : HeaderName) (headers : HeaderMap)
    (a : Address) :
    r.fromHeader header headers = .ok a ↔
      r.trusted.rightmost? (headers.chain header.text) = some a := by
  rw [fromHeader_eq]
  cases r.trusted.rightmost? (headers.chain header.text) with
  | none => simp
  | some b => simp

theorem fromHeader_eq_error_iff (r : Resolver) (header : HeaderName) (headers : HeaderMap)
    (e : ResolveError) :
    r.fromHeader header headers = .error e ↔
      (∀ b ∈ headers.chain header.text, r.trusted.contains b = true) ∧
        chainError header headers = e := by
  rw [fromHeader_eq, ← r.trusted.rightmost?_eq_none_iff]
  cases r.trusted.rightmost? (headers.chain header.text) with
  | none => simp
  | some b => simp

/-- What a request is attributed to, read off the chain of the header that is looked at. -/
theorem resolve_fst (r : Resolver) (headers : HeaderMap) (peer : Text) :
    (r.resolve headers peer).1 =
      match r.activeHeader?.bind fun header =>
          r.trusted.rightmost? (headers.chain header.text) with
      | some address => ⟨address, .header⟩
      | none => (resolvePeer peer).1 := by
  unfold resolve
  cases r.activeHeader? with
  | none => rfl
  | some header =>
      rw [Option.bind_some]
      dsimp only
      rw [fromHeader_eq]
      cases r.trusted.rightmost? (headers.chain header.text) with
      | none => rfl
      | some address => rfl

/-- The peer is no header. -/
theorem resolvePeer_source (peer : Text) : (resolvePeer peer).1.source ≠ .header := by
  unfold resolvePeer
  split
  · exact Source.noConfusion
  · exact Source.noConfusion

/-- A request is attributed to an address of its header exactly when the header is looked at and
the address is the last one of its chain that is not trusted. -/
theorem resolve_fst_eq_header_iff (r : Resolver) (headers : HeaderMap) (peer : Text)
    (a : Address) :
    (r.resolve headers peer).1 = ⟨a, .header⟩ ↔
      ∃ header, r.activeHeader? = some header ∧
        r.trusted.rightmost? (headers.chain header.text) = some a := by
  rw [resolve_fst, ← Option.bind_eq_some_iff]
  cases r.activeHeader?.bind fun header =>
      r.trusted.rightmost? (headers.chain header.text) with
  | none =>
      constructor
      · intro equal
        exact absurd (congrArg Resolution.source equal) (resolvePeer_source peer)
      · intro impossible
        exact absurd impossible (by simp)
  | some b => simp

/-! ## Specification -/

/-- **Rightmost untrusted address.**  Let the chain be the addresses that the lines of a header
name, line after line.  The header attempt succeeds with the address of the chain that is not
trusted and has only trusted ones behind it.  It fails because all addresses are trusted,
because the lines are blank, or because something stands in them but no address; each failure
has one of these conditions.  An address that is taken from a header is never trusted. -/
theorem fromHeader_rightmost_untrusted (r : Resolver) (header : HeaderName)
    (headers : HeaderMap) :
    (∀ a, r.fromHeader header headers = .ok a ↔
      ∃ pre suf, headers.chain header.text = pre ++ [a] ++ suf ∧
        r.trusted.contains a = false ∧ ∀ b ∈ suf, r.trusted.contains b = true) ∧
    (r.fromHeader header headers = .error (.allTrusted header (headerText header headers)) ↔
      headers.chain header.text ≠ [] ∧
        ∀ b ∈ headers.chain header.text, r.trusted.contains b = true) ∧
    (r.fromHeader header headers = .error (.headerMissing header) ↔
      headers.chain header.text = [] ∧ Blank (headers.joinedLines header.text)) ∧
    (r.fromHeader header headers = .error (.noCandidate header (headerText header headers)) ↔
      headers.chain header.text = [] ∧ ¬ Blank (headers.joinedLines header.text)) ∧
    (∀ peer a, (r.resolve headers peer).1 = ⟨a, .header⟩ → r.trusted.contains a = false) := by
  have failures := chainError_cases header headers
  refine ⟨?_, ?_, ?_, ?_, ?_⟩
  · intro a
    rw [fromHeader_eq_ok_iff, TrustedSet.rightmost?_eq_some_iff]
  · rw [fromHeader_eq_error_iff]
    rcases failures with ⟨_, empty, error⟩ | ⟨_, empty, error⟩ | ⟨_, found, error⟩
    · simp [empty, error]
    · simp [empty, error]
    · simp [found, error]
  · rw [fromHeader_eq_error_iff]
    rcases failures with ⟨blank, empty, error⟩ | ⟨blank, empty, error⟩ | ⟨blank, found, error⟩
    · simp [blank, empty, error]
    · simp [blank, empty, error]
    · simp [blank, found, error]
  · rw [fromHeader_eq_error_iff]
    rcases failures with ⟨blank, empty, error⟩ | ⟨blank, empty, error⟩ | ⟨blank, found, error⟩
    · simp [blank, empty, error]
    · simp [blank, empty, error]
    · simp [blank, found, error]
  · intro peer a resolved
    obtain ⟨active, _, last⟩ := (resolve_fst_eq_header_iff r headers peer a).mp resolved
    obtain ⟨_, _, _, untrusted, _⟩ := (r.trusted.rightmost?_eq_some_iff _ a).mp last
    exact untrusted

/-- Two lines, with an address that the client made up in front and a proxy behind. -/
theorem fromHeader_rightmost_untrusted_twoLines :
    let name : HeaderName := ⟨"x-forwarded-for".toList, by decide, by decide⟩
    let r : Resolver := ⟨true, some name, ⟨[.v4 ⟨0x0A000000#32, 8, by decide⟩]⟩⟩
    let headers : HeaderMap :=
      ⟨[(name, ⟨utf8 "6.6.6.6, For=1.2.3.4:80".toList, by decide⟩),
        (name, ⟨utf8 "unknown, 10.0.0.3".toList, by decide⟩)]⟩
    r.fromHeader name headers = .ok (.v4 0x01020304#32) ∧
      r.trusted.contains (.v4 0x01020304#32) = false := by
  intro name r headers
  obtain ⟨found, _, _, _, untrusted⟩ := fromHeader_rightmost_untrusted r name headers
  constructor
  · refine (found _).mpr ⟨[.v4 0x06060606#32], [.v4 0x0A000003#32], ?_, ?_, ?_⟩
    · decide +kernel
    · decide +kernel
    · decide +kernel
  · exact untrusted [] _ (by decide +kernel)

end Resolver

end ClientOrigin
