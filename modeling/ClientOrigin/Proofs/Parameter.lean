import ClientOrigin.Parameter
import ClientOrigin.Proofs.Text.AsciiCase

/-!
# Sources of a parameter

A parameter is looked for under several names, first in headers and then among the query arguments.

* **sources** — a name of a header or of an argument offers a text or is unusable, and a source
  says of each which (`headerValue?_eq_some_iff`, `headerValue?_eq_none_iff` and the same for the
  query);
* **first usable** — more names are looked at only if the ones in front are all unusable
  (`readHeader_append`, `readQuery_append`), so a name without use never masks another one;
* **all together** — what is read is free of white space around it, and it is empty exactly if no
  source is usable (`read_eq_nil_iff`).
-/

namespace ClientOrigin.Parameter

open Text

/-! ## Sources -/

/-- The first line of the named header is visible ASCII, and the text is what it says without the
white space around it. -/
structure HeaderOffers (headers : HeaderMap) (name text : Text) : Prop where
  line : ∃ header value written, HeaderName.ofText? name = some header ∧
    headers.first? header = some value ∧ value.visible? = some written ∧ trim written = text
  some : text ≠ []

/-- Nothing can be taken from the named header. -/
inductive HeaderUnusable (headers : HeaderMap) (name : Text) : Prop
  | invalid (noName : HeaderName.ofText? name = none)
  | absent {header : HeaderName} (named : HeaderName.ofText? name = some header)
      (noLine : ∀ line ∈ headers.lines, line.1 ≠ header)
  | hidden {header : HeaderName} {value : HeaderValue}
      (named : HeaderName.ofText? name = some header) (first : headers.first? header = some value)
      (byte : ∃ b ∈ value.bytes, isVisibleByte b = false)
  | blank {header : HeaderName} {value : HeaderValue} {written : Text}
      (named : HeaderName.ofText? name = some header) (first : headers.first? header = some value)
      (visible : value.visible? = some written) (blank : Blank written)

/-- Nothing can be taken from the argument with the given name. -/
def QueryUnusable (query : Query) (name : Text) : Prop := ∀ text ∈ query.get? name, Blank text

theorem first?_eq_none_iff {headers : HeaderMap} {header : HeaderName} :
    headers.first? header = none ↔ ∀ line ∈ headers.lines, line.1 ≠ header := by
  unfold HeaderMap.first? HeaderMap.all
  rw [List.head?_eq_none_iff, List.map_eq_nil_iff, List.filter_eq_nil_iff]
  simp only [decide_eq_true_eq, ne_eq]

theorem visible?_eq_none_iff {value : HeaderValue} :
    value.visible? = none ↔ ∃ b ∈ value.bytes, isVisibleByte b = false := by
  have hidden : value.bytes.all isVisibleByte = false ↔
      ∃ b ∈ value.bytes, isVisibleByte b = false := by simp
  unfold HeaderValue.visible?
  rw [← hidden]
  split
  · next all => simp [all]
  · next some => exact iff_of_true rfl (Bool.not_eq_true _ ▸ some)

theorem headerValue?_eq_some_iff {headers : HeaderMap} {name text : Text} :
    headerValue? headers name = some text ↔ HeaderOffers headers name text := by
  unfold headerValue?
  simp only [Option.bind_eq_bind, Option.bind_eq_some_iff, Option.ite_none_left_eq_some]
  constructor
  · rintro ⟨header, named, value, first, written, visible, some, same⟩
    obtain rfl := Option.some.inj same
    exact ⟨⟨header, value, written, named, first, visible, rfl⟩, some⟩
  · rintro ⟨⟨header, value, written, named, first, visible, rfl⟩, some⟩
    exact ⟨header, named, value, first, written, visible, some, rfl⟩

theorem headerValue?_eq_none_iff {headers : HeaderMap} {name : Text} :
    headerValue? headers name = none ↔ HeaderUnusable headers name := by
  unfold headerValue?
  simp only [Option.bind_eq_bind]
  constructor
  · intro missing
    cases named : HeaderName.ofText? name with
    | none => exact .invalid named
    | some header =>
        cases first : headers.first? header with
        | none => exact .absent named (first?_eq_none_iff.mp first)
        | some value =>
            cases visible : value.visible? with
            | none => exact .hidden named first (visible?_eq_none_iff.mp visible)
            | some written =>
                simp only [named, first, visible, Option.bind_some, ite_eq_left_iff,
                  reduceCtorEq, imp_false, not_not] at missing
                exact .blank named first visible ((trim_eq_nil_iff written).mp missing)
  · intro unusable
    cases unusable with
    | invalid noName => simp [noName]
    | absent named noLine => simp [named, first?_eq_none_iff.mpr noLine]
    | hidden named first byte => simp [named, first, visible?_eq_none_iff.mpr byte]
    | blank named first visible blank =>
        simp [named, first, visible, (trim_eq_nil_iff _).mpr blank]

theorem queryValue?_eq_none_iff {query : Query} {name : Text} :
    queryValue? query name = none ↔ QueryUnusable query (lower name) := by
  unfold queryValue? QueryUnusable
  cases query.get? (lower name) with
  | none => simp
  | some text => simp [trim_eq_nil_iff]

/-- What a source offers is not empty and has no white space around it. -/
def Trimmed (text : Text) : Prop := text ≠ [] ∧ trim text = text

theorem trimmed_of_headerValue? {headers : HeaderMap} {name text : Text}
    (found : headerValue? headers name = some text) : Trimmed text := by
  obtain ⟨⟨_, _, written, _, _, _, rfl⟩, some⟩ := headerValue?_eq_some_iff.mp found
  exact ⟨some, trim_trim written⟩

theorem trimmed_of_queryValue? {query : Query} {name text : Text}
    (found : queryValue? query name = some text) : Trimmed text := by
  unfold queryValue? at found
  simp only [Option.bind_eq_bind, Option.bind_eq_some_iff, Option.ite_none_left_eq_some] at found
  obtain ⟨written, _, some, same⟩ := found
  obtain rfl := Option.some.inj same
  exact ⟨some, trim_trim written⟩

/-! ## The first usable source -/

section Lookup

variable {α : Type} {source : α → Option Text}

/-- The text of the first source that has one, else the empty text. -/
theorem first_append (trimmed : ∀ a text, source a = some text → Trimmed text)
    (front back : List α) :
    ((front ++ back).findSome? source).getD [] =
      if (front.findSome? source).getD [] ≠ [] then (front.findSome? source).getD []
      else (back.findSome? source).getD [] := by
  rw [List.findSome?_append]
  cases found : front.findSome? source with
  | none => simp
  | some text =>
      obtain ⟨a, _, offered⟩ := List.exists_of_findSome?_eq_some found
      simp [(trimmed a text offered).1]

theorem first_eq_nil_iff (trimmed : ∀ a text, source a = some text → Trimmed text)
    (sources : List α) :
    (sources.findSome? source).getD [] = [] ↔ ∀ a ∈ sources, source a = none := by
  rw [← List.findSome?_eq_none_iff]
  cases found : sources.findSome? source with
  | none => simp
  | some text =>
      obtain ⟨a, _, offered⟩ := List.exists_of_findSome?_eq_some found
      simp [(trimmed a text offered).1]

theorem trim_first (trimmed : ∀ a text, source a = some text → Trimmed text) (sources : List α) :
    trim ((sources.findSome? source).getD []) = (sources.findSome? source).getD [] := by
  cases found : sources.findSome? source with
  | none => rfl
  | some text =>
      obtain ⟨a, _, offered⟩ := List.exists_of_findSome?_eq_some found
      exact (trimmed a text offered).2

end Lookup

section Names

variable (headers : HeaderMap) (query : Query)

theorem readHeader_append (names others : List Text) :
    readHeader headers (names ++ others) =
      if readHeader headers names ≠ [] then readHeader headers names
      else readHeader headers others :=
  first_append (fun _ _ => trimmed_of_headerValue?) names others

theorem readQuery_append (names others : List Text) :
    readQuery query (names ++ others) =
      if readQuery query names ≠ [] then readQuery query names else readQuery query others :=
  first_append (fun _ _ => trimmed_of_queryValue?) names others

/-- A header without use may as well not be named. -/
theorem readHeader_of_unusable {name : Text} (unusable : HeaderUnusable headers name)
    (names others : List Text) :
    readHeader headers (names ++ name :: others) = readHeader headers (names ++ others) := by
  have none : headerValue? headers name = none := headerValue?_eq_none_iff.mpr unusable
  unfold readHeader
  rw [List.findSome?_append, List.findSome?_append, List.findSome?_cons, none]

/-- Only the first line of a header counts. -/
theorem readHeader_congr {headers headers' : HeaderMap}
    (same : ∀ header, headers'.first? header = headers.first? header) (names : List Text) :
    readHeader headers' names = readHeader headers names := by
  have values : headerValue? headers' = headerValue? headers := by
    funext name
    unfold headerValue?
    simp only [same]
  unfold readHeader
  rw [values]

/-- No source of the parameter is usable. -/
def Unset (names : List Text) : Prop :=
  (∀ name ∈ names, HeaderUnusable headers name) ∧
    ∀ name ∈ names, QueryUnusable query (lower name)

/-- The parameter is empty exactly if no source of it is usable. -/
theorem read_eq_nil_iff (names : List Text) :
    read headers query names = [] ↔ Unset headers query names := by
  have inHeaders : readHeader headers names = [] ↔ ∀ name ∈ names, HeaderUnusable headers name := by
    simp only [← headerValue?_eq_none_iff]
    exact first_eq_nil_iff (fun _ _ => trimmed_of_headerValue?) names
  have inQuery : readQuery query names = [] ↔
      ∀ name ∈ names, QueryUnusable query (lower name) := by
    simp only [← queryValue?_eq_none_iff]
    exact first_eq_nil_iff (fun _ _ => trimmed_of_queryValue?) names
  unfold read Unset
  rw [← inHeaders, ← inQuery]
  by_cases empty : readHeader headers names = []
  · simp [empty]
  · simp [empty]

theorem trim_read (names : List Text) :
    trim (read headers query names) = read headers query names := by
  unfold read
  dsimp only
  split
  · exact trim_first (fun _ _ => trimmed_of_queryValue?) names
  · exact trim_first (fun _ _ => trimmed_of_headerValue?) names

/-! ## Flags -/

theorem affirmative_own : ∀ d ∈ affirmative.flatten, OwnForm d :=
  List.all_iff_forall_prop.mp (by decide)

theorem affirmative_lower : ∀ word ∈ affirmative, word.map asciiLower = word :=
  List.all_iff_forall_prop.mp (by decide)

/-- No text but the three words in either case of their letters means yes. -/
theorem affirmative_lower_iff (text : Text) :
    affirmative.contains (lower text) = true ↔
      ∃ word ∈ affirmative, eqIgnoringAsciiCase text word = true := by
  have spelled : ∀ word ∈ affirmative,
      (lower text = word ↔ eqIgnoringAsciiCase text word = true) := by
    intro word mem
    have own : ∀ d ∈ word, OwnForm d :=
      fun d inside => affirmative_own d (List.mem_flatten_of_mem mem inside)
    rw [lower_eq_iff own, eqIgnoringAsciiCase, affirmative_lower word mem, beq_iff_eq]
  rw [List.contains_iff_mem]
  constructor
  · intro mem
    exact ⟨lower text, mem, (spelled _ mem).mp rfl⟩
  · rintro ⟨word, mem, same⟩
    rwa [(spelled word mem).mpr same]

theorem readFlag_of_unset {names : List Text} (unset : Unset headers query names)
    (fallback : Bool) : readFlag headers query fallback names = fallback := by
  unfold readFlag
  rw [(read_eq_nil_iff headers query names).mpr unset]
  rfl

theorem readFlag_of_set {names : List Text} (set : ¬ Unset headers query names)
    (fallback : Bool) :
    readFlag headers query fallback names =
      affirmative.contains (lower (read headers query names)) := by
  rw [← read_eq_nil_iff, ← lower_eq_nil_iff] at set
  exact if_neg set

/-- **Sources do not mask each other.**  Names are looked up from the left, and one that offers
nothing changes nothing: a header without a name, without a line, or with a first line that is blank
or not visible ASCII.  Of a header only its first line counts.  A parameter is what the headers say
if they say something and what the query says otherwise, without white space around it; it is empty
exactly if no source is usable.  A flag is the default in that case and in no other one; otherwise
it means yes exactly if the text is one of the three words up to the case of ASCII letters. -/
theorem read_sources :
    (∀ names others, readHeader headers (names ++ others) =
      if readHeader headers names ≠ [] then readHeader headers names
      else readHeader headers others) ∧
    (∀ names others, readQuery query (names ++ others) =
      if readQuery query names ≠ [] then readQuery query names else readQuery query others) ∧
    (∀ name, HeaderUnusable headers name → ∀ names others,
      readHeader headers (names ++ name :: others) = readHeader headers (names ++ others)) ∧
    (∀ headers' : HeaderMap, (∀ header, headers'.first? header = headers.first? header) →
      ∀ names, readHeader headers' names = readHeader headers names) ∧
    ∀ names,
      read headers query names =
        (if readHeader headers names ≠ [] then readHeader headers names
          else readQuery query names) ∧
      trim (read headers query names) = read headers query names ∧
      (read headers query names = [] ↔ Unset headers query names) ∧
      ((∀ fallback, readFlag headers query fallback names = fallback) ↔
        Unset headers query names) ∧
      (¬ Unset headers query names → ∀ fallback,
        (readFlag headers query fallback names = true ↔
          ∃ word ∈ ["1", "yes", "true"].map String.toList,
            eqIgnoringAsciiCase (read headers query names) word = true)) := by
  refine ⟨readHeader_append headers, readQuery_append query,
    fun name unusable => readHeader_of_unusable headers unusable,
    fun headers' same => readHeader_congr same, fun names => ?_⟩
  refine ⟨(ite_not _ _ _).symm, trim_read headers query names,
    read_eq_nil_iff headers query names, ⟨?_, readFlag_of_unset headers query⟩, ?_⟩
  · -- a text is read one way, so it cannot agree with both defaults
    intro each
    by_contra set
    have yes := each true
    have no := each false
    rw [readFlag_of_set headers query set] at yes no
    exact Bool.false_ne_true (no.symm.trans yes)
  · intro set fallback
    rw [readFlag_of_set headers query set]
    exact affirmative_lower_iff (read headers query names)

end Names

/-- A request id that is not ASCII is passed over: the header that is named after it is read, one
more line with an ASCII id changes nothing, and the argument counts if no other header is named. -/
theorem read_sources_hidden :
    let hidden : HeaderValue := ⟨[0xE2, 0x80, 0x83], by decide⟩
    let lines : List (HeaderName × HeaderValue) :=
      [(.requestId, hidden), (.contentLength, .ofNat 1)]
    let headers : HeaderMap := ⟨lines⟩
    let longer : HeaderMap := ⟨lines ++ [(.requestId, .ofNat 0)]⟩
    let query : Query := ⟨[("straße".toList, "\u2003YES ".toList)]⟩
    let names := ["no name".toList, "X-Request-Id".toList, "STRAßE".toList]
    HeaderUnusable headers "X-Request-Id".toList ∧
      readHeader headers
        (["no name".toList] ++ "X-Request-Id".toList :: ["Content-Length".toList]) = ['1'] ∧
      readHeader longer names = readHeader headers names ∧
      ¬ Unset headers query names ∧ readFlag headers query false names = true := by
  intro hidden lines headers longer query names
  have named : HeaderName.ofText? "X-Request-Id".toList = some .requestId := by decide +kernel
  have unusable : HeaderUnusable headers "X-Request-Id".toList :=
    .hidden named rfl ⟨0xE2, by decide, by decide⟩
  have firsts : ∀ header, longer.first? header = headers.first? header := by
    intro header
    by_cases same : header = .requestId
    · rw [same]
      decide +kernel
    · have other : HeaderName.requestId ≠ header := Ne.symm same
      by_cases length : HeaderName.contentLength = header
      · simp [longer, headers, lines, HeaderMap.first?, HeaderMap.all, other, length]
      · simp [longer, headers, lines, HeaderMap.first?, HeaderMap.all, other, length]
  obtain ⟨_, _, skipped, first, each⟩ := read_sources headers query
  obtain ⟨_, _, empty, _, flag⟩ := each names
  have set : ¬ Unset headers query names := by
    rw [← empty]
    decide +kernel
  refine ⟨unusable, ?_, first longer firsts names, set, ?_⟩
  · rw [skipped _ unusable]
    decide +kernel
  · exact (flag set false).mpr ⟨"yes".toList, by decide, by decide +kernel⟩

end ClientOrigin.Parameter
