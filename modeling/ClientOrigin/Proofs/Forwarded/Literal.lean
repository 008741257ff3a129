import ClientOrigin.Proofs.Forwarded.Attribute

/-!
# What the scanner takes for a literal

The two shapes of a literal behind the marker, said without the scanner: hexadecimal digits and
colons between brackets, or four groups of decimal digits with dots between them (`BeginsWith`).
The scanner takes exactly these, behind a quote or without one (`literal?_eq_some_iff`).
-/

namespace ClientOrigin.Forwarded

open Text

/-! ## Shapes -/

/-- One to three decimal digits. -/
structure IsGroup (group : Text) : Prop where
  digits : ∀ c ∈ group, isDigitOf 10 c = true
  some : group ≠ []
  short : group.length ≤ 3

/-- A group in front of a text is all of its digits, or three of them. -/
def Greedy (group rest : Text) : Prop := group.length = 3 ∨ NoDigit 10 rest

/-- Groups with dots between them, the last of them in front of the given text. -/
structure AreGroups (groups : List Text) (rest : Text) : Prop where
  each : ∀ group ∈ groups, IsGroup group
  greedy : ∀ last ∈ groups.getLast?, Greedy last rest

/-- The text begins with something of the shape of a literal, and the rest stands behind it. -/
inductive BeginsWith : (text literal rest : Text) → Prop
  | bracketed {inner rest : Text} (some : inner ≠ [])
      (chars : ∀ c ∈ inner, isV6Char c = true) :
      BeginsWith ('[' :: (inner ++ ']' :: rest)) inner rest
  | dotted {groups : List Text} {rest : Text} (four : groups.length = 4)
      (taken : AreGroups groups rest) :
      BeginsWith (joined ['.'] groups ++ rest) (joined ['.'] groups) rest

/-- A literal behind the marker, after a quote or without one. -/
def Offers (after literal rest : Text) : Prop :=
  ∃ quoted text, after = quote quoted ++ text ∧ BeginsWith text literal rest

/-! ## Brackets -/

theorem cutFirst?_eq_some {sep : Char} {s a b : Text} (found : cutFirst? sep s = some (a, b)) :
    s = a ++ sep :: b ∧ sep ∉ a := by
  induction s generalizing a with
  | nil => exact absurd found (by simp [cutFirst?])
  | cons c s ih =>
      by_cases same : c = sep
      · simp only [cutFirst?, same, if_true, Option.some.injEq, Prod.mk.injEq] at found
        obtain ⟨rfl, rfl⟩ := found
        exact ⟨by rw [same, List.nil_append], List.not_mem_nil⟩
      · simp only [cutFirst?, same, if_false, Option.map_eq_some_iff, Prod.mk.injEq] at found
        obtain ⟨⟨front, back⟩, inside, rfl, rfl⟩ := found
        obtain ⟨rfl, fresh⟩ := ih inside
        exact ⟨rfl, by simp [fresh, Ne.symm same]⟩

theorem bracketed?_eq_some_iff {text inner : Text} :
    bracketed? text = some inner ↔
      inner ≠ [] ∧ (∀ c ∈ inner, isV6Char c = true) ∧
        ∃ rest, text = '[' :: (inner ++ ']' :: rest) := by
  constructor
  · intro found
    unfold bracketed? at found
    split at found
    · next rest =>
        split at found
        · next between behind cut =>
            obtain ⟨rfl, _⟩ := cutFirst?_eq_some cut
            obtain ⟨⟨some, chars⟩, same⟩ := Option.ite_none_right_eq_some.mp found
            obtain rfl : between = inner := Option.some.inj same
            exact ⟨some, List.all_eq_true.mp chars, behind, rfl⟩
        · cases found
    · cases found
  · rintro ⟨some, chars, rest, rfl⟩
    have closed : ']' ∉ inner := by
      intro mem
      exact absurd (chars ']' mem) (by decide)
    simp only [bracketed?, cutFirst?_append_cons closed]
    exact if_pos ⟨some, List.all_eq_true.mpr chars⟩

/-! ## Groups -/

theorem digitGroup_append {group rest : Text} (h : IsGroup group) (greedy : Greedy group rest) :
    digitGroup (group ++ rest) = group := by
  unfold digitGroup
  rw [List.take_append, List.take_of_length_le h.short, List.takeWhile_append_of_pos h.digits]
  rcases greedy with three | stops
  · simp [three]
  · cases rest with
    | nil => simp
    | cons c rest =>
        cases room : 3 - group.length with
        | zero => simp
        | succ room => simp [stops c rfl]

/-- The scanner takes three of the digits at the start of a text, or all if there are fewer. -/
theorem digitGroup_eq (s : Text) : digitGroup s = (s.takeWhile (isDigitOf 10)).take 3 :=
  List.take_takeWhile.symm

/-- What it takes is a group, if there is a digit at all. -/
theorem digitGroup_spec {s : Text} (some : digitGroup s ≠ []) :
    ∃ rest, s = digitGroup s ++ rest ∧ s.drop (digitGroup s).length = rest ∧
      IsGroup (digitGroup s) ∧ Greedy (digitGroup s) rest := by
  let number := s.takeWhile (isDigitOf 10)
  let behind := s.dropWhile (isDigitOf 10)
  have whole : s = number.take 3 ++ (number.drop 3 ++ behind) := by
    rw [← List.append_assoc, List.take_append_drop]
    exact List.takeWhile_append_dropWhile.symm
  rw [digitGroup_eq] at some ⊢
  refine ⟨number.drop 3 ++ behind, whole, ?_, ⟨?_, some, List.length_take_le 3 number⟩, ?_⟩
  · exact (congrArg (List.drop (number.take 3).length) whole).trans List.drop_left
  · intro c mem
    exact List.mem_takeWhile_imp (List.mem_of_mem_take mem)
  · by_cases long : 3 ≤ number.length
    · exact .inl (List.length_take_of_le long)
    · have none : number.drop 3 = [] := List.drop_of_length_le (by omega)
      rw [none]
      exact .inr (noDigit_dropWhile 10 s)

/-! ## Groups with dots between them -/

/-- Groups with a dot in front of each. -/
def dotFirst (groups : List Text) : Text := groups.flatMap ('.' :: ·)

theorem areGroups_cons_iff {first : Text} {others : List Text} {rest : Text} :
    AreGroups (first :: others) rest ↔
      IsGroup first ∧ Greedy first (dotFirst others ++ rest) ∧ AreGroups others rest := by
  cases others with
  | nil =>
      constructor
      · intro h
        exact ⟨h.each first List.mem_cons_self, h.greedy first rfl, by simp, by simp⟩
      · rintro ⟨group, greedy, _⟩
        refine ⟨by simpa using group, ?_⟩
        intro last same
        obtain rfl : first = last := Option.some.inj same
        exact greedy
  | cons second others =>
      have last : (first :: second :: others).getLast? = (second :: others).getLast? := by simp
      -- in front of a dot a group is complete
      have stops : Greedy first (dotFirst (second :: others) ++ rest) :=
        .inr (noDigit_cons (by decide) _)
      constructor
      · intro h
        refine ⟨h.each first List.mem_cons_self, stops, ?_, last ▸ h.greedy⟩
        exact fun group mem => h.each group (List.mem_cons_of_mem first mem)
      · rintro ⟨group, _, h⟩
        exact ⟨List.forall_mem_cons.mpr ⟨group, h.each⟩, last ▸ h.greedy⟩

theorem dottedTail?_eq_some_iff {count : Nat} {s tail : Text} :
    dottedTail? count s = some tail ↔
      ∃ groups rest, groups.length = count ∧ s = dotFirst groups ++ rest ∧
        tail = dotFirst groups ∧ AreGroups groups rest := by
  induction count generalizing s tail with
  | zero =>
      constructor
      · intro found
        obtain rfl : [] = tail := Option.some.inj found
        exact ⟨[], s, rfl, rfl, rfl, by simp, by simp⟩
      · rintro ⟨groups, rest, none, _, rfl, _⟩
        rw [List.length_eq_zero_iff.mp none]
        rfl
  | succ count ih =>
      constructor
      · intro found
        obtain ⟨behind, rfl⟩ : ∃ behind, s = '.' :: behind := by
          unfold dottedTail? at found
          split at found
          · contradiction
          · exact ⟨_, rfl⟩
          · cases found
        obtain ⟨some, taken⟩ := Option.ite_none_left_eq_some.mp found
        obtain ⟨others, more, rfl⟩ := Option.map_eq_some_iff.mp taken
        obtain ⟨left, whole, cut, group, greedy⟩ := digitGroup_spec some
        rw [cut] at more
        obtain ⟨groups, rest, length, rfl, rfl, h⟩ := ih.mp more
        refine ⟨digitGroup behind :: groups, rest, by simp [length], ?_, rfl,
          areGroups_cons_iff.mpr ⟨group, greedy, h⟩⟩
        show '.' :: behind = '.' :: (digitGroup behind ++ dotFirst groups ++ rest)
        rw [List.append_assoc, ← whole]
      · rintro ⟨groups, rest, length, rfl, rfl, h⟩
        cases groups with
        | nil => exact absurd length (by simp)
        | cons first others =>
            obtain ⟨group, greedy, h⟩ := areGroups_cons_iff.mp h
            have more := ih.mpr ⟨others, rest, Nat.succ.inj length, rfl, rfl, h⟩
            have own := digitGroup_append group greedy
            show dottedTail? (count + 1) ('.' :: (first ++ dotFirst others ++ rest)) =
              some ('.' :: (first ++ dotFirst others))
            rw [List.append_assoc, dottedTail?]
            simp [own, group.some, more]

theorem dotted?_eq_some_iff {s literal : Text} :
    dotted? s = some literal ↔
      ∃ groups rest, groups.length = 4 ∧ s = joined ['.'] groups ++ rest ∧
        literal = joined ['.'] groups ∧ AreGroups groups rest := by
  have first_then : ∀ first others, joined ['.'] (first :: others) = first ++ dotFirst others :=
    Address.joined_cons_eq_flatMap '.'
  constructor
  · intro found
    obtain ⟨some, taken⟩ := Option.ite_none_left_eq_some.mp found
    obtain ⟨tail, more, rfl⟩ := Option.map_eq_some_iff.mp taken
    obtain ⟨left, whole, cut, group, greedy⟩ := digitGroup_spec some
    rw [cut] at more
    obtain ⟨groups, rest, length, rfl, rfl, h⟩ := dottedTail?_eq_some_iff.mp more
    refine ⟨digitGroup s :: groups, rest, by simp [length], ?_, (first_then _ _).symm,
      areGroups_cons_iff.mpr ⟨group, greedy, h⟩⟩
    rw [first_then, List.append_assoc]
    exact whole
  · rintro ⟨groups, rest, length, rfl, rfl, h⟩
    cases groups with
    | nil => exact absurd length (by simp)
    | cons first others =>
        obtain ⟨group, greedy, h⟩ := areGroups_cons_iff.mp h
        have more := dottedTail?_eq_some_iff.mpr
          ⟨others, rest, Nat.succ.inj length, rfl, rfl, h⟩
        have own := digitGroup_append group greedy
        rw [first_then, List.append_assoc, dotted?]
        simp [own, group.some, more]

/-! ## Literals -/

theorem AreGroups.head {groups : List Text} {rest : Text} (four : groups.length = 4)
    (h : AreGroups groups rest) :
    ∃ c s, joined ['.'] groups ++ rest = c :: s ∧ isDigitOf 10 c = true := by
  cases groups with
  | nil => exact absurd four (by simp)
  | cons first others =>
      have group := h.each first List.mem_cons_self
      cases first with
      | nil => exact absurd rfl group.some
      | cons c first =>
          rw [Address.joined_cons_eq_flatMap]
          exact ⟨c, _, rfl, group.digits c List.mem_cons_self⟩

theorem bracketed?_of_digit {c : Char} (digit : isDigitOf 10 c = true) (s : Text) :
    bracketed? (c :: s) = none := by
  unfold bracketed?
  split
  · next start =>
      obtain ⟨rfl, _⟩ := List.cons.inj start
      exact absurd digit (by decide)
  · rfl

/-- A literal does not begin with a quote. -/
theorem BeginsWith.not_quote {text literal rest : Text} (h : BeginsWith text literal rest) :
    ∀ c ∈ text.head?, c ≠ '"' := by
  cases h with
  | bracketed some chars => simp
  | dotted four taken =>
      obtain ⟨d, s, start, digit⟩ := taken.head four
      rw [start]
      rintro c same rfl
      obtain rfl : d = '"' := Option.some.inj same
      exact absurd digit (by decide)

theorem exists_quote (after : Text) : ∃ quoted, after = quote quoted ++ unquoted after := by
  unfold unquoted
  split
  · exact ⟨true, rfl⟩
  · exact ⟨false, rfl⟩

/-- The scanner takes a literal of either shape, and nothing else. -/
theorem literal?_eq_some_iff {after literal : Text} :
    literal? after = some literal ↔ ∃ rest, Offers after literal rest := by
  constructor
  · intro found
    obtain ⟨quoted, written⟩ := exists_quote after
    unfold literal? at found
    split at found
    · next inner taken =>
        obtain rfl : inner = literal := Option.some.inj found
        obtain ⟨some, chars, rest, text⟩ := bracketed?_eq_some_iff.mp taken
        exact ⟨rest, quoted, _, written, text ▸ .bracketed some chars⟩
    · obtain ⟨groups, rest, four, text, rfl, taken⟩ := dotted?_eq_some_iff.mp found
      exact ⟨rest, quoted, _, written, text ▸ .dotted four taken⟩
  · rintro ⟨rest, quoted, text, rfl, h⟩
    unfold literal?
    rw [unquoted_quote quoted h.not_quote]
    cases h with
    | bracketed some chars => rw [bracketed?_eq_some_iff.mpr ⟨some, chars, rest, rfl⟩]
    | dotted four taken =>
        -- the shapes differ in their first character, so the scanner may try one after the other
        obtain ⟨c, s, start, digit⟩ := taken.head four
        have open? := bracketed?_of_digit digit s
        rw [← start] at open?
        rw [open?]
        exact dotted?_eq_some_iff.mpr ⟨_, rest, four, rfl, rfl, taken⟩

end ClientOrigin.Forwarded
