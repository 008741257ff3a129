import ClientOrigin.Proofs.Address.Dotted
import ClientOrigin.Proofs.Text.Cutting

/-!
# IPv6 literals

An IPv6 address is written as eight groups with colons between them, or as fewer with a double
colon among them; a dotted IPv4 address may stand for the last two.  Groups have leading zeros or
not, and letters in either case, so an address has many literals.

* `Row` — groups up to the next double colon or the end, and what they stand for;
* `V6Literal` — the literals, with the count of groups that each form needs;
* `V6Literal.read` — a literal is read as the address that it writes, in both spellings and
  whatever stands behind it, unless that goes on like an address.
-/

namespace ClientOrigin.Address

open Text

/-! ## Where groups end -/

/-- The text neither goes on with a digit nor with a colon and a digit, so that no group of an
IPv6 address begins in it, nor with a dot. -/
structure EndsGroups (s : Text) : Prop where
  noDigit : NoDigit 16 s
  noDot : ∀ c ∈ s.head?, c ≠ '.'
  noMore : ∀ rest, s = ':' :: rest → NoDigit 16 rest

theorem endsGroups_nil : EndsGroups [] where
  noDigit := noDigit_nil 16
  noDot := by simp
  noMore := by simp

theorem endsGroups_cons {c : Char} (digit : isDigitOf 16 c = false) (dot : c ≠ '.')
    (colon : c ≠ ':') (s : Text) : EndsGroups (c :: s) where
  noDigit := noDigit_cons digit s
  noDot := by
    intro d first
    rw [← Option.some.inj first]
    exact dot
  noMore := by
    intro rest equal
    injection equal with same
    exact absurd same colon

theorem endsGroups_gap (s : Text) : EndsGroups (':' :: ':' :: s) where
  noDigit := noDigit_cons (by decide) _
  noDot := by
    intro c first
    obtain rfl : ':' = c := Option.some.inj first
    decide
  noMore := by
    intro rest equal
    obtain rfl := (List.cons.inj equal).2
    exact noDigit_cons (by decide) _

theorem readGroup_eq_none {s : Text} (h : NoDigit 16 s) : readGroup s = none :=
  readNumber_eq_none 4 65536 h

theorem readGroups_of_endsGroups (spelling : Spelling) (most : Nat) (isFirst : Bool) {s : Text}
    (ends : EndsGroups s) : readGroups spelling most isFirst s = ([], false, s) := by
  have nothing : (afterSeparator? isFirst s >>= readOctets spelling) = none ∧
      (afterSeparator? isFirst s >>= readGroup) = none := by
    cases isFirst with
    | true =>
        exact ⟨readOctets_of_noDigit spelling ends.noDigit, readGroup_eq_none ends.noDigit⟩
    | false =>
        cases s with
        | nil => exact ⟨rfl, rfl⟩
        | cons c rest =>
            by_cases colon : c = ':'
            · subst colon
              have noDigit := ends.noMore rest rfl
              exact ⟨readOctets_of_noDigit spelling noDigit, readGroup_eq_none noDigit⟩
            · simp [afterSeparator?, readChar?, colon]
  cases most with
  | zero => rfl
  | succ most =>
      rw [readGroups, nothing.1, nothing.2]
      simp

/-! ## Rows of groups -/

/-- A group as it is written: one to four hexadecimal digits. -/
structure Group extends Numeral 16 65536 where
  short : digits.length ≤ 4

/-- Groups one after another; a dotted IPv4 address may stand at the end. -/
inductive Row where
  | nil
  | dotted (ip : BitVec 32)
  | cons (group : Group) (rest : Row)

namespace Row

/-- What stands between the colons. -/
def items : Row → List Text
  | nil => []
  | dotted ip => [printV4 ip]
  | cons group rest => group.digits :: rest.items

/-- The items with colons between them. -/
def text (r : Row) : Text := joined [':'] r.items

/-- The values of the groups; the dotted end stands for two. -/
def values : Row → List Nat
  | nil => []
  | dotted ip => parts 65536 2 ip.toNat
  | cons group rest => group.value :: rest.values

/-- The row ends in a dotted IPv4 address. -/
def isDotted : Row → Bool
  | nil => false
  | dotted _ => true
  | cons _ rest => rest.isDotted

theorem items_ne_nil {r : Row} (some : r ≠ nil) : r.items ≠ [] := by
  cases r with
  | nil => exact absurd rfl some
  | dotted ip => exact List.cons_ne_nil _ _
  | cons group rest => exact List.cons_ne_nil _ _

theorem text_cons (group : Group) {rest : Row} (some : rest ≠ nil) :
    (cons group rest).text = group.digits ++ ':' :: rest.text := by
  have apart := joined_cons_of_ne_nil [':'] group.digits (items_ne_nil some)
  rw [List.append_assoc] at apart
  exact apart

end Row

/-- The octets of an IPv4 address two by two. -/
theorem parts_of_octets {ip : BitVec 32} {a b c d : Nat} (h : octets ip = [a, b, c, d]) :
    parts 65536 2 ip.toNat = [a * 256 + b, c * 256 + d] := by
  have small := ip.isLt
  simp only [octets, parts, List.nil_append, List.cons_append, List.cons.injEq, and_true] at h ⊢
  omega

section Reading

variable (spelling : Spelling)

/-- One group, in front of groups that are read already. -/
theorem readGroups_succ (most : Nat) (isFirst : Bool) {s rest : Text} (group : Group)
    (stops : NoDigit 16 rest) (noDot : ∀ c ∈ rest.head?, c ≠ '.')
    (after : afterSeparator? isFirst s = some (group.digits ++ rest)) :
    readGroups spelling (most + 1) isFirst s =
      (group.value :: (readGroups spelling most false rest).1,
        (readGroups spelling most false rest).2) := by
  have fresh : '.' ∉ group.digits := by
    intro mem
    exact absurd (group.all '.' mem) (by decide)
  have number : readGroup (group.digits ++ rest) = some (group.value, rest) :=
    group.read group.short stops
  rw [readGroups, after, Option.bind_eq_bind, Option.bind_some, Option.bind_eq_bind,
    Option.bind_some, readOctets_append spelling fresh noDot stops, number]
  simp

/-- The dotted end stands for two groups. -/
theorem readGroups_dotted {most : Nat} (room : 1 ≤ most) {s rest : Text} {isFirst : Bool}
    (ip : BitVec 32) (stops : NoDigit 10 rest)
    (after : afterSeparator? isFirst s = some (printV4 ip ++ rest)) :
    readGroups spelling (most + 1) isFirst s = (parts 65536 2 ip.toNat, true, rest) := by
  obtain ⟨a, b, c, d, values⟩ : ∃ a b c d, octets ip = [a, b, c, d] := ⟨_, _, _, _, rfl⟩
  rw [readGroups, after, Option.bind_eq_bind, Option.bind_some,
    readOctets_printV4 spelling ip stops, values, parts_of_octets values]
  simp [Nat.pos_iff_ne_zero.mp room]

/-- Groups are read one by one, by induction on the row; behind the first there is always a
colon, or the end of the row. -/
theorem Row.read_after (r : Row) (some : r ≠ nil) {most : Nat} (room : r.values.length ≤ most)
    {isFirst : Bool} {s rest : Text} (ends : EndsGroups rest)
    (after : afterSeparator? isFirst s = .some (r.text ++ rest)) :
    readGroups spelling most isFirst s = (r.values, r.isDotted, rest) := by
  induction r generalizing most isFirst s with
  | nil => exact absurd rfl some
  | dotted ip =>
      have two : 2 ≤ most := room
      obtain ⟨most, rfl⟩ := Nat.exists_eq_add_of_le' (Nat.le_of_succ_le two)
      have more : 1 ≤ most := Nat.le_of_succ_le_succ two
      exact readGroups_dotted spelling more ip (ends.noDigit.mono (by decide)) after
  | cons group rest' ih =>
      obtain ⟨most, rfl⟩ := Nat.exists_eq_add_of_le' (Nat.le_trans (Nat.succ_pos _) room)
      have left : rest'.values.length ≤ most := Nat.le_of_succ_le_succ room
      by_cases last : rest' = nil
      · subst last
        rw [readGroups_succ spelling most isFirst group ends.noDigit ends.noDot after,
          readGroups_of_endsGroups spelling most false ends]
        rfl
      · rw [text_cons group last, List.append_assoc, List.cons_append] at after
        rw [readGroups_succ spelling most isFirst group (noDigit_cons (by decide) _) (by simp)
          after, ih last left rfl]
        rfl

/-- A row is read as its values. -/
theorem Row.read (r : Row) {most : Nat} (room : r.values.length ≤ most) {rest : Text}
    (ends : EndsGroups rest) :
    readGroups spelling most true (r.text ++ rest) = (r.values, r.isDotted, rest) := by
  by_cases none : r = nil
  · subst none
    exact readGroups_of_endsGroups spelling most true ends
  · exact r.read_after spelling none room ends rfl

end Reading

/-! ## Literals -/

/-- An IPv6 address as it is written. -/
inductive V6Literal where
  /-- Eight groups. -/
  | full (row : Row) (eight : row.values.length = 8)
  /-- A double colon for the groups that are missing, at least one; a dotted end is at the end. -/
  | gap (front back : Row) (plain : front.isDotted = false)
      (missing : front.values.length + back.values.length < 8)

namespace V6Literal

/-- The text of the literal. -/
def text : V6Literal → Text
  | full row _ => row.text
  | gap front back _ _ => front.text ++ [':', ':'] ++ back.text

/-- The groups that the literal writes, with zeros for the missing ones. -/
def values : V6Literal → List Nat
  | full row _ => row.values
  | gap front back _ _ =>
    front.values ++ List.replicate (8 - front.values.length - back.values.length) 0 ++ back.values

/-- The address that the literal writes. -/
def bits (l : V6Literal) : BitVec 128 := ofGroups l.values

/-- A literal is read as the address that it writes. -/
theorem read (spelling : Spelling) (l : V6Literal) {rest : Text} (ends : EndsGroups rest) :
    readV6 spelling (l.text ++ rest) = some (l.bits, rest) := by
  cases l with
  | full row eight =>
      have row := row.read spelling (Nat.le_of_eq eight) ends
      unfold readV6 text
      rw [row]
      exact if_pos eight
  | gap front back plain missing =>
      have text : (gap front back plain missing).text ++ rest =
          front.text ++ (':' :: ':' :: (back.text ++ rest)) := by
        simp [V6Literal.text]
      -- a gap that may be empty leaves room for one more group than one that may not
      have room : back.values.length ≤
          if spelling.emptyGap then 8 - front.values.length else 7 - front.values.length := by
        split <;> omega
      unfold readV6
      rw [text, front.read spelling (by omega) (endsGroups_gap _)]
      dsimp only
      rw [if_neg (by omega), plain, if_neg (by decide)]
      simp [readChar?, back.read spelling room ends, bits, values]

end V6Literal

end ClientOrigin.Address
