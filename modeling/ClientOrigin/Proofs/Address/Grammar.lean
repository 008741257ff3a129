import ClientOrigin.Proofs.Address.Endpoint
import ClientOrigin.Proofs.Address.Unique

/-!
# The texts of socket addresses

Every literal is read as what it writes; here is the other half.  What a reader accepts is a
literal, and the rest is what stands behind it.

* `exists_row_of_readGroups` — the groups that are read are a row, by induction on the room;
* `exists_literal_of_readV6` — so an IPv6 address is one of its literals;
* `Endpoint.ofText?_eq_some_iff` — the texts of socket addresses are the literals and no others.
-/

namespace ClientOrigin

namespace Address

open Text

/-- Groups that are read are a row, behind a colon unless they are the first.  Where there is no
group, the text is left as it is, its colon too. -/
theorem exists_row_of_readGroups {most : Nat} {isFirst dotted : Bool} {values : List Nat}
    {s rest : Text} (found : readGroups .strict most isFirst s = (values, dotted, rest)) :
    ∃ r : Row, r.values = values ∧ r.isDotted = dotted ∧ values.length ≤ most ∧
      (r = .nil ∧ s = rest ∨ r ≠ .nil ∧ afterSeparator? isFirst s = some (r.text ++ rest)) := by
  induction most generalizing isFirst s values dotted rest with
  | zero =>
      obtain ⟨rfl, rfl, rfl⟩ := found
      exact ⟨.nil, rfl, rfl, Nat.le_refl 0, .inl ⟨rfl, rfl⟩⟩
  | succ most ih =>
      rw [readGroups] at found
      split at found
      · next a b c d left octets =>
          obtain ⟨rfl, rfl, rfl⟩ := found
          obtain ⟨room, octets⟩ := Option.ite_none_left_eq_some.mp octets
          obtain ⟨start, after, octets⟩ := Option.bind_eq_some_iff.mp octets
          obtain ⟨ip, parts, rfl⟩ := readOctets_strict octets
          have two : 2 ≤ most + 1 := Nat.succ_le_succ (Nat.pos_of_ne_zero room)
          exact ⟨.dotted ip, parts_of_octets parts, rfl, two, .inr ⟨by simp, after⟩⟩
      · split at found
        · next group left digits =>
            rcases inner : readGroups .strict most false left with ⟨others, ended, behind⟩
            rw [inner] at found
            obtain ⟨rfl, rfl, rfl⟩ := found
            obtain ⟨start, after, digits⟩ := Option.bind_eq_some_iff.mp digits
            obtain ⟨n, _, short, rfl, rfl⟩ := of_readNumber digits
            obtain ⟨r, rfl, rfl, room, place⟩ := ih inner
            refine ⟨.cons ⟨n, short⟩ r, rfl, rfl, Nat.succ_le_succ room, .inr ⟨by simp, ?_⟩⟩
            rcases place with ⟨rfl, rfl⟩ | ⟨some, colon⟩
            · exact after
            · rw [after, eq_cons_of_readChar? colon, Row.text_cons _ some, List.append_assoc]
              rfl
        · obtain ⟨rfl, rfl, rfl⟩ := found
          exact ⟨.nil, rfl, rfl, Nat.zero_le _, .inl ⟨rfl, rfl⟩⟩

/-- The row at the start of a text. -/
theorem exists_row_of_readGroups_first {most : Nat} {dotted : Bool} {values : List Nat}
    {s rest : Text} (found : readGroups .strict most true s = (values, dotted, rest)) :
    ∃ r : Row, r.values = values ∧ r.isDotted = dotted ∧ values.length ≤ most ∧
      s = r.text ++ rest := by
  obtain ⟨r, same, plain, room, ⟨rfl, here⟩ | ⟨_, here⟩⟩ := exists_row_of_readGroups found
  · exact ⟨.nil, same, plain, room, here⟩
  · exact ⟨r, same, plain, room, Option.some.inj here⟩

/-- What is read strictly as an IPv6 address is one of its literals. -/
theorem exists_literal_of_readV6 {bits : BitVec 128} {s rest : Text}
    (found : readV6 .strict s = some (bits, rest)) :
    ∃ l : V6Literal, l.bits = bits ∧ s = l.text ++ rest := by
  unfold readV6 at found
  rcases first : readGroups .strict 8 true s with ⟨values, dotted, behind⟩
  obtain ⟨front, rfl, rfl, most, rfl⟩ := exists_row_of_readGroups_first first
  rw [first] at found
  dsimp only at found
  split at found
  · next eight =>
      obtain ⟨rfl, rfl⟩ := Prod.mk.inj (Option.some.inj found)
      exact ⟨.full front eight, rfl, rfl⟩
  · next fewer =>
      obtain ⟨plain, found⟩ := Option.ite_none_left_eq_some.mp found
      simp only [Option.bind_eq_bind, Option.bind_eq_some_iff, Option.pure_def, Option.some.injEq,
        Prod.mk.injEq] at found
      obtain ⟨one, colon, two, second, same, rfl⟩ := found
      -- a double colon stands for one group at least
      have room : (if Spelling.strict.emptyGap then 8 - front.values.length
          else 7 - front.values.length) = 7 - front.values.length := rfl
      rw [room] at same ⊢
      rcases last : readGroups .strict (7 - front.values.length) true two with ⟨more, ended, rest⟩
      obtain ⟨back, rfl, rfl, left, rfl⟩ := exists_row_of_readGroups_first last
      rw [last] at same
      have plain : front.isDotted = false := Bool.eq_false_iff.mpr plain
      refine ⟨.gap front back plain (by omega), same, ?_⟩
      rw [eq_cons_of_readChar? colon, eq_cons_of_readChar? second]
      simp [V6Literal.text]

end Address

namespace Endpoint

open Text Address

theorem exists_numeral_of_readMarked {mark : Char} {bound value : Nat} {s rest : Text}
    (found : readMarked mark bound s = some (value, rest)) :
    ∃ n : Numeral 10 bound, n.value = value ∧ s = mark :: (n.digits ++ rest) := by
  obtain ⟨digits, marked, number⟩ := Option.bind_eq_some_iff.mp found
  obtain ⟨n, _, _, same, rfl⟩ := of_readNumber number
  exact ⟨n, same, eq_cons_of_readChar? marked⟩

theorem exists_port_of_readPort {port : BitVec 16} {s rest : Text}
    (found : readPort s = some (port, rest)) :
    ∃ p : Port, BitVec.ofNat 16 p.value = port ∧ s = ':' :: (p.digits ++ rest) := by
  obtain ⟨⟨value, behind⟩, marked, same⟩ := Option.bind_eq_some_iff.mp found
  obtain ⟨rfl, rfl⟩ := Prod.mk.inj (Option.some.inj same)
  obtain ⟨p, rfl, text⟩ := exists_numeral_of_readMarked marked
  exact ⟨p, rfl, text⟩

/-- The scope may be left out, and then nothing is read. -/
theorem exists_zone_of_readMarked (s : Text) :
    ∃ scope : Option Scope,
      Literal.scopeValue scope = ((readMarked '%' 0x100000000 s).getD (0, s)).1 ∧
        s = Literal.zone scope ++ ((readMarked '%' 0x100000000 s).getD (0, s)).2 := by
  cases found : readMarked '%' 0x100000000 s with
  | none => exact ⟨none, rfl, rfl⟩
  | some result =>
      obtain ⟨scope, same, text⟩ := exists_numeral_of_readMarked found
      exact ⟨some scope, same, text⟩

/-- What is read as a socket address is a literal. -/
theorem exists_literal_of_read {e : Endpoint} {s rest : Text} (found : read s = some (e, rest)) :
    ∃ l : Literal, l.endpoint = e ∧ s = l.text ++ rest := by
  unfold read at found
  split at found
  · next result v4 =>
      obtain rfl := Option.some.inj found
      simp only [readV4, Option.bind_eq_bind, Option.bind_eq_some_iff, Option.pure_def,
        Option.some.injEq, Prod.mk.injEq, Prod.exists] at v4
      obtain ⟨ip, behind, address, port, rest, number, rfl, rfl⟩ := v4
      obtain ⟨port, rfl, rfl⟩ := exists_port_of_readPort number
      refine ⟨.v4 ip port, rfl, ?_⟩
      rw [readV4_strict address]
      simp [Literal.text]
  · simp only [readV6, Option.bind_eq_bind, Option.bind_eq_some_iff, Option.pure_def,
      Option.some.injEq, Prod.mk.injEq, Prod.exists] at found
    obtain ⟨inner, opened, ip, behind, address, closed, bracket, port, rest, number, rfl, rfl⟩ :=
      found
    obtain ⟨host, rfl, rfl⟩ := exists_literal_of_readV6 address
    obtain ⟨scope, same, text⟩ := exists_zone_of_readMarked behind
    obtain ⟨port, rfl, rfl⟩ := exists_port_of_readPort number
    refine ⟨.v6 host scope port, ?_, ?_⟩
    · rw [Literal.endpoint, same]
    · rw [eq_cons_of_readChar? opened, text, eq_cons_of_readChar? bracket]
      simp [Literal.text]

/-- **The texts of socket addresses.**  They are the literals, and each writes one socket
address. -/
theorem ofText?_eq_some_iff {s : Text} {e : Endpoint} :
    ofText? s = some e ↔ ∃ l : Literal, l.text = s ∧ l.endpoint = e := by
  constructor
  · intro found
    unfold ofText? whole at found
    split at found
    · next other read =>
        obtain rfl := Option.some.inj found
        obtain ⟨l, same, text⟩ := exists_literal_of_read read
        exact ⟨l, by rw [text, List.append_nil], same⟩
    · exact nomatch found
  · rintro ⟨l, rfl, rfl⟩
    exact ofText?_text l

end Endpoint

end ClientOrigin
