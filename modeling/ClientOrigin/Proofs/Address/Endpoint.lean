import ClientOrigin.Proofs.Address.RoundTrip
import ClientOrigin.Proofs.Text.Cutting
import ClientOrigin.Resolve
import Mathlib.Data.List.Basic

/-!
# Reading socket addresses back

A socket address is written as an address, in brackets if it is an IPv6 one, with a port of any
number of digits; an IPv6 address may have a scope.  `Literal` are these texts, and each is read as
what it writes (`ofText?_text`).

What is printed is one of them.  So the text of a socket address is read as that socket address, but
for the flow label, which no text shows (`ofText?_print`), and a peer keeps its address on the way
through its text (`fromPeer_print`).
-/

namespace ClientOrigin

namespace Endpoint

open Text

/-! ## Literals -/

/-- The port of a socket address as it is written. -/
abbrev Port := Address.Numeral 10 0x10000

/-- The scope of a socket address as it is written. -/
abbrev Scope := Address.Numeral 10 0x100000000

/-- A socket address as it is written. -/
inductive Literal where
  | v4 (ip : BitVec 32) (port : Port)
  | v6 (ip : Address.V6Literal) (scope : Option Scope) (port : Port)

namespace Literal

/-- What stands between an IPv6 address and its bracket. -/
def zone : Option Scope → Text
  | none => []
  | some scope => '%' :: scope.digits

/-- The text `a.b.c.d:port`, `[address]:port` or `[address%scope]:port`. -/
def text : Literal → Text
  | v4 ip port => Address.printV4 ip ++ ':' :: port.digits
  | v6 ip scope port => '[' :: (ip.text ++ (zone scope ++ ']' :: ':' :: port.digits))

/-- The scope that is written; zero if there is none. -/
def scopeValue : Option Scope → Nat
  | none => 0
  | some scope => scope.value

/-- The socket address that the literal writes. -/
def endpoint : Literal → Endpoint
  | v4 ip port => .v4 ip (BitVec.ofNat 16 port.value)
  | v6 ip scope port =>
    .v6 ip.bits 0 (BitVec.ofNat 32 (scopeValue scope)) (BitVec.ofNat 16 port.value)

end Literal

/-! ## Reading literals -/

theorem readMarked_numeral (mark : Char) {bound : Nat} (n : Address.Numeral 10 bound) {rest : Text}
    (stops : NoDigit 10 rest) :
    readMarked mark bound (mark :: (n.digits ++ rest)) = some (n.value, rest) := by
  have short : n.digits.length ≤ (n.digits ++ rest).length := by simp
  simpa [readMarked, Address.readChar?] using n.read short stops

theorem readPort_numeral (port : Port) :
    readPort (':' :: port.digits) = some (BitVec.ofNat 16 port.value, []) := by
  have number := readMarked_numeral ':' port (noDigit_nil 10)
  rw [List.append_nil] at number
  simp [readPort, number]

theorem readV4_text (ip : BitVec 32) (port : Port) :
    readV4 (Address.printV4 ip ++ ':' :: port.digits) =
      some (.v4 ip (BitVec.ofNat 16 port.value), []) := by
  have stops : NoDigit 10 (':' :: port.digits) := noDigit_cons (by decide) _
  have address := Address.readV4_printV4 .strict ip stops
  simp [readV4, address, readPort_numeral]

theorem endsGroups_zone (scope : Option Scope) (s : Text) :
    Address.EndsGroups (Literal.zone scope ++ ']' :: s) := by
  cases scope with
  | none => exact Address.endsGroups_cons (by decide) (by decide) (by decide) s
  | some scope => exact Address.endsGroups_cons (by decide) (by decide) (by decide) _

theorem readMarked_zone (scope : Option Scope) (s : Text) :
    (readMarked '%' 0x100000000 (Literal.zone scope ++ ']' :: s)).getD
        (0, Literal.zone scope ++ ']' :: s) =
      (Literal.scopeValue scope, ']' :: s) := by
  cases scope with
  | none => rfl
  | some scope =>
      have number := readMarked_numeral '%' scope (noDigit_cons (c := ']') (by decide) s)
      rw [Literal.zone, List.cons_append, number]
      rfl

theorem readV6_text (ip : Address.V6Literal) (scope : Option Scope) (port : Port) :
    readV6 ('[' :: (ip.text ++ (Literal.zone scope ++ ']' :: ':' :: port.digits))) =
      some (.v6 ip.bits 0 (BitVec.ofNat 32 (Literal.scopeValue scope))
        (BitVec.ofNat 16 port.value), []) := by
  have address := ip.read .strict (endsGroups_zone scope (':' :: port.digits))
  simp [readV6, Address.readChar?, address, readMarked_zone, readPort_numeral]

/-- **Literals.**  A socket address is read from each of its literals. -/
theorem ofText?_text (l : Literal) : ofText? l.text = some l.endpoint := by
  cases l with
  | v4 ip port =>
      simp [ofText?, Address.whole, read, Literal.text, readV4_text, Literal.endpoint]
  | v6 ip scope port =>
      have noV4 : ∀ s, readV4 ('[' :: s) = none := by
        intro s
        simp [readV4, Address.readV4,
          Address.readOctets_of_noDigit .strict (noDigit_cons (c := '[') (by decide) s)]
      simp [ofText?, Address.whole, read, Literal.text, noV4, readV6_text, Literal.endpoint]

example : ofText? "[::00aB%007]:0080".toList = some (.v6 0xAB#128 0 7 80) := by decide

/-- There is no white space to trim at a literal. -/
theorem Literal.trim_text (l : Literal) : trim l.text = l.text := by
  have last (front : Text) (port : Port) :
      ∀ c ∈ (front ++ port.digits).getLast?, isBlank c = false := by
    intro c found
    rw [List.getLast?_append_of_ne_nil _ port.nonempty] at found
    exact isBlank_of_isDigitOf (port.all c (List.mem_of_getLast? found))
  cases l with
  | v4 ip port =>
      have first : ∀ c ∈ (text (v4 ip port)).head?, isBlank c = false := by
        obtain ⟨octet, others, _, _, printed⟩ := Address.printV4_eq ip
        have some : numeral 10 octet ≠ [] := numeral_ne_nil octet
        obtain ⟨d, digits, written⟩ := List.exists_cons_of_ne_nil some
        intro c found
        rw [text, printed, decimal, written] at found
        obtain rfl : d = c := Option.some.inj found
        have mem : d ∈ numeral 10 octet := by simp [written]
        exact isBlank_of_isDigitOf (isDigitOf_of_mem_numeral (by decide) (by decide) octet d mem)
      refine trim_of_ends first ?_
      have text : text (v4 ip port) = (Address.printV4 ip ++ [':']) ++ port.digits := by
        simp [Literal.text]
      rw [text]
      exact last _ port
  | v6 ip scope port =>
      have first : ∀ c ∈ (text (v6 ip scope port)).head?, isBlank c = false := by
        intro c found
        obtain rfl : '[' = c := Option.some.inj found
        decide
      refine trim_of_ends first ?_
      have text : text (v6 ip scope port) =
          ('[' :: (ip.text ++ zone scope ++ [']', ':'])) ++ port.digits := by
        simp [Literal.text]
      rw [text]
      exact last _ port

/-! ## Printed socket addresses -/

/-- The socket address as far as its text shows it. -/
def shown : Endpoint → Endpoint
  | .v4 ip port => .v4 ip port
  | .v6 ip _ scope port => .v6 ip 0 scope port

theorem shown_address (e : Endpoint) : e.shown.address = e.address := by
  cases e <;> rfl

/-- A socket address is printed as one of its literals. -/
theorem exists_literal_print (e : Endpoint) :
    ∃ l : Literal, l.text = e.print ∧ l.endpoint = e.shown := by
  have number {w : Nat} (bits : BitVec w) :
      ∃ n : Address.Numeral 10 (2 ^ w), n.digits = decimal bits.toNat ∧
        BitVec.ofNat w n.value = bits := by
    refine ⟨.ofValue (by decide) (by decide) bits.isLt, rfl, ?_⟩
    rw [Address.Numeral.value_ofValue, BitVec.ofNat_toNat, BitVec.setWidth_eq]
  cases e with
  | v4 ip port =>
      obtain ⟨digits, text, value⟩ := number port
      refine ⟨.v4 ip digits, ?_, ?_⟩
      · simp [Literal.text, print, printHost, Endpoint.port, text]
      · rw [Literal.endpoint, value, shown]
  | v6 ip flow scope port =>
      obtain ⟨digits, text, value⟩ := number port
      obtain ⟨host, hostText, hostBits⟩ := Address.exists_literal_printV6 ip
      obtain ⟨zone, zoneText, zoneValue⟩ : ∃ z : Option Scope,
          Literal.zone z = (if scope = 0 then [] else ['%'] ++ decimal scope.toNat) ∧
            BitVec.ofNat 32 (Literal.scopeValue z) = scope := by
        by_cases none : scope = 0
        · rw [if_pos none, none]
          exact ⟨.none, rfl, rfl⟩
        · obtain ⟨n, digits, value⟩ := number scope
          rw [if_neg none, ← digits]
          exact ⟨.some n, rfl, value⟩
      refine ⟨.v6 host zone digits, ?_, ?_⟩
      · simp [Literal.text, print, printHost, Endpoint.port, text, hostText, zoneText]
      · rw [Literal.endpoint, value, hostBits, zoneValue, shown]

/-- **Round trip.**  The text of a socket address writes that socket address. -/
theorem ofText?_print (e : Endpoint) : ofText? e.print = some e.shown := by
  obtain ⟨l, text, same⟩ := e.exists_literal_print
  rw [← text, ofText?_text, same]

theorem trim_print (e : Endpoint) : trim e.print = e.print := by
  obtain ⟨l, text, _⟩ := e.exists_literal_print
  rw [← text, l.trim_text]

end Endpoint

/-- **Peers.**  The peer attempt finds the address of the connection in its text. -/
theorem Resolver.fromPeer_print (e : Endpoint) :
    Resolver.fromPeer e.print = .ok e.address.canonical := by
  unfold fromPeer
  rw [e.trim_print, Endpoint.ofText?_print]
  dsimp only
  rw [Endpoint.shown_address]

end ClientOrigin
