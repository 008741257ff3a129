import ClientOrigin.Settings.Decode
import Mathlib.Data.List.Forall2

/-!
# What a node writes

The values that the fields of the settings may have, as a document writes them: texts, flags,
numbers, lists of networks and formats of the log.  Each kind has a relation of its own, which says
what stands in the document, and the reader of the kind finds a value exactly if the node writes it
(`string?_eq_some_iff` and the others).
-/

namespace ClientOrigin.Toml.Node

/-! ## Texts, flags and numbers -/

/-- A string writes its content. -/
def WritesText (node : Node) (text : Text) : Prop := node = .string text

/-- A truth value writes itself. -/
def WritesFlag (node : Node) (flag : Bool) : Prop := node = .boolean flag

/-- An integer writes itself, unless it is negative. -/
def WritesNumber (node : Node) (number : Nat) : Prop := node = .integer number

theorem string?_eq_some_iff {node : Node} {text : Text} :
    node.string? = some text ↔ node.WritesText text := by
  unfold WritesText
  cases node <;> simp [string?]

theorem boolean?_eq_some_iff {node : Node} {flag : Bool} :
    node.boolean? = some flag ↔ node.WritesFlag flag := by
  unfold WritesFlag
  cases node <;> simp [boolean?]

theorem natural?_eq_some_iff {node : Node} {bound number : Nat} :
    node.natural? bound = some number ↔ node.WritesNumber number ∧ number < bound := by
  unfold WritesNumber
  cases node with
  | integer value =>
      have written : Node.integer value = .integer number ↔ value = number :=
        ⟨Node.integer.inj, congrArg _⟩
      rw [written, natural?]
      split
      · rw [Option.some.injEq]
        omega
      · simp only [reduceCtorEq, false_iff]
        omega
  | _ => simp [natural?]

/-- Words are read as the numbers that fit into them. -/
theorem map_natural?_eq_some_iff {Word : Type} {ofNat : Nat → Word} {toNat : Word → Nat}
    {bound : Nat} (there : ∀ n < bound, toNat (ofNat n) = n)
    (back : ∀ word, toNat word < bound ∧ ofNat (toNat word) = word) {node : Node} {word : Word} :
    (node.natural? bound).map ofNat = some word ↔ node.WritesNumber (toNat word) := by
  rw [Option.map_eq_some_iff]
  constructor
  · rintro ⟨number, read, rfl⟩
    obtain ⟨written, small⟩ := natural?_eq_some_iff.mp read
    rwa [there number small]
  · intro written
    obtain ⟨small, same⟩ := back word
    exact ⟨toNat word, natural?_eq_some_iff.mpr ⟨written, small⟩, same⟩

theorem word32?_eq_some_iff {node : Node} {word : UInt32} :
    node.word32? = some word ↔ node.WritesNumber word.toNat :=
  map_natural?_eq_some_iff (fun _ small => UInt32.toNat_ofNat_of_lt' small)
    fun word => ⟨word.toNat_lt, UInt32.ofNat_toNat⟩

theorem word64?_eq_some_iff {node : Node} {word : UInt64} :
    node.word64? = some word ↔ node.WritesNumber word.toNat :=
  map_natural?_eq_some_iff (fun _ small => UInt64.toNat_ofNat_of_lt' small)
    fun word => ⟨word.toNat_lt, UInt64.ofNat_toNat⟩

/-! ## Networks -/

/-- A string writes the network that its content is the text of. -/
def WritesNetwork (node : Node) (network : Network) : Prop :=
  ∃ text, node.WritesText text ∧ Network.ofText? text = some network

/-- An array writes networks if its items do, one after another. -/
def WritesNetworks (node : Node) (networks : List Network) : Prop :=
  ∃ items, (node = .array items ∨ node = .tables items) ∧
    List.Forall₂ WritesNetwork items networks

theorem network?_eq_some_iff {node : Node} {network : Network} :
    node.network? = some network ↔ node.WritesNetwork network := by
  unfold network? WritesNetwork
  simp only [Option.bind_eq_bind, Option.bind_eq_some_iff, string?_eq_some_iff]

theorem mapM_network?_eq_some_iff {items : List Node} {networks : List Network} :
    items.mapM network? = some networks ↔ List.Forall₂ WritesNetwork items networks := by
  induction items generalizing networks with
  | nil =>
      rw [List.mapM_nil, List.forall₂_nil_left_iff]
      exact ⟨fun read => (Option.some.inj read).symm, fun empty => congrArg some empty.symm⟩
  | cons item items ih =>
      rw [List.mapM_cons, List.forall₂_cons_left_iff]
      simp only [Option.bind_eq_bind, Option.bind_eq_some_iff, network?_eq_some_iff, ih]
      constructor
      · rintro ⟨network, first, others, rest, same⟩
        exact ⟨network, others, first, rest, (Option.some.inj same).symm⟩
      · rintro ⟨network, others, first, rest, rfl⟩
        exact ⟨network, first, others, rest, rfl⟩

theorem networks?_eq_some_iff {node : Node} {networks : List Network} :
    node.networks? = some networks ↔ node.WritesNetworks networks := by
  unfold WritesNetworks
  cases node with
  | array items => simp [networks?, mapM_network?_eq_some_iff]
  | tables items => simp [networks?, mapM_network?_eq_some_iff]
  | _ => simp [networks?]

/-! ## Formats -/

/-- A format of the log is written by its name, or by a table that has the name as its only key and
nothing below it. -/
inductive WritesFormat : Node → LogFormat → Prop
  | pretty : WritesFormat (.string "pretty".toList) .pretty
  | json : WritesFormat (.string "json".toList) .json
  | overTable {kind kind' : TableKind} {name : Text} {format : LogFormat}
      (named : WritesFormat (.string name) format) :
      WritesFormat (.table kind [(name, .table kind' [])]) format
  | overArray {kind : TableKind} {name : Text} {format : LogFormat}
      (named : WritesFormat (.string name) format) :
      WritesFormat (.table kind [(name, .array [])]) format

theorem ofName?_eq_some_iff {name : Text} {format : LogFormat} :
    LogFormat.ofName? name = some format ↔ WritesFormat (.string name) format := by
  unfold LogFormat.ofName?
  constructor
  · intro named
    split at named
    · next pretty =>
        rw [pretty, ← Option.some.inj named]
        exact .pretty
    · split at named
      · next json =>
          rw [json, ← Option.some.inj named]
          exact .json
      · cases named
  · intro written
    cases written with
    | pretty => exact if_pos rfl
    | json => decide

theorem logFormat?_eq_some_iff {node : Node} {format : LogFormat} :
    node.logFormat? = some format ↔ node.WritesFormat format := by
  constructor
  · intro read
    unfold logFormat? at read
    split at read
    · exact ofName?_eq_some_iff.mp read
    · next kind name below =>
        split at read
        · next void =>
            have named := ofName?_eq_some_iff.mp read
            unfold isVoid at void
            split at void
            · next kind' entries =>
                obtain rfl := List.isEmpty_iff.mp void
                exact .overTable named
            · next items =>
                obtain rfl := List.isEmpty_iff.mp void
                exact .overArray named
            · cases void
        · cases read
    · cases read
  · intro written
    cases written with
    | pretty => decide
    | json => decide
    | overTable named => exact ofName?_eq_some_iff.mpr named
    | overArray named => exact ofName?_eq_some_iff.mpr named

end ClientOrigin.Toml.Node
