import ClientOrigin.Toml.Node
import Mathlib.Data.List.Nodup

/-!
# The entries of a table

* **keys** — an entry that is written takes the place of the one with its key or comes last, so that
  a table has each of its keys once (`Entries.get?_write`, `Entries.distinct_write`);
* **looked up** — then what stands in the table is what is looked up (`Entries.mem_iff_get?`).
-/

namespace ClientOrigin.Toml

namespace Entries

/-- The entries with a node for a key, in its place or at the end. -/
def write (entries : Entries) (key : Text) (node : Node) : Entries :=
  match entries.get? key with
  | none => entries.add key node
  | some _ => entries.put key node

/-- Each key stands in the entries at most once. -/
def Distinct (entries : Entries) : Prop := (entries.map Prod.fst).Nodup

variable {entries : Entries} {key : Text} {node : Node}

theorem get?_cons (entry : Text × Node) (entries : Entries) (key : Text) :
    Entries.get? (entry :: entries) key =
      if entry.1 = key then some entry.2 else entries.get? key := by
  rcases entry with ⟨own, node⟩
  by_cases same : own = key
  · simp [Entries.get?, same]
  · simp [Entries.get?, List.lookup_cons, beq_eq_false_iff_ne.mpr (Ne.symm same), same]

theorem get?_put (entries : Entries) (key : Text) (node : Node) (k : Text) :
    (entries.put key node).get? k =
      if k = key then (entries.get? key).map fun _ => node else entries.get? k := by
  induction entries with
  | nil => simp [Entries.get?, put]
  | cons entry entries ih =>
      have step : put (entry :: entries) key node =
          (if entry.1 = key then (key, node) else entry) :: put entries key node := rfl
      rw [step, get?_cons, get?_cons, get?_cons, ih]
      by_cases own : entry.1 = key
      · by_cases same : k = key
        · simp [own, same]
        · simp [own, same, Ne.symm same]
      · by_cases same : k = key
        · simp [own, same]
        · simp [own, same]

theorem get?_add (entries : Entries) (key : Text) (node : Node) (k : Text) :
    (entries.add key node).get? k =
      (entries.get? k).or (if k = key then some node else none) := by
  unfold add Entries.get?
  rw [List.lookup_append]
  by_cases same : k = key
  · simp [same]
  · simp [List.lookup_cons, beq_eq_false_iff_ne.mpr same, same]

@[simp] theorem get?_write (entries : Entries) (key : Text) (node : Node) (k : Text) :
    (entries.write key node).get? k = if k = key then some node else entries.get? k := by
  unfold write
  cases found : entries.get? key with
  | none =>
      rw [get?_add]
      by_cases same : k = key
      · simp [same, found]
      · simp [same]
  | some old =>
      rw [get?_put, found]
      rfl

theorem keys_put (entries : Entries) (key : Text) (node : Node) :
    (entries.put key node).map Prod.fst = entries.map Prod.fst := by
  unfold put
  rw [List.map_map]
  apply List.map_congr_left
  intro entry _
  by_cases own : entry.1 = key
  · simp [own]
  · simp [own]

theorem mem_keys_iff : key ∈ entries.map Prod.fst ↔ (entries.get? key).isSome := by
  induction entries with
  | nil => simp [Entries.get?]
  | cons entry entries ih =>
      rw [List.map_cons, List.mem_cons, ih, get?_cons]
      by_cases own : entry.1 = key
      · simp [own]
      · simp [own, Ne.symm own]

theorem distinct_write (distinct : entries.Distinct) (key : Text) (node : Node) :
    (entries.write key node).Distinct := by
  unfold Distinct write
  cases found : entries.get? key with
  | none =>
      have fresh : key ∉ entries.map Prod.fst := by
        rw [mem_keys_iff, found]
        simp
      show ((entries ++ [(key, node)]).map Prod.fst).Nodup
      rw [List.map_append]
      refine List.nodup_append.mpr ⟨distinct, List.nodup_singleton _, fun a old b new same => ?_⟩
      rw [same, List.mem_singleton.mp new] at old
      exact fresh old
  | some old =>
      show ((entries.put key node).map Prod.fst).Nodup
      rw [keys_put]
      exact distinct

theorem mem_write {entry : Text × Node} (mem : entry ∈ entries.write key node) :
    entry = (key, node) ∨ entry ∈ entries := by
  unfold write at mem
  split at mem
  · rcases List.mem_append.mp mem with old | new
    · exact .inr old
    · exact .inl (List.mem_singleton.mp new)
  · obtain ⟨old, inside, rfl⟩ := List.mem_map.mp mem
    split
    · exact .inl rfl
    · exact .inr inside

/-- What is looked up is what stands there, if no key stands there twice. -/
theorem mem_iff_get? (distinct : entries.Distinct) :
    (key, node) ∈ entries ↔ entries.get? key = some node := by
  induction entries with
  | nil => simp [Entries.get?]
  | cons entry entries ih =>
      obtain ⟨fresh, rest⟩ := List.nodup_cons.mp distinct
      rw [List.mem_cons, ih rest, get?_cons]
      by_cases own : entry.1 = key
      · have none : Entries.get? entries key = none := by
          rw [← Option.not_isSome_iff_eq_none, ← mem_keys_iff, ← own]
          exact fresh
        rw [if_pos own, none, ← own]
        simp [Prod.ext_iff, eq_comm]
      · rw [if_neg own]
        simp [Prod.ext_iff, Ne.symm own]

end Entries

/-! ## Nodes -/

namespace Node

/-- The node is what a value may be: an inline table, or nothing that has headers. -/
def IsValue : Node → Prop
  | .table kind entries => kind = .inline ∧ Entries.Distinct entries
  | .tables _ => False
  | _ => True

/-- The node is a table with distinct keys, or no table. -/
def HasDistinctKeys : Node → Prop
  | .table _ entries => Entries.Distinct entries
  | _ => True

theorem IsValue.hasDistinctKeys {node : Node} (value : node.IsValue) : node.HasDistinctKeys := by
  cases node with
  | table kind entries => exact value.2
  | _ => trivial

end Node

/-- The keys of a table are distinct, and so are those of each table in it. -/
def Entries.WellKeyed (entries : Entries) : Prop :=
  entries.Distinct ∧ ∀ entry ∈ entries, entry.2.HasDistinctKeys

end ClientOrigin.Toml
