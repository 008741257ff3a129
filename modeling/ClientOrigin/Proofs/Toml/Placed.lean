import ClientOrigin.Proofs.Toml.Entries

/-!
# Lines in their places

A line of a document has a path: the tables that it passes through and a last key.

* **first key** — a line changes the entry of the first key on its path and no other, and what
  becomes of this entry depends on the entry alone (`PlacedLine.write_eq_some`);
* **cases** — it is one of eight things (`PlacedLine.Grows`, `PlacedLine.grows_of_grow`);
* **well keyed** — a line keeps the keys of a table and of the tables in it distinct
  (`Entries.WellKeyed.write`).
-/

namespace ClientOrigin.Toml

/-! ## Steps -/

/-- What becomes of the node of a key when the table that it stands for is changed: a missing table
is created, and an array of tables stands for its last one. -/
def entered (isDotted : Bool) (change : Table → Option Table) : Option Node → Option Node
  | none =>
    (change (if isDotted then .dotted else .implied, [])).map fun table => .table table.1 table.2
  | some (.table kind entries) =>
    if kind = .inline ∨ (isDotted ∧ kind = .headed) then none
    else (change (kind, entries)).map fun table => .table table.1 table.2
  | some (.tables items) =>
    match items.getLast? with
    | some (.table kind entries) =>
      (change (kind, entries)).map fun table =>
        .tables (items.dropLast ++ [.table table.1 table.2])
    | _ => none
  | some _ => none

theorem Table.at_cons (isDotted : Bool) (change : Table → Option Table) (key : Text)
    (path : List Text) (kind : TableKind) (entries : Entries) :
    Table.at isDotted change (key :: path) (kind, entries) =
      (entered isDotted (Table.at isDotted change path) (entries.get? key)).map fun node =>
        (kind, entries.write key node) := by
  rw [Table.at]
  unfold entered Entries.write
  cases found : entries.get? key with
  | none =>
      cases changed : Table.at isDotted change path
        (if isDotted then .dotted else .implied, []) with
      | none => simp [changed]
      | some table => simp [changed]
  | some node =>
      cases node with
      | table inner below =>
          by_cases closed : inner = .inline ∨ (isDotted ∧ inner = .headed)
          · simp [closed]
          · cases changed : Table.at isDotted change path (inner, below) with
            | none => simp [closed, changed]
            | some table => simp [closed, changed]
      | tables items =>
          cases last : items.getLast? with
          | none => simp [last]
          | some node =>
              cases node with
              | table inner below =>
                  cases changed : Table.at isDotted change path (inner, below) with
                  | none => simp [changed, last]
                  | some table => simp [changed, last]
              | _ => simp [last]
      | _ => rfl

/-- A table that a line passes through, by its key; those of a dotted key are told apart. -/
abbrev Step := Bool × Text

/-- What a line does with the last key of its path. -/
inductive Ending where
  /-- It is the header of a table. -/
  | table
  /-- It is the header of one more table of an array. -/
  | tables
  /-- It gives a value, in a table that a dotted key passes through or in another one. -/
  | value (isDotted : Bool) (node : Node)

namespace Ending

/-- What becomes of the node of the last key. -/
def put : Ending → Option Node → Option Node
  | .table, none => some (.table .headed [])
  | .table, some (.table .implied below) => some (.table .headed below)
  | .tables, none => some (.tables [.table .headed []])
  | .tables, some (.tables items) => some (.tables (items ++ [.table .headed []]))
  | .value _ node, none => some node
  | _, some _ => none

/-- The last key may stand in a table of this kind. -/
def fits : Ending → TableKind → Bool
  | .value isDotted _, kind => (kind = .dotted) == isDotted
  | _, _ => true

/-- The change of the table that has the last key. -/
def finish (ending : Ending) (key : Text) (table : Table) : Option Table :=
  if ending.fits table.1 then
    (ending.put (table.2.get? key)).map fun node => (table.1, table.2.write key node)
  else none

end Ending

/-- Changes the table behind some steps. -/
def walk (change : Table → Option Table) : List Step → Table → Option Table
  | [], table => change table
  | (isDotted, key) :: steps, (kind, entries) =>
    (entered isDotted (walk change steps) (entries.get? key)).map fun node =>
      (kind, entries.write key node)

theorem at_eq_walk (isDotted : Bool) (change : Table → Option Table) (path : List Text) :
    Table.at isDotted change path = walk change (path.map fun key => (isDotted, key)) := by
  induction path with
  | nil => rfl
  | cons key path ih =>
      funext ⟨kind, entries⟩
      rw [Table.at_cons, ih]
      rfl

theorem walk_append (change : Table → Option Table) (front back : List Step) :
    walk change (front ++ back) = walk (walk change back) front := by
  induction front with
  | nil => rfl
  | cons step front ih =>
      funext ⟨kind, entries⟩
      rw [List.cons_append, walk, walk, ih]

/-! ## Lines -/

/-- A line that has its place in a document. -/
structure PlacedLine where
  steps : List Step
  key : Text
  ending : Ending

namespace PlacedLine

/-- The keys of the tables on the way and the last key. -/
def path (line : PlacedLine) : List Text := line.steps.map Prod.snd ++ [line.key]

/-- The first key of the path. -/
def first : PlacedLine → Text
  | ⟨[], key, _⟩ => key
  | ⟨(_, key) :: _, _, _⟩ => key

/-- The line as it is placed in the table of its first key, unless it ends there. -/
def below? : PlacedLine → Option PlacedLine
  | ⟨[], _, _⟩ => none
  | ⟨_ :: steps, key, ending⟩ => some ⟨steps, key, ending⟩

/-- What the line does with a table. -/
def write (line : PlacedLine) : Table → Option Table :=
  walk (line.ending.finish line.key) line.steps

/-- What becomes of the node of the first key. -/
def grow : PlacedLine → Option Node → Option Node
  | ⟨[], _, ending⟩ => ending.put
  | ⟨(isDotted, _) :: steps, key, ending⟩ => entered isDotted (write ⟨steps, key, ending⟩)

theorem below?_eq_none_iff {line : PlacedLine} : line.below? = none ↔ line.steps = [] := by
  rcases line with ⟨_ | ⟨step, steps⟩, key, ending⟩
  · simp [below?]
  · simp [below?]

/-- A path is its first key, and the path of the line below it. -/
theorem path_eq (line : PlacedLine) :
    line.path = line.first :: (line.below?.map path).getD [] := by
  rcases line with ⟨_ | ⟨⟨isDotted, first⟩, steps⟩, key, ending⟩
  · rfl
  · rfl

/-- **First key.**  A line changes the entry of the first key on its path alone, and what becomes
of it depends on nothing else. -/
theorem write_eq_some {line : PlacedLine} {kind : TableKind} {entries : Entries} {table : Table}
    (written : line.write (kind, entries) = some table) :
    ∃ node, line.grow (entries.get? line.first) = some node ∧
      table = (kind, entries.write line.first node) := by
  rcases line with ⟨_ | ⟨⟨isDotted, first⟩, steps⟩, key, ending⟩
  · unfold write walk Ending.finish at written
    split at written
    · obtain ⟨node, put, rfl⟩ := Option.map_eq_some_iff.mp written
      exact ⟨node, put, rfl⟩
    · cases written
  · obtain ⟨node, put, rfl⟩ := Option.map_eq_some_iff.mp written
    exact ⟨node, put, rfl⟩

/-- What a line may make of the node of its first key. -/
inductive Grows : PlacedLine → Option Node → Node → Prop where
  | header {key : Text} : Grows ⟨[], key, .table⟩ none (.table .headed [])
  | takeOver {key : Text} {below : Entries} :
      Grows ⟨[], key, .table⟩ (some (.table .implied below)) (.table .headed below)
  | newArray {key : Text} : Grows ⟨[], key, .tables⟩ none (.tables [.table .headed []])
  | newItem {key : Text} {items : List Node} :
      Grows ⟨[], key, .tables⟩ (some (.tables items)) (.tables (items ++ [.table .headed []]))
  | value {key : Text} {isDotted : Bool} {node : Node} :
      Grows ⟨[], key, .value isDotted node⟩ none node
  | inNew {line below : PlacedLine} {kind : TableKind} {table : Table}
      (deeper : line.below? = some below) (written : below.write (kind, []) = some table) :
      Grows line none (.table table.1 table.2)
  | inTable {line below : PlacedLine} {kind : TableKind} {entries : Entries} {table : Table}
      (deeper : line.below? = some below) (isOpen : kind ≠ .inline)
      (written : below.write (kind, entries) = some table) :
      Grows line (some (.table kind entries)) (.table table.1 table.2)
  | inArray {line below : PlacedLine} {items : List Node} {kind : TableKind} {entries : Entries}
      {table : Table} (deeper : line.below? = some below)
      (last : items.getLast? = some (.table kind entries))
      (written : below.write (kind, entries) = some table) :
      Grows line (some (.tables items)) (.tables (items.dropLast ++ [.table table.1 table.2]))

/-- **Cases.**  A line makes no other thing of a node. -/
theorem grows_of_grow {line : PlacedLine} {slot : Option Node} {node : Node}
    (grown : line.grow slot = some node) : Grows line slot node := by
  rcases line with ⟨_ | ⟨⟨isDotted, first⟩, steps⟩, key, ending⟩
  · unfold grow Ending.put at grown
    simp only at grown
    split at grown
    · obtain rfl := Option.some.inj grown
      exact .header
    · obtain rfl := Option.some.inj grown
      exact .takeOver
    · obtain rfl := Option.some.inj grown
      exact .newArray
    · obtain rfl := Option.some.inj grown
      exact .newItem
    · obtain rfl := Option.some.inj grown
      exact .value
    · cases grown
  · unfold grow entered at grown
    simp only at grown
    split at grown
    · obtain ⟨table, written, rfl⟩ := Option.map_eq_some_iff.mp grown
      exact .inNew rfl written
    · split at grown
      · cases grown
      · next isOpen =>
          obtain ⟨table, written, rfl⟩ := Option.map_eq_some_iff.mp grown
          exact .inTable rfl (fun same => isOpen (.inl same)) written
    · split at grown
      · next last =>
          obtain ⟨table, written, rfl⟩ := Option.map_eq_some_iff.mp grown
          exact .inArray rfl last written
      · cases grown
    · cases grown

/-- If the line gives a node, this node is a value. -/
def IsProper (line : PlacedLine) : Prop :=
  ∀ isDotted node, line.ending = .value isDotted node → node.IsValue

/-- A node has distinct keys after a line if it had before. -/
theorem Grows.hasDistinctKeys {line : PlacedLine} {slot : Option Node} {node : Node}
    (grows : Grows line slot node) (proper : line.IsProper)
    (distinct : ∀ old, slot = some old → old.HasDistinctKeys) : node.HasDistinctKeys := by
  cases grows with
  | header => exact List.nodup_nil
  | takeOver => exact distinct (.table .implied _) rfl
  | newArray => trivial
  | newItem => trivial
  | value => exact (proper _ _ rfl).hasDistinctKeys
  | inNew deeper written =>
      have fresh : Entries.Distinct [] := List.nodup_nil
      obtain ⟨node, _, rfl⟩ := write_eq_some written
      exact Entries.distinct_write fresh _ _
  | inTable deeper isOpen written =>
      obtain ⟨node, _, rfl⟩ := write_eq_some written
      exact Entries.distinct_write (distinct _ rfl) _ _
  | inArray => trivial

end PlacedLine

namespace Entries

/-- **Well keyed.**  A line keeps the keys distinct. -/
theorem WellKeyed.write {line : PlacedLine} (proper : line.IsProper) {table result : Table}
    (well : WellKeyed table.2) (written : line.write table = some result) :
    WellKeyed result.2 := by
  obtain ⟨node, grown, rfl⟩ := PlacedLine.write_eq_some written
  refine ⟨distinct_write well.1 _ _, fun entry mem => ?_⟩
  rcases mem_write mem with rfl | old
  · apply (PlacedLine.grows_of_grow grown).hasDistinctKeys proper
    intro old found
    exact well.2 _ ((mem_iff_get? well.1).mpr found)
  · exact well.2 entry old

end Entries

end ClientOrigin.Toml
