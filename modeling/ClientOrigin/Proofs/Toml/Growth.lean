import ClientOrigin.Proofs.Toml.Placed

/-!
# How the nodes of a document come about

* **apart** — the node of a key is made by the lines that begin with this key, in their order
  (`growAll_of_writeAll`), and in a table that only headers and lines below it make, each node is
  made by the lines below that begin with its key (`growAll_entries`);
* **values** — a key with a line that gives its value has this value (`growAll_value`);
* **arrays** — a key with a header of an array of tables is such an array (`growAll_array`);
* **keys** — so the lines with the path of a key decide which of these its node is in a document
  (`get?_of_value`, `isArray_of_tables`, `isTable_of_headers`).
-/

namespace ClientOrigin.Toml.PlacedLine

/-- Lines one after another. -/
def writeAll (lines : List PlacedLine) (table : Table) : Option Table :=
  lines.foldlM (fun table line => line.write table) table

/-- What becomes of the node of a key with lines that begin with this key, one after another. -/
def growAll (lines : List PlacedLine) (slot : Option Node) : Option (Option Node) :=
  lines.foldlM (fun slot line => (line.grow slot).map some) slot

theorem writeAll_cons (line : PlacedLine) (lines : List PlacedLine) (table : Table) :
    writeAll (line :: lines) table = (line.write table).bind (writeAll lines) :=
  List.foldlM_cons

theorem writeAll_cons_eq_some_iff {line : PlacedLine} {lines : List PlacedLine}
    {table result : Table} :
    writeAll (line :: lines) table = some result ↔
      ∃ next, line.write table = some next ∧ writeAll lines next = some result := by
  rw [writeAll_cons, Option.bind_eq_some_iff]

theorem growAll_cons_eq_some_iff {line : PlacedLine} {lines : List PlacedLine}
    {slot result : Option Node} :
    growAll (line :: lines) slot = some result ↔
      ∃ node, line.grow slot = some node ∧ growAll lines (some node) = some result := by
  unfold growAll
  rw [List.foldlM_cons]
  cases line.grow slot with
  | none => exact ⟨fun h => (nomatch h), fun ⟨_, h, _⟩ => (nomatch h)⟩
  | some node => exact ⟨fun h => ⟨node, rfl, h⟩, fun ⟨_, same, h⟩ => Option.some.inj same ▸ h⟩

/-- **Apart.**  The node of a key is made by the lines that begin with this key; by induction on
the lines. -/
theorem growAll_of_writeAll {lines : List PlacedLine} {table result : Table}
    (written : writeAll lines table = some result) (key : Text) :
    growAll (lines.filter fun line => line.first = key) (table.2.get? key) =
      some (result.2.get? key) := by
  induction lines generalizing table with
  | nil =>
      obtain rfl := Option.some.inj written
      rfl
  | cons line lines ih =>
      obtain ⟨next, here, behind⟩ := writeAll_cons_eq_some_iff.mp written
      obtain ⟨node, grown, rfl⟩ := write_eq_some here
      have later := ih behind
      rw [Entries.get?_write] at later
      rw [List.filter_cons]
      by_cases own : line.first = key
      · subst own
        rw [if_pos rfl] at later
        rw [if_pos (by simp)]
        exact growAll_cons_eq_some_iff.mpr ⟨node, grown, later⟩
      · rw [if_neg (Ne.symm own)] at later
        rwa [if_neg (by simpa using own)]

theorem wellKeyed_of_writeAll {lines : List PlacedLine} (proper : ∀ line ∈ lines, line.IsProper)
    {table result : Table} (well : Entries.WellKeyed table.2)
    (written : writeAll lines table = some result) : Entries.WellKeyed result.2 := by
  induction lines generalizing table with
  | nil =>
      obtain rfl := Option.some.inj written
      exact well
  | cons line lines ih =>
      obtain ⟨here, others⟩ := List.forall_mem_cons.mp proper
      obtain ⟨next, first, behind⟩ := writeAll_cons_eq_some_iff.mp written
      exact ih others (well.write here first) behind

/-! ## Values -/

/-- A value is closed: no line changes it. -/
theorem Grows.not_isValue {line : PlacedLine} {old node : Node}
    (grows : Grows line (some old) node) : ¬ old.IsValue := by
  intro value
  cases grows with
  | takeOver => cases value.1
  | newItem => exact value
  | inTable deeper isOpen written => exact isOpen value.1
  | inArray => exact value

theorem Grows.eq_of_value {key : Text} {isDotted : Bool} {value node : Node} {slot : Option Node}
    (grows : Grows ⟨[], key, .value isDotted value⟩ slot node) : node = value := by
  cases grows with
  | value => rfl
  | inNew deeper => cases deeper
  | inTable deeper => cases deeper
  | inArray deeper => cases deeper

/-- **Values.**  A key with a line that gives its value has this value. -/
theorem growAll_value {lines : List PlacedLine} {slot result : Option Node}
    (grown : growAll lines slot = some result) {line : PlacedLine} (mem : line ∈ lines)
    (last : line.steps = []) {isDotted : Bool} {node : Node}
    (ending : line.ending = .value isDotted node) (value : node.IsValue) :
    result = some node := by
  induction lines generalizing slot with
  | nil => cases mem
  | cons next lines ih =>
      obtain ⟨between, here, behind⟩ := growAll_cons_eq_some_iff.mp grown
      rcases List.mem_cons.mp mem with rfl | mem
      · obtain ⟨steps, key, ending⟩ := line
        subst last ending
        obtain rfl := (grows_of_grow here).eq_of_value
        cases lines with
        | nil => exact (Option.some.inj behind).symm
        | cons later lines =>
            obtain ⟨_, changed, _⟩ := growAll_cons_eq_some_iff.mp behind
            exact absurd value (grows_of_grow changed).not_isValue
      · exact ih behind mem

/-! ## Arrays of tables -/

/-- An array of tables with at least one of them. -/
def IsArray : Option Node → Prop
  | some (.tables (.table _ _ :: _)) => True
  | _ => False

theorem IsArray.exists {slot : Option Node} (array : IsArray slot) :
    ∃ kind entries items, slot = some (.tables (.table kind entries :: items)) := by
  unfold IsArray at array
  split at array
  · exact ⟨_, _, _, rfl⟩
  · exact array.elim

/-- An array of tables stays one. -/
theorem IsArray.grows {line : PlacedLine} {slot : Option Node} {node : Node} (array : IsArray slot)
    (grows : Grows line slot node) : IsArray (some node) := by
  obtain ⟨kind, entries, items, rfl⟩ := array.exists
  cases grows with
  | newItem => trivial
  | inArray deeper last written =>
      -- the last table is another one, or the only one is put back
      cases items with
      | nil => trivial
      | cons item items => trivial

/-- Arrays of tables are not empty. -/
def HasItems (slot : Option Node) : Prop := ∀ items, slot = some (.tables items) → IsArray slot

theorem HasItems.grows {line : PlacedLine} (proper : line.IsProper) {slot : Option Node}
    {node : Node} (nonempty : HasItems slot) (grows : Grows line slot node) :
    HasItems (some node) := by
  intro items same
  obtain rfl := Option.some.inj same
  have step := grows
  cases grows with
  | newArray => trivial
  | newItem => exact (nonempty _ rfl).grows step
  | value => exact (proper _ _ rfl).elim
  | inArray => exact (nonempty _ rfl).grows step

/-- A header of an array of tables makes one, or adds to it. -/
theorem Grows.isArray {key : Text} {slot : Option Node} {node : Node}
    (grows : Grows ⟨[], key, .tables⟩ slot node) (nonempty : HasItems slot) :
    IsArray (some node) := by
  have step := grows
  cases grows with
  | newArray => trivial
  | newItem => exact (nonempty _ rfl).grows step
  | inNew deeper => cases deeper
  | inTable deeper => cases deeper
  | inArray deeper => cases deeper

/-- **Arrays.**  A key with a header of an array of tables is one. -/
theorem growAll_array {lines : List PlacedLine} (proper : ∀ line ∈ lines, line.IsProper)
    {slot result : Option Node} (nonempty : HasItems slot)
    (grown : growAll lines slot = some result)
    (array : IsArray slot ∨ ∃ line ∈ lines, line.steps = [] ∧ line.ending = .tables) :
    IsArray result := by
  induction lines generalizing slot with
  | nil =>
      obtain rfl := Option.some.inj grown
      simpa using array
  | cons line lines ih =>
      obtain ⟨here, others⟩ := List.forall_mem_cons.mp proper
      obtain ⟨node, first, behind⟩ := growAll_cons_eq_some_iff.mp grown
      have grows := grows_of_grow first
      apply ih others (nonempty.grows here grows) behind
      rcases array with array | ⟨header, mem, last, ending⟩
      · exact .inl (array.grows grows)
      · rcases List.mem_cons.mp mem with rfl | mem
        · obtain ⟨steps, key, ending⟩ := header
          subst last ending
          exact .inl (grows.isArray nonempty)
        · exact .inr ⟨header, mem, last, ending⟩

/-! ## One table deeper -/

/-- A table, or none yet. -/
def IsTable : Option Node → Prop
  | none => True
  | some (.table _ _) => True
  | _ => False

/-- The entries of a table. -/
def entriesOf : Option Node → Entries
  | some (.table _ entries) => entries
  | _ => []

/-- A table stays one with a header of it or a line below it; only the line below changes its
entries. -/
theorem Grows.inside {line : PlacedLine} (header : line.steps = [] → line.ending = .table)
    {slot : Option Node} {node : Node} (isTable : IsTable slot) (grows : Grows line slot node) :
    IsTable (some node) ∧
      (line.below? = none ∧ entriesOf (some node) = entriesOf slot ∨
        ∃ below inner, line.below? = some below ∧
          below.grow ((entriesOf slot).get? below.first) = some inner ∧
          entriesOf (some node) = (entriesOf slot).write below.first inner) := by
  cases grows with
  | header => exact ⟨trivial, .inl ⟨rfl, rfl⟩⟩
  | takeOver => exact ⟨trivial, .inl ⟨rfl, rfl⟩⟩
  | newArray => cases header rfl
  | newItem => cases header rfl
  | value => cases header rfl
  | inNew deeper written =>
      obtain ⟨inner, grown, rfl⟩ := write_eq_some written
      exact ⟨trivial, .inr ⟨_, inner, deeper, grown, rfl⟩⟩
  | inTable deeper isOpen written =>
      obtain ⟨inner, grown, rfl⟩ := write_eq_some written
      exact ⟨trivial, .inr ⟨_, inner, deeper, grown, rfl⟩⟩
  | inArray => exact isTable.elim

/-- **Apart.**  In a table that only headers and lines below it make, the node of a key is made by
the lines below it that begin with this key; by induction on the lines. -/
theorem growAll_entries {lines : List PlacedLine}
    (headers : ∀ line ∈ lines, line.steps = [] → line.ending = .table) {slot result : Option Node}
    (isTable : IsTable slot) (grown : growAll lines slot = some result) :
    IsTable result ∧ ∀ key,
      growAll ((lines.filterMap below?).filter fun line => line.first = key)
        ((entriesOf slot).get? key) = some ((entriesOf result).get? key) := by
  induction lines generalizing slot with
  | nil =>
      obtain rfl := Option.some.inj grown
      exact ⟨isTable, fun key => rfl⟩
  | cons line lines ih =>
      obtain ⟨here, others⟩ := List.forall_mem_cons.mp headers
      obtain ⟨node, first, behind⟩ := growAll_cons_eq_some_iff.mp grown
      obtain ⟨between, change⟩ := (grows_of_grow first).inside here isTable
      obtain ⟨table, later⟩ := ih others between behind
      refine ⟨table, fun key => ?_⟩
      have next := later key
      rcases change with ⟨last, same⟩ | ⟨below, inner, deeper, grown, entries⟩
      · rw [same] at next
        rwa [List.filterMap_cons_none last]
      · rw [entries, Entries.get?_write] at next
        rw [List.filterMap_cons_some deeper, List.filter_cons]
        by_cases own : below.first = key
        · subst own
          rw [if_pos rfl] at next
          rw [if_pos (by simp)]
          exact growAll_cons_eq_some_iff.mpr ⟨inner, grown, next⟩
        · rw [if_neg (Ne.symm own)] at next
          rwa [if_neg (by simpa using own)]

/-- A line is about a key itself if it begins and ends with it. -/
theorem path_eq_singleton_iff {line : PlacedLine} {key : Text} :
    line.path = [key] ↔ line.first = key ∧ line.below? = none := by
  rw [path_eq]
  cases line.below? with
  | none => simp
  | some below => simp [path]

/-- The lines below a key that go on with another one are those whose path begins with both. -/
theorem filter_below (lines : List PlacedLine) (key next : Text) :
    ((lines.filter fun line => line.first = key).filterMap below?).filter
        (fun line => line.first = next) =
      (lines.filter fun line => [key, next].isPrefixOf line.path).filterMap below? := by
  rw [List.filterMap_filter, List.filterMap_filter, List.filter_filterMap]
  apply List.filterMap_congr
  intro line _
  have path := line.path_eq
  cases deeper : line.below? with
  | none => simp
  | some below =>
      rw [deeper, Option.map_some, Option.getD_some, below.path_eq] at path
      by_cases own : line.first = key
      · by_cases other : below.first = next
        · simp [path, own, other]
        · simp [path, own, other, Ne.symm other]
      · simp [path, own, Ne.symm own]

/-! ## Keys of a document -/

section Written

variable {lines : List PlacedLine} {kind : TableKind} {result : Table}
  (written : writeAll lines (kind, []) = some result) {key : Text}

include written

theorem get?_of_value {line : PlacedLine} (mem : line ∈ lines) (path : line.path = [key])
    {isDotted : Bool} {node : Node} (ending : line.ending = .value isDotted node)
    (value : node.IsValue) : result.2.get? key = some node := by
  obtain ⟨first, last⟩ := path_eq_singleton_iff.mp path
  refine growAll_value (growAll_of_writeAll written key) ?_ (below?_eq_none_iff.mp last) ending
    value
  simpa [first] using mem

theorem isArray_of_tables (proper : ∀ line ∈ lines, line.IsProper) {line : PlacedLine}
    (mem : line ∈ lines) (path : line.path = [key]) (ending : line.ending = .tables) :
    IsArray (result.2.get? key) := by
  obtain ⟨first, last⟩ := path_eq_singleton_iff.mp path
  have none : HasItems none := fun _ same => nomatch same
  refine growAll_array (fun line mem => ?_) none (growAll_of_writeAll written key)
    (.inr ⟨line, ?_, below?_eq_none_iff.mp last, ending⟩)
  · exact proper line (List.mem_of_mem_filter mem)
  · simpa [first] using mem

theorem isTable_of_headers
    (headers : ∀ line ∈ lines, line.path = [key] → line.ending = .table) :
    IsTable (result.2.get? key) ∧ ∀ next,
      growAll ((lines.filter fun line => [key, next].isPrefixOf line.path).filterMap below?) none =
        some ((entriesOf (result.2.get? key)).get? next) := by
  have own : ∀ line ∈ lines.filter (fun line => line.first = key),
      line.steps = [] → line.ending = .table := by
    intro line mem last
    obtain ⟨mem, first⟩ := List.mem_filter.mp mem
    exact headers line mem
      (path_eq_singleton_iff.mpr ⟨of_decide_eq_true first, below?_eq_none_iff.mpr last⟩)
  have missing : IsTable (Entries.get? [] key) := trivial
  obtain ⟨table, entries⟩ := growAll_entries own missing (growAll_of_writeAll written key)
  refine ⟨table, fun next => ?_⟩
  rw [← filter_below]
  exact entries next

end Written

end ClientOrigin.Toml.PlacedLine
