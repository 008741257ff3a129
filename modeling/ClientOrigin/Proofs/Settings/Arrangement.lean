import ClientOrigin.Proofs.Settings.Fields
import ClientOrigin.Proofs.Toml.Document
import ClientOrigin.Settings.Load
import Mathlib.Data.List.Forall2

/-!
# The arrangement of settings

What a document writes for each field may stand in many places: its sections and their fields in
any order, among sections and fields that nobody knows, and a section in a table or in an array.

* **trees** — trees with the same sections, rearranged and written in either way, are alike
  (`Rearranged.alike`);
* **lines** — so are the trees of texts that have, for each section and for each field, the same
  lines (`SameLines.alike`);
* **field by field** — a document of the right types has the settings that are filled with what is
  given, and no other arrangement of it changes them or their problems (`ofToml?_field_by_field`).
-/

namespace ClientOrigin.Settings

open Toml

/-! ## Trees -/

/-- The entries with one of the keys. -/
def only (keys : List Text) (entries : Entries) : Entries :=
  entries.filter fun entry => keys.contains entry.1

/-- The keys of the sections. -/
def sectionKeys : List Text :=
  [Section.listener, .resolution, .limit, .timeouts, .report].map Section.key

/-- Two nodes write the same section. -/
inductive SameSection (part : Section) : Node → Node → Prop where
  /-- They are the same. -/
  | refl (node : Node) : SameSection part node node
  /-- They are tables with the same fields, in any order and among any other entries. -/
  | reordered {kind kind' : TableKind} {entries entries' : Entries}
      (fields : (only part.fieldKeys entries).Perm (only part.fieldKeys entries')) :
      SameSection part (.table kind entries) (.table kind' entries')
  /-- One is an array with the values of the first fields, in order, and perhaps more of them; the
  other is a table with these fields. -/
  | listed {items : List Node} {kind : TableKind} {entries : Entries}
      (fields : (part.fieldKeys.zip items).Perm (only part.fieldKeys entries)) :
      SameSection part (.array items) (.table kind entries)
  | symm {node node' : Node} (same : SameSection part node node') : SameSection part node' node

/-- Two trees have the same sections, in any order and among any other entries. -/
def Rearranged (entries others : Entries) : Prop :=
  ∃ sections : Entries, sections.Perm (only sectionKeys entries) ∧
    List.Forall₂ (fun entry other => entry.1 = other.1 ∧
      ∀ part : Section, entry.1 = part.key → SameSection part entry.2 other.2)
      sections (only sectionKeys others)

theorem Section.eq_of_key {part other : Section} (same : part.key = other.key) : part = other := by
  revert same
  cases part <;> cases other <;> decide

section Known

variable {entries : Entries} {value : Node}

/-- A field is among the known entries of its section if it is there at all. -/
theorem mem_only_fieldKeys_iff {α : Type} (field : Field α) :
    (field.key, value) ∈ only field.owner.fieldKeys entries ↔ (field.key, value) ∈ entries := by
  have known : field.key ∈ field.owner.fieldKeys := List.mem_of_getElem? field.fieldKeys_position
  simp [only, known]

theorem mem_only_sectionKeys_iff (part : Section) :
    (part.key, value) ∈ only sectionKeys entries ↔ (part.key, value) ∈ entries := by
  have known : part.key ∈ sectionKeys := List.mem_map_of_mem (by cases part <;> decide)
  simp [only, known]

/-- The values of the first fields, each with its key, are those at the positions of the fields. -/
theorem mem_zip_fieldKeys_iff {α : Type} (field : Field α) {items : List Node} :
    (field.key, value) ∈ field.owner.fieldKeys.zip items ↔
      items[field.position]? = some value := by
  have key := field.fieldKeys_position
  constructor
  · intro mem
    obtain ⟨index, found⟩ := List.mem_iff_getElem?.mp mem
    obtain ⟨own, item⟩ := List.getElem?_zip_eq_some.mp found
    obtain ⟨inside, _⟩ := List.getElem?_eq_some_iff.mp own
    obtain rfl : index = field.position :=
      (List.getElem?_inj inside (nodup_fieldKeys _)).mp (own.trans key.symm)
    exact item
  · intro item
    exact List.mem_of_getElem? (List.getElem?_zip_eq_some.mpr ⟨key, item⟩)

end Known

/-- Nodes that write the same section have the same for its fields. -/
theorem SameSection.has_iff {α : Type} {field : Field α} {node node' : Node}
    (same : SameSection field.owner node node') (value : Node) :
    Has node field.position field.key value ↔ Has node' field.position field.key value := by
  generalize owner : field.owner = part at same
  induction same with
  | refl => exact Iff.rfl
  | @reordered kind kind' entries entries' fields =>
      subst owner
      show (field.key, value) ∈ entries ↔ (field.key, value) ∈ entries'
      rw [← mem_only_fieldKeys_iff, fields.mem_iff, mem_only_fieldKeys_iff]
  | @listed items kind entries fields =>
      subst owner
      show items[field.position]? = some value ↔ (field.key, value) ∈ entries
      rw [← mem_zip_fieldKeys_iff, fields.mem_iff, mem_only_fieldKeys_iff]
  | symm _ ih => exact ih.symm

theorem SameSection.isSection_iff {part : Section} {node node' : Node}
    (same : SameSection part node node') : IsSection node ↔ IsSection node' := by
  induction same with
  | refl => exact Iff.rfl
  | reordered => exact Iff.rfl
  | listed => exact Iff.rfl
  | symm _ ih => exact ih.symm

theorem exists_of_forall₂ {α β : Type} {R : α → β → Prop} {as : List α} {bs : List β}
    (related : List.Forall₂ R as bs) :
    (∀ a ∈ as, ∃ b ∈ bs, R a b) ∧ ∀ b ∈ bs, ∃ a ∈ as, R a b := by
  induction related with
  | nil => simp
  | cons here _ ih =>
      constructor
      · intro a mem
        rcases List.mem_cons.mp mem with rfl | mem
        · exact ⟨_, List.mem_cons_self, here⟩
        · obtain ⟨b, inside, later⟩ := ih.1 a mem
          exact ⟨b, List.mem_cons_of_mem _ inside, later⟩
      · intro b mem
        rcases List.mem_cons.mp mem with rfl | mem
        · exact ⟨_, List.mem_cons_self, here⟩
        · obtain ⟨a, inside, later⟩ := ih.2 b mem
          exact ⟨a, List.mem_cons_of_mem _ inside, later⟩

/-- A section of one tree is a section of the other. -/
theorem Rearranged.exists_same {entries others : Entries} (arranged : Rearranged entries others)
    (part : Section) :
    (∀ node, (part.key, node) ∈ entries →
      ∃ other, (part.key, other) ∈ others ∧ SameSection part node other) ∧
    ∀ other, (part.key, other) ∈ others →
      ∃ node, (part.key, node) ∈ entries ∧ SameSection part node other := by
  obtain ⟨sections, perm, related⟩ := arranged
  obtain ⟨left, right⟩ := exists_of_forall₂ related
  constructor
  · intro node mem
    rw [← mem_only_sectionKeys_iff, ← perm.mem_iff] at mem
    obtain ⟨⟨key, other⟩, inside, rfl, same⟩ := left _ mem
    exact ⟨other, (mem_only_sectionKeys_iff part).mp inside, same part rfl⟩
  · intro other mem
    rw [← mem_only_sectionKeys_iff] at mem
    obtain ⟨⟨key, node⟩, inside, rfl, same⟩ := right _ mem
    rw [perm.mem_iff, mem_only_sectionKeys_iff] at inside
    exact ⟨node, inside, same part rfl⟩

/-- **Trees.**  Rearranged trees are alike. -/
theorem Rearranged.alike {entries others : Entries} (arranged : Rearranged entries others) :
    Alike entries others := by
  constructor
  · constructor
    · intro sections part other mem
      obtain ⟨node, inside, same⟩ := (arranged.exists_same part).2 other mem
      exact same.isSection_iff.mp (sections part node inside)
    · intro sections part node mem
      obtain ⟨other, inside, same⟩ := (arranged.exists_same part).1 node mem
      exact same.isSection_iff.mpr (sections part other inside)
  · intro α field value
    constructor
    · rintro ⟨node, mem, has⟩
      obtain ⟨other, inside, same⟩ := (arranged.exists_same field.owner).1 node mem
      exact ⟨other, inside, (same.has_iff value).mp has⟩
    · rintro ⟨other, mem, has⟩
      obtain ⟨node, inside, same⟩ := (arranged.exists_same field.owner).2 other mem
      exact ⟨node, inside, (same.has_iff value).mpr has⟩

/-! ## Lines -/

/-- Lines, each in its place, have the same for every section and for every field: the headers and
values of the section itself, and what stands at the field or below it. -/
structure SameLines (lines others : List PlacedLine) : Prop where
  sections : ∀ part : Section,
    lines.filter (fun line => line.path = [part.key]) =
      others.filter fun line => line.path = [part.key]
  fields : ∀ {α : Type} (field : Field α),
    lines.filter (fun line => [field.owner.key, field.key].isPrefixOf line.path) =
      others.filter fun line => [field.owner.key, field.key].isPrefixOf line.path

/-- Some field is first in its section and is not written by a table. -/
theorem exists_first (part : Section) :
    ∃ (α : Type) (field : Field α), field.owner = part ∧ field.position = 0 ∧
      ∀ kind entries value, ¬ field.Writes (.table kind entries) value := by
  cases part with
  | listener => exact ⟨_, .bindAddress, rfl, rfl, fun _ _ _ => Node.noConfusion⟩
  | resolution => exact ⟨_, .behindProxy, rfl, rfl, fun _ _ _ => Node.noConfusion⟩
  | limit => exact ⟨_, .enabled, rfl, rfl, fun _ _ _ => Node.noConfusion⟩
  | timeouts => exact ⟨_, .requestSecs, rfl, rfl, fun _ _ _ => Node.noConfusion⟩
  | report => exact ⟨_, .logLevel, rfl, rfl, fun _ _ _ => Node.noConfusion⟩

/-- A section is no array of tables: its first field would be a table. -/
theorem TypeCorrect.not_isArray {entries : Entries} (correct : TypeCorrect entries)
    (distinct : entries.Distinct) (part : Section) :
    ¬ PlacedLine.IsArray (entries.get? part.key) := by
  intro array
  obtain ⟨kind, below, items, found⟩ := array.exists
  obtain ⟨_, field, rfl, first, refuses⟩ := exists_first part
  have given : Given entries field (.table kind below) := by
    refine ⟨_, (Entries.mem_iff_get? distinct).mpr found, ?_⟩
    rw [first]
    rfl
  obtain ⟨value, written⟩ := correct.fields field _ given
  exact refuses kind below value written

/-- What a table has for a field is among its entries. -/
theorem has_iff_entriesOf {α : Type} {field : Field α} {entries : Entries}
    (well : entries.WellKeyed) (isTable : PlacedLine.IsTable (entries.get? field.owner.key))
    {value : Node} :
    (∃ node, entries.get? field.owner.key = some node ∧ Has node field.position field.key value) ↔
      (PlacedLine.entriesOf (entries.get? field.owner.key)).get? field.key = some value := by
  cases found : entries.get? field.owner.key with
  | none => simp [PlacedLine.entriesOf, Entries.get?]
  | some node =>
      rw [found] at isTable
      cases node with
      | table kind below =>
          have distinct : Entries.Distinct below :=
            well.2 _ ((Entries.mem_iff_get? well.1).mpr found)
          have has : Has (.table kind below) field.position field.key value ↔
              Entries.get? below field.key = some value := Entries.mem_iff_get? distinct
          simpa [PlacedLine.entriesOf] using has
      | _ => exact isTable.elim

section Written

variable {lines others : List PlacedLine} (same : SameLines lines others) {table other : Table}
  (written : PlacedLine.writeAll lines (.headed, []) = some table)
  (writtenOther : PlacedLine.writeAll others (.headed, []) = some other)
  (proper : ∀ line ∈ lines, line.IsProper) (correct : TypeCorrect table.2)
  (well : table.2.WellKeyed) (wellOther : other.2.WellKeyed)

include same

theorem SameLines.mem_iff {part : Section} {line : PlacedLine} (path : line.path = [part.key]) :
    line ∈ lines ↔ line ∈ others := by
  have mem : line ∈ lines.filter (fun line => line.path = [part.key]) ↔
      line ∈ others.filter fun line => line.path = [part.key] := by
    rw [same.sections part]
  simpa [path] using mem

include written writtenOther proper correct well

/-- A section is the same node in both, or a table in both that has the same for its fields. -/
theorem SameLines.node_cases (part : Section) :
    (∃ node, table.2.get? part.key = some node ∧ other.2.get? part.key = some node) ∨
      PlacedLine.IsTable (table.2.get? part.key) ∧ PlacedLine.IsTable (other.2.get? part.key) ∧
        ∀ {α : Type} (field : Field α), field.owner = part →
          (PlacedLine.entriesOf (table.2.get? part.key)).get? field.key =
            (PlacedLine.entriesOf (other.2.get? part.key)).get? field.key := by
  by_cases headers : ∀ line ∈ lines, line.path = [part.key] → line.ending = .table
  · right
    have headersOther : ∀ line ∈ others, line.path = [part.key] → line.ending = .table :=
      fun line mem path => headers line ((same.mem_iff path).mpr mem) path
    obtain ⟨isTable, entries⟩ := PlacedLine.isTable_of_headers written headers
    obtain ⟨isTableOther, entriesOther⟩ := PlacedLine.isTable_of_headers writtenOther headersOther
    refine ⟨isTable, isTableOther, fun field owner => ?_⟩
    subst owner
    have grown := entries field.key
    rw [same.fields field, entriesOther field.key] at grown
    exact (Option.some.inj grown).symm
  · left
    push Not at headers
    obtain ⟨line, mem, path, ending⟩ := headers
    cases last : line.ending with
    | table => exact absurd last ending
    | tables =>
        exact absurd (PlacedLine.isArray_of_tables written proper mem path last)
          (correct.not_isArray well.1 part)
    | value isDotted node =>
        have value := proper line mem isDotted node last
        exact ⟨node, PlacedLine.get?_of_value written mem path last value,
          PlacedLine.get?_of_value writtenOther ((same.mem_iff path).mp mem) path last value⟩

include wellOther

/-- **Lines.**  The trees of texts with the same lines are alike. -/
theorem SameLines.alike : Alike table.2 other.2 := by
  have cases := same.node_cases written writtenOther proper correct well
  constructor
  · refine iff_of_true correct.sections fun part node mem => ?_
    rw [Entries.mem_iff_get? wellOther.1] at mem
    rcases cases part with ⟨own, found, foundOther⟩ | ⟨_, isTable, _⟩
    · rw [foundOther] at mem
      rw [← Option.some.inj mem]
      exact correct.sections part own ((Entries.mem_iff_get? well.1).mpr found)
    · rw [mem] at isTable
      cases node with
      | table kind entries => trivial
      | _ => exact isTable.elim
  · intro α field value
    rw [given_iff_get? well, given_iff_get? wellOther]
    rcases cases field.owner with ⟨own, found, foundOther⟩ | ⟨isTable, isTableOther, entries⟩
    · rw [found, foundOther]
    · rw [has_iff_entriesOf well isTable, has_iff_entriesOf wellOther isTableOther,
        entries field rfl]

end Written

/-! ## Texts -/

/-- Two texts have the same lines for the settings. -/
inductive SameTexts (s t : Text) : Prop where
  | intro {lines others : List Line} (left : lines? s = some lines) (right : lines? t = some others)
      (same : SameLines (Line.place [] lines) (Line.place [] others))

theorem SameTexts.alike {s t : Text} (same : SameTexts s t) {entries others : Entries}
    (document : document? s = some entries) (correct : TypeCorrect entries)
    (documentOther : document? t = some others) : Alike entries others := by
  obtain ⟨read, readOther, same⟩ := same
  have well := wellKeyed_of_document? document
  have wellOther := wellKeyed_of_document? documentOther
  rw [document?_eq, read] at document
  rw [document?_eq, readOther] at documentOther
  obtain ⟨table, written, rfl⟩ := Option.map_eq_some_iff.mp document
  obtain ⟨other, writtenOther, rfl⟩ := Option.map_eq_some_iff.mp documentOther
  exact same.alike written writtenOther (isProper_of_linesBy read []) correct well wellOther

theorem ofToml?_of_document {s : Text} {entries : Entries} (document : document? s = some entries) :
    ofToml? s = ofFields? (.named entries) := by
  unfold ofToml?
  rw [document]
  rfl

/-- **Field by field.**  A document of the right types gives settings in which each field has the
value that is written for it, in a table or in an array of its section, or else its default,
whatever other sections and fields there are.  A document that has its sections and their fields in
another order, more of either with names that nobody knows, or a section as an array of its first
fields instead of a table, and one whose lines are arranged otherwise, give the same settings and
the same problems. -/
theorem ofToml?_field_by_field {s : Text} {entries : Entries}
    (document : document? s = some entries) (correct : TypeCorrect entries) :
    ∃ settings : Settings, ofToml? s = some settings ∧ Filled entries settings ∧
      ∀ (t : Text) (others : Entries), document? t = some others →
        Rearranged entries others ∨ SameTexts s t →
          ofToml? t = some settings ∧ ofText t = ofText s := by
  have well := wellKeyed_of_document? document
  obtain ⟨settings, read⟩ := Option.isSome_iff_exists.mp ((isSome_ofFields?_iff well).mpr correct)
  have own : ofToml? s = some settings := (ofToml?_of_document document).trans read
  refine ⟨settings, own, ((ofFields?_eq_some_iff_filled well).mp read).2, ?_⟩
  intro t others documentOther arranged
  have alike : Alike entries others := by
    rcases arranged with trees | lines
    · exact trees.alike
    · exact lines.alike document correct documentOther
  have same : ofToml? t = some settings := by
    rw [ofToml?_of_document documentOther,
      alike.ofFields?_eq well (wellKeyed_of_document? documentOther), read]
  refine ⟨same, ?_⟩
  unfold ofText
  rw [own, same]

set_option maxRecDepth 100000 in
/-- A section with two of its three fields: in a table, in an array, and in a table with its lines
in another order and others among them. -/
theorem ofToml?_field_by_field_twoFields :
    ∃ (s t u : Text) (entries others more : Entries),
      s = "[rate_limit]\nrequests_per_second = 9\nenabled = true\n".toList ∧
      t = "title = 1\nrate_limit = [true, 9]\n".toList ∧
      u = ("[owner]\nenabled = 2\n[rate_limit]\nenabled = true\nextra = 'x'\n" ++
        "requests_per_second = 9\n").toList ∧
      document? s = some entries ∧ TypeCorrect entries ∧
      document? t = some others ∧ Rearranged entries others ∧
      document? u = some more ∧ SameTexts s u ∧
      ofText t = ofText s ∧ ofText u = ofText s ∧
      ofToml? s = some { limit := { enabled := true, requestsPerSecond := 9 } } := by
  have document : document? "[rate_limit]\nrequests_per_second = 9\nenabled = true\n".toList =
      some [("rate_limit".toList, .table .headed
        [("requests_per_second".toList, .integer 9), ("enabled".toList, .boolean true)])] := rfl
  have correct := (isSome_ofFields?_iff (wellKeyed_of_document? document)).mp rfl
  have listed : document? "title = 1\nrate_limit = [true, 9]\n".toList =
      some [("title".toList, .integer 1),
        ("rate_limit".toList, .array [.boolean true, .integer 9])] := rfl
  have trees : Rearranged
      [("rate_limit".toList, .table .headed
        [("requests_per_second".toList, .integer 9), ("enabled".toList, .boolean true)])]
      [("title".toList, .integer 1),
        ("rate_limit".toList, .array [.boolean true, .integer 9])] := by
    refine ⟨_, .refl _, .cons ⟨rfl, fun part own => ?_⟩ .nil⟩
    obtain rfl : Section.limit = part := Section.eq_of_key own
    exact .symm (.listed (.swap _ _ _))
  have lines : lines? "[rate_limit]\nrequests_per_second = 9\nenabled = true\n".toList =
      some [.table [] "rate_limit".toList, .pair [] "requests_per_second".toList (.integer 9),
        .pair [] "enabled".toList (.boolean true)] := rfl
  have otherLines : lines? ("[owner]\nenabled = 2\n[rate_limit]\nenabled = true\n" ++
        "extra = 'x'\nrequests_per_second = 9\n").toList =
      some [.table [] "owner".toList, .pair [] "enabled".toList (.integer 2),
        .table [] "rate_limit".toList, .pair [] "enabled".toList (.boolean true),
        .pair [] "extra".toList (.string ['x']),
        .pair [] "requests_per_second".toList (.integer 9)] := rfl
  have texts := SameTexts.intro lines otherLines
    ⟨fun part => by cases part <;> rfl, fun field => by cases field <;> rfl⟩
  have more : document? ("[owner]\nenabled = 2\n[rate_limit]\nenabled = true\n" ++
        "extra = 'x'\nrequests_per_second = 9\n").toList =
      some [("owner".toList, .table .headed [("enabled".toList, .integer 2)]),
        ("rate_limit".toList, .table .headed [("enabled".toList, .boolean true),
          ("extra".toList, .string ['x']), ("requests_per_second".toList, .integer 9)])] := rfl
  obtain ⟨settings, read, _, arranged⟩ := ofToml?_field_by_field document correct
  have given : settings = { limit := { enabled := true, requestsPerSecond := 9 } } :=
    Option.some.inj (read.symm.trans ((ofToml?_of_document document).trans rfl))
  exact ⟨_, _, _, _, _, _, rfl, rfl, rfl, document, correct, listed, trees, more, texts,
    (arranged _ _ listed (.inl trees)).2, (arranged _ _ more (.inr texts)).2, given ▸ read⟩

end ClientOrigin.Settings
