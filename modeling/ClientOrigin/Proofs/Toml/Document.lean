import ClientOrigin.Proofs.Toml.Growth
import ClientOrigin.Toml.Document

/-!
# The lines of a document

* **lines** — a text is read as headers and pairs first, whatever they do to a document, and its
  document is what these lines write one after another, each in its place (`document?_eq`);
* **values** — a value that has been read is closed, and the keys of an inline table are distinct
  (`isValue_of_readValue`, `isProper_of_linesBy`);
* **distinct** — so the root table of a document and the tables in it have distinct keys
  (`wellKeyed_of_document?`).
-/

namespace ClientOrigin.Toml

open Text

/-! ## Lines -/

/-- A line that is not blank: a header, or a key with its value.  A key is cut in front of its last
part. -/
inductive Line where
  | table (path : List Text) (key : Text)
  | tables (path : List Text) (key : Text)
  | pair (path : List Text) (key : Text) (value : Node)

/-- A line that is not blank, and what follows it. -/
def line? (s : Text) : Option (Line × Text) :=
  match s with
  | '[' :: '[' :: rest => do
    let (header, rest) ← readHeader [']', ']'] rest
    let (path, key) ← splitKey header
    return (.tables path key, rest)
  | '[' :: rest => do
    let (header, rest) ← readHeader [']'] rest
    let (path, key) ← splitKey header
    return (.table path key, rest)
  | _ => do
    let ((keys, value), rest) ← readPair (readValue maxDepth) s
    let rest ← lineEnd? rest
    let (path, key) ← splitKey keys
    return (.pair path key value, rest)

/-- What is left of a text without blanks at its start: nothing, or a line and what follows it.  A
comment that is left ends the text, or it is none. -/
def next? : Text → Option (Option Text)
  | [] => some none
  | '#' :: rest =>
    match lineEnd? ('#' :: rest) with
    | some [] => some none
    | _ => none
  | s => some (some s)

/-- The lines of a text; `fuel` bounds their number. -/
def linesBy : (fuel : Nat) → Text → Option (List Line)
  | 0, _ => none
  | fuel + 1, s => do
    let next ← next? (skipLines s)
    next.elim (some []) fun s => do
      let (line, rest) ← line? s
      let lines ← linesBy fuel rest
      return line :: lines

/-- The lines of a text that are not blank. -/
def lines? (s : Text) : Option (List Line) := linesBy (s.length + 1) (skipMark s)

namespace Line

/-- The line in its place below the last header. -/
def placed (current : List Text) : Line → PlacedLine
  | .table path key => ⟨path.map fun key => (false, key), key, .table⟩
  | .tables path key => ⟨path.map fun key => (false, key), key, .tables⟩
  | .pair path key value =>
    ⟨(current.map fun key => (false, key)) ++ path.map fun key => (true, key), key,
      .value (path ≠ []) value⟩

/-- The last header behind the line. -/
def header (current : List Text) : Line → List Text
  | .table path key => path ++ [key]
  | .tables path key => path ++ [key]
  | .pair _ _ _ => current

/-- The lines in their places. -/
def place : (current : List Text) → List Line → List PlacedLine
  | _, [] => []
  | current, line :: lines => line.placed current :: place (line.header current) lines

end Line

/-! ## What they write -/

theorem eq_append_of_splitKey {keys path : List Text} {key : Text}
    (split : splitKey keys = some (path, key)) : keys = path ++ [key] := by
  unfold splitKey at split
  split at split
  · cases split
  · obtain ⟨last, found, same⟩ := Option.map_eq_some_iff.mp split
    obtain ⟨rfl, rfl⟩ := Prod.mk.inj same
    exact (List.dropLast_append_getLast? _ found).symm

theorem openTable_eq (path : List Text) (key : Text) :
    Table.openTable path key =
      walk (Ending.finish .table key) (path.map fun key => (false, key)) := by
  funext table
  unfold Table.openTable
  rw [at_eq_walk]
  congr 1
  funext ⟨kind, entries⟩
  show _ = (Ending.put .table (entries.get? key)).map fun node => (kind, entries.write key node)
  unfold Entries.write
  simp only
  cases entries.get? key with
  | none => rfl
  | some node =>
      cases node with
      | table kind below => cases kind <;> rfl
      | _ => rfl

theorem openItem_eq (path : List Text) (key : Text) :
    Table.openItem path key =
      walk (Ending.finish .tables key) (path.map fun key => (false, key)) := by
  funext table
  unfold Table.openItem
  rw [at_eq_walk]
  congr 1
  funext ⟨kind, entries⟩
  show _ = (Ending.put .tables (entries.get? key)).map fun node => (kind, entries.write key node)
  unfold Entries.write
  simp only
  cases entries.get? key with
  | none => rfl
  | some node => cases node <;> rfl

theorem assign_eq (path : List Text) (key : Text) (value : Node) :
    Table.assign path key value =
      walk (Ending.finish (.value (path ≠ []) value) key) (path.map fun key => (true, key)) := by
  funext table
  unfold Table.assign
  rw [at_eq_walk]
  congr 1
  funext ⟨kind, entries⟩
  have closed : ((kind = .dotted) = (path = [])) ↔
      (Ending.value (path ≠ []) value).fits kind = false := by
    unfold Ending.fits
    by_cases dotted : kind = .dotted <;> by_cases single : path = [] <;> simp [dotted, single]
  unfold Ending.finish Entries.write
  simp only
  by_cases refused : (kind = .dotted) = (path = [])
  · rw [if_pos refused, if_neg (Bool.eq_false_iff.mp (closed.mp refused))]
  · rw [if_neg refused, if_pos (Bool.not_eq_false _ ▸ mt closed.mpr refused)]
    cases entries.get? key with
    | none => rfl
    | some node => rfl

/-! ## Documents -/

theorem write_table (path : List Text) (key : Text) (current : List Text) :
    ((Line.table path key).placed current).write = Table.openTable path key :=
  (openTable_eq path key).symm

theorem write_tables (path : List Text) (key : Text) (current : List Text) :
    ((Line.tables path key).placed current).write = Table.openItem path key :=
  (openItem_eq path key).symm

theorem write_pair (path : List Text) (key : Text) (value : Node) (current : List Text) :
    ((Line.pair path key value).placed current).write =
      Table.at false (Table.assign path key value) current := by
  rw [at_eq_walk, assign_eq]
  exact walk_append _ _ _

/-- A header that has been read, and what it does to a document. -/
theorem bind_header {current : List Text} {line : List Text → Text → Line}
    {change : List Text → Text → Table → Option Table}
    (writes : ∀ path key, ((line path key).placed current).write = change path key)
    (opens : ∀ path key, (line path key).header current = path ++ [key])
    (read : Option (List Text × Text)) (root : Table) :
    (do
      let (header, rest) ← read
      let (path, key) ← splitKey header
      let root ← change path key root
      return ((⟨root, header⟩ : Draft), rest)) =
    (do
      let (header, rest) ← read
      let (path, key) ← splitKey header
      return (line path key, rest)).bind fun read =>
        ((read.1.placed current).write root).map fun root =>
          (⟨root, read.1.header current⟩, read.2) := by
  cases read with
  | none => rfl
  | some read =>
      obtain ⟨header, rest⟩ := read
      cases split : splitKey header with
      | none => simp [split]
      | some parts =>
          simp only [Option.bind_eq_bind, Option.bind_some, split]
          show _ = (((line parts.1 parts.2).placed current).write root).map fun root =>
            ((⟨root, (line parts.1 parts.2).header current⟩ : Draft), rest)
          rw [writes, opens, ← eq_append_of_splitKey split]
          exact Option.map_eq_bind.symm

theorem readLine_eq (draft : Draft) (s : Text) :
    readLine draft s = (line? s).bind fun read =>
      ((read.1.placed draft.current).write draft.root).map fun root =>
        (⟨root, read.1.header draft.current⟩, read.2) := by
  unfold readLine
  split
  · rw [line?]
    exact bind_header (fun path key => write_tables path key _) (fun _ _ => rfl) _ _
  · next other =>
      rw [line?]
      · exact bind_header (fun path key => write_table path key _) (fun _ _ => rfl) _ _
      · exact fun rest same => other rest (same ▸ rfl)
  · next notArray notHeader =>
      rw [line?.eq_3 _ notArray notHeader]
      cases readPair (readValue maxDepth) s with
      | none => rfl
      | some pair =>
          obtain ⟨⟨keys, value⟩, behind⟩ := pair
          cases ends : lineEnd? behind with
          | none => simp [ends]
          | some rest =>
              cases split : splitKey keys with
              | none => simp [ends, split]
              | some parts =>
                  simp only [Option.bind_eq_bind, Option.bind_some, ends, split]
                  show _ = (((Line.pair parts.1 parts.2 value).placed draft.current).write
                    draft.root).map fun root => ((⟨root, draft.current⟩ : Draft), rest)
                  rw [write_pair]
                  exact Option.map_eq_bind.symm

theorem readLines_succ (fuel : Nat) (draft : Draft) (s : Text) :
    readLines (fuel + 1) draft s = (next? (skipLines s)).bind fun next =>
      next.elim (some draft) fun s =>
        (readLine draft s).bind fun read => readLines fuel read.1 read.2 := by
  rw [readLines]
  split
  · next empty =>
      rw [empty]
      rfl
  · next rest comment =>
      rw [comment, next?]
      generalize lineEnd? ('#' :: rest) = ends
      rcases ends with _ | ⟨_ | ⟨c, rest⟩⟩
      · rfl
      · rfl
      · rfl
  · next notEmpty notComment =>
      rw [next?]
      · rfl
      · exact notEmpty
      · exact notComment

/-- Reading lines into a document is reading the lines and writing them; by induction on the
fuel. -/
theorem readLines_eq (fuel : Nat) (draft : Draft) (s : Text) :
    (readLines fuel draft s).map Draft.root = (linesBy fuel s).bind fun lines =>
      PlacedLine.writeAll (Line.place draft.current lines) draft.root := by
  induction fuel generalizing draft s with
  | zero => rfl
  | succ fuel ih =>
      rw [readLines_succ, linesBy]
      cases next? (skipLines s) with
      | none => rfl
      | some next =>
          cases next with
          | none => rfl
          | some s =>
              show ((readLine draft s).bind fun read => readLines fuel read.1 read.2).map
                Draft.root = ((line? s).bind fun read => (linesBy fuel read.2).bind fun lines =>
                  some (read.1 :: lines)).bind _
              rw [readLine_eq]
              cases line? s with
              | none => rfl
              | some read =>
                  obtain ⟨line, rest⟩ := read
                  have step : ∀ lines,
                      PlacedLine.writeAll (Line.place draft.current (line :: lines)) draft.root =
                        ((line.placed draft.current).write draft.root).bind
                          (PlacedLine.writeAll (Line.place (line.header draft.current) lines)) :=
                    fun lines => PlacedLine.writeAll_cons _ _ _
                  simp only [Option.bind_some, Option.bind_assoc, step]
                  cases (line.placed draft.current).write draft.root with
                  | none => simp
                  | some root => exact ih ⟨root, line.header draft.current⟩ rest

/-- **Lines.**  A document is what its lines write, each in its place. -/
theorem document?_eq (s : Text) :
    document? s = (lines? s).bind fun lines =>
      (PlacedLine.writeAll (Line.place [] lines) (.headed, [])).map Prod.snd := by
  have whole := readLines_eq (s.length + 1) .empty (skipMark s)
  have roots : document? s =
      ((readLines (s.length + 1) .empty (skipMark s)).map Draft.root).map Prod.snd := by
    rw [Option.map_map]
    rfl
  rw [roots, whole, Option.map_bind]
  rfl

/-! ## Values -/

theorem isValue_of_readScalar {s rest : Text} {node : Node}
    (read : readScalar s = some (node, rest)) : node.IsValue := by
  unfold readScalar at read
  split at read
  · obtain ⟨rfl, rfl⟩ := Prod.mk.inj (Option.some.inj read)
    trivial
  · split at read
    · obtain ⟨rfl, rfl⟩ := Prod.mk.inj (Option.some.inj read)
      trivial
    · obtain ⟨rfl, rfl⟩ := Prod.mk.inj (Option.some.inj read)
      trivial
    · split at read
      · obtain ⟨rfl, rfl⟩ := Prod.mk.inj (Option.some.inj read)
        trivial
      · split at read
        · obtain ⟨rfl, rfl⟩ := Prod.mk.inj (Option.some.inj read)
          trivial
        · obtain ⟨_, _, same⟩ := Option.map_eq_some_iff.mp read
          obtain ⟨rfl, rfl⟩ := Prod.mk.inj same
          trivial

/-- The pairs of an inline table keep its keys distinct; by induction on the pairs. -/
theorem distinct_of_pairs {pairs : List (List Text × Node)} {table result : Table}
    (distinct : table.2.Distinct)
    (assigned : pairs.foldlM (fun (table : Table) (pair : List Text × Node) => do
      let (path, key) ← splitKey pair.1
      table.assign path key pair.2) table = some result) :
    result.1 = table.1 ∧ result.2.Distinct := by
  induction pairs generalizing table with
  | nil =>
      obtain rfl := Option.some.inj assigned
      exact ⟨rfl, distinct⟩
  | cons pair pairs ih =>
      rw [List.foldlM_cons] at assigned
      obtain ⟨next, here, behind⟩ := Option.bind_eq_some_iff.mp assigned
      obtain ⟨⟨path, key⟩, _, here⟩ := Option.bind_eq_some_iff.mp here
      have placed : ((Line.pair path key pair.2).placed []).write table = some next := by
        rw [write_pair]
        exact here
      have kept : next.1 = table.1 ∧ next.2.Distinct := by
        obtain ⟨node, _, rfl⟩ := PlacedLine.write_eq_some placed
        exact ⟨rfl, Entries.distinct_write distinct _ _⟩
      obtain ⟨kind, entries⟩ := ih kept.2 behind
      exact ⟨kind.trans kept.1, entries⟩

theorem isValue_of_inlineTable {pairs : List (List Text × Node)} {node : Node}
    (made : inlineTable pairs = some node) : node.IsValue := by
  obtain ⟨⟨kind, entries⟩, assigned, same⟩ := Option.bind_eq_some_iff.mp made
  obtain rfl := Option.some.inj same
  have empty : Entries.Distinct [] := List.nodup_nil
  exact distinct_of_pairs empty assigned

theorem isValue_of_readInline {value : Text → Option (Node × Text)} {s rest : Text} {node : Node}
    (read : readInline value s = some (node, rest)) : node.IsValue := by
  unfold readInline at read
  split at read
  · obtain ⟨node, made, same⟩ := Option.map_eq_some_iff.mp read
    obtain ⟨rfl, rfl⟩ := Prod.mk.inj same
    exact isValue_of_inlineTable made
  · obtain ⟨⟨pairs, behind⟩, _, read⟩ := Option.bind_eq_some_iff.mp read
    obtain ⟨node, made, same⟩ := Option.bind_eq_some_iff.mp read
    obtain ⟨rfl, rfl⟩ := Prod.mk.inj (Option.some.inj same)
    exact isValue_of_inlineTable made

/-- **Values.**  What has been read as a value is closed. -/
theorem isValue_of_readValue {depth : Nat} {s rest : Text} {node : Node}
    (read : readValue depth s = some (node, rest)) : node.IsValue := by
  cases depth with
  | zero => exact isValue_of_readScalar read
  | succ depth =>
      unfold readValue at read
      split at read
      · obtain ⟨_, _, same⟩ := Option.map_eq_some_iff.mp read
        obtain ⟨rfl, rfl⟩ := Prod.mk.inj same
        trivial
      · exact isValue_of_readInline read
      · exact isValue_of_readScalar read

/-- The value of a line is closed. -/
theorem isProper_of_line? {s rest : Text} {line : Line} (read : line? s = some (line, rest))
    (current : List Text) : (line.placed current).IsProper := by
  unfold line? at read
  split at read
  · obtain ⟨⟨header, behind⟩, _, read⟩ := Option.bind_eq_some_iff.mp read
    obtain ⟨⟨path, key⟩, _, same⟩ := Option.bind_eq_some_iff.mp read
    obtain ⟨rfl, rfl⟩ := Prod.mk.inj (Option.some.inj same)
    exact fun _ _ ending => nomatch ending
  · obtain ⟨⟨header, behind⟩, _, read⟩ := Option.bind_eq_some_iff.mp read
    obtain ⟨⟨path, key⟩, _, same⟩ := Option.bind_eq_some_iff.mp read
    obtain ⟨rfl, rfl⟩ := Prod.mk.inj (Option.some.inj same)
    exact fun _ _ ending => nomatch ending
  · obtain ⟨⟨⟨keys, value⟩, behind⟩, pair, read⟩ := Option.bind_eq_some_iff.mp read
    obtain ⟨_, _, read⟩ := Option.bind_eq_some_iff.mp read
    obtain ⟨⟨path, key⟩, _, same⟩ := Option.bind_eq_some_iff.mp read
    obtain ⟨rfl, rfl⟩ := Prod.mk.inj (Option.some.inj same)
    intro isDotted node ending
    obtain ⟨_, rfl⟩ := Ending.value.inj ending
    obtain ⟨⟨_, _⟩, _, pair⟩ := Option.bind_eq_some_iff.mp pair
    obtain ⟨_, _, pair⟩ := Option.bind_eq_some_iff.mp pair
    obtain ⟨⟨_, _⟩, read, same⟩ := Option.bind_eq_some_iff.mp pair
    cases same
    exact isValue_of_readValue read

theorem isProper_of_linesBy {fuel : Nat} {s : Text} {lines : List Line}
    (read : linesBy fuel s = some lines) (current : List Text) :
    ∀ line ∈ Line.place current lines, line.IsProper := by
  induction fuel generalizing s lines current with
  | zero => cases read
  | succ fuel ih =>
      obtain ⟨next, _, read⟩ := Option.bind_eq_some_iff.mp read
      cases next with
      | none =>
          obtain rfl := Option.some.inj read
          exact fun _ mem => nomatch mem
      | some s =>
          obtain ⟨⟨line, rest⟩, first, read⟩ := Option.bind_eq_some_iff.mp read
          obtain ⟨others, behind, same⟩ := Option.bind_eq_some_iff.mp read
          obtain rfl := Option.some.inj same
          exact List.forall_mem_cons.mpr ⟨isProper_of_line? first current, ih behind _⟩

/-- **Distinct.**  The keys of a document are distinct, and so are those of each table in its
root. -/
theorem wellKeyed_of_document? {s : Text} {entries : Entries}
    (read : document? s = some entries) : entries.WellKeyed := by
  rw [document?_eq] at read
  obtain ⟨lines, found, read⟩ := Option.bind_eq_some_iff.mp read
  obtain ⟨table, written, rfl⟩ := Option.map_eq_some_iff.mp read
  have empty : Entries.WellKeyed [] := ⟨List.nodup_nil, fun _ mem => nomatch mem⟩
  exact PlacedLine.wellKeyed_of_writeAll (isProper_of_linesBy found []) empty written

end ClientOrigin.Toml
