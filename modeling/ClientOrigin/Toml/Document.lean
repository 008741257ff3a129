import ClientOrigin.Toml.Lexeme
import ClientOrigin.Toml.Node

/-!
# Reading TOML

Values, key-value lines and headers of TOML 1.0.  `document?` reads a whole text and gives its
root table, or nothing if the text is no document.
-/

namespace ClientOrigin.Toml

open Text

/-! ## Values -/

/-- A value that is no array and no inline table. -/
def readScalar (s : Text) : Option (Node × Text) :=
  match readString s with
  | some (content, rest) => some (.string content, rest)
  | none =>
    match after? ['t', 'r', 'u', 'e'] s, after? ['f', 'a', 'l', 's', 'e'] s with
    | some rest, _ => some (.boolean true, rest)
    | _, some rest => some (.boolean false, rest)
    | none, none =>
      match skipDateTime? s with
      | some rest => some (.dateTime, rest)
      | none =>
        match skipFloat? s with
        | some rest => some (.float, rest)
        | none => (readInteger s).map fun result => (.integer result.1, result.2)

/-- The items of an array, after its opening bracket. -/
def readItems (value : Text → Option (Node × Text)) :
    (fuel : Nat) → Text → Option (List Node × Text)
  | 0, _ => none
  | fuel + 1, s =>
    match skipLines s with
    | ']' :: rest => some ([], rest)
    | s => do
      let (item, rest) ← value s
      match skipLines rest with
      | ',' :: rest => do
        let (items, rest) ← readItems value fuel rest
        return (item :: items, rest)
      | ']' :: rest => return ([item], rest)
      | _ => none

/-- A key, an equals sign and a value. -/
def readPair (value : Text → Option (Node × Text)) (s : Text) :
    Option ((List Text × Node) × Text) := do
  let (key, rest) ← readKey s
  let rest ← Address.readChar? '=' rest
  let (node, rest) ← value (skipSpaces rest)
  return ((key, node), rest)

/-- The pairs of an inline table that is not empty. -/
def readPairs (value : Text → Option (Node × Text)) :
    (fuel : Nat) → Text → Option (List (List Text × Node) × Text)
  | 0, _ => none
  | fuel + 1, s => do
    let (pair, rest) ← readPair value s
    match skipSpaces rest with
    | ',' :: rest => do
      let (pairs, rest) ← readPairs value fuel rest
      return (pair :: pairs, rest)
    | '\x7d' :: rest => return ([pair], rest)
    | _ => none

/-- An inline table, after its opening brace. -/
def readInline (value : Text → Option (Node × Text)) (s : Text) : Option (Node × Text) :=
  match skipSpaces s with
  | '\x7d' :: rest => (inlineTable []).map fun node => (node, rest)
  | s => do
    let (pairs, rest) ← readPairs value (s.length + 1) s
    let node ← inlineTable pairs
    return (node, rest)

/-- A value with at most `depth` levels of arrays and inline tables. -/
def readValue : (depth : Nat) → Text → Option (Node × Text)
  | 0, s => readScalar s
  | depth + 1, s =>
    match s with
    | '[' :: rest =>
      (readItems (readValue depth) (rest.length + 1) rest).map fun result =>
        (.array result.1, result.2)
    | '\x7b' :: rest => readInline (readValue depth) rest
    | _ => readScalar s

/-! ## Lines -/

/-- A document while it is read: its root, and the path of the table that the last header
opened. -/
structure Draft where
  root : Table
  current : List Text

/-- A document without any line. -/
def Draft.empty : Draft := ⟨(.headed, []), []⟩

/-- A header between two brackets: `close` reads the closing ones. -/
def readHeader (close : Text) (s : Text) : Option (List Text × Text) := do
  let (key, rest) ← readKey s
  let rest ← after? close rest
  let rest ← lineEnd? rest
  return (key, rest)

/-- A line that is not blank, with what it does to the document. -/
def readLine (draft : Draft) (s : Text) : Option (Draft × Text) :=
  match s with
  | '[' :: '[' :: rest => do
    let (header, rest) ← readHeader [']', ']'] rest
    let (path, key) ← splitKey header
    let root ← draft.root.openItem path key
    return (⟨root, header⟩, rest)
  | '[' :: rest => do
    let (header, rest) ← readHeader [']'] rest
    let (path, key) ← splitKey header
    let root ← draft.root.openTable path key
    return (⟨root, header⟩, rest)
  | _ => do
    let ((keys, value), rest) ← readPair (readValue maxDepth) s
    let rest ← lineEnd? rest
    let (path, key) ← splitKey keys
    let root ← Table.at false (Table.assign path key value) draft.current draft.root
    return (⟨root, draft.current⟩, rest)

/-- The lines of a document; `fuel` bounds their number. -/
def readLines : (fuel : Nat) → Draft → Text → Option Draft
  | 0, _, _ => none
  | fuel + 1, draft, s =>
    match skipLines s with
    | [] => some draft
    | '#' :: rest =>
      match lineEnd? ('#' :: rest) with
      | some [] => some draft
      | _ => none
    | s => do
      let (draft, rest) ← readLine draft s
      readLines fuel draft rest

/-- The text without a byte order mark at its start. -/
def skipMark : Text → Text
  | c :: rest => if c = Char.ofNat 0xFEFF then rest else c :: rest
  | [] => []

/-- The entries of the root table of a document. -/
def document? (s : Text) : Option Entries :=
  (readLines (s.length + 1) .empty (skipMark s)).map fun draft => draft.root.2

end ClientOrigin.Toml
