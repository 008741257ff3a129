import ClientOrigin.Text.Blank

/-!
# Documents of TOML

A document is a tree of tables.  A table remembers how it came about, because that decides what
may still be added to it: headers open a table once, dotted keys extend only tables that dotted
keys or longer headers created, and inline tables are complete.
-/

namespace ClientOrigin.Toml

/-- How a table came about. -/
inductive TableKind where
  /-- It has a header, or it is the root. -/
  | headed
  /-- It stands on the way to a table with a header. -/
  | implied
  /-- It stands on the way of a dotted key. -/
  | dotted
  /-- It is written between braces. -/
  | inline
  deriving DecidableEq, Repr

/-- A node of a document.  Floating-point numbers and dates are told apart, but their values are
not kept. -/
inductive Node where
  | string (content : Text)
  | integer (value : Int)
  | float
  | boolean (value : Bool)
  | dateTime
  | array (items : List Node)
  /-- An array of tables, each written under a header of its own. -/
  | tables (items : List Node)
  | table (kind : TableKind) (entries : List (Text × Node))

/-- The entries of a table in order, each key at most once. -/
abbrev Entries := List (Text × Node)

namespace Entries

/-- The node of a key. -/
def get? (entries : Entries) (key : Text) : Option Node := entries.lookup key

/-- The entries with another node for a key. -/
def put (entries : Entries) (key : Text) (node : Node) : Entries :=
  entries.map fun entry => if entry.1 = key then (key, node) else entry

/-- The entries with a new key. -/
def add (entries : Entries) (key : Text) (node : Node) : Entries := entries ++ [(key, node)]

end Entries

/-- A table while a document is read: its kind and its entries. -/
abbrev Table := TableKind × Entries

/-- Changes the table at the end of a path.  Missing tables are created on the way, dotted ones
for a dotted key and implied ones for a header.  An array of tables stands for its last table.
Inline tables are closed, and so are tables with a header for dotted keys. -/
def Table.at (isDotted : Bool) (change : Table → Option Table) : List Text → Table → Option Table
  | [], table => change table
  | key :: path, (kind, entries) =>
    match entries.get? key with
    | none => do
      let fresh := if isDotted then TableKind.dotted else TableKind.implied
      let (inner, below) ← Table.at isDotted change path (fresh, [])
      return (kind, entries.add key (.table inner below))
    | some (.table inner below) =>
      if inner = .inline ∨ (isDotted ∧ inner = .headed) then none
      else do
        let (inner, below) ← Table.at isDotted change path (inner, below)
        return (kind, entries.put key (.table inner below))
    | some (.tables items) =>
      match items.getLast? with
      | some (.table inner below) => do
        let (inner, below) ← Table.at isDotted change path (inner, below)
        return (kind, entries.put key (.tables (items.dropLast ++ [.table inner below])))
      | _ => none
    | some _ => none

/-- Adds a key with its value.  The key must be new, and a dotted key ends in a table that dotted
keys created. -/
def Table.assign (path : List Text) (key : Text) (value : Node) (table : Table) : Option Table :=
  Table.at true
    (fun (kind, entries) =>
      if (kind = .dotted) = (path = []) then none
      else
        match entries.get? key with
        | some _ => none
        | none => some (kind, entries.add key value))
    path table

/-- Opens the table of a header.  A table that is only implied so far is taken over. -/
def Table.openTable (path : List Text) (key : Text) (table : Table) : Option Table :=
  Table.at false
    (fun (kind, entries) =>
      match entries.get? key with
      | none => some (kind, entries.add key (.table .headed []))
      | some (.table .implied below) => some (kind, entries.put key (.table .headed below))
      | some _ => none)
    path table

/-- Opens one more table of an array of tables. -/
def Table.openItem (path : List Text) (key : Text) (table : Table) : Option Table :=
  Table.at false
    (fun (kind, entries) =>
      match entries.get? key with
      | none => some (kind, entries.add key (.tables [.table .headed []]))
      | some (.tables items) =>
        some (kind, entries.put key (.tables (items ++ [.table .headed []])))
      | some _ => none)
    path table

/-- A key as the path to its table and its last part. -/
def splitKey : List Text → Option (List Text × Text)
  | [] => none
  | parts => parts.getLast?.map fun last => (parts.dropLast, last)

/-- The inline table with the given keys and values. -/
def inlineTable (pairs : List (List Text × Node)) : Option Node := do
  let (kind, entries) ← pairs.foldlM
    (fun (table : Table) (pair : List Text × Node) => do
      let (path, key) ← splitKey pair.1
      table.assign path key pair.2)
    (TableKind.inline, [])
  return .table kind entries

end ClientOrigin.Toml
