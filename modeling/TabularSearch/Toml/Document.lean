import TabularSearch.Toml.Value

/-!
# Building TOML documents

Lines add to a tree of tables.  A table knows how it came to be: by a header of
its own, on the way to another header, or on the way of a dotted key.  A header
may define a table that was only passed by headers; a dotted key may extend only
tables made by dotted keys; and no key is given twice.
-/

namespace TabularSearch.Toml

/-- How a table came to be. -/
inductive Origin where
  /-- By its header. -/
  | header
  /-- On the way to another header. -/
  | passed
  /-- On the way of a dotted key. -/
  | dotted
  deriving DecidableEq

/-- What stands under a key: a value, a table, or many tables. -/
inductive Node where
  | value (value : Value)
  | table (origin : Origin) (entries : List (String × Node))
  /-- Tables under one name, each with a header, the last one first. -/
  | tables (latest : List (String × Node))
    (earlier : List (List (String × Node)))

/-- The entries of a table of nodes. -/
abbrev Entries := List (String × Node)

/-- A table of nodes with how it came to be. -/
structure Table where
  origin : Origin
  entries : Entries

/--
The table with the one at the end of a path changed.  Missing tables on the way
are made; under a name of many tables the way goes on in the last one.  A dotted
way may not pass a table with a header.
-/
def Table.change
    (dotted : Bool)
    (action : Table → Option Table) :
    List String → Table → Option Table
  | [], table => action table
  | name :: rest, table => do
    let put (node : Node) : Table :=
      { table with entries := putEntry name node table.entries }
    match itemAt? name table.entries with
    | none =>
      let made :=
        { origin := if dotted then .dotted else .passed, entries := [] }
      let inner ← Table.change dotted action rest made
      return put (.table inner.origin inner.entries)
    | some (.value _) => none
    | some (.table origin entries) =>
      if dotted ∧ origin = .header then none
      else
        let inner ← Table.change dotted action rest { origin, entries }
        return put (.table inner.origin inner.entries)
    | some (.tables latest earlier) =>
      let inner ← Table.change dotted action rest
        { origin := .header, entries := latest }
      return put (.tables inner.entries earlier)

/-- A table with a new key. -/
def Table.add
    (name : String)
    (value : Value)
    (table : Table) :
    Option Table :=
  match itemAt? name table.entries with
  | some _ => none
  | none =>
    some { table with entries := putEntry name (.value value) table.entries }

/-- The value of a key whose last part is a new key of its table.  A key with
more than one part ends in a table made by dotted keys. -/
def Table.addKey
    (key : List String)
    (value : Value)
    (table : Table) :
    Option Table :=
  match key.getLast? with
  | none => none
  | some name =>
    Table.change true
      (fun inner =>
        if key.length > 1 ∧ inner.origin ≠ .dotted then none
        else inner.add name value)
      key.dropLast table

/-- The table defined by a header. -/
def Table.define
    (name : String)
    (table : Table) :
    Option Table :=
  match itemAt? name table.entries with
  | none =>
    some { table with
      entries := putEntry name (.table .header []) table.entries }
  | some (.table .passed entries) =>
    some { table with
      entries := putEntry name (.table .header entries) table.entries }
  | some _ => none

/-- One more table under a name of many tables. -/
def Table.append
    (name : String)
    (table : Table) :
    Option Table :=
  match itemAt? name table.entries with
  | none =>
    some { table with entries := putEntry name (.tables [] []) table.entries }
  | some (.tables latest earlier) =>
    some { table with
      entries := putEntry name (.tables [] (latest :: earlier)) table.entries }
  | some _ => none

/-- A document under construction: its root and the path of the last header. -/
structure Draft where
  root : Table
  path : List String

/-- A document without any line. -/
def Draft.empty : Draft :=
  { root := { origin := .header, entries := [] }, path := [] }

/-- A header of a table, or of one more of many tables. -/
def Draft.open
    (many : Bool)
    (path : List String)
    (draft : Draft) :
    Option Draft :=
  match path.getLast? with
  | none => none
  | some name =>
    (draft.root.change false
      (if many then Table.append name else Table.define name)
      path.dropLast).map fun root => { root, path }

/-- A key with its value under the last header. -/
def Draft.addKey
    (key : List String)
    (value : Value)
    (draft : Draft) :
    Option Draft :=
  (draft.root.change false (Table.addKey key value) draft.path).map
    fun root => { draft with root }

mutual

/-- The value of a node. -/
def Node.toValue : Node → Value
  | .value value => value
  | .table _ entries => .table (entriesValues entries)
  | .tables latest earlier =>
    .array ((tablesValues earlier).reverse ++ [.table (entriesValues latest)])

/-- The values of a table's entries. -/
def entriesValues : List (String × Node) → List (String × Value)
  | [] => []
  | (name, node) :: rest => (name, node.toValue) :: entriesValues rest

/-- The values of many tables. -/
def tablesValues : List (List (String × Node)) → List Value
  | [] => []
  | entries :: rest => .table (entriesValues entries) :: tablesValues rest

end

/-- The entries of a finished document. -/
def Draft.finish (draft : Draft) : List (String × Value) :=
  entriesValues draft.root.entries

/-- The entries of a table in one line from its pairs of keys and values. -/
def inlineTable? (pairs : List (List String × Value)) : Option Value :=
  (pairs.foldlM (fun table pair => Table.addKey pair.1 pair.2 table)
    { origin := .header, entries := [] }).map
    fun table => .table (entriesValues table.entries)

end TabularSearch.Toml
