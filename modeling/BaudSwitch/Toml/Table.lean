import BaudSwitch.Toml.Value

/-!
# Building tables

Each key and each header adds to the document, and may only add where nothing was defined
before.  A table on the way to a header may still get a header of its own; a table that a dotted
key made may only grow by dotted keys, and one that has its header may not.
-/

namespace BaudSwitch.Toml

/-- A table that can still grow. -/
structure Table where
  origin : Origin := .header
  entries : Entries := []
  deriving Repr

namespace Table

def toValue (table : Table) : Value :=
  .table table.origin table.entries

def put (table : Table) (key : String) (value : Value) : Table :=
  { table with entries := table.entries.put key value }

/-- Change the table that a path leads to, making the tables that are missing on the way. A
path leads through the last table of a list of tables, never through other values; the path of
a dotted key never leads through a table that has a header. -/
def updateAt (dotted : Bool) (change : Table → Option Table) :
    List String → Table → Option Table
  | [], table => change table
  | key :: path, table =>
      match table.entries.find? key with
      | none => do
          let child ← updateAt dotted change path
            { origin := if dotted then .dotted else .implied }
          return table.put key child.toValue
      | some (.table origin entries) =>
          if origin = .inline ∨ (dotted ∧ origin = .header) then none
          else do
            let child ← updateAt dotted change path { origin, entries }
            return table.put key child.toValue
      | some (.tables elements) => do
          let last ← elements.getLast?
          let child ← updateAt dotted change path { entries := last }
          return table.put key (.tables (elements.dropLast ++ [child.entries]))
      | some _ => none

/-- Give a new key a value. A table that dotted keys made takes only dotted keys, and no other
table takes one for itself. -/
def define (path : List String) (key : String) (value : Value) : Table → Option Table :=
  updateAt true
    (fun table =>
      if (table.origin = .dotted) = (path = []) ∨ (table.entries.find? key).isSome then none
      else some (table.put key value))
    path

/-- Make room for the table of a header. One that earlier headers only passed through keeps
what they put there. -/
def openTable (path : List String) (key : String) : Table → Option Table :=
  updateAt false
    (fun parent =>
      match parent.entries.find? key with
      | none => some (parent.put key (.table .header []))
      | some (.table .implied entries) => some (parent.put key (.table .header entries))
      | some _ => none)
    path

/-- Make room for the next table of a header in double brackets. -/
def openElement (path : List String) (key : String) : Table → Option Table :=
  updateAt false
    (fun parent =>
      match parent.entries.find? key with
      | none => some (parent.put key (.tables [[]]))
      | some (.tables elements) => some (parent.put key (.tables (elements ++ [[]])))
      | some _ => none)
    path

end Table

/-- A key with dots: the names before the last one, and the last one. -/
structure DottedKey where
  path : List String
  name : String
  deriving DecidableEq, Repr

def DottedKey.names (key : DottedKey) : List String :=
  key.path ++ [key.name]

inductive Item where
  | header (key : DottedKey)
  | elementHeader (key : DottedKey)
  | assignment (key : DottedKey) (value : Value)
  deriving Repr

/-- A document that is being read: what it holds so far, and the header that is in force. -/
structure Draft where
  root : Table := {}
  header : List String := []
  deriving Repr

/-- Add a line to a document. -/
def Draft.add (draft : Draft) : Item → Option Draft
  | .header key => do
      return { root := ← draft.root.openTable key.path key.name, header := key.names }
  | .elementHeader key => do
      return { root := ← draft.root.openElement key.path key.name, header := key.names }
  | .assignment key value => do
      let define := Table.define key.path key.name value
      let root ← Table.updateAt false define draft.header draft.root
      return { draft with root }

/-- The table that lines make together. -/
def Draft.addAll (draft : Draft) (items : List Item) : Option Draft :=
  items.foldlM Draft.add draft

end BaudSwitch.Toml
