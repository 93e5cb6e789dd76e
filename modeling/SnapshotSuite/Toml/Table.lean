import SnapshotSuite.Toml.Value
/-!
# Tables under construction

A file sets one key after another. Until it ends, a table remembers how it came to be, because that
decides who may still add to it: a header makes a table once, dotted keys may add only to tables
that dotted keys or longer headers have made, and a value that was written out is closed.
-/

namespace SnapshotSuite

namespace Toml

/-- How a table came to be. -/
inductive Origin where
  /-- By its own header. -/
  | header
  /-- By the header of a table inside it. -/
  | implied
  /-- By a dotted key. -/
  | dotted
deriving DecidableEq, Repr

/-- What stands at a key while a file is read. -/
inductive Entry where
  /-- A value that was written out. -/
  | value (value : Value)
  /-- A table to which keys may be added. -/
  | table (origin : Origin) (entries : List (String × Entry))
  /-- A list of tables, each begun by a header; keys are added to the last one. -/
  | tables (items : List (List (String × Entry)))

/-- The keys of a table under construction. -/
abbrev Entries := List (String × Entry)

/-- A table under construction: how it came to be, and its keys. -/
structure Draft where
  /-- How it came to be. -/
  origin : Origin
  /-- Its keys. -/
  entries : Entries

namespace Draft

/-- What stands at a key. -/
def get? (draft : Draft) (key : String) : Option Entry :=
  draft.entries.lookup key

/-- Sets what stands at a key. -/
def set (draft : Draft) (key : String) (entry : Entry) : Draft :=
  { draft with entries := (key, entry) :: draft.entries.filter fun e => e.1 != key }

/-- Changes the table that a list of keys leads to. Tables on the way that do not exist are made,
by dotted keys or by a header; a list of tables leads into its last one. Dotted keys do not lead
into a table that has a header. -/
def edit (byDots : Bool) (change : Draft → Option Draft) : List String → Draft → Option Draft
  | [], draft => change draft
  | key :: keys, draft =>
    match draft.get? key with
    | none => do
      let inner ← edit byDots change keys ⟨if byDots then .dotted else .implied, []⟩
      return draft.set key (.table inner.origin inner.entries)
    | some (.value _) => none
    | some (.table origin entries) => do
      if byDots ∧ origin = .header then none
      let inner ← edit byDots change keys ⟨origin, entries⟩
      return draft.set key (.table inner.origin inner.entries)
    | some (.tables items) => do
      let inner ← edit byDots change keys ⟨.header, ← items.getLast?⟩
      return draft.set key (.tables (items.dropLast ++ [inner.entries]))

/-- Sets a value at a key that must be new, in a table that dotted keys lead to. Such a table must
have been made by dotted keys. -/
def assign (draft : Draft) (path : List String) (key : String) (value : Value) : Option Draft :=
  draft.edit true (fun inner =>
    if path ≠ [] ∧ inner.origin ≠ .dotted then none
    else if (inner.get? key).isSome then none
    else some (inner.set key (.value value))) path

/-- Begins the table of a header. It must be new, or made by the header of a table inside it. -/
def begin (draft : Draft) (path : List String) (key : String) : Option Draft :=
  draft.edit false (fun inner =>
    match inner.get? key with
    | none => some (inner.set key (.table .header []))
    | some (.table .implied entries) => some (inner.set key (.table .header entries))
    | some _ => none) path

/-- Begins one table more of a list of tables. -/
def beginItem (draft : Draft) (path : List String) (key : String) : Option Draft :=
  draft.edit false (fun inner =>
    match inner.get? key with
    | none => some (inner.set key (.tables [[]]))
    | some (.tables items) => some (inner.set key (.tables (items ++ [[]])))
    | some _ => none) path

end Draft

mutual

/-- The value of a finished entry. -/
def Entry.finish : Entry → Value
  | .value value => value
  | .table _ entries => .table (finishEntries entries)
  | .tables items => .array (finishTables items)

/-- The values of finished entries, in order. -/
def finishEntries : List (String × Entry) → Table
  | [] => []
  | (key, entry) :: entries => (key, entry.finish) :: finishEntries entries

/-- The values of finished tables, in order. -/
def finishTables : List (List (String × Entry)) → List Value
  | [] => []
  | entries :: items => .table (finishEntries entries) :: finishTables items

end

end Toml

end SnapshotSuite
