import AccessAudit.Toml.Value

/-!
# TOML tables under construction

A table is built up by its own header, by headers of tables below it and by
dotted keys, and each of them may only extend what it is allowed to.  Values,
and with them inline tables and arrays in brackets, are never extended.
-/

namespace AccessAudit

namespace Toml

/-- How a table came into being. -/
inductive Origin
  /-- It has a header of its own, or is the top of the document. -/
  | header
  /-- It was named on the way to another header. -/
  | implied
  /-- It was named in a dotted key. -/
  | dotted
deriving DecidableEq, Repr

/-- What a key stands for while the document is read. -/
inductive Item
  | value (value : Value)
  | table (origin : Origin) (entries : List (Text × Item))
  /-- Tables under headers in double brackets, the latest first. -/
  | series (tables : List (List (Text × Item)))

/-- The entries of a table under construction. -/
abbrev Entries := List (Text × Item)

/-- A key: the tables on the way, and the name in the last of them. -/
structure Key where
  path : List Text
  name : Text
deriving DecidableEq, Repr

namespace Entries

/-- Change the item of a name; a new name comes last. -/
def alter? (name : Text) (change : Option Item → Option Item) :
    Entries → Option Entries
  | [] => (change none).map fun item => [(name, item)]
  | (other, item) :: rest =>
      if other = name then
        (change (some item)).map fun changed => (name, changed) :: rest
      else (alter? name change rest).map ((other, item) :: ·)

/-- Change the table at the end of a path.  Tables that are missing on the way
are made, and the way leads through the latest table of a series.  A dotted
key does not enter tables that have a header. -/
def updateAt? (isDotted : Bool)
    (change : Origin → Entries → Option Entries) :
    List Text → Origin → Entries → Option Entries
  | [], origin, entries => change origin entries
  | name :: path, _, entries =>
      entries.alter? name fun
        | none =>
            let origin := if isDotted then .dotted else .implied
            (updateAt? isDotted change path origin []).map (.table origin)
        | some (.table origin inner) =>
            if isDotted && origin = .header then none
            else
              (updateAt? isDotted change path origin inner).map
                (.table origin)
        | some (.series (latest :: earlier)) =>
            (updateAt? isDotted change path .header latest).map fun latest =>
              .series (latest :: earlier)
        | some (.series []) | some (.value _) => none

/-- Add an item under a free name. -/
def insertNew? (name : Text) (item : Item) (entries : Entries) :
    Option Entries :=
  if (entries.lookup name).isSome then none
  else some (entries ++ [(name, item)])

/-- Add a value under a key.  The tables that the key names may hold nothing
but what dotted keys put there. -/
def insertPair? (key : Key) (value : Value) (entries : Entries) :
    Option Entries :=
  entries.updateAt? true
    (fun origin inner =>
      if key.path.isEmpty || origin = .dotted then
        inner.insertNew? key.name (.value value)
      else none)
    key.path .header

/-- Add values under keys in order. -/
def insertPairs? (entries : Entries) :
    List (Key × Value) → Option Entries
  | [] => some entries
  | (key, value) :: pairs =>
      match entries.insertPair? key value with
      | some entries => entries.insertPairs? pairs
      | none => none

/-- Add the table under a header.  Only a table without a header of its own
may be there already, and it moves to the end. -/
def insertTable? (key : Key) (pairs : List (Key × Value))
    (entries : Entries) : Option Entries :=
  entries.updateAt? false
    (fun _ inner =>
      match inner.lookup key.name with
      | none =>
          (insertPairs? [] pairs).map fun new =>
            inner ++ [(key.name, .table .header new)]
      | some (.table .implied old) =>
          (insertPairs? old pairs).map fun new =>
            inner.filter (·.1 ≠ key.name) ++ [(key.name, .table .header new)]
      | some _ => none)
    key.path .header

/-- Add a table to the series under a header in double brackets. -/
def insertInSeries? (key : Key) (pairs : List (Key × Value))
    (entries : Entries) : Option Entries :=
  entries.updateAt? false
    (fun _ inner =>
      (insertPairs? [] pairs).bind fun new =>
        inner.alter? key.name fun
          | none => some (.series [new])
          | some (.series tables) => some (.series (new :: tables))
          | some _ => none)
    key.path .header

end Entries

mutual

/-- The finished value of an item. -/
def Item.finish : Item → Value
  | .value value => value
  | .table _ entries => .table (finishEntries entries)
  | .series tables => .array (finishTables tables).reverse

/-- The finished entries of a table. -/
def finishEntries : List (Text × Item) → Document
  | [] => []
  | (name, item) :: rest => (name, item.finish) :: finishEntries rest

/-- The finished tables of a series. -/
def finishTables : List (List (Text × Item)) → List Value
  | [] => []
  | entries :: rest => .table (finishEntries entries) :: finishTables rest

end

end Toml

end AccessAudit
