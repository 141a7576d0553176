/-
This file defines documents of settings. It keeps which tables may still be extended, because a
document must not define anything twice.
-/

import Graft.Entries

namespace Graft.Toml

/-- A value that is none of the first three is only known to be well formed. -/
inductive Value where
  | text (value : String)
  | whole (value : Int)
  | boolean (value : Bool)
  | other
  deriving DecidableEq, Repr

/-- How a table came to be: by a header of its own, by the header of a table inside it, or by a
dotted key. -/
inductive Origin where
  | header
  | inner
  | dotted
  deriving DecidableEq, Repr

/-- An item is a value, a table, or a list of tables under one name. -/
inductive Item where
  | value (value : Value)
  | table (origin : Origin) (entries : List (String × Item))
  | tables (tables : List (List (String × Item)))
  deriving Repr

abbrev Table := List (String × Item)

/-- The last table of a list is changed. -/
def changeLast (change : Table → Option Table) : List Table → Option (List Table)
  | [] => none
  | [last] => (change last).map fun last => [last]
  | first :: rest => (changeLast change rest).map (first :: ·)

/-- The table at the end of a chain of names is changed. Missing tables are made, and of a list of
tables the last one is meant. -/
def changeAt (change : Table → Option Table) : List String → Table → Option Table
  | [], table => change table
  | name :: rest, table =>
      match Entries.find? name table with
      | none =>
          (changeAt change rest []).map fun inner => Entries.put name (.table .inner inner) table
      | some (.table origin inner) =>
          (changeAt change rest inner).map fun inner => Entries.put name (.table origin inner) table
      | some (.tables tables) =>
          (changeLast (changeAt change rest) tables).map fun tables =>
            Entries.put name (.tables tables) table
      | some (.value _) => none

/-- A header opens a table that has no header yet and no dotted key. -/
def openTable (name : String) (table : Table) : Option Table :=
  match Entries.find? name table with
  | none => some (Entries.put name (.table .header []) table)
  | some (.table .inner inner) => some (Entries.put name (.table .header inner) table)
  | _ => none

/-- A doubled header adds a table to a list. -/
def addTable (name : String) (table : Table) : Option Table :=
  match Entries.find? name table with
  | none => some (Entries.put name (.tables [[]]) table)
  | some (.tables tables) => some (Entries.put name (.tables (tables ++ [[]])) table)
  | _ => none

/-- A value is put under a name that is new. -/
def define (name : String) (value : Value) (table : Table) : Option Table :=
  if (Entries.find? name table).isSome then none else some (table ++ [(name, .value value)])

/-- A value is put under a dotted key. The last table on the way must come from dotted keys, and
no table on the way may have a header. -/
def defineAt (name : String) (value : Value) : List String → Table → Option Table
  | [], table => define name value table
  | first :: rest, table =>
      match Entries.find? first table with
      | none => (defineAt name value rest []).map fun inner =>
          Entries.put first (.table .dotted inner) table
      | some (.table origin inner) =>
          if origin = .header ∨ (rest.isEmpty ∧ origin ≠ .dotted) then none
          else (defineAt name value rest inner).map fun inner =>
            Entries.put first (.table origin inner) table
      | some (.tables tables) =>
          if rest.isEmpty then none
          else (changeLast (defineAt name value rest) tables).map fun tables =>
            Entries.put first (.tables tables) table
      | some (.value _) => none

/-- The value under a name. -/
def value? (name : String) (table : Table) : Option Item := Entries.find? name table

end Graft.Toml
