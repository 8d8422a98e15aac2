import DesignTokens.Entries

/-! The values of a TOML document. Nothing here depends on what a number, a truth value, a date or a
time says, so these are not told apart. -/

namespace DesignTokens.Toml

inductive Value where
  | text (value : String)
  | scalar
  | array (items : List Value)
  | table (members : List (String × Value))
  deriving Inhabited

/-- A table, or the last one of an array of tables, as a header or a dotted key opens it. -/
def Value.open? (arrays : Bool) : Value → Option (Entries Value × (Entries Value → Value))
  | .table members => some (members, .table)
  | .array items =>
    match arrays, items.getLast? with
    | true, some (.table members) =>
      some (members, fun members => .array (items.dropLast ++ [.table members]))
    | _, _ => none
  | _ => none

/-- Changes the table at a path, and makes the tables on the way that are not there yet. There is
no way through a value that is no table. -/
def updateAt (arrays : Bool) (update : Entries Value → Option (Entries Value)) :
    List String → Entries Value → Option (Entries Value)
  | [], table => update table
  | key :: rest, table => do
    let (inner, close) ← match table.get? key with
      | none => some ([], Value.table)
      | some value => value.open? arrays
    let changed ← updateAt arrays update rest inner
    return table.put key (close changed)

/-- Adds a member under a key that is not there yet. -/
def addNew (key : String) (value : Value) (table : Entries Value) : Option (Entries Value) :=
  match table.get? key with
  | none => some (table.put key value)
  | some _ => none

/-- Adds an empty table to an array, or starts an array with it. -/
def appendTable (key : String) (table : Entries Value) : Option (Entries Value) :=
  match table.get? key with
  | none => some (table.put key (.array [.table []]))
  | some (.array items) => some (table.put key (.array (items ++ [.table []])))
  | some _ => none

end DesignTokens.Toml
