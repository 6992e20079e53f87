/-
TOML documents as data, and the rules by which their tables grow.

While a document is read its tables are `Item`s, which remember how they came about: a table under a header of its own is
complete, one that only lies on the way to another may still get its header, and one made by a dotted key grows by dotted
keys alone. `Item.toToml` forgets all that.
-/
import MetricQuery.Keyed

namespace MetricQuery

/-- a TOML value; a date or time is kept without its parts -/
inductive Toml where
  | string (s : String)
  | int (n : Int)
  | float (x : Float)
  | bool (b : Bool)
  | dateTime
  | array (items : List Toml)
  | table (members : List (String × Toml))
  deriving Inhabited

namespace Toml

def member? (t : Toml) (key : String) : Option Toml :=
  match t with
  | .table members => members.lookup key
  | _ => none

/-- part of a document that is still being read -/
inductive Item where
  | value (v : Toml)
  /-- `implicit` tables have no header yet, `dotted` ones were made by a dotted key -/
  | table (implicit dotted : Bool) (members : List (String × Item))
  /-- tables under headers in double brackets -/
  | tables (items : List (List (String × Item)))

abbrev Members := List (String × Item)

/-- the members with another item under a key that they have -/
def replaceMember (key : String) (item : Item) (members : Members) : Members :=
  members.map fun (k, old) => if k = key then (k, item) else (k, old)

/-- changes the table at a path, `f` being told whether that table was made by a dotted key.

Tables on the way are made where there are none; of tables in double brackets the last one is meant. A dotted key may not
pass a table that has a header. -/
def updateAt (byDots : Bool) (f : Bool → Members → Option Members) :
    List String → Bool → Members → Option Members
  | [], dotted, members => f dotted members
  | key :: path, _, members =>
    match members.lookup key with
    | none => (updateAt byDots f path byDots []).map fun inner => members ++ [(key, .table true byDots inner)]
    | some (.value _) => none
    | some (.tables items) =>
      match items.getLast? with
      | none => none
      | some last => (updateAt byDots f path false last).map fun inner =>
        replaceMember key (.tables (items.dropLast ++ [inner])) members
    | some (.table implicit dotted inner) =>
      if byDots && !implicit then none
      else (updateAt byDots f path dotted inner).map fun inner =>
        replaceMember key (.table implicit dotted inner) members

/-- a value under a possibly dotted key, which may not be there yet -/
def addValue (path : List String) (key : String) (v : Toml) (dotted : Bool) (members : Members) : Option Members :=
  updateAt true (fun madeByDots inner =>
    if madeByDots = path.isEmpty ∨ (inner.lookup key).isSome then none else some (inner ++ [(key, .value v)]))
    path dotted members

/-- the table under a header in single brackets -/
def openTable (path : List String) (key : String) (members : Members) : Option Members :=
  updateAt false (fun _ inner =>
    match inner.lookup key with
    | none => some (inner ++ [(key, .table false false [])])
    | some (.table true false old) => some (replaceMember key (.table false false old) inner)
    | some _ => none)
    path false members

/-- one more table under a header in double brackets -/
def openTables (path : List String) (key : String) (members : Members) : Option Members :=
  updateAt false (fun _ inner =>
    match inner.lookup key with
    | none => some (inner ++ [(key, .tables [[]])])
    | some (.tables items) => some (replaceMember key (.tables (items ++ [[]])) inner)
    | some _ => none)
    path false members

mutual

def Item.toToml : Item → Toml
  | .value v => v
  | .table _ _ members => .table (membersToToml members)
  | .tables items => .array (tablesToToml items)

def membersToToml : List (String × Item) → List (String × Toml)
  | [] => []
  | (k, item) :: rest => (k, item.toToml) :: membersToToml rest

def tablesToToml : List (List (String × Item)) → List Toml
  | [] => []
  | members :: rest => .table (membersToToml members) :: tablesToToml rest

end

end Toml

end MetricQuery
