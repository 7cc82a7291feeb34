/-!
# TOML documents

A document is a table of values under keys. Numbers with a fraction and times are
told apart from other values, but what they are does not matter here.
-/

namespace Docloom

inductive Toml where
  | text (text : String)
  | integer (value : Int)
  | bool (value : Bool)
  /-- A number with a fraction, or a time. -/
  | other
  | array (items : List Toml)
  | table (entries : List (String × Toml))
  deriving Repr

namespace Toml

/-- The value under a key of a table. -/
def get? (toml : Toml) (key : String) : Option Toml :=
  match toml with
  | .table entries => entries.lookup key
  | _ => none

/-!
# Tables under construction

A document defines tables piece by piece: in headers, by keys with dots, and as
values. A table is defined in one of these ways only, and a key once.
-/

/-- How a table came to be. -/
inductive TableOrigin where
  /-- By a header of its own. -/
  | header
  /-- Only because a header names a table inside it. -/
  | outer
  /-- By keys with dots. -/
  | dotted
  deriving DecidableEq, Repr

inductive Draft where
  | leaf (value : Toml)
  | table (origin : TableOrigin) (entries : List (String × Draft))
  /-- Tables in a list; the last one comes first. -/
  | list (tables : List (List (String × Draft)))
  deriving Repr

namespace Draft

abbrev Entries := List (String × Draft)

/-- Puts a value under a key, in place of the one that is there. -/
def put (key : String) (draft : Draft) : Entries → Entries
  | [] => [(key, draft)]
  | entry :: rest =>
      if entry.1 = key then (key, draft) :: rest else entry :: put key draft rest

/-- Changes the table that a path leads to. Tables that are missing are made. Only in
keys with dots must the tables on the way come from such keys. -/
def changeAt (dotted : Bool) (change : TableOrigin → Entries → Option (TableOrigin × Entries)) :
    List String → TableOrigin → Entries → Option (TableOrigin × Entries)
  | [], origin, entries => change origin entries
  | key :: path, origin, entries => do
      let draft ←
        match entries.lookup key with
        | none => do
            let made := if dotted then TableOrigin.dotted else .outer
            let (made, inner) ← changeAt dotted change path made []
            pure (Draft.table made inner)
        | some (.leaf _) => none
        | some (.table made inner) => do
            if dotted && made == .header then
              none
            let (made, inner) ← changeAt dotted change path made inner
            pure (.table made inner)
        | some (.list (inner :: others)) => do
            let (_, inner) ← changeAt dotted change path .header inner
            pure (.list (inner :: others))
        | some (.list []) => none
      pure (origin, put key draft entries)

/-- Defines the table of a header. -/
def openTable (key : String) (origin : TableOrigin) (entries : Entries) :
    Option (TableOrigin × Entries) :=
  match entries.lookup key with
  | none => some (origin, put key (.table .header []) entries)
  | some (.table .outer inner) => some (origin, put key (.table .header inner) entries)
  | _ => none

/-- Adds a table to a list of tables. -/
def addTable (key : String) (origin : TableOrigin) (entries : Entries) :
    Option (TableOrigin × Entries) :=
  match entries.lookup key with
  | none => some (origin, put key (.list [[]]) entries)
  | some (.list tables) => some (origin, put key (.list ([] :: tables)) entries)
  | _ => none

/-- Puts a value under a new key. A table that is reached by dots must come from
dots. -/
def addValue (key : String) (value : Toml) (dotted : Bool) (origin : TableOrigin)
    (entries : Entries) : Option (TableOrigin × Entries) :=
  if (origin == .dotted) != dotted || (entries.lookup key).isSome then
    none
  else
    some (origin, put key (.leaf value) entries)

/-- Puts a value under a key with dots. -/
def addAt (path : List String) (value : Toml) (origin : TableOrigin) (entries : Entries) :
    Option (TableOrigin × Entries) :=
  match path.getLast? with
  | some key =>
      let outer := path.dropLast
      changeAt true (addValue key value (!outer.isEmpty)) outer origin entries
  | none => none

mutual
def toToml (draft : Draft) : Toml :=
  match draft with
  | .leaf value => value
  | .table _ entries => .table (entriesToToml entries)
  | .list tables => .array (tablesToToml tables).reverse

def entriesToToml : Entries → List (String × Toml)
  | [] => []
  | (key, draft) :: rest => (key, toToml draft) :: entriesToToml rest

def tablesToToml : List Entries → List Toml
  | [] => []
  | entries :: rest => .table (entriesToToml entries) :: tablesToToml rest
end

end Draft

end Toml
end Docloom
