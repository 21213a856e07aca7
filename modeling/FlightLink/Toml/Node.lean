/-! Documents as trees, and how statements add to them. Every table remembers where
it came from, because that decides what may still be added: a header opens a table
only once, a dotted key adds only to tables that dotted keys or deeper headers made,
and an inline table is complete as it stands. -/

namespace FlightLink.Toml

/-- Where a table came from. -/
inductive Origin
  /-- The root, a header, or an element of an array of tables. -/
  | header
  /-- A header of a table further down. -/
  | implied
  /-- A key with dots. -/
  | dotted
  /-- Braces. -/
  | inline
  deriving DecidableEq, Repr

inductive Node
  | string (text : String)
  | integer (value : Int)
  | float (value : Float)
  | boolean (value : Bool)
  /-- A date, a time, or both. -/
  | moment
  | array (elements : List Node)
  | table (origin : Origin) (entries : List (String × Node))
  /-- An array of tables, each opened by a header. -/
  | tables (elements : List (List (String × Node)))

/-- The content of a table, in the order of its keys' first appearance. -/
abbrev Entries := List (String × Node)

namespace Entries

def get? (entries : Entries) (key : String) : Option Node :=
  entries.lookup key

/-- Changes what stands under a key, or adds it at the end. -/
def alter (key : String) (change : Option Node → Option Node) : Entries → Option Entries
  | [] => (change none).map fun node => [(key, node)]
  | (other, node) :: rest =>
    if other = key then
      (change (some node)).map fun node => (other, node) :: rest
    else
      (alter key change rest).map ((other, node) :: ·)

/-- Adds what stands under no key so far. -/
def insertNew (key : String) (node : Node) (entries : Entries) : Option Entries :=
  alter key (fun existing => if existing.isSome then none else some node) entries

/-- Changes the last of several tables. -/
def alterLast (change : Entries → Option Entries) : List Entries → Option (List Entries)
  | [] => none
  | [last] => (change last).map ([·])
  | first :: rest => (alterLast change rest).map (first :: ·)

/-- Changes the table at the end of a path. Tables that are missing on the way are
made, with the given origin. A path leads into the last of several tables. -/
def descend (made : Origin) (change : Origin → Entries → Option Entries) :
    (path : List String) → Origin → Entries → Option Entries
  | [], origin, entries => change origin entries
  | key :: path, _, entries =>
    entries.alter key fun
      | none => (descend made change path made []).map (.table made)
      | some (.table origin inner) =>
        if origin = .inline ∨ (made = .dotted ∧ origin = .header) then none
        else (descend made change path origin inner).map (.table origin)
      | some (.tables elements) =>
        (alterLast (descend made change path .header) elements).map .tables
      | some _ => none

/-- Adds what stands under a key, which may have dots. A key with dots has to end in
a table that such keys made. -/
def assign (origin : Origin) (entries : Entries) (path : List String) (key : String)
    (node : Node) : Option Entries :=
  entries.descend .dotted
    (fun reached inner =>
      if reached = .dotted ↔ path.isEmpty then none else inner.insertNew key node)
    path origin

/-- A key, which may have dots, and what stands under it. -/
structure Assignment where
  path : List String
  key : String
  node : Node

def assignAll (origin : Origin) (entries : Entries) (assignments : List Assignment) :
    Option Entries :=
  assignments.foldlM (fun entries each => entries.assign origin each.path each.key each.node)
    entries

end Entries
end FlightLink.Toml
