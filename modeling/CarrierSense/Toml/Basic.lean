/-!
# TOML values and tables

A TOML document is a table. Tables grow while the document is read: by dotted keys, by headers, and by
headers of tables inside them. How a table came about decides how it may grow further.
-/

namespace CarrierSense

/-- How a table came about. -/
inductive TableOrigin where
  /-- Written inline; it cannot grow. -/
  | inline
  /-- By a header of its own. -/
  | header
  /-- Only named on the way to a table with a header. -/
  | passed
  /-- Named before the last dot of a key. -/
  | dotted
  deriving DecidableEq, Repr

inductive Toml where
  | string (text : String)
  | integer (value : Int)
  | float (value : Float)
  | boolean (value : Bool)
  | datetime
  | array (items : List Toml)
  | table (origin : TableOrigin) (entries : List (String × Toml))
  /-- An array of tables with headers, the last one first. -/
  | tables (lastFirst : List (List (String × Toml)))
  deriving Inhabited

namespace Toml

/-- The entries of a table: keys in the order in which they came, each with its value. -/
abbrev Entries := List (String × Toml)

namespace Entries

/-- Gives a key a value, in the place of the one it had. -/
def put (key : String) (value : Toml) : Entries → Entries
  | [] => [(key, value)]
  | (k, v) :: rest => if k = key then (k, value) :: rest else (k, v) :: put key value rest

/-- Goes down a path and changes the table at its end. Tables that are missing are made on the way; the
last of an array of tables stands for it. By a dotted key no inline table is reached and none with a
header; by a header only inline tables are not. -/
def descend (byDots : Bool) (change : TableOrigin → Entries → Option Entries) :
    List String → TableOrigin → Entries → Option Entries
  | [], origin, entries => change origin entries
  | key :: path, _, entries =>
    match entries.lookup key with
    | none => do
      let origin := if byDots then TableOrigin.dotted else .passed
      let inner ← descend byDots change path origin []
      return entries.put key (.table origin inner)
    | some (.table origin inner) =>
      if origin = .inline || (byDots && origin = .header) then none
      else do
        let inner ← descend byDots change path origin inner
        return entries.put key (.table origin inner)
    | some (.tables (last :: earlier)) => do
      let last ← descend byDots change path .header last
      return entries.put key (.tables (last :: earlier))
    | some _ => none

/-- Adds a key, given by the parts before its last dot and the last one. Only a table made by dots may
be reached by dots. -/
def add (entries : Entries) (path : List String) (key : String) (value : Toml) : Option Entries :=
  descend true
    (fun origin entries =>
      if (origin == .dotted) == path.isEmpty then none
      else if (entries.lookup key).isSome then none
      else some (entries ++ [(key, value)]))
    path .header entries

def addAll (entries : Entries) (keys : List (List String × String × Toml)) : Option Entries :=
  keys.foldlM (fun entries (path, key, value) => entries.add path key value) entries

/-- Adds the table of a header with the keys under it. A table that was only passed so far is taken
up; any other must not exist yet. -/
def addTable (root : Entries) (path : List String) (key : String)
    (keys : List (List String × String × Toml)) : Option Entries :=
  descend false
    (fun _ entries => do
      let start ← match entries.lookup key with
        | none => some []
        | some (.table .passed inner) => some inner
        | some _ => none
      return entries.put key (.table .header (← addAll start keys)))
    path .header root

/-- Adds one more table to the array of tables of a header. -/
def addToTables (root : Entries) (path : List String) (key : String)
    (keys : List (List String × String × Toml)) : Option Entries :=
  descend false
    (fun _ entries => do
      let earlier ← match entries.lookup key with
        | none => some []
        | some (.tables earlier) => some earlier
        | some _ => none
      return entries.put key (.tables ((← addAll [] keys) :: earlier)))
    path .header root

end Entries

end Toml

end CarrierSense
