import CarrierSense.Storage.Basic
import Std.Data.TreeMap

/-!
# File trees

A tree of directories and files that is kept as a value. Every place in it is known by the names that
lead to it from the top, and the top is a directory.

Paths are followed name by name, and every name but the last must lead to a directory. There is
nothing above the top, and a path that begins with a slash leads out of the tree.
-/

namespace CarrierSense

/-- What is found at a place of a tree. -/
inductive TreeEntry where
  | directory
  | file (text : String)
  deriving DecidableEq, Repr, Inhabited

/-- A tree of directories and files. -/
structure Tree where
  entries : Std.TreeMap (List String) TreeEntry := ∅
  deriving Inhabited

namespace Tree

/-- How many bytes the name of a file or directory may have. -/
def nameLimit : Nat := 255

/-- How many bytes a path may have. -/
def pathLimit : Nat := 4095

/-- What is found at a place. -/
def at? (t : Tree) (place : List String) : Option TreeEntry :=
  if place.isEmpty then some .directory else t.entries[place]?

/-- Where a name leads to from a directory. -/
def enter? (place : List String) (name : String) : Option (List String) :=
  if name.isEmpty || name = "." then some place
  else if name = ".." then if place.isEmpty then none else some place.dropLast
  else if name.utf8ByteSize ≤ nameLimit then some (place ++ [name])
  else none

/-- Whether a path can lead to anything in a tree. -/
def isPath (path : String) : Bool :=
  !path.isEmpty && !path.startsWith "/" && path.utf8ByteSize ≤ pathLimit && !path.contains '\x00'

/-- The place that names lead to, which need not hold anything yet. -/
def follow? (t : Tree) (place : List String) : List String → Option (List String)
  | [] => some place
  | name :: rest =>
    match t.at? place, enter? place name with
    | some .directory, some next => follow? t next rest
    | _, _ => none

/-- The place that a path leads to, which need not hold anything yet. -/
def locate? (t : Tree) (path : String) : Option (List String) :=
  if isPath path then t.follow? [] (Path.names path) else none

/-- What is found at a path. -/
def find? (t : Tree) (path : String) : Option TreeEntry := t.locate? path >>= t.at?

/-- The text of the file at a path. -/
def read? (t : Tree) (path : String) : Option String :=
  match t.find? path with
  | some (.file text) => some text
  | _ => none

/-- Makes directories where names lead, from a directory on. -/
def makeAlong? (t : Tree) (place : List String) : List String → Option Tree
  | [] => some t
  | name :: rest =>
    match enter? place name with
    | none => none
    | some next =>
      match t.at? next with
      | some .directory => makeAlong? t next rest
      | some (.file _) => none
      | none => makeAlong? { entries := t.entries.insert next .directory } next rest

/-- Makes a directory, together with those that lead to it. -/
def makeDirectory? (t : Tree) (path : String) : Option Tree :=
  if isPath path then t.makeAlong? [] (Path.names path) else none

/-- Starts a file without any text. -/
def create? (t : Tree) (path : String) : Option Tree :=
  match t.locate? path with
  | none => none
  | some place =>
    match t.at? place with
    | some .directory => none
    | _ => some { entries := t.entries.insert place (.file "") }

/-- Adds text to the end of a file, if there is one. -/
def append (t : Tree) (path text : String) : Tree :=
  match t.locate? path with
  | none => t
  | some place =>
    { entries := t.entries.modify place fun
        | .file start => .file (start ++ text)
        | .directory => .directory }

/-- The names that lead from one place to another that lies below it. -/
def below? : List String → List String → Option (List String)
  | [], names => some names
  | _ :: _, [] => none
  | a :: rest, b :: names => if a = b then below? rest names else none

/-- All files below a directory, with their paths and texts. -/
def filesBelow (t : Tree) (path : String) : List (String × String) :=
  match t.locate? path with
  | none => []
  | some place =>
    t.entries.toList.filterMap fun (other, entry) =>
      match below? place other, entry with
      | some names, .file text => some (Path.join path ("/".intercalate names), text)
      | _, _ => none

end Tree

/-- Changes a tree if that is possible, and says whether it was. -/
def tryChange (change : Tree → Option Tree) : StateM Tree Bool := fun t =>
  match change t with
  | some t => (true, t)
  | none => (false, t)

/-- A tree as storage. No time passes in it. -/
instance : Storage (StateM Tree) where
  read? path := fun t => (t.read? path, t)
  holds path := fun t => ((t.find? path).isSome, t)
  makeDirectory path := tryChange (·.makeDirectory? path)
  create path := tryChange (·.create? path)
  append path text := fun t => ((), t.append path text)
  timestamp := pure ""

end CarrierSense
