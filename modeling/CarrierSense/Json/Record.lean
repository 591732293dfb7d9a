import CarrierSense.Json.Basic

/-!
# Records in JSON

A record with named fields is an object, or the array of its fields in their order. In an object,
unknown names are passed over, but a field must not stand twice, and every name must denote a text.
In an array the last fields may be left out.
-/

namespace CarrierSense.Json

/-- The value of a field among the members of an object: an error if it stands there twice. -/
def field? (name : String) (members : List (JsonText × Json)) : Option (Option Json) :=
  match members.filter (·.1 == some name) with
  | [] => some none
  | [(_, value)] => some (some value)
  | _ => none

/-- The values of fields in an array. -/
private def inOrder? : List String → List Json → Option (List (Option Json))
  | [], [] => some []
  | [], _ :: _ => none
  | _ :: names, [] => (inOrder? names []).map (none :: ·)
  | _ :: names, item :: items => (inOrder? names items).map (some item :: ·)

/-- The values of the fields of a record, as far as they are given. -/
def fields? (names : List String) : Json → Option (List (Option Json))
  | .object members =>
    if members.all (·.1.isSome) then names.mapM fun name => field? name members else none
  | .array items => inOrder? names items
  | _ => none

/-- A field that must be given. -/
def required {α : Type} (read : Json → Option α) : Option Json → Option α
  | some value => read value
  | none => none

/-- A field that takes a default if it is not given. -/
def withDefault {α : Type} (default : α) (read : Json → Option α) : Option Json → Option α
  | some value => read value
  | none => some default

/-- A field that may be absent or null. -/
def optional {α : Type} (read : Json → Option α) : Option Json → Option (Option α)
  | some .null | none => some none
  | some value => (read value).map some

/-- A natural number up to a bound. -/
def toNat? (bound : Nat) : Json → Option Nat
  | .number n => n.toNat? bound
  | _ => none

/-- The largest number of 32 bits. -/
def bound32 : Nat := 4294967295

/-- The largest number of 64 bits. -/
def bound64 : Nat := 18446744073709551615

/-- A double. -/
def toFloat? : Json → Option Float
  | .number n => n.toFloat?
  | _ => none

def toText? : Json → Option String
  | .string text => text
  | _ => none

/-- A list whose items are read one by one. -/
def toList? {α : Type} (read : Json → Option α) : Json → Option (List α)
  | .array items => items.mapM read
  | _ => none

/-- How deep arrays and objects may nest where a value is read in full. -/
def depthLimit : Nat := 127

mutual

/-- Whether a value at a nesting level can be read in full: no number beyond the doubles, no half of
a surrogate pair, and no container beyond the depth limit. -/
def isReadable (level : Nat) : Json → Bool
  | .null | .bool _ => true
  | .number n => n.toFloat?.isSome
  | .string text => text.isSome
  | .array items => level ≤ depthLimit && areReadable (level + 1) items
  | .object members => level ≤ depthLimit && membersAreReadable (level + 1) members

/-- Whether all items of an array can be read in full. -/
def areReadable (level : Nat) : List Json → Bool
  | [] => true
  | item :: rest => isReadable level item && areReadable level rest

/-- Whether all names and values of an object can be read in full. -/
def membersAreReadable (level : Nat) : List (JsonText × Json) → Bool
  | [] => true
  | (name, value) :: rest =>
    name.isSome && isReadable level value && membersAreReadable level rest

end

end CarrierSense.Json
