import CarrierSense.Json.Numeral

/-!
# JSON values

A JSON text as a tree that keeps all that a reader of data may care about: the spelling of numbers,
the order of members, and repeated names.
-/

namespace CarrierSense

/-- What a string literal denotes; nothing if it holds half of a surrogate pair. -/
abbrev JsonText := Option String

/-- A JSON value. -/
inductive Json where
  | null
  | bool (value : Bool)
  | number (value : Numeral)
  | string (value : JsonText)
  | array (items : List Json)
  | object (members : List (JsonText × Json))
  deriving Inhabited

end CarrierSense
