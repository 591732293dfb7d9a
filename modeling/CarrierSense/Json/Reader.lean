import CarrierSense.Json.Token

/-!
# Reading JSON

The grammar of JSON over its tokens. The containers that are still open are kept on a stack, so that
texts may nest to any depth.
-/

namespace CarrierSense.Json

/-- A container that is still open. Its contents so far come last one first. -/
private inductive Open where
  | array (items : List Json)
  | object (members : List (JsonText × Json))
  /-- An object whose last name has no value yet. -/
  | named (members : List (JsonText × Json)) (name : JsonText)

/-- What may come next. -/
private inductive Expect where
  | value
  /-- A value, or the end of the array that has just been opened. -/
  | firstItem
  | name
  /-- A name, or the end of the object that has just been opened. -/
  | firstName
  | colon
  /-- A comma or the end of the container that is open. -/
  | separator
  /-- Nothing: the text is complete. -/
  | nothing (result : Json)

/-- A finished value goes into the innermost open container. -/
private def place (value : Json) : List Open → Option (Expect × List Open)
  | [] => some (.nothing value, [])
  | .array items :: stack => some (.separator, .array (value :: items) :: stack)
  | .named members name :: stack =>
    some (.separator, .object ((name, value) :: members) :: stack)
  | .object _ :: _ => none

/-- The start of a value: a scalar is placed at once, a container is opened. -/
private def startValue (stack : List Open) : Token → Option (Expect × List Open)
  | .null => place .null stack
  | .bool value => place (.bool value) stack
  | .number value => place (.number value) stack
  | .string value => place (.string value) stack
  | .openArray => some (.firstItem, .array [] :: stack)
  | .openObject => some (.firstName, .object [] :: stack)
  | _ => none

/-- The end of the innermost open container. -/
private def close : Token → List Open → Option (Expect × List Open)
  | .closeArray, .array items :: stack => place (.array items.reverse) stack
  | .closeObject, .object members :: stack => place (.object members.reverse) stack
  | _, _ => none

/-- What one token does to the open containers. -/
private def step (expect : Expect) (stack : List Open) (token : Token) :
    Option (Expect × List Open) :=
  match expect, token, stack with
  | .value, token, stack => startValue stack token
  | .firstItem, .closeArray, stack => close .closeArray stack
  | .firstItem, token, stack => startValue stack token
  | .firstName, .closeObject, stack => close .closeObject stack
  | .firstName, .string name, .object members :: stack =>
    some (.colon, .named members name :: stack)
  | .name, .string name, .object members :: stack => some (.colon, .named members name :: stack)
  | .colon, .colon, stack => some (.value, stack)
  | .separator, .comma, .array items :: stack => some (.value, .array items :: stack)
  | .separator, .comma, .object members :: stack => some (.name, .object members :: stack)
  | .separator, token, stack => close token stack
  | _, _, _ => none

/-- The value that the tokens spell. -/
private def parse (expect : Expect) (stack : List Open) : List Token → Option Json
  | [] =>
    match expect with
    | .nothing result => some result
    | _ => none
  | token :: rest =>
    match step expect stack token with
    | some (expect, stack) => parse expect stack rest
    | none => none

/-- The value of a JSON text, if it is one. -/
def read? (text : String) : Option Json := do
  parse .value [] (← tokens? text.toList)

end CarrierSense.Json
