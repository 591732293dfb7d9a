import CarrierSense.Decimal.Layout

/-!
# Writing JSON

Compact JSON texts put together from the texts of their parts. In a string only the quote, the
backslash and the controls are escaped.
-/

namespace CarrierSense.Json

/-- The last two digits of a control's escape. -/
private def controlDigits (n : Nat) : List Char :=
  [(n / 16).digitChar, (n % 16).digitChar]

/-- A character inside a string literal. -/
def escape (c : Char) : List Char :=
  match c with
  | '"' => ['\\', '"']
  | '\\' => ['\\', '\\']
  | '\x08' => ['\\', 'b']
  | '\x0c' => ['\\', 'f']
  | '\n' => ['\\', 'n']
  | '\r' => ['\\', 'r']
  | '\t' => ['\\', 't']
  | c => if c.toNat < 0x20 then '\\' :: 'u' :: '0' :: '0' :: controlDigits c.toNat else [c]

/-- A string literal. -/
def writeString (text : String) : String :=
  "\"" ++ text.foldl (fun out c => (escape c).foldl String.push out) "" ++ "\""

/-- A double. Numbers without a decimal are written by name, as strings. -/
def writeFloat (x : Float) : String :=
  if x.isFinite then DecimalLayout.json.write x else writeString (plainText x)

/-- An array of written items. -/
def writeArray (items : List String) : String := "[" ++ ",".intercalate items ++ "]"

/-- An object of names and written values. -/
def writeObject (members : List (String × String)) : String :=
  "\x7b" ++ ",".intercalate (members.map fun (name, value) => writeString name ++ ":" ++ value) ++
    "\x7d"

end CarrierSense.Json
