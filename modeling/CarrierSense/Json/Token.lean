import CarrierSense.Json.Numeral
import CarrierSense.Json.Basic

/-!
# Tokens of JSON

The lexical half of reading JSON: brackets and separators, the three words, numbers and strings.
Between tokens only blanks, tabs and line ends may stand.
-/

namespace CarrierSense.Json

/-- A token of a JSON text. -/
inductive Token where
  | openArray
  | closeArray
  | openObject
  | closeObject
  | comma
  | colon
  | null
  | bool (value : Bool)
  | number (value : Numeral)
  | string (value : JsonText)

/-- The leading decimal digits of a text, and what follows them. -/
def spanDigits : List Char → List Char × List Char
  | [] => ([], [])
  | c :: rest =>
    if c.isDigit then
      let (digits, rest) := spanDigits rest
      (c :: digits, rest)
    else ([], c :: rest)

/-- The digits of a number's fraction, if it has one: a point needs at least one digit. -/
private def fraction? : List Char → Option (List Char × List Char)
  | '.' :: rest =>
    match spanDigits rest with
    | ([], _) => none
    | found => some found
  | rest => some ([], rest)

/-- A signed run of at least one digit. -/
private def signed? (negative : Bool) (text : List Char) : Option (Option Int × List Char) :=
  match spanDigits text with
  | ([], _) => none
  | (digits, rest) =>
    let size : Int := digitsValue 0 digits
    some (some (if negative then -size else size), rest)

/-- A number's exponent, if it has one. -/
private def exponent? : List Char → Option (Option Int × List Char)
  | c :: rest =>
    if c == 'e' || c == 'E' then
      match rest with
      | '+' :: rest => signed? false rest
      | '-' :: rest => signed? true rest
      | rest => signed? false rest
    else some (none, c :: rest)
  | [] => some (none, [])

/-- A number behind its sign: no digit but a lone zero may start with a zero. -/
private def unsigned? (negative : Bool) (text : List Char) : Option (Numeral × List Char) := do
  let (whole, rest) := spanDigits text
  guard (!whole.isEmpty && (whole.length == 1 || whole.head? != some '0'))
  let (fraction, rest) ← fraction? rest
  let (exponent, rest) ← exponent? rest
  return ({ negative, whole, fraction, exponent }, rest)

/-- A number at the head of a text. -/
def number? : List Char → Option (Numeral × List Char)
  | '-' :: rest => unsigned? true rest
  | text => unsigned? false text

/-- The value of a hexadecimal digit. -/
def hexDigit? (c : Char) : Option Nat :=
  if c.isDigit then some (c.toNat - '0'.toNat)
  else if 'a' ≤ c && c ≤ 'f' then some (c.toNat - 'a'.toNat + 10)
  else if 'A' ≤ c && c ≤ 'F' then some (c.toNat - 'A'.toNat + 10)
  else none

/-- The code unit written by four hexadecimal digits. -/
private def unit? (a b c d : Char) : Option Nat := do
  return 4096 * (← hexDigit? a) + 256 * (← hexDigit? b) + 16 * (← hexDigit? c) + (← hexDigit? d)

/-- The character of an escape with a single letter. -/
private def shortEscape? : Char → Option Char
  | '"' => some '"'
  | '\\' => some '\\'
  | '/' => some '/'
  | 'b' => some '\x08'
  | 'f' => some '\x0c'
  | 'n' => some '\n'
  | 'r' => some '\r'
  | 't' => some '\t'
  | _ => none

/-- What has been read of a string literal. -/
private structure Partial where
  /-- The characters so far, last one first. -/
  text : List Char := []
  /-- Whether no half of a surrogate pair stood alone so far. -/
  intact : Bool := true
  /-- The first half of a surrogate pair that waits for the second. -/
  high : Option Nat := none

/-- A string continued by a character. -/
private def Partial.push (p : Partial) (c : Char) : Partial :=
  { text := c :: p.text, intact := p.intact && p.high.isNone, high := none }

/-- A string continued by a code unit. -/
private def Partial.pushUnit (p : Partial) (unit : Nat) : Partial :=
  if 0xD800 ≤ unit && unit < 0xDC00 then
    { p with intact := p.intact && p.high.isNone, high := some unit }
  else if 0xDC00 ≤ unit && unit < 0xE000 then
    match p.high with
    | some high =>
      { p with
        text := .ofNat (0x10000 + (high - 0xD800) * 0x400 + (unit - 0xDC00)) :: p.text
        high := none }
    | none => { p with intact := false }
  else p.push (.ofNat unit)

/-- What a finished string denotes. -/
private def Partial.finish (p : Partial) : JsonText :=
  if p.intact && p.high.isNone then some (String.ofList p.text.reverse) else none

/-- A string literal behind its opening quote: what it denotes, and what follows it. -/
private def string? (p : Partial) : List Char → Option (JsonText × List Char)
  | '"' :: rest => some (p.finish, rest)
  | '\\' :: 'u' :: a :: b :: c :: d :: rest =>
    match unit? a b c d with
    | some unit => string? (p.pushUnit unit) rest
    | none => none
  | '\\' :: e :: rest =>
    match shortEscape? e with
    | some c => string? (p.push c) rest
    | none => none
  | c :: rest => if c.toNat < 0x20 || c == '\\' then none else string? (p.push c) rest
  | [] => none

/-- Whether a character may stand between tokens. -/
def isBlank (c : Char) : Bool := c == ' ' || c == '\t' || c == '\n' || c == '\r'

/-- The tokens of a text behind those already found, which come last one first. Each token takes at
least one character, so the length of the text is fuel enough. -/
private def tokensFrom (found : List Token) : Nat → List Char → Option (List Token)
  | _, [] => some found.reverse
  | 0, _ => none
  | fuel + 1, c :: rest =>
    if isBlank c then tokensFrom found fuel rest
    else
      match c, rest with
      | '[', rest => tokensFrom (.openArray :: found) fuel rest
      | ']', rest => tokensFrom (.closeArray :: found) fuel rest
      | '\x7b', rest => tokensFrom (.openObject :: found) fuel rest
      | '\x7d', rest => tokensFrom (.closeObject :: found) fuel rest
      | ',', rest => tokensFrom (.comma :: found) fuel rest
      | ':', rest => tokensFrom (.colon :: found) fuel rest
      | 'n', 'u' :: 'l' :: 'l' :: rest => tokensFrom (.null :: found) fuel rest
      | 't', 'r' :: 'u' :: 'e' :: rest => tokensFrom (.bool true :: found) fuel rest
      | 'f', 'a' :: 'l' :: 's' :: 'e' :: rest => tokensFrom (.bool false :: found) fuel rest
      | '"', rest =>
        match string? {} rest with
        | some (text, rest) => tokensFrom (.string text :: found) fuel rest
        | none => none
      | c, rest =>
        match number? (c :: rest) with
        | some (n, rest) => tokensFrom (.number n :: found) fuel rest
        | none => none

def tokens? (text : List Char) : Option (List Token) := tokensFrom [] text.length text

end CarrierSense.Json
