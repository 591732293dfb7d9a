import CarrierSense.Json.Token
import CarrierSense.Toml.Basic

/-!
# Scalars of TOML

Strings in their four spellings, integers, floats, dates and times, and the keys that name values.
Each reader takes what it reads from the head of a text and returns the rest.
-/

namespace CarrierSense.Toml

/-- A text without its leading blanks. -/
def skipBlanks (text : List Char) : List Char := text.dropWhile fun c => c == ' ' || c == '\t'

/-- Whether a character may stand in a comment. -/
def isCommentChar (c : Char) : Bool := c == '\t' || (' ' ≤ c && c.toNat != 0x7F)

/-- Whether a character may stand by itself in a basic string. -/
def isBasicChar (c : Char) : Bool := isCommentChar c && c != '"' && c != '\\'

/-- Whether a character may stand in a literal string. -/
def isLiteralChar (c : Char) : Bool := isCommentChar c && c != '\''

/-- A line end at the head of a text. -/
def lineEnd? : List Char → Option (List Char)
  | '\n' :: rest => some rest
  | '\r' :: '\n' :: rest => some rest
  | _ => none

/-- A text without one leading line end. -/
def skipLineEnd (text : List Char) : List Char := (lineEnd? text).getD text

/-- The character with the code point that hexadecimal digits spell. -/
private def codePoint? (digits : List Char) : Option Char := do
  let n ← digits.foldlM (fun n c => (Json.hexDigit? c).map (16 * n + ·)) 0
  if n.isValidChar then some (Char.ofNat n) else none

/-- An escape behind its backslash. -/
private def escape? : List Char → Option (Char × List Char)
  | 'b' :: rest => some ('\x08', rest)
  | 't' :: rest => some ('\t', rest)
  | 'n' :: rest => some ('\n', rest)
  | 'f' :: rest => some ('\x0c', rest)
  | 'r' :: rest => some ('\r', rest)
  | '"' :: rest => some ('"', rest)
  | '\\' :: rest => some ('\\', rest)
  | 'u' :: rest =>
    if rest.length < 4 then none else (codePoint? (rest.take 4)).map (·, rest.drop 4)
  | 'U' :: rest =>
    if rest.length < 8 then none else (codePoint? (rest.take 8)).map (·, rest.drop 8)
  | _ => none

/-- The string of characters that come last one first. -/
private def backwards (found : List Char) : String := String.ofList found.reverse

/-- A basic string behind its opening quote. -/
private def basic? (found : List Char) : Nat → List Char → Option (String × List Char)
  | 0, _ => none
  | fuel + 1, text =>
    match text with
    | '"' :: rest => some (backwards found, rest)
    | '\\' :: rest => do
      let (c, rest) ← escape? rest
      basic? (c :: found) fuel rest
    | c :: rest => if isBasicChar c then basic? (c :: found) fuel rest else none
    | [] => none

/-- A literal string behind its opening quote. -/
private def literal? (found : List Char) : List Char → Option (String × List Char)
  | '\'' :: rest => some (backwards found, rest)
  | c :: rest => if isLiteralChar c then literal? (c :: found) rest else none
  | [] => none

/-- A run of quotes in a string of several lines: fewer than three belong to the string; of more, the
last three of at most five end it. -/
private def quotes (quote : Char) (text : List Char) : Nat × Bool × List Char :=
  let count := (text.takeWhile (· == quote)).length
  if count < 3 then (count, false, text.drop count)
  else (min count 5 - 3, true, text.drop (min count 5))

/-- The text behind a backslash at the end of a line: blanks and line ends up to the next other
character are dropped. -/
private def continuation? (text : List Char) : Option (List Char) := do
  let rest ← lineEnd? (skipBlanks text)
  return skip rest.length rest
where
  skip : Nat → List Char → List Char
    | 0, text => text
    | fuel + 1, text =>
      match lineEnd? (skipBlanks text) with
      | some rest => skip fuel rest
      | none => skipBlanks text

/-- A basic string of several lines behind its opening quotes. -/
private def basicLines? (found : List Char) : Nat → List Char → Option (String × List Char)
  | 0, _ => none
  | fuel + 1, text =>
    match text with
    | '"' :: _ =>
      let (count, ends, rest) := quotes '"' text
      let found := List.replicate count '"' ++ found
      if ends then some (backwards found, rest) else basicLines? found fuel rest
    | '\\' :: rest =>
      match continuation? rest with
      | some rest => basicLines? found fuel rest
      | none => do
        let (c, rest) ← escape? rest
        basicLines? (c :: found) fuel rest
    | c :: rest =>
      match lineEnd? text with
      | some rest => basicLines? ('\n' :: found) fuel rest
      | none => if isBasicChar c then basicLines? (c :: found) fuel rest else none
    | [] => none

/-- A literal string of several lines behind its opening quotes. -/
private def literalLines? (found : List Char) : Nat → List Char → Option (String × List Char)
  | 0, _ => none
  | fuel + 1, text =>
    match text with
    | '\'' :: _ =>
      let (count, ends, rest) := quotes '\'' text
      let found := List.replicate count '\'' ++ found
      if ends then some (backwards found, rest) else literalLines? found fuel rest
    | c :: rest =>
      match lineEnd? text with
      | some rest => literalLines? ('\n' :: found) fuel rest
      | none => if isLiteralChar c then literalLines? (c :: found) fuel rest else none
    | [] => none

/-- A string in one line. -/
def line? : List Char → Option (String × List Char)
  | '"' :: rest => basic? [] (rest.length + 1) rest
  | '\'' :: rest => literal? [] rest
  | _ => none

/-- A string in any spelling. A line end right behind the opening quotes is dropped. -/
def string? : List Char → Option (String × List Char)
  | '"' :: '"' :: '"' :: rest => basicLines? [] (rest.length + 1) (skipLineEnd rest)
  | '\'' :: '\'' :: '\'' :: rest => literalLines? [] (rest.length + 1) (skipLineEnd rest)
  | text => line? text

/-- Whether a character may stand in a bare key. -/
def isKeyChar (c : Char) : Bool := c.isAlphanum || c == '-' || c == '_'

private def keyPart? (text : List Char) : Option (String × List Char) :=
  match text with
  | '"' :: _ | '\'' :: _ => line? text
  | _ =>
    match text.takeWhile isKeyChar with
    | [] => none
    | part => some (String.ofList part, text.dropWhile isKeyChar)

/-- How many levels arrays, inline tables and keys may have, and one more. -/
def depthLimit : Nat := 80

/-- The parts of a key behind those already found, which come last one first. Blanks may stand around
each part. -/
private def keyFrom? (found : List String) : Nat → List Char → Option (List String × List Char)
  | 0, _ => none
  | fuel + 1, text => do
    let (part, rest) ← keyPart? (skipBlanks text)
    match skipBlanks rest with
    | '.' :: rest => keyFrom? (part :: found) fuel rest
    | rest => return (part :: found, rest)

/-- A key: the parts before its last dot, and the last one. -/
def key? (text : List Char) : Option (List String × String × List Char) := do
  match ← keyFrom? [] (depthLimit - 1) text with
  | (last :: path, rest) => return (path.reverse, last, rest)
  | ([], _) => none

/-- At least one digit, with single underscores between digits, which are dropped. -/
private def digits? (isDigit : Char → Bool) : List Char → Option (List Char × List Char)
  | [] => none
  | c :: rest => if isDigit c then some (more [c] rest) else none
where
  more (found : List Char) : List Char → List Char × List Char
    | '_' :: c :: rest => if isDigit c then more (c :: found) rest else (found.reverse, '_' :: c :: rest)
    | c :: rest => if isDigit c then more (c :: found) rest else (found.reverse, c :: rest)
    | [] => (found.reverse, [])

/-- An optional sign: whether it is a minus. -/
private def sign : List Char → Bool × List Char
  | '-' :: rest => (true, rest)
  | '+' :: rest => (false, rest)
  | text => (false, text)

/-- A decimal integer with its sign: no other digit may follow a leading zero. -/
private def decimal? (text : List Char) : Option (Bool × List Char × List Char) := do
  let (negative, rest) := sign text
  match rest with
  | '0' :: rest => return (negative, ['0'], rest)
  | _ =>
    let (digits, rest) ← digits? Char.isDigit rest
    return (negative, digits, rest)

/-- The digits behind a decimal point. -/
private def fraction? : List Char → Option (List Char × List Char)
  | '.' :: rest => digits? Char.isDigit rest
  | _ => none

/-- The power of ten behind a number. -/
private def exponent? : List Char → Option (Int × List Char)
  | c :: rest =>
    if c == 'e' || c == 'E' then do
      let (negative, rest) := sign rest
      let (digits, rest) ← digits? Char.isDigit rest
      let size : Int := digitsValue 0 digits
      return (if negative then -size else size, rest)
    else none
  | [] => none

/-- Infinity and the double that is not a number. -/
private def specialFloat? (text : List Char) : Option (Toml × List Char) :=
  let (negative, rest) := sign text
  let signed (x : Float) : Toml := .float (if negative then -x else x)
  match rest with
  | 'i' :: 'n' :: 'f' :: rest => some (signed (1 / 0), rest)
  | 'n' :: 'a' :: 'n' :: rest => some (signed (0 / 0), rest)
  | _ => none

/-- A float: a decimal integer with a fraction, an exponent or both. One beyond the largest double is
refused; one beyond the least is minus infinity. -/
private def float? (text : List Char) : Option (Toml × List Char) := do
  let (negative, whole, rest) ← decimal? text
  let (fraction, rest') := (fraction? rest).getD ([], rest)
  let (exponent, rest'') := (exponent? rest').elim (none, rest') fun (e, r) => (some e, r)
  guard (!fraction.isEmpty || exponent.isSome)
  let value := Numeral.nearest { negative, whole, fraction, exponent }
  guard (!(value.isInf && 0 < value))
  return (.float value, rest'')

/-- The largest integer of 64 bits with a sign. -/
private def integerLimit : Int := 9223372036854775807

/-- An integer of another base behind its mark. -/
private def based? (base : Nat) (isDigit : Char → Bool) (text : List Char) :
    Option (Toml × List Char) := do
  let (digits, rest) ← digits? isDigit text
  let value : Int := digits.foldl (fun n c => base * n + (Json.hexDigit? c).getD 0) 0
  if value ≤ integerLimit then some (.integer value, rest) else none

/-- An integer, which must fit into 64 bits with its sign. -/
private def integer? : List Char → Option (Toml × List Char)
  | '0' :: 'x' :: rest => based? 16 (fun c => (Json.hexDigit? c).isSome) rest
  | '0' :: 'o' :: rest => based? 8 (fun c => '0' ≤ c && c ≤ '7') rest
  | '0' :: 'b' :: rest => based? 2 (fun c => c == '0' || c == '1') rest
  | text => do
    let (negative, digits, rest) ← decimal? text
    let size : Int := digitsValue 0 digits
    let value := if negative then -size else size
    if -integerLimit - 1 ≤ value && value ≤ integerLimit then some (.integer value, rest) else none

/-- A number of exactly `count` digits between two bounds. -/
private def fixed? (count low high : Nat) (text : List Char) : Option (Nat × List Char) := do
  let digits := text.take count
  guard (digits.length == count && digits.all Char.isDigit)
  let value := digitsValue 0 digits
  guard (low ≤ value && value ≤ high)
  return (value, text.drop count)

/-- The text behind a mark. -/
private def mark? (c : Char) : List Char → Option (List Char)
  | d :: rest => if c == d then some rest else none
  | [] => none

/-- How many days a month has. -/
private def daysIn (year month : Nat) : Nat :=
  if month = 2 then
    if year % 4 = 0 && (year % 100 != 0 || year % 400 = 0) then 29 else 28
  else if [4, 6, 9, 11].contains month then 30
  else 31

/-- A day of the calendar. -/
private def date? (text : List Char) : Option (List Char) := do
  let (year, rest) ← fixed? 4 0 9999 text
  let (month, rest) ← fixed? 2 1 12 (← mark? '-' rest)
  let (_, rest) ← fixed? 2 1 (daysIn year month) (← mark? '-' rest)
  return rest

/-- A time of day, with parts of a second if it has any. -/
private def time? (text : List Char) : Option (List Char) := do
  let (_, rest) ← fixed? 2 0 23 text
  let (_, rest) ← fixed? 2 0 59 (← mark? ':' rest)
  let (_, rest) ← fixed? 2 0 60 (← mark? ':' rest)
  match rest with
  | '.' :: c :: more => return if c.isDigit then more.dropWhile Char.isDigit else rest
  | _ => return rest

/-- A distance from universal time. -/
private def offset? : List Char → Option (List Char)
  | c :: rest =>
    if c == 'Z' || c == 'z' then some rest
    else if c == '+' || c == '-' then do
      let (_, rest) ← fixed? 2 0 23 rest
      let (_, rest) ← fixed? 2 0 59 (← mark? ':' rest)
      return rest
    else none
  | [] => none

/-- A time behind a date, with its distance from universal time if it has one. -/
private def timeOfDate? : List Char → Option (List Char)
  | c :: rest =>
    if c == 'T' || c == 't' || c == ' ' then do
      let rest ← time? rest
      return (offset? rest).getD rest
    else none
  | [] => none

/-- A date, a time, or both. -/
private def datetime? (text : List Char) : Option (Toml × List Char) :=
  match date? text with
  | some rest => some (.datetime, (timeOfDate? rest).getD rest)
  | none => (time? text).map fun rest => (.datetime, rest)

/-- A value that starts with a sign or a digit. -/
private def numeric? (text : List Char) : Option (Toml × List Char) :=
  datetime? text <|> float? text <|> specialFloat? text <|> integer? text

def scalar? (text : List Char) : Option (Toml × List Char) :=
  match text with
  | 't' :: 'r' :: 'u' :: 'e' :: rest => some (.boolean true, rest)
  | 'f' :: 'a' :: 'l' :: 's' :: 'e' :: rest => some (.boolean false, rest)
  | c :: _ =>
    if c == '"' || c == '\'' then (string? text).map fun (s, rest) => (.string s, rest)
    else if c == '+' || c == '-' || c.isDigit then numeric? text
    else specialFloat? text
  | [] => none

end CarrierSense.Toml
