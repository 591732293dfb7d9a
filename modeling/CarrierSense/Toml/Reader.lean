import CarrierSense.Toml.Scalar

/-!
# Reading TOML

Values may be arrays and inline tables; a document is a sequence of lines that hold a key with its
value, the header of a table, or nothing. Lines under a header belong to its table.
-/

namespace CarrierSense.Toml

abbrev KeyValue := List String × String × Toml

/-- A text behind a comment, if it starts with one. -/
private def skipComment : List Char → List Char
  | '#' :: rest => rest.dropWhile isCommentChar
  | text => text

/-- A text without blanks, comments and line ends at its head. A comment must reach the end of its
line. -/
private def skipLines? : Nat → List Char → Option (List Char)
  | 0, text => some text
  | fuel + 1, text =>
    match skipBlanks text with
    | '#' :: rest => do
      let rest ← lineEnd? (rest.dropWhile isCommentChar)
      skipLines? fuel rest
    | text =>
      match lineEnd? text with
      | some rest => skipLines? fuel rest
      | none => some text

/-- The value of an inline table. -/
private def inlineTable? (keys : List KeyValue) : Option Toml :=
  (Entries.addAll [] keys).map (.table .inline)

mutual

/-- A value, and the text behind it. Containers may nest as deep as `depth`; each reader spends fuel,
of which a text needs twice its length. -/
private def value? (depth : Nat) : Nat → List Char → Option (Toml × List Char)
  | 0, _ => none
  | fuel + 1, text =>
    match text, depth with
    | '[' :: rest, depth + 1 => items? depth [] fuel rest
    | '\x7b' :: rest, depth + 1 =>
      match skipBlanks rest with
      | '\x7d' :: rest => some (.table .inline [], rest)
      | _ => members? depth [] fuel rest
    | _, _ => scalar? text

/-- The rest of an array whose items so far come last one first. A comma may stand behind the last
item. -/
private def items? (depth : Nat) (found : List Toml) : Nat → List Char → Option (Toml × List Char)
  | 0, _ => none
  | fuel + 1, text => do
    match ← skipLines? text.length text with
    | ']' :: rest => return (.array found.reverse, rest)
    | text =>
      let (item, rest) ← value? depth fuel text
      match ← skipLines? rest.length rest with
      | ',' :: rest => items? depth (item :: found) fuel rest
      | ']' :: rest => return (.array (item :: found).reverse, rest)
      | _ => none

/-- The rest of an inline table whose members so far come last one first. -/
private def members? (depth : Nat) (found : List KeyValue) :
    Nat → List Char → Option (Toml × List Char)
  | 0, _ => none
  | fuel + 1, text => do
    let (keyValue, rest) ← keyValue? depth fuel text
    match skipBlanks rest with
    | ',' :: rest => members? depth (keyValue :: found) fuel rest
    | '\x7d' :: rest => return (← inlineTable? (keyValue :: found).reverse, rest)
    | _ => none

private def keyValue? (depth : Nat) : Nat → List Char → Option (KeyValue × List Char)
  | 0, _ => none
  | fuel + 1, text => do
    match ← key? text with
    | (path, key, '=' :: rest) =>
      let (value, rest) ← value? depth fuel (skipBlanks rest)
      return ((path, key, value), rest)
    | _ => none

end

/-- The text behind the end of a line, before which only blanks and a comment may stand. -/
private def restOfLine? (text : List Char) : Option (List Char) :=
  match skipComment (skipBlanks text) with
  | [] => some []
  | text => lineEnd? text

/-- The head of a table, or of one more table of an array. -/
private inductive Header where
  | table (path : List String) (key : String)
  | item (path : List String) (key : String)

/-- A header behind its first bracket. -/
private def header? (text : List Char) : Option (Header × List Char) :=
  match text with
  | '[' :: text => do
    match ← key? text with
    | (path, key, ']' :: ']' :: rest) => return (.item path key, rest)
    | _ => none
  | text => do
    match ← key? text with
    | (path, key, ']' :: rest) => return (.table path key, rest)
    | _ => none

/-- What has been read of a document: the finished part, the header of the lines being read if they
have one, and their keys, last one first. -/
private structure Progress where
  root : Entries := []
  header : Option Header := none
  keys : List KeyValue := []

/-- The document up to the end of the lines under the last header. -/
private def Progress.finish (p : Progress) : Option Entries :=
  match p.header with
  | none => Entries.addAll p.root p.keys.reverse
  | some (.table path key) => p.root.addTable path key p.keys.reverse
  | some (.item path key) => p.root.addToTables path key p.keys.reverse

/-- Reads a document line by line. -/
private def lines? (p : Progress) : Nat → List Char → Option Entries
  | 0, _ => none
  | fuel + 1, text =>
    match skipBlanks text with
    | [] => p.finish
    | '[' :: text => do
      let (header, rest) ← header? text
      lines? { root := ← p.finish, header } fuel (← restOfLine? rest)
    | text =>
      if text.head? = some '#' || (lineEnd? text).isSome then do
        lines? p fuel (← restOfLine? text)
      else do
        let (keyValue, rest) ← keyValue? (depthLimit - 1) (2 * text.length + 2) text
        lines? { p with keys := keyValue :: p.keys } fuel (← restOfLine? rest)

/-- The entries of a TOML document. A byte order mark may stand at its head. -/
def read? (text : String) : Option Entries :=
  let chars :=
    match text.toList with
    | '\uFEFF' :: rest => rest
    | chars => chars
  lines? {} (chars.length + 1) chars

end CarrierSense.Toml
