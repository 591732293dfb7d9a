/-!
# Paths

A path is a text of names with slashes between them. Repeated and trailing slashes carry no meaning,
and neither does a name `.` behind the first.
-/

namespace CarrierSense.Path

/-- Drops names without meaning from the end of a path that is spelled backwards. -/
private def trim : List Char → List Char
  | '/' :: rest => trim rest
  | ['.'] => []
  | '.' :: '/' :: rest => trim ('/' :: rest)
  | path => path

/-- The start of a path that is not a name like others: a slash or a dot, and what follows it. -/
private def root : List Char → List Char × List Char
  | '/' :: rest => (['/'], rest)
  | '.' :: '/' :: rest => (['.'], '/' :: rest)
  | ['.'] => (['.'], [])
  | path => ([], path)

/-- The path without its last name; the empty path and a lone slash have none. -/
def parent? (path : String) : Option String :=
  let (start, rest) := root path.toList
  match trim rest.reverse, start with
  | [], ['.'] => some ""
  | [], _ => none
  | body, _ =>
    some (String.ofList (start ++ (trim (body.dropWhile (· != '/'))).reverse))

/-- A relative path behind a path. -/
def join (path name : String) : String :=
  if path.isEmpty || path.endsWith "/" then path ++ name else path ++ "/" ++ name

/-- The names of a path, with empty ones where slashes meet. -/
def names (path : String) : List String := path.splitOn "/"

end CarrierSense.Path
