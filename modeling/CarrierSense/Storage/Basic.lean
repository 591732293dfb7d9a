import CarrierSense.Storage.Path

/-!
# Storage

What an experiment needs of the place that it reads from and writes to: files and directories by
their paths, and the time of day.
-/

namespace CarrierSense

/-- Access to files. Paths are taken from the place where the program runs. An operation that cannot
be carried out says so. -/
class Storage (m : Type → Type) where
  /-- The text of a file, if there is one that can be read. -/
  read? (path : String) : m (Option String)
  /-- Whether anything is found at a path. -/
  holds (path : String) : m Bool
  /-- Makes a directory, together with those that lead to it, and says whether it is there now. -/
  makeDirectory (path : String) : m Bool
  /-- Starts a file without any text, and says whether that was possible. -/
  create (path : String) : m Bool
  /-- Adds text to the end of a file. -/
  append (path text : String) : m Unit
  /-- The time of day. -/
  timestamp : m String

end CarrierSense
