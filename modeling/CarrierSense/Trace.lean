import CarrierSense.Status

/-!
# Traces

A trace records every change of status as a line of three parts, separated by tabs: the time, the
name of the interface and the name of the status.
-/

namespace CarrierSense

/-- One change of status. -/
structure TraceRecord where
  time : Nat
  name : String
  status : Status
  deriving DecidableEq, Repr

namespace TraceRecord

/-- The characters of a record's line. -/
def chars (r : TraceRecord) : List Char :=
  (toString r.time).toList ++ '\t' :: (r.name.toList ++ '\t' :: r.status.name.toList)

/-- The line of a record. -/
def line (r : TraceRecord) : String := String.ofList r.chars

end TraceRecord

namespace Trace

/-- The parts of a text between its tabs. -/
def parts : List Char → List (List Char)
  | [] => [[]]
  | c :: rest =>
    if c = '\t' then [] :: parts rest
    else
      match parts rest with
      | first :: others => (c :: first) :: others
      | [] => [[c]]

/-- The third part of a line whose second part is `name`. -/
def statusIn? (name : String) (line : String) : Option String :=
  match parts line.toList with
  | _ :: second :: third :: _ =>
    if String.ofList second = name then some (String.ofList third) else none
  | _ => none

/-- The statuses that the lines of a trace hold under a name, in order. -/
def statusesOf (lines : List String) (name : String) : List String :=
  lines.filterMap (statusIn? name)

/-- The text of a trace file: every line ends with a line feed. -/
def fileText (records : List TraceRecord) : String :=
  String.join (records.map fun r => r.line ++ "\n")

end Trace

/-- A trace under way. What was recorded stays readable after recording has stopped. -/
structure Recorder where
  isOn : Bool := false
  records : Array TraceRecord := #[]
  deriving Inhabited

namespace Recorder

/-- A recorder that starts with nothing recorded. -/
def start : Recorder := { isOn := true }

/-- Records nothing more. -/
def stop (r : Recorder) : Recorder := { r with isOn := false }

/-- Records a change of status, if the recorder is on. -/
def note (r : Recorder) (record : TraceRecord) : Recorder :=
  if r.isOn then { r with records := r.records.push record } else r

/-- A record more leaves the recorder on or off. -/
@[simp] theorem isOn_note (r : Recorder) (record : TraceRecord) : (r.note record).isOn = r.isOn := by
  unfold note
  split <;> rfl

/-- What is noted comes last among the records, if the recorder is on. -/
theorem records_note {r : Recorder} (h : r.isOn = true) (record : TraceRecord) :
    (r.note record).records = r.records.push record := by
  rw [note, if_pos h]

/-- The lines of all records. -/
def lines (r : Recorder) : List String := r.records.toList.map TraceRecord.line

end Recorder

end CarrierSense
