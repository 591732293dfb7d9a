import CarrierSense.Decimal.Shortest
import CarrierSense.Trace
import Mathlib.Logic.Function.Basic

/-!
# Reading a trace

Neither the time of a line nor the name of its status holds a tab. So the tabs of a line cut off its time in front and
its status behind, whatever the name between them is, and no two records have one line
(`TraceRecord.line_injective`). Where the name holds no tab either, the parts of the line are the three texts it was
made of, and what the lines hold under a name is what was recorded under it (`Recorder.lines_read_back`).
-/

namespace CarrierSense

variable {r : TraceRecord} {records : List TraceRecord} {recorder : Recorder}

namespace Trace

/-- The parts of a text are what remains between its tabs. -/
lemma parts_eq_splitOn (text : List Char) : parts text = text.splitOn '\t' := by
  induction text with
  | nil => rfl
  | cons c rest ih =>
    rw [parts, ih, List.splitOn_cons_eq_if_modifyHead]
    simp only [beq_iff_eq]
    split
    · rfl
    · -- there is always a first part, to which `c` belongs
      obtain ⟨first, others, hparts⟩ := List.exists_cons_of_ne_nil (List.splitOn_ne_nil '\t' rest)
      rw [hparts]
      rfl

/-- A text without a tab is one part. -/
lemma parts_of_not_mem {text : List Char} (h : '\t' ∉ text) : parts text = [text] := by
  rw [parts_eq_splitOn, List.splitOn_eq_singleton h]

/-- With the tabs between them again, the parts are the text. -/
lemma intercalate_parts : Function.LeftInverse ['\t'].intercalate parts := by
  intro text
  rw [parts_eq_splitOn, List.intercalate_splitOn]

end Trace

/-- There is no tab among digits. -/
lemma tab_not_mem_toString (n : Nat) : '\t' ∉ (toString n).toList :=
  fun hmem => absurd (Decimal.isDigit_of_mem_toString hmem) (by decide)

/-- There is no tab in the name of a status. -/
lemma Status.tab_not_mem_name (s : Status) : '\t' ∉ s.name.toList := by
  cases s <;> decide

namespace TraceRecord

/-- The first part of a line is the time, and the last one is the status: the parts between are those of the name. -/
lemma parts_line (r : TraceRecord) : Trace.parts r.line.toList =
    (toString r.time).toList :: (Trace.parts r.name.toList ++ [r.status.name.toList]) := by
  rw [line, String.toList_ofList, chars]
  simp only [Trace.parts_eq_splitOn]
  rw [List.splitOn_append_cons_self_of_not_mem (tab_not_mem_toString r.time), List.splitOn_append_cons_self,
    List.splitOn_eq_singleton r.status.tab_not_mem_name]

/-- The line of a name without tabs has three parts. -/
lemma parts_line_of_not_mem (h : '\t' ∉ r.name.toList) :
    Trace.parts r.line.toList = [(toString r.time).toList, r.name.toList, r.status.name.toList] := by
  rw [parts_line, Trace.parts_of_not_mem h]
  rfl

/-- Different records have different lines, even if tabs stand in their names. -/
theorem line_injective : Function.Injective line := by
  rintro ⟨time, name, status⟩ ⟨time', name', status'⟩ h
  have hparts := congrArg (fun text => Trace.parts text.toList) h
  simp only [parts_line] at hparts
  obtain ⟨htime, hrest⟩ := List.cons.inj hparts
  obtain ⟨hname, hstatus⟩ := List.append_inj' hrest rfl
  have htime : time = time' := by simpa using congrArg (fun digits => Nat.ofDigitChars 10 digits 0) htime
  have hname : name = name' := String.toList_inj.1 (Trace.intercalate_parts.injective hname)
  have hstatus : status = status' := Status.name_injective (String.toList_inj.1 (List.cons.inj hstatus).1)
  rw [htime, hname, hstatus]

end TraceRecord

namespace Trace

/-- A line is found under the name of its record and under no other. -/
lemma statusIn?_line (h : '\t' ∉ r.name.toList) (name : String) :
    statusIn? name r.line = if r.name = name then some r.status.name else none := by
  simp only [statusIn?, TraceRecord.parts_line_of_not_mem h, String.ofList_toList]

/-- The statuses that are read under a name are those recorded under it. -/
lemma statusesOf_map_line (h : ∀ r ∈ records, '\t' ∉ r.name.toList) (name : String) :
    statusesOf (records.map TraceRecord.line) name =
      (records.filter fun r => r.name = name).map fun r => r.status.name := by
  induction records with
  | nil => rfl
  | cons r rest ih =>
    obtain ⟨hr, hrest⟩ := List.forall_mem_cons.1 h
    have ih := ih hrest
    rw [statusesOf] at ih ⊢
    rw [List.map_cons, List.filterMap_cons, statusIn?_line hr, ih]
    by_cases hname : r.name = name <;> simp [hname]

end Trace

namespace Recorder

/-- A recorder that is on puts the line of a record behind the others. -/
lemma lines_note (h : recorder.isOn = true) (r : TraceRecord) :
    (recorder.note r).lines = recorder.lines ++ [r.line] := by
  rw [lines, records_note h, Array.toList_push, List.map_append]
  rfl

/-- Records that are noted continue the lines. -/
lemma lines_foldl_note (h : recorder.isOn = true) (records : List TraceRecord) :
    (records.foldl note recorder).lines = recorder.lines ++ records.map TraceRecord.line := by
  induction records generalizing recorder with
  | nil => rw [List.foldl_nil, List.map_nil, List.append_nil]
  | cons r rest ih =>
    rw [List.foldl_cons, ih ((recorder.isOn_note r).trans h), lines_note h, List.append_assoc]
    rfl

/-- If no recorded name holds a tab, then the statuses that the lines hold under a name are those recorded under it, in
order, none missing and none of another name; each line falls apart into time, name and status; and different records
have different lines. -/
theorem lines_read_back (h : ∀ r ∈ records, '\t' ∉ r.name.toList) :
    (∀ name, Trace.statusesOf (records.foldl note start).lines name =
        (records.filter fun r => r.name = name).map fun r => r.status.name) ∧
      ((records.foldl note start).lines.map fun line => Trace.parts line.toList) =
        (records.map fun r => [(toString r.time).toList, r.name.toList, r.status.name.toList]) ∧
      Function.Injective TraceRecord.line := by
  have hlines : (records.foldl note start).lines = records.map TraceRecord.line := lines_foldl_note rfl records
  rw [hlines, List.map_map]
  refine ⟨Trace.statusesOf_map_line h, List.map_congr_left fun r hr => ?_, TraceRecord.line_injective⟩
  rw [Function.comp_apply, TraceRecord.parts_line_of_not_mem (h r hr)]

/-- An empty name, a name that begins another, a line feed, a quote, digits, and the last time of 64 bits. -/
theorem lines_read_back_odd_names :
    let records : List TraceRecord := [⟨0, "", .waitingForDifs⟩, ⟨28, "7", .sendingMessage⟩,
      ⟨28, "7\n\"IDLE", .receivingMessage⟩, ⟨18446744073709551615, "7", .idle⟩]
    let lines := (records.foldl note start).lines
    (∀ r ∈ records, '\t' ∉ r.name.toList) ∧
      Trace.statusesOf lines "7" = ["SENDING_MESSAGE", "IDLE"] ∧
      Trace.statusesOf lines "" = ["WAITING_FOR_DIFS"] ∧
      Trace.statusesOf lines "IDLE" = [] ∧
      (lines.map fun line => (Trace.parts line.toList).map String.ofList) =
        [["0", "", "WAITING_FOR_DIFS"], ["28", "7", "SENDING_MESSAGE"],
          ["28", "7\n\"IDLE", "RECEIVING_MESSAGE"], ["18446744073709551615", "7", "IDLE"]] ∧
      Function.Injective TraceRecord.line := by
  intro records lines
  have htabs : ∀ r ∈ records, '\t' ∉ r.name.toList := by simp [records]
  obtain ⟨hstatuses, hparts, hinjective⟩ := lines_read_back htabs
  refine ⟨htabs, hstatuses "7", hstatuses "", hstatuses "IDLE", ?_, hinjective⟩
  have htexts := congrArg (List.map (List.map String.ofList)) hparts
  rw [List.map_map] at htexts
  exact htexts

end Recorder

end CarrierSense
