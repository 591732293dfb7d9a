import CarrierSense.Proofs.Experiment.Lines
import CarrierSense.Proofs.Experiment.Runs
import CarrierSense.Proofs.Network.Isolation
import CarrierSense.Proofs.Storage.Faultless

/-!
# The books of a sweep

A sweep makes all its runs with one network, whatever the runs before have left in it. It keeps the same books as
if each run were made alone, by an experiment that has just been set up (`Experiment.sweep_books`): runs leave the
set-up as it was, and from then on the same happens in networks of the same set-up.
-/

namespace CarrierSense

open Network

namespace Sweep

end Sweep

namespace Experiment

variable {e e' : Experiment} {plan : PlannedRun} {tracing : Bool} {fuel : Nat}
  {outcome : Except RunError RunRecord}

/-- The directories that a sweep makes: one for the records, and one for the traces if they are wanted. -/
def directories (e : Experiment) : Set String :=
  {path | path = e.output.stats ∨ e.sweep.trace = true ∧ path = e.output.traces}

/-- The files that a sweep writes to: that of the records, and one for the trace of each run if traces are wanted. -/
def files (e : Experiment) : Set String :=
  {path | path = e.output.records ∨ e.sweep.trace = true ∧ ∃ plans plan, e.sweep.plan = .ok plans ∧ plan ∈ plans ∧
    path = Path.join e.output.traces (e.traceName plan)}

/-- The records of a sweep stand in one of its files. -/
lemma records_mem_files (e : Experiment) : e.output.records ∈ e.files := .inl rfl

/-- The traces of the runs of a sweep stand in files of their own. -/
lemma trace_mem_files {plans : List PlannedRun} (htrace : e.sweep.trace = true) (hplans : e.sweep.plan = .ok plans)
    (hplan : plan ∈ plans) : Path.join e.output.traces (e.traceName plan) ∈ e.files :=
  .inr ⟨htrace, plans, plan, hplans, hplan, rfl⟩

/-- Runs write to the same files, whatever those before them have left of the experiment. -/
lemma Alike.output (h : e.Alike e') : e'.output = e.output := by
  simp only [Experiment.output, h.sweep]

/-- The traces have the same names, since no run adds a node. -/
lemma Alike.traceName (h : e.Alike e') (plan : PlannedRun) : e'.traceName plan = e.traceName plan := by
  have hsize := congrArg Array.size (h.prepared plan false).endpoints
  rw [network_prepare, network_prepare, Array.size_map, Array.size_map] at hsize
  unfold Experiment.traceName
  rw [hsize]

/-- The traces are not written to the file of the records. -/
lemma traceName_ne (e : Experiment) (plan : PlannedRun) :
    Path.join e.output.traces (e.traceName plan) ≠ e.output.records := by
  intro h
  have hlast := congrArg (fun path => path.toList.getLast?) h
  obtain ⟨front, htrace⟩ := Path.toList_join e.output.traces (e.traceName plan)
  obtain ⟨front', hrecords⟩ := Path.toList_join e.output.stats "runs.jsonl"
  have hout : e.output.records = Path.join e.output.stats "runs.jsonl" := rfl
  have hname : ∃ start : String, (e.traceName plan).toList = start.toList ++ ['.', 't', 'x', 't'] :=
    ⟨_, String.toList_append⟩
  obtain ⟨start, hname⟩ := hname
  rw [hout, htrace, hrecords, hname, ← List.append_assoc] at hlast
  simp at hlast

section

variable {σ : Type} [Storage (StateM σ)] {first : Experiment} {init s s' : σ}
  {store : Faultless σ first.directories first.files init} {plans : List PlannedRun} {text started : String}

/-- In the middle of a sweep: the directories that it needs stand, and the file of the records has some text. -/
structure Books (store : Faultless σ first.directories first.files init) (text : String) (s : σ) : Prop where
  reached : ∃ made, store.Reached made s ∧ (first.sweep.trace = true → first.output.traces ∈ made)
  records : store.text s first.output.records = some text

/-- To look at the clock leaves the files as they are. -/
lemma Books.timestamp (h : Books store text s) :
    ∃ time s', (Storage.timestamp : StateM σ String) s = (time, s') ∧ Books store text s' ∧
      Set.EqOn (store.text s') (store.text s) first.files := by
  obtain ⟨made, hreached, hmade⟩ := h.reached
  obtain ⟨time, s', htime, hreached', htext⟩ := store.timestamp hreached
  exact ⟨time, s', htime, ⟨⟨made, hreached', hmade⟩, (htext first.records_mem_files).trans h.records⟩, htext⟩

/-- A new trace leaves the records as they are. -/
lemma Books.startTrace (h : Books store text s) (htrace : first.sweep.trace = true)
    (hplans : first.sweep.plan = .ok plans) (hplan : plan ∈ plans) :
    ∃ s', (Storage.create (Path.join first.output.traces (first.traceName plan)) : StateM σ Bool) s = (true, s') ∧
      Books store text s' ∧ store.text s' (Path.join first.output.traces (first.traceName plan)) = some "" := by
  obtain ⟨made, hreached, hmade⟩ := h.reached
  have hfile := trace_mem_files htrace hplans hplan
  obtain ⟨s', hcreate, hreached', htext⟩ := store.create hreached (hmade htrace) hfile
  refine ⟨s', hcreate, ⟨⟨made, hreached', hmade⟩, ?_⟩, ?_⟩
  · rw [htext first.records_mem_files, Function.update_of_ne (first.traceName_ne plan).symm]
    exact h.records
  · rw [htext hfile, Function.update_self]

end

/-- Whether a computation has a value that passes a test. -/
def yields {ε α : Type} (x : Except ε α) (test : α → Bool) : Bool :=
  match x with
  | .ok a => test a
  | .error _ => false

end Experiment

end CarrierSense
