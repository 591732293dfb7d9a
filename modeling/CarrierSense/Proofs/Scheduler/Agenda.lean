import CarrierSense.Proofs.Scheduler.Basic
import Mathlib.Data.List.TakeWhile

/-!
# The agenda of a scheduler

The pending events of a scheduler as a plain list, in the order in which they fire. A post puts an event
behind all those that are not later, a drop takes one out, and the next event is the head. This says
which of several events of one tick comes first, where `Scheduler.Pending` says only what is pending.
-/

namespace CarrierSense

section Agenda

variable {ε : Type}

/-- An agenda with the event `e` at its place: behind all entries that are not later. -/
def Agenda.post (time : Nat) (e : ε) (agenda : List (Nat × ε)) : List (Nat × ε) :=
  agenda.takeWhile (·.1 ≤ time) ++ (time, e) :: agenda.dropWhile (·.1 ≤ time)

/-- An agenda without an event. -/
def Agenda.drop [DecidableEq ε] (e : ε) (agenda : List (Nat × ε)) : List (Nat × ε) :=
  agenda.filter (·.2 ≠ e)

end Agenda

/-- Of two places only one comes before the other. -/
lemma Due.lt_asymm {a b : Due} (h : compare a b = .lt) : ¬ compare b a = .lt :=
  Std.OrientedCmp.not_lt_of_lt h

/-- A place with an earlier tick comes first. -/
lemma Due.lt_of_time {a b : Due} (h : a.time < b.time) : compare a b = .lt :=
  Ordering.then_eq_lt.2 (.inl (Nat.compare_eq_lt.2 h))

/-- A place with a smaller number comes first unless its tick is later. -/
lemma Due.lt_of_number {a b : Due} (ht : a.time ≤ b.time) (hn : a.number < b.number) :
    compare a b = .lt := by
  rcases Nat.lt_or_eq_of_le ht with ht | ht
  · exact Due.lt_of_time ht
  · exact Ordering.then_eq_lt.2 (.inr ⟨Nat.compare_eq_eq.2 ht, Nat.compare_eq_lt.2 hn⟩)

namespace Scheduler

variable {ε : Type} {s s' : Scheduler ε} {due : Due} {e : ε} {time : Nat} {id : EventId}
  {l : List (Due × ε)}

/-- The pending events with their times, in the order in which they fire. -/
def agenda (s : Scheduler ε) : List (Nat × ε) := s.queue.toList.map fun entry => (entry.1.time, entry.2)

/-- The queue lists the pending events. -/
lemma mem_toList : (due, e) ∈ s.queue.toList ↔ s.Pending due e :=
  Std.TreeMap.mem_toList_iff_getElem?_eq_some

/-- The agenda is empty unless an event is pending. -/
lemma agenda_eq_nil : s.agenda = [] ↔ ∀ due e, ¬ s.Pending due e := by
  rw [agenda, List.map_eq_nil_iff, List.eq_nil_iff_forall_not_mem]
  simp only [Prod.forall, mem_toList]

/-- The next tick is that of the first event of the agenda. -/
lemma nextTime?_eq_head? (s : Scheduler ε) : s.nextTime? = s.agenda.head?.map (·.1) := by
  rw [nextTime?, first?_eq_head?, agenda, List.head?_map, Option.map_map]
  rfl

/-- The clock moves on without changing the agenda. -/
lemma agenda_advanceTo (s : Scheduler ε) (time : Nat) : (s.advanceTo time).agenda = s.agenda := by
  unfold advanceTo
  split <;> rfl

/-- The entries stand in the order of the queue. -/
def Sorted (l : List (Due × ε)) : Prop := l.Pairwise fun a b => compare a.1 b.1 = .lt

/-- The queue is sorted by the places of its events. -/
lemma sorted_toList (s : Scheduler ε) : Sorted s.queue.toList := s.queue.ordered_keys_toList

/-- The order of the queue leaves no choice: only one sorted list has its entries. -/
lemma toList_eq (hl : Sorted l) (hmem : ∀ due e, (due, e) ∈ l ↔ s.Pending due e) :
    s.queue.toList = l := by
  have hne : ∀ {l : List (Due × ε)}, Sorted l → l.Nodup := fun hl =>
    hl.imp fun hab heq => by
      rw [heq, Std.compare_self] at hab
      cases hab
  have hperm : s.queue.toList.Perm l :=
    (List.perm_ext_iff_of_nodup (hne s.sorted_toList) (hne hl)).2 fun entry =>
      mem_toList.trans (hmem entry.1 entry.2).symm
  exact hperm.eq_of_pairwise (fun _ _ _ _ hab hba => absurd hba (Due.lt_asymm hab))
    s.sorted_toList hl

/-- In a sorted list, what does not stand before the first later entry is later itself. -/
lemma later_of_mem_dropWhile (hl : Sorted l) {entry : Due × ε}
    (hmem : entry ∈ l.dropWhile (·.1.time ≤ time)) : time < entry.1.time := by
  induction l with
  | nil => cases hmem
  | cons a rest ih =>
    obtain ⟨hfirst, hrest⟩ := List.pairwise_cons.1 hl
    rw [List.dropWhile_cons] at hmem
    split at hmem
    · exact ih hrest hmem
    · rename_i hlater
      have hlater : time < a.1.time := by simpa using hlater
      rcases List.mem_cons.1 hmem with rfl | hmem
      · exact hlater
      · exact Nat.lt_of_lt_of_le hlater (Due.time_le_of_compare (hfirst _ hmem))

/-- An entry keeps a list sorted if it is put behind those that are not later, and has the highest
number. -/
lemma Sorted.post {n : Nat} (hl : Sorted l) (hn : ∀ entry ∈ l, entry.1.number < n) :
    Sorted (l.takeWhile (·.1.time ≤ time) ++ (⟨time, n⟩, e) :: l.dropWhile (·.1.time ≤ time)) := by
  have hsplit := List.takeWhile_append_dropWhile (p := fun entry : Due × ε => entry.1.time ≤ time) (l := l)
  have hcut : Sorted (l.takeWhile (·.1.time ≤ time) ++ l.dropWhile (·.1.time ≤ time)) := by
    rw [hsplit]
    exact hl
  obtain ⟨hbefore, hbehind, hcross⟩ := List.pairwise_append.1 hcut
  refine List.pairwise_append.2 ⟨hbefore, List.pairwise_cons.2 ⟨fun entry hmem => ?_, hbehind⟩,
    fun a ha b hb => ?_⟩
  · exact Due.lt_of_time (later_of_mem_dropWhile hl hmem)
  · rcases List.mem_cons.1 hb with rfl | hb
    · have htime := List.mem_takeWhile_imp ha
      exact Due.lt_of_number (by simpa using htime) (hn a (List.takeWhile_subset _ ha))
    · exact hcross a ha b hb

/-- An event fires behind all that were posted before it for its tick. -/
lemma agenda_post (h : s.Filed) (hp : s.post time e = .ok (id, s')) :
    s'.agenda = Agenda.post time e s.agenda := by
  have hpend : ∀ {due e'}, s'.Pending due e' ↔ due = ⟨time, id.number⟩ ∧ e' = e ∨ s.Pending due e' :=
    pending_post h hp
  obtain ⟨-, rfl, -⟩ := post_eq_ok.1 hp
  have hnew : s'.queue.toList = s.queue.toList.takeWhile (·.1.time ≤ time) ++
      (⟨time, s.nextNumber⟩, e) :: s.queue.toList.dropWhile (·.1.time ≤ time) := by
    refine toList_eq (s.sorted_toList.post fun entry hmem => h.fresh (mem_toList.1 hmem)) fun due e' => ?_
    rw [List.perm_middle.mem_iff, List.mem_cons, List.takeWhile_append_dropWhile, mem_toList, hpend,
      Prod.mk.injEq]
  rw [agenda, hnew, Agenda.post, agenda, List.takeWhile_map, List.dropWhile_map]
  simp only [List.map_append, List.map_cons]
  rfl

/-- A drop takes out the event that has the handle. -/
lemma agenda_drop [DecidableEq ε] (h : s.Filed)
    (hid : ∀ {due e'}, s.Pending due e' → (due.number = id.number ↔ e' = e)) :
    (s.drop id).2.agenda = Agenda.drop e s.agenda := by
  have hnew : (s.drop id).2.queue.toList = s.queue.toList.filter fun entry => entry.2 ≠ e := by
    refine toList_eq (s.sorted_toList.filter _) fun due e' => ?_
    rw [pending_drop h, List.mem_filter, mem_toList]
    exact and_congr_right fun hp => by simp [hid hp]
  rw [agenda, hnew, Agenda.drop, agenda, List.filter_map]
  rfl

/-- The head of the agenda fires next, if its time has come. -/
lemma popDue_of_agenda {rest : List (Nat × ε)} (h : s.Filed) (ha : s.agenda = (time, e) :: rest)
    (ht : time ≤ s.now) :
    ∃ id s', s.popDue = some ((id, e), s') ∧ s.Pending ⟨time, id.number⟩ e ∧ s'.agenda = rest := by
  obtain ⟨⟨due, e⟩, entries, hl, hhead, hrest⟩ := List.map_eq_cons_iff.1 ha
  cases hhead
  have hfirst : s.first? = some (due, e) := by
    rw [first?_eq_head?, hl]
    rfl
  have hpop : s.popDue = some ((⟨due.number⟩, e), (s.drop ⟨due.number⟩).2) := by
    obtain ⟨s', hpop⟩ : ∃ s', s.popDue = some ((⟨due.number⟩, e), s') := by
      simp only [popDue, hfirst, Nat.not_lt.2 ht, if_false]
      exact ⟨_, rfl⟩
    rw [hpop, popDue_eq_drop h hpop]
  have hpend : s.Pending due e := (first?_eq_some hfirst).1
  refine ⟨_, _, hpop, hpend, ?_⟩
  have hsorted := s.sorted_toList
  rw [hl] at hsorted
  obtain ⟨hlt, hsorted⟩ := List.pairwise_cons.1 hsorted
  have hnew : (s.drop ⟨due.number⟩).2.queue.toList = entries := by
    refine toList_eq hsorted fun due' e' => ?_
    rw [pending_drop h, ← mem_toList, hl, List.mem_cons]
    constructor
    · intro hmem
      refine ⟨.inr hmem, fun hn => ?_⟩
      -- no two places in the queue have the same number
      have hpend' : s.Pending due' e' := mem_toList.1 (hl ▸ List.mem_cons_of_mem _ hmem)
      have hself := hlt _ hmem
      rw [h.place_unique hpend' hpend hn, Std.compare_self] at hself
      cases hself
    · rintro ⟨heq | hmem, hn⟩
      · cases heq
        exact absurd rfl hn
      · exact hmem
  rw [agenda, hnew]
  exact hrest

/-- The event that is taken out heads the agenda, and leaves the rest as it is. -/
lemma agenda_popDue (h : s.Filed) (hp : s.popDue = some ((id, e), s')) :
    ∃ time, s.Pending ⟨time, id.number⟩ e ∧ time ≤ s.now ∧ s.agenda = (time, e) :: s'.agenda := by
  obtain ⟨time, hpend, htime, -⟩ := popDue_eq_some hp
  cases ha : s.agenda with
  | nil => exact absurd hpend (agenda_eq_nil.1 ha _ _)
  | cons head rest =>
    obtain ⟨first, event⟩ := head
    have hnext : s.nextTime? = some first := by rw [nextTime?_eq_head?, ha]; rfl
    have hdue : first ≤ s.now := Nat.le_trans ((nextTime?_eq_some hnext).2 hpend) htime
    obtain ⟨id', s'', hp', hpend', hrest⟩ := popDue_of_agenda h ha hdue
    rw [hp] at hp'
    cases hp'
    exact ⟨first, hpend', hdue, by rw [hrest]⟩

end Scheduler

end CarrierSense
