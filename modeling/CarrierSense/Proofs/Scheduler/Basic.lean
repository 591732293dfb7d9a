import CarrierSense.Scheduler
import Mathlib.Data.List.Perm.Basic
import Mathlib.Tactic.Common

/-!
# What waits in a scheduler

The pending events of a scheduler as a relation `Pending` between places in the queue and events, and
what each operation does to it. A scheduler is `Filed` if its index describes its queue and all numbers
in use have been given out. `Scheduler.waiting` counts the pending events of a kind.
-/

namespace CarrierSense

/-- Places are ordered by their ticks and then by their numbers, which is a transitive order. -/
instance : Std.TransOrd Due :=
  inferInstanceAs (Std.TransCmp (compareLex (compareOn Due.time) (compareOn Due.number)))

/-- The order of the queue tells any two places apart. -/
lemma Due.eq_of_compare {a b : Due} (h : compare a b = .eq) : a = b := by
  obtain ⟨time, number⟩ := Ordering.then_eq_eq.mp
    (show (compare a.time b.time).then (compare a.number b.number) = .eq from h)
  cases a
  cases b
  simp_all

/-- Places that compare as equal are the same. -/
instance : Std.LawfulEqOrd Due := ⟨Due.eq_of_compare⟩

/-- What comes first in the queue is not later. -/
lemma Due.time_le_of_compare {a b : Due} (h : compare a b = .lt) : a.time ≤ b.time := by
  have h : (compare a.time b.time).then (compare a.number b.number) = .lt := h
  rcases Ordering.then_eq_lt.mp h with h | ⟨h, -⟩
  · exact Nat.le_of_lt (Nat.compare_eq_lt.mp h)
  · exact Nat.le_of_eq (Nat.compare_eq_eq.mp h)

namespace Scheduler

variable {ε : Type} {s s' : Scheduler ε} {due : Due} {e : ε}

/-- The event `e` waits at the place `due` of the queue. -/
def Pending (s : Scheduler ε) (due : Due) (e : ε) : Prop := s.queue[due]? = some e

/-- At most one event waits at a place. -/
lemma Pending.unique {e' : ε} (h : s.Pending due e) (h' : s.Pending due e') : e = e' :=
  Option.some.inj (h.symm.trans h')

/-- The index describes the queue, and every number in use has been given out. -/
structure Filed (s : Scheduler ε) : Prop where
  index : ∀ n t, s.pending[n]? = some t ↔ ∃ e, s.Pending ⟨t, n⟩ e
  fresh : ∀ {due e}, s.Pending due e → due.number < s.nextNumber

/-- A number in use stands for one place. -/
lemma Filed.place_unique (h : s.Filed) {due' : Due} {e' : ε} (hd : s.Pending due e)
    (hd' : s.Pending due' e') (hn : due.number = due'.number) : due = due' := by
  obtain ⟨t, n⟩ := due
  obtain ⟨t', n'⟩ := due'
  obtain rfl : n = n' := hn
  have ht : s.pending[n]? = some t := (h.index n t).2 ⟨e, hd⟩
  have ht' : s.pending[n]? = some t' := (h.index n t').2 ⟨e', hd'⟩
  rw [ht] at ht'
  rw [Option.some.inj ht']

/-- How many pending events satisfy `p`. -/
def waiting (s : Scheduler ε) (p : ε → Bool) : Nat := s.queue.toList.countP fun entry => p entry.2

/-- A scheduler without events is filed. -/
lemma filed_empty : ({} : Scheduler ε).Filed :=
  ⟨fun n t => by simp [Pending], fun h => by simp [Pending] at h⟩

/-- If two queues differ in one entry only, so do the lists of their entries. -/
lemma toList_perm_cons {q q' : Std.TreeMap Due ε} (h : q[due]? = some e)
    (h' : ∀ place, q'[place]? = if due = place then none else q[place]?) :
    q.toList.Perm ((due, e) :: q'.toList) := by
  have hnodup : ∀ q : Std.TreeMap Due ε, q.toList.Nodup := fun q =>
    q.distinct_keys_toList.imp fun hab heq => hab (by rw [heq]; exact Std.compare_self)
  have hfree : (due, e) ∉ q'.toList := by
    simp [Std.TreeMap.mem_toList_iff_getElem?_eq_some, h']
  rw [List.perm_ext_iff_of_nodup (hnodup _) (List.nodup_cons.mpr ⟨hfree, hnodup _⟩)]
  rintro ⟨place, event⟩
  simp only [List.mem_cons, Std.TreeMap.mem_toList_iff_getElem?_eq_some, h', Prod.mk.injEq]
  by_cases hp : due = place
  · subst hp
    simp [h, eq_comm]
  · simp [hp, Ne.symm hp]

/-- If two schedulers differ in one pending event only, that event makes the difference in counts. -/
lemma waiting_eq_add (h : s.Pending due e)
    (h' : ∀ place, s'.queue[place]? = if due = place then none else s.queue[place]?) (p : ε → Bool) :
    s.waiting p = s'.waiting p + if p e then 1 else 0 := by
  unfold waiting
  rw [(toList_perm_cons h h').countP_eq, List.countP_cons]

/-- An event is refused only if it comes too late. -/
lemma post_eq_ok {time : Nat} {id : EventId} :
    s.post time e = .ok (id, s') ↔ s.now ≤ time ∧ id = ⟨s.nextNumber⟩ ∧ s' =
      { s with
        nextNumber := s.nextNumber + 1
        queue := s.queue.insert ⟨time, s.nextNumber⟩ e
        pending := s.pending.insert s.nextNumber time } := by
  unfold post
  split
  · simp
    omega
  · simp only [Except.ok.injEq, Prod.mk.injEq]
    constructor
    · rintro ⟨rfl, rfl⟩
      exact ⟨by omega, rfl, rfl⟩
    · rintro ⟨-, rfl, rfl⟩
      exact ⟨rfl, rfl⟩

/-- To post an event does not move the clock. -/
lemma now_post {time : Nat} {id : EventId} (hp : s.post time e = .ok (id, s')) : s'.now = s.now := by
  obtain ⟨-, -, rfl⟩ := post_eq_ok.1 hp
  rfl

/-- What waits after a post has waited before, or is the new event. -/
lemma pending_of_post {time : Nat} {id : EventId} {e' : ε} (hp : s.post time e = .ok (id, s'))
    (hq : s'.Pending due e') : due = ⟨time, id.number⟩ ∧ e' = e ∨ s.Pending due e' := by
  obtain ⟨-, rfl, rfl⟩ := post_eq_ok.1 hp
  simp only [Pending, Std.TreeMap.getElem?_insert, Std.compare_eq_iff_eq] at hq
  split at hq
  · rename_i hd
    cases hq
    exact .inl ⟨hd.symm, rfl⟩
  · exact .inr hq

section Post

variable {time : Nat} {id : EventId} (h : s.Filed) (hp : s.post time e = .ok (id, s'))
include h hp

/-- What waits after a post: the new event, and what waited before. -/
lemma pending_post {e' : ε} :
    s'.Pending due e' ↔ due = ⟨time, id.number⟩ ∧ e' = e ∨ s.Pending due e' := by
  obtain ⟨-, rfl, rfl⟩ := post_eq_ok.1 hp
  simp only [Pending, Std.TreeMap.getElem?_insert, Std.compare_eq_iff_eq]
  split
  · rename_i hd
    subst hd
    have hfree : s.queue[(⟨time, s.nextNumber⟩ : Due)]? ≠ some e' := fun hq =>
      Nat.lt_irrefl _ (h.fresh hq)
    simp [hfree, eq_comm]
  · rename_i hd
    simp [Ne.symm hd]

/-- The number that a post is given was not in use before. -/
lemma not_pending_post_number {t : Nat} {e' : ε} : ¬ s.Pending ⟨t, id.number⟩ e' := by
  obtain ⟨-, rfl, rfl⟩ := post_eq_ok.1 hp
  exact fun hq => Nat.lt_irrefl _ (h.fresh hq)

/-- A scheduler stays filed with one more event. -/
lemma Filed.post : s'.Filed := by
  have hpend : ∀ due e', s'.Pending due e' ↔ due = ⟨time, id.number⟩ ∧ e' = e ∨ s.Pending due e' :=
    fun _ _ => pending_post h hp
  obtain ⟨-, rfl, rfl⟩ := post_eq_ok.1 hp
  refine ⟨fun n t => ?_, fun {due e'} hq => ?_⟩
  · simp only [hpend, Std.TreeMap.getElem?_insert, Std.compare_eq_iff_eq, Due.mk.injEq]
    split
    · rename_i hn
      subst hn
      have hfree : ∀ e', ¬ s.Pending ⟨t, s.nextNumber⟩ e' := fun e' hq =>
        Nat.lt_irrefl _ (h.fresh hq)
      simp [hfree, eq_comm]
    · rename_i hn
      simp [h.index, Ne.symm hn]
  · rcases (hpend _ _).1 hq with ⟨rfl, -⟩ | hq
    · exact Nat.lt_succ_self _
    · exact Nat.lt_succ_of_lt (h.fresh hq)

/-- Of the events that pass a test, one more waits after a post if the new one passes it. -/
lemma waiting_post (p : ε → Bool) : s'.waiting p = s.waiting p + if p e then 1 else 0 := by
  have hnew : s'.Pending ⟨time, id.number⟩ e := (pending_post h hp).2 (.inl ⟨rfl, rfl⟩)
  refine waiting_eq_add hnew (fun place => ?_) p
  have hfree : ∀ e', ¬ s.Pending ⟨time, id.number⟩ e' := fun e' => not_pending_post_number h hp
  obtain ⟨-, rfl, rfl⟩ := post_eq_ok.1 hp
  simp only [Std.TreeMap.getElem?_insert, Std.compare_eq_iff_eq]
  split
  · rename_i hd
    subst hd
    exact Option.eq_none_iff_forall_ne_some.2 hfree
  · rfl

end Post

/-- To drop an event does not move the clock. -/
@[simp] lemma now_drop (s : Scheduler ε) (id : EventId) : (s.drop id).2.now = s.now := by
  unfold drop
  split <;> rfl

/-- To drop an event gives no number back. -/
@[simp] lemma nextNumber_drop (s : Scheduler ε) (id : EventId) : (s.drop id).2.nextNumber = s.nextNumber := by
  unfold drop
  split <;> rfl

/-- What waits after a drop has waited before. -/
lemma pending_of_drop {id : EventId} (hq : (s.drop id).2.Pending due e) : s.Pending due e := by
  unfold drop at hq
  split at hq
  · exact hq
  · simp only [Pending, Std.TreeMap.getElem?_erase] at hq
    split at hq
    · cases hq
    · exact hq

section Drop

variable {id : EventId} (h : s.Filed)
include h

/-- A drop takes out the event with the given number, and no other. -/
lemma pending_drop : (s.drop id).2.Pending due e ↔ s.Pending due e ∧ due.number ≠ id.number := by
  obtain ⟨time, n⟩ := due
  unfold drop
  split
  · rename_i hnone
    refine ⟨fun hq => ⟨hq, ?_⟩, And.left⟩
    rintro rfl
    rw [(h.index id.number time).2 ⟨e, hq⟩] at hnone
    cases hnone
  · rename_i t hsome
    obtain ⟨e', he'⟩ := (h.index id.number t).1 hsome
    simp only [Pending, Std.TreeMap.getElem?_erase, Std.compare_eq_iff_eq]
    split
    · rename_i hd
      simp [← (Due.mk.injEq ..).mp hd]
    · rename_i hd
      refine ⟨fun hq => ⟨hq, fun hn => hd ?_⟩, And.left⟩
      exact h.place_unique he' hq hn.symm

/-- A scheduler stays filed without the event that is dropped. -/
lemma Filed.drop : (s.drop id).2.Filed := by
  refine ⟨fun n t => ?_, fun {due e} hq => ?_⟩
  · simp only [pending_drop h]
    unfold Scheduler.drop
    split
    · rename_i hnone
      rw [h.index]
      refine ⟨fun ⟨e, hq⟩ => ⟨e, hq, ?_⟩, fun ⟨e, hq, _⟩ => ⟨e, hq⟩⟩
      rintro rfl
      rw [(h.index id.number t).2 ⟨e, hq⟩] at hnone
      cases hnone
    · simp only [Std.TreeMap.getElem?_erase, Std.compare_eq_iff_eq]
      split
      · rename_i hn
        simp [hn]
      · rename_i hn
        simp [h.index, Ne.symm hn]
  · rw [nextNumber_drop]
    exact h.fresh ((pending_drop h).1 hq).1

/-- Of the events that pass a test, one less waits after a drop if the dropped one passes it. -/
lemma waiting_drop (hd : s.Pending due e) (hn : due.number = id.number) (p : ε → Bool) :
    s.waiting p = (s.drop id).2.waiting p + if p e then 1 else 0 := by
  refine waiting_eq_add hd (fun place => ?_) p
  obtain ⟨t, n⟩ := due
  obtain rfl : n = id.number := hn
  have hsome : s.pending[id.number]? = some t := (h.index _ t).2 ⟨e, hd⟩
  simp [drop, hsome, Std.TreeMap.getElem?_erase]

end Drop

/-- The event that fires next waits, and no other waits for an earlier tick. -/
lemma first?_eq_some (h : s.first? = some (due, e)) :
    s.Pending due e ∧ ∀ {place event}, s.Pending place event → due.time ≤ place.time := by
  rw [first?_eq_head?] at h
  obtain ⟨rest, hrest⟩ := List.head?_eq_some_iff.1 h
  have hmem : ∀ {place event}, s.Pending place event ↔ (place, event) ∈ s.queue.toList := by
    intro place event
    exact Std.TreeMap.mem_toList_iff_getElem?_eq_some.symm
  refine ⟨hmem.2 (by simp [hrest]), fun {place event} hp => ?_⟩
  have hsorted := s.queue.ordered_keys_toList
  rw [hrest, List.pairwise_cons] at hsorted
  have hin := hmem.1 hp
  rw [hrest, List.mem_cons] at hin
  rcases hin with hin | hin
  · cases hin
    exact Nat.le_refl _
  · exact Due.time_le_of_compare (hsorted.1 _ hin)

/-- There is a first event unless none is pending. -/
lemma first?_eq_none : s.first? = none ↔ ∀ due e, ¬ s.Pending due e := by
  rw [first?_eq_head?, List.head?_eq_none_iff, List.eq_nil_iff_forall_not_mem]
  simp only [Prod.forall, Std.TreeMap.mem_toList_iff_getElem?_eq_some, Pending]

/-- The next tick at which an event waits. -/
lemma nextTime?_eq_some {time : Nat} (h : s.nextTime? = some time) :
    (∃ due e, s.Pending due e ∧ due.time = time) ∧
      ∀ {due e}, s.Pending due e → time ≤ due.time := by
  obtain ⟨⟨due, e⟩, hfirst, rfl⟩ := Option.map_eq_some_iff.1 h
  exact ⟨⟨due, e, (first?_eq_some hfirst).1, rfl⟩, (first?_eq_some hfirst).2⟩

/-- There is a next tick unless no event is pending. -/
lemma nextTime?_eq_none : s.nextTime? = none ↔ ∀ due e, ¬ s.Pending due e := by
  rw [nextTime?, Option.map_eq_none_iff, first?_eq_none]

/-- An event that is taken out was due, and is all that changes. -/
lemma popDue_eq_some {id : EventId} (h : s.popDue = some ((id, e), s')) :
    ∃ time, s.Pending ⟨time, id.number⟩ e ∧ time ≤ s.now ∧ s' =
      { s with
        queue := s.queue.erase ⟨time, id.number⟩
        pending := s.pending.erase id.number } := by
  unfold popDue at h
  split at h
  · cases h
  · rename_i due event hfirst
    split at h
    · cases h
    · cases h
      exact ⟨due.time, (first?_eq_some hfirst).1, by omega, rfl⟩

/-- If no event is due, then all that are pending wait for later ticks. -/
lemma popDue_eq_none (h : s.popDue = none) (hp : s.Pending due e) : s.now < due.time := by
  unfold popDue at h
  split at h
  · rename_i hnone
    exact absurd hp (first?_eq_none.1 hnone due e)
  · rename_i first event hfirst
    split at h
    · exact Nat.lt_of_lt_of_le ‹_› ((first?_eq_some hfirst).2 hp)
    · cases h

section Pop

variable {id : EventId} (h : s.Filed) (hp : s.popDue = some ((id, e), s'))
include h hp

/-- To take out the event that is due is to drop it. -/
lemma popDue_eq_drop : s' = (s.drop id).2 := by
  obtain ⟨time, hpend, -, rfl⟩ := popDue_eq_some hp
  have hsome : s.pending[id.number]? = some time := (h.index _ time).2 ⟨e, hpend⟩
  simp [drop, hsome]

/-- All events stay pending but the one that is taken out. -/
lemma pending_popDue {e' : ε} :
    s'.Pending due e' ↔ s.Pending due e' ∧ due.number ≠ id.number := by
  rw [popDue_eq_drop h hp, pending_drop h]

end Pop

/-- The clock moves on without changing what is pending. -/
@[simp] lemma pending_advanceTo {time : Nat} :
    (s.advanceTo time).Pending due e ↔ s.Pending due e := by
  unfold advanceTo
  split <;> rfl

/-- A scheduler stays filed when its clock moves on. -/
lemma Filed.advanceTo (h : s.Filed) (time : Nat) : (s.advanceTo time).Filed := by
  unfold Scheduler.advanceTo
  split
  · exact ⟨h.index, h.fresh⟩
  · exact h

/-- The clock moves on without changing how many events wait. -/
@[simp] lemma waiting_advanceTo (s : Scheduler ε) (time : Nat) (p : ε → Bool) :
    (s.advanceTo time).waiting p = s.waiting p := by
  unfold advanceTo
  split <;> rfl

/-- The clock moves on without giving out a number. -/
@[simp] lemma nextNumber_advanceTo (s : Scheduler ε) (time : Nat) :
    (s.advanceTo time).nextNumber = s.nextNumber := by
  unfold advanceTo
  split <;> rfl

/-- The clock goes to a time unless it has passed it. -/
@[simp] lemma now_advanceTo (s : Scheduler ε) (time : Nat) :
    (s.advanceTo time).now = max s.now time := by
  unfold advanceTo
  split
  · exact (Nat.max_eq_right (Nat.le_of_lt ‹_›)).symm
  · exact (Nat.max_eq_left (Nat.le_of_not_lt ‹_›)).symm

/-- To move the clock twice is to move it to the later time. -/
lemma advanceTo_advanceTo (s : Scheduler ε) {first last : Nat} (h : first ≤ last) :
    (s.advanceTo first).advanceTo last = s.advanceTo last := by
  unfold advanceTo
  split
  · rename_i hfirst
    have hlast : s.now < last := Nat.lt_of_lt_of_le hfirst h
    rw [if_pos hlast]
    split
    · rfl
    · rename_i hend
      have : first = last := by
        have : last ≤ first := Nat.le_of_not_lt hend
        omega
      rw [this]
  · rfl

/-- After a reset nothing is pending. -/
lemma not_pending_reset : ¬ s.reset.Pending due e := by
  simp [reset, Pending]

/-- A scheduler that was reset is filed. -/
lemma filed_reset (s : Scheduler ε) : s.reset.Filed :=
  ⟨fun n t => by simp [reset, Pending], fun h => absurd h not_pending_reset⟩

/-- Every event waits for a tick that is not over, and all ticks are on the clock. -/
structure OnTime (s : Scheduler ε) : Prop where
  now_le : s.now ≤ Clock.last
  due_le : ∀ {due e}, s.Pending due e → due.time ≤ Clock.last
  now_le_due : ∀ {due e}, s.Pending due e → s.now ≤ due.time

namespace OnTime

variable {time : Nat} {id : EventId} (h : s.OnTime)
include h

/-- A scheduler stays on time with one more event on the clock. -/
lemma post (hs : s.Filed) (hp : s.post time e = .ok (id, s')) (ht : time ≤ Clock.last) :
    s'.OnTime := by
  have hpend : ∀ {due e'}, s'.Pending due e' ↔ due = ⟨time, id.number⟩ ∧ e' = e ∨ s.Pending due e' :=
    pending_post hs hp
  obtain ⟨hnow, -, rfl⟩ := post_eq_ok.1 hp
  refine ⟨h.now_le, fun hq => ?_, fun hq => ?_⟩
  · rcases hpend.1 hq with ⟨rfl, -⟩ | hq
    · exact ht
    · exact h.due_le hq
  · rcases hpend.1 hq with ⟨rfl, -⟩ | hq
    · exact hnow
    · exact h.now_le_due hq

/-- A scheduler stays on time with one event less. -/
lemma drop (hs : s.Filed) : (s.drop id).2.OnTime := by
  refine ⟨?_, fun hq => h.due_le ((pending_drop hs).1 hq).1, fun hq => ?_⟩
  · simpa using h.now_le
  · simpa using h.now_le_due ((pending_drop hs).1 hq).1

/-- The clock may move as far as the next event. -/
lemma advanceTo (hmin : ∀ {due e}, s.Pending due e → time ≤ due.time) (ht : time ≤ Clock.last) :
    (s.advanceTo time).OnTime := by
  refine ⟨?_, fun hq => h.due_le (pending_advanceTo.1 hq), fun hq => ?_⟩
  · rw [now_advanceTo]
    exact Nat.max_le.2 ⟨h.now_le, ht⟩
  · have hq := pending_advanceTo.1 hq
    rw [now_advanceTo]
    exact Nat.max_le.2 ⟨h.now_le_due hq, hmin hq⟩

/-- An event that is taken out of a scheduler on time was due right now. -/
lemma pending_now (hp : s.popDue = some ((id, e), s')) : s.Pending ⟨s.now, id.number⟩ e := by
  obtain ⟨time, hpend, hle, -⟩ := popDue_eq_some hp
  obtain rfl : time = s.now := Nat.le_antisymm hle (h.now_le_due hpend)
  exact hpend

end OnTime

/-- After a reset a scheduler is on time, for nothing waits. -/
lemma onTime_reset (s : Scheduler ε) : s.reset.OnTime :=
  ⟨Nat.zero_le _, fun h => absurd h not_pending_reset, fun h => absurd h not_pending_reset⟩

end Scheduler

end CarrierSense
