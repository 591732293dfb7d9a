import CarrierSense.Proofs.Scheduler.Agenda
import Mathlib.Algebra.Order.Group.Multiset

/-!
# A scheduler against a plain list

The ordered queue and the index beside it are there for speed. A `Ledger` does without both: it keeps a
clock, the number of posts, and a list of the pending events in no particular order, which it searches
from end to end. `Scheduler.serve` and `Ledger.serve` answer the same requests, and `Keeps.serve` says
that neither can be told from the other.

The second half follows single events. What was posted is told apart by its handle, and each handle ends
up in one of four places: handed out, cancelled, forgotten by a reset, or still waiting.
-/

namespace CarrierSense

namespace Scheduler

/-- What can be asked of a scheduler. -/
inductive Request (ε : Type) where
  | post (time : Nat) (event : ε)
  | postAfter (delay : Nat) (event : ε)
  | drop (id : EventId)
  | isPending (id : EventId)
  | advanceTo (time : Nat)
  | popDue
  | nextTime
  | reset

/-- The event that a request brings along. -/
def Request.event? {ε : Type} : Request ε → Option ε
  | post _ event => some event
  | postAfter _ event => some event
  | _ => none

/-- What comes back. -/
inductive Answer (ε : Type) where
  | posted (outcome : Except SchedulerError EventId)
  | told (yes : Bool)
  | popped (entry : Option (EventId × ε))
  | next (outcome : Except SchedulerError Nat)
  | done

variable {ε : Type} {s s' : Scheduler ε} {due : Due} {e : ε} {time : Nat} {id : EventId}

/-- One request, served by the scheduler. -/
def serve (s : Scheduler ε) : Request ε → Answer ε × Scheduler ε
  | .post time event =>
    match s.post time event with
    | .ok (id, s') => (.posted (.ok id), s')
    | .error refusal => (.posted (.error refusal), s)
  | .postAfter delay event =>
    match s.postAfter delay event with
    | .ok (id, s') => (.posted (.ok id), s')
    | .error refusal => (.posted (.error refusal), s)
  | .drop id => (.told (s.drop id).1, (s.drop id).2)
  | .isPending id => (.told (s.isPending id), s)
  | .advanceTo time => (.done, s.advanceTo time)
  | .popDue =>
    match s.popDue with
    | some (entry, s') => (.popped (some entry), s')
    | none => (.popped none, s)
  | .nextTime => (.next s.nextTime, s)
  | .reset => (.done, s.reset)

end Scheduler

open Scheduler (Request Answer)

/-- A clock and a list of what is pending: the time and the number of each post, and its event. -/
structure Ledger (ε : Type) where
  now : Nat := 0
  /-- How many posts were accepted so far. -/
  posts : Nat := 0
  entries : List (Due × ε) := []

namespace Ledger

variable {ε : Type} {l : Ledger ε} {s s' : Scheduler ε} {due : Due} {e : ε} {time : Nat} {id : EventId}

/-- A new entry, unless it comes too late. -/
def post (l : Ledger ε) (time : Nat) (event : ε) : Answer ε × Ledger ε :=
  if time < l.now then (.posted (.error (.inThePast time l.now)), l)
  else (.posted (.ok ⟨l.posts⟩),
    { l with posts := l.posts + 1, entries := l.entries ++ [(⟨time, l.posts⟩, event)] })

/-- The entry has the number of the handle. -/
def holds (l : Ledger ε) (id : EventId) : Bool := l.entries.any (·.1.number == id.number)

/-- The entry with the number of the handle is struck out. -/
def strike (l : Ledger ε) (id : EventId) : Ledger ε :=
  { l with entries := l.entries.filter (·.1.number ≠ id.number) }

/-- The entry that comes first: no other has an earlier time, or the same time and a lower number. -/
def next? (l : Ledger ε) : Option (Due × ε) :=
  l.entries.find? fun entry => ∀ other ∈ l.entries,
    entry.1.time < other.1.time ∨ entry.1.time = other.1.time ∧ entry.1.number ≤ other.1.number

/-- One request, served from the list. -/
def serve (l : Ledger ε) : Request ε → Answer ε × Ledger ε
  | .post time event => l.post time event
  | .postAfter delay event => l.post (min (l.now + delay) Clock.last) event
  | .drop id => (.told (l.holds id), l.strike id)
  | .isPending id => (.told (l.holds id), l)
  | .advanceTo time => (.done, { l with now := max l.now time })
  | .popDue =>
    match l.next? with
    | some (due, event) =>
      if due.time ≤ l.now then (.popped (some (⟨due.number⟩, event)), l.strike ⟨due.number⟩)
      else (.popped none, l)
    | none => (.popped none, l)
  | .nextTime =>
    match l.next? with
    | some (due, _) => (.next (.ok due.time), l)
    | none => (.next (.error .noMoreEvents), l)
  | .reset => (.done, { l with now := 0, entries := [] })

/-- A ledger that tells the same as a scheduler, whose index describes its queue. -/
structure Keeps (l : Ledger ε) (s : Scheduler ε) : Prop where
  now : l.now = s.now
  posts : l.posts = s.nextNumber
  entries : l.entries.Perm s.queue.toList
  filed : s.Filed

end Ledger

namespace Scheduler

variable {ε : Type} {s s' : Scheduler ε} {due : Due} {e : ε} {time : Nat} {id : EventId}

/-- A post adds one entry to the queue. -/
lemma toList_post (h : s.Filed) (hp : s.post time e = .ok (id, s')) :
    s'.queue.toList.Perm ((⟨time, id.number⟩, e) :: s.queue.toList) := by
  have hnew : s'.Pending ⟨time, id.number⟩ e := (pending_post h hp).2 (.inl ⟨rfl, rfl⟩)
  have hfree : ∀ e', ¬ s.Pending ⟨time, id.number⟩ e' := fun e' => not_pending_post_number h hp
  apply toList_perm_cons hnew
  intro place
  obtain ⟨-, rfl, rfl⟩ := post_eq_ok.1 hp
  simp only [Std.TreeMap.getElem?_insert, Std.compare_eq_iff_eq]
  split
  · rename_i hd
    subst hd
    exact Option.eq_none_iff_forall_ne_some.2 hfree
  · rfl

/-- A drop takes the entry with the number out of the queue. -/
lemma toList_drop (h : s.Filed) (id : EventId) :
    (s.drop id).2.queue.toList = s.queue.toList.filter (·.1.number ≠ id.number) := by
  apply toList_eq (s.sorted_toList.filter _)
  intro due e
  rw [pending_drop h, List.mem_filter, mem_toList, decide_eq_true_eq]

/-- The index knows the numbers in the queue. -/
lemma isPending_iff (h : s.Filed) : s.isPending id = true ↔ ∃ due e, s.Pending due e ∧ due.number = id.number := by
  rw [isPending, Std.TreeMap.contains_iff_mem, Std.TreeMap.mem_iff_isSome_getElem?, Option.isSome_iff_exists]
  simp only [h.index]
  constructor
  · rintro ⟨time, e, hp⟩
    exact ⟨⟨time, id.number⟩, e, hp, rfl⟩
  · rintro ⟨⟨time, n⟩, e, hp, rfl⟩
    exact ⟨time, e, hp⟩

/-- A drop removes an event exactly if the handle is that of a pending one. -/
lemma drop_eq_isPending (h : s.Filed) : (s.drop id).1 = s.isPending id := by
  unfold drop isPending
  split
  · rename_i hnone
    rw [Std.TreeMap.contains_eq_isSome_getElem?, hnone]
    rfl
  · rename_i time hsome
    obtain ⟨e, hp⟩ := (h.index _ _).1 hsome
    rw [Std.TreeMap.contains_eq_isSome_getElem?, Std.TreeMap.contains_eq_isSome_getElem?, hsome, hp]
    rfl

/-- No entry of the queue comes before the one that fires next. -/
lemma first?_least (h : s.first? = some (due, e)) {place : Due} {event : ε} (hp : s.Pending place event) :
    (place, event) = (due, e) ∨ compare due place = .lt := by
  rw [first?_eq_head?] at h
  obtain ⟨rest, hrest⟩ := List.head?_eq_some_iff.1 h
  have hsorted := s.sorted_toList
  rw [hrest] at hsorted
  have hmem := mem_toList.2 hp
  rw [hrest] at hmem
  rcases List.mem_cons.1 hmem with heq | hmem
  · exact .inl heq
  · exact .inr ((List.pairwise_cons.1 hsorted).1 _ hmem)

end Scheduler

/-- A place comes first if its tick does, or its number in the same tick. -/
lemma Due.compare_eq_lt_iff {a b : Due} :
    compare a b = .lt ↔ a.time < b.time ∨ a.time = b.time ∧ a.number < b.number := by
  rw [← Nat.compare_eq_lt, ← Nat.compare_eq_eq, ← Nat.compare_eq_lt]
  exact Ordering.then_eq_lt

namespace Ledger.Keeps

variable {ε : Type} {l : Ledger ε} {s s' : Scheduler ε} {due : Due} {e : ε} {time : Nat} {id : EventId}

/-- An empty ledger keeps an empty scheduler. -/
lemma empty : ({} : Ledger ε).Keeps {} := ⟨rfl, rfl, .rfl, Scheduler.filed_empty⟩

variable (h : l.Keeps s)
include h

/-- The entries of a ledger are the pending events. -/
lemma mem : (due, e) ∈ l.entries ↔ s.Pending due e :=
  h.entries.mem_iff.trans Scheduler.mem_toList

/-- Both find the same next event. -/
lemma next?_eq : l.next? = s.first? := by
  cases hfirst : s.first? with
  | none =>
    rw [next?, List.find?_eq_none]
    rintro ⟨due, e⟩ hmem
    exact absurd (h.mem.1 hmem) (Scheduler.first?_eq_none.1 hfirst due e)
  | some entry =>
    obtain ⟨due, e⟩ := entry
    -- the head of the queue meets the condition, and nothing else does
    have hhead : (due, e) ∈ l.entries := h.mem.2 (Scheduler.first?_eq_some hfirst).1
    have hleast : ∀ other ∈ l.entries, due.time < other.1.time ∨
        due.time = other.1.time ∧ due.number ≤ other.1.number := by
      rintro ⟨place, event⟩ hmem
      rcases Scheduler.first?_least hfirst (h.mem.1 hmem) with heq | hlt
      · cases heq
        exact .inr ⟨rfl, Nat.le_refl _⟩
      · have := Due.compare_eq_lt_iff.1 hlt
        grind
    have hfound : l.next?.isSome := by
      rw [next?, List.find?_isSome]
      exact ⟨(due, e), hhead, decide_eq_true hleast⟩
    obtain ⟨⟨place, event⟩, hnext⟩ := Option.isSome_iff_exists.1 hfound
    have hbefore := List.find?_some (by simpa only [next?] using hnext)
    have hbefore := of_decide_eq_true hbefore _ hhead
    have hmem := h.mem.1 (List.mem_of_find?_eq_some hnext)
    rcases Scheduler.first?_least hfirst hmem with heq | hlt
    · rw [hnext, heq]
    · have := Due.compare_eq_lt_iff.1 hlt
      simp only at hbefore
      omega

/-- A ledger holds the handles that are pending. -/
lemma holds_eq : l.holds id = s.isPending id := by
  rw [Bool.eq_iff_iff, Scheduler.isPending_iff h.filed, holds, List.any_eq_true]
  simp only [Prod.exists, h.mem, beq_iff_eq]

/-- A drop strikes out the entry. -/
lemma strike (id : EventId) : (l.strike id).Keeps (s.drop id).2 where
  now := h.now.trans (s.now_drop id).symm
  posts := by
    rw [Ledger.strike, h.posts, Scheduler.drop]
    split <;> rfl
  entries := by
    rw [Scheduler.toList_drop h.filed]
    exact h.entries.filter _
  filed := h.filed.drop

/-- A post is accepted by both or refused by both. -/
lemma post (time : Nat) (e : ε) :
    (s.serve (.post time e)).1 = (l.post time e).1 ∧ (l.post time e).2.Keeps (s.serve (.post time e)).2 := by
  by_cases hlate : time < s.now
  · have hrefused : s.post time e = .error (.inThePast time s.now) := if_pos hlate
    simp only [Scheduler.serve, hrefused, Ledger.post, h.now, hlate, if_true]
    exact ⟨trivial, h⟩
  · obtain ⟨id, s', hp⟩ : ∃ id s', s.post time e = .ok (id, s') := ⟨_, _, if_neg hlate⟩
    have hadds := Scheduler.toList_post h.filed hp
    have hfiled := h.filed.post hp
    simp only [Scheduler.serve, hp, Ledger.post, h.now, hlate, if_false]
    obtain ⟨-, rfl, rfl⟩ := Scheduler.post_eq_ok.1 hp
    refine ⟨by rw [h.posts], rfl, congrArg (· + 1) h.posts, ?_, hfiled⟩
    apply (List.perm_append_singleton _ _).trans
    rw [h.posts]
    exact (h.entries.cons _).trans hadds.symm

/-- No request tells the two apart, and none drives them apart. -/
theorem serve (r : Request ε) :
    (s.serve r).1 = (l.serve r).1 ∧ (l.serve r).2.Keeps (s.serve r).2 := by
  cases r with
  | post time e => exact h.post time e
  | postAfter delay e =>
    have hserve : s.serve (.postAfter delay e) = s.serve (.post (Clock.later l.now delay) e) := by
      rw [h.now]
      rfl
    rw [hserve]
    exact h.post _ e
  | drop id => exact ⟨congrArg _ ((Scheduler.drop_eq_isPending h.filed).trans h.holds_eq.symm), h.strike id⟩
  | isPending id => exact ⟨congrArg _ h.holds_eq.symm, h⟩
  | advanceTo time =>
    refine ⟨rfl, ?_, ?_, ?_, h.filed.advanceTo time⟩
    · rw [Scheduler.serve, Scheduler.now_advanceTo, Ledger.serve, h.now]
    · rw [Scheduler.serve, Scheduler.advanceTo]
      split <;> exact h.posts
    · rw [Scheduler.serve, Scheduler.advanceTo]
      split <;> exact h.entries
  | popDue =>
    simp only [Scheduler.serve, Ledger.serve, h.next?_eq]
    cases hfirst : s.first? with
    | none =>
      have hpop : s.popDue = none := by simp only [Scheduler.popDue, hfirst]
      rw [hpop]
      exact ⟨rfl, h⟩
    | some entry =>
      obtain ⟨due, e⟩ := entry
      by_cases hdue : due.time ≤ l.now
      · obtain ⟨s', hpop⟩ : ∃ s', s.popDue = some ((⟨due.number⟩, e), s') := by
          simp only [Scheduler.popDue, hfirst, Nat.not_lt.2 (h.now ▸ hdue), if_false]
          exact ⟨_, rfl⟩
        simp only [hpop, hdue, if_true, Scheduler.popDue_eq_drop h.filed hpop]
        exact ⟨trivial, h.strike _⟩
      · have hpop : s.popDue = none := by
          simp only [Scheduler.popDue, hfirst, Nat.lt_of_not_le (h.now ▸ hdue), if_true]
        simp only [hpop, hdue, if_false]
        exact ⟨trivial, h⟩
  | nextTime =>
    simp only [Scheduler.serve, Ledger.serve, Scheduler.nextTime, Scheduler.nextTime?, h.next?_eq]
    cases s.first? with
    | none => exact ⟨rfl, h⟩
    | some entry => exact ⟨rfl, h⟩
  | reset => exact ⟨rfl, rfl, h.posts, .rfl, s.filed_reset⟩

end Ledger.Keeps

namespace Scheduler

variable {ε : Type}

/-- The pending events with their handles. -/
def held (s : Scheduler ε) : List (EventId × ε) :=
  s.queue.toList.map fun entry => (⟨entry.1.number⟩, entry.2)

/-- One request that was served, and the scheduler that served it. -/
structure Service (ε : Type) where
  before : Scheduler ε
  request : Request ε
  answer : Answer ε

namespace Service

/-- The event that was posted, with its new handle. -/
def posted (x : Service ε) : List (EventId × ε) :=
  match x.answer with
  | .posted (.ok id) => x.request.event?.toList.map fun event => (id, event)
  | _ => []

/-- The event that was handed out. -/
def popped (x : Service ε) : List (EventId × ε) :=
  match x.request, x.answer with
  | .popDue, .popped (some entry) => [entry]
  | _, _ => []

/-- The event that was cancelled. -/
def dropped (x : Service ε) : List (EventId × ε) :=
  match x.request, x.answer with
  | .drop id, .told true => x.before.held.filter (·.1 = id)
  | _, _ => []

/-- The events that a reset forgot. -/
def cleared (x : Service ε) : List (EventId × ε) :=
  match x.request with
  | .reset => x.before.held
  | _ => []

end Service

/-- Requests, served one after the other, with what came of each. -/
def serveAll (s : Scheduler ε) : List (Request ε) → List (Service ε) × Scheduler ε
  | [] => ([], s)
  | request :: rest =>
    let (answer, s') := s.serve request
    let (log, final) := s'.serveAll rest
    (⟨s, request, answer⟩ :: log, final)

end Scheduler

/-- Requests, served one after the other, with the answers. -/
def Ledger.serveAll {ε : Type} (l : Ledger ε) : List (Request ε) → List (Answer ε) × Ledger ε
  | [] => ([], l)
  | request :: rest =>
    let (answer, l') := l.serve request
    let (answers, final) := l'.serveAll rest
    (answer :: answers, final)

namespace Scheduler

variable {ε : Type} {s s' : Scheduler ε} {due : Due} {e : ε} {time : Nat} {id : EventId}

/-- A post adds one event to those that are held. -/
lemma held_post (h : s.Filed) (hp : s.post time e = .ok (id, s')) :
    s'.held.Perm ((id, e) :: s.held) :=
  (toList_post h hp).map _

/-- A drop takes out the events with its handle. -/
lemma held_drop (h : s.Filed) (id : EventId) : (s.drop id).2.held = s.held.filter (·.1 ≠ id) := by
  rw [held, toList_drop h, held, List.filter_map]
  obtain ⟨n⟩ := id
  simp only [Function.comp_def, ne_eq, EventId.mk.injEq]

/-- If the handle is not that of a pending event, a drop changes nothing. -/
lemma drop_of_not_isPending (h : s.isPending id = false) : (s.drop id).2 = s := by
  rw [isPending, Std.TreeMap.contains_eq_isSome_getElem?, Option.isSome_eq_false_iff, Option.isNone_iff_eq_none] at h
  rw [drop, h]

/-- To take out the event that is due takes one from those that are held. -/
lemma held_popDue (hp : s.popDue = some ((id, e), s')) :
    s.held.Perm ((id, e) :: s'.held) := by
  obtain ⟨time, hpend, -, rfl⟩ := popDue_eq_some hp
  apply List.Perm.map _ (toList_perm_cons hpend _)
  intro place
  simp only [Std.TreeMap.getElem?_erase, Std.compare_eq_iff_eq]

/-- What waited and what came in goes to the classes of the request, or waits on. -/
lemma held_serve (h : s.Filed) (r : Request ε) :
    let x : Service ε := ⟨s, r, (s.serve r).1⟩
    (s.held ++ x.posted).Perm (x.popped ++ x.dropped ++ x.cleared ++ (s.serve r).2.held) := by
  have hpost : ∀ time e, (s.held ++ (Service.mk s (.post time e) (s.serve (.post time e)).1).posted).Perm
      (s.serve (.post time e)).2.held := by
    intro time e
    cases hp : s.post time e with
    | error refusal => simp [serve, hp, Service.posted]
    | ok result =>
      simp only [serve, hp, Service.posted, Request.event?]
      exact (List.perm_append_singleton _ _).trans (held_post h hp).symm
  intro x
  cases r with
  | post time e => exact hpost time e
  | postAfter delay e => exact hpost (Clock.later s.now delay) e
  | drop id =>
    cases hd : (s.drop id).1 with
    | false =>
      have hsame := drop_of_not_isPending ((drop_eq_isPending h).symm.trans hd)
      simp [x, serve, hd, hsame, Service.posted, Service.popped, Service.dropped, Service.cleared]
    | true =>
      have hsplit := List.filter_append_perm (fun entry => decide (entry.1 = id)) s.held
      simpa [x, serve, hd, held_drop h, Service.posted, Service.popped, Service.dropped, Service.cleared]
        using hsplit.symm
  | isPending id => simp [x, serve, Service.posted, Service.popped, Service.dropped, Service.cleared]
  | advanceTo time =>
    have hsame : (s.advanceTo time).held = s.held := by
      unfold advanceTo
      split <;> rfl
    simp [x, serve, hsame, Service.posted, Service.popped, Service.dropped, Service.cleared]
  | popDue =>
    cases hp : s.popDue with
    | none => simp [x, serve, hp, Service.posted, Service.popped, Service.dropped, Service.cleared]
    | some result =>
      simpa [x, serve, hp, Service.posted, Service.popped, Service.dropped, Service.cleared] using held_popDue hp
  | nextTime => simp [x, serve, Service.posted, Service.popped, Service.dropped, Service.cleared]
  | reset =>
    have hnone : s.reset.held = [] := rfl
    simp [x, serve, hnone, Service.posted, Service.popped, Service.dropped, Service.cleared]

/-- The numbers of the posts run on, whatever else is asked. -/
lemma number_serve (s : Scheduler ε) (r : Request ε) :
    let x : Service ε := ⟨s, r, (s.serve r).1⟩
    List.range s.nextNumber ++ x.posted.map (·.1.number) = List.range (s.serve r).2.nextNumber := by
  have hpost : ∀ time e, List.range s.nextNumber ++
      (Service.mk s (.post time e) (s.serve (.post time e)).1).posted.map (·.1.number) =
        List.range (s.serve (.post time e)).2.nextNumber := by
    intro time e
    cases hp : s.post time e with
    | error refusal => simp [serve, hp, Service.posted]
    | ok result =>
      obtain ⟨-, hid, hs'⟩ := post_eq_ok.1 hp
      simp [serve, hp, Service.posted, Request.event?, hid, hs', List.range_succ]
  intro x
  cases r with
  | post time e => exact hpost time e
  | postAfter delay e => exact hpost (Clock.later s.now delay) e
  | drop id => simp [x, serve, Service.posted]
  | isPending id => simp [x, serve, Service.posted]
  | advanceTo time => simp [x, serve, Service.posted]
  | popDue =>
    cases hp : s.popDue with
    | none => simp [x, serve, hp, Service.posted]
    | some result =>
      obtain ⟨time, -, -, hs'⟩ := popDue_eq_some hp
      simp [x, serve, hp, Service.posted, hs']
  | nextTime => simp [x, serve, Service.posted]
  | reset => simp [x, serve, Service.posted, reset]

/-- Every scheduler has a ledger that is in step with it. -/
lemma Filed.keeps (h : s.Filed) : (Ledger.mk s.now s.nextNumber s.queue.toList).Keeps s :=
  ⟨rfl, rfl, .rfl, h⟩

/-- A scheduler stays filed, whatever is asked of it. -/
lemma Filed.serve (h : s.Filed) (r : Request ε) : (s.serve r).2.Filed := (h.keeps.serve r).2.filed

/-- A run that starts with a ledger in step ends with one, and the answers agree. -/
lemma serveAll_keeps {l : Ledger ε} (h : l.Keeps s) (requests : List (Request ε)) :
    (s.serveAll requests).1.map (·.answer) = (l.serveAll requests).1 ∧
      (l.serveAll requests).2.Keeps (s.serveAll requests).2 := by
  induction requests generalizing s l with
  | nil => exact ⟨rfl, h⟩
  | cons r rest ih =>
    obtain ⟨hanswer, hkeeps⟩ := h.serve r
    obtain ⟨hanswers, hfinal⟩ := ih hkeeps
    refine ⟨?_, hfinal⟩
    rw [serveAll, Ledger.serveAll, List.map_cons, hanswer, hanswers]

/-- No event is lost and none appears from nowhere, whatever is asked. -/
lemma held_serveAll (h : s.Filed) (requests : List (Request ε)) :
    let log := (s.serveAll requests).1
    (s.held ++ log.flatMap (·.posted)).Perm (log.flatMap (·.popped) ++ log.flatMap (·.dropped) ++
      log.flatMap (·.cleared) ++ (s.serveAll requests).2.held) := by
  induction requests generalizing s with
  | nil => simp [serveAll]
  | cons r rest ih =>
    have hfirst := held_serve h r
    have hrest := ih (h.serve r)
    simp only [serveAll, List.flatMap_cons]
    simp only [← Multiset.coe_eq_coe, ← Multiset.coe_add] at hfirst hrest ⊢
    rw [← add_assoc, hfirst, add_assoc, hrest]
    ac_rfl

/-- Numbers are given out one after the other, whatever is asked for in between. -/
lemma number_serveAll (s : Scheduler ε) (requests : List (Request ε)) :
    List.range s.nextNumber ++ ((s.serveAll requests).1.flatMap (·.posted)).map (·.1.number) =
      List.range (s.serveAll requests).2.nextNumber := by
  induction requests generalizing s with
  | nil => simp [serveAll]
  | cons r rest ih =>
    rw [serveAll, List.flatMap_cons, List.map_append, ← List.append_assoc, number_serve s r]
    exact ih _

/-- Each number below `n` was given out once. -/
lemma countP_of_range {posted : List (EventId × ε)} {n : Nat}
    (h : posted.map (·.1.number) = List.range n) (id : EventId) :
    posted.countP (·.1 = id) = if id.number < n then 1 else 0 := by
  obtain ⟨number⟩ := id
  calc posted.countP (·.1 = ⟨number⟩)
    _ = (posted.map (·.1.number)).count number := by
      rw [List.count, List.countP_map]
      apply List.countP_congr
      rintro ⟨⟨other⟩, e⟩ -
      simp
    _ = if number < n then 1 else 0 := by
      rw [h, List.nodup_range.count]
      simp only [List.mem_range]

/-- A scheduler does what a plain list does, and keeps account of every event. Whatever is asked of a new scheduler, a
ledger gives the same answers and has the same events pending in the end, and queue and index of the scheduler describe
the same events (`Ledger.Keeps`). The handles of all posts are the numbers from zero on, across resets too, so that none
is given out twice. Every event that was posted was handed out, cancelled, or forgotten by a reset, or still waits: its
handle is found there once, with the event for which it was given out, and nowhere else. -/
theorem serveAll_matches_ledger (requests : List (Request ε)) :
    let log := (serveAll {} requests).1
    let final := (serveAll {} requests).2
    (log.map (·.answer) = (Ledger.serveAll {} requests).1 ∧
      (Ledger.serveAll {} requests).2.Keeps final) ∧
    (log.flatMap (·.posted)).map (·.1.number) = List.range final.nextNumber ∧
    (log.flatMap (·.posted)).Perm (log.flatMap (·.popped) ++ log.flatMap (·.dropped) ++
      log.flatMap (·.cleared) ++ final.held) ∧
    ∀ id : EventId, (log.flatMap (·.popped)).countP (·.1 = id) + (log.flatMap (·.dropped)).countP (·.1 = id) +
      (log.flatMap (·.cleared)).countP (·.1 = id) + final.held.countP (·.1 = id) =
        if id.number < final.nextNumber then 1 else 0 := by
  intro log final
  have hnumbers : (log.flatMap (·.posted)).map (·.1.number) = List.range final.nextNumber :=
    number_serveAll {} requests
  have hfates : (log.flatMap (·.posted)).Perm (log.flatMap (·.popped) ++ log.flatMap (·.dropped) ++
      log.flatMap (·.cleared) ++ final.held) :=
    held_serveAll filed_empty requests
  refine ⟨serveAll_keeps Ledger.Keeps.empty requests, hnumbers, hfates, ?_⟩
  intro id
  rw [← countP_of_range hnumbers id, hfates.countP_eq]
  simp only [List.countP_append]

end Scheduler

end CarrierSense
