import CarrierSense.Proofs.Scheduler.Agenda
import Mathlib.Data.Option.Basic

/-!
# Schedulers that differ in numbers

The numbers of posts are never used twice, so that a scheduler that has run before gives out other handles
than a new one. This is all the difference: two schedulers are `Renumbered` if the same events are pending
in them for the same ticks, in the same order, where the numbers run from `p` in one and from `q` in the
other. Whatever is asked of both is answered alike, and leaves them so.
-/

namespace CarrierSense

/-- Two computations fail alike, or both have values that are related. -/
inductive Agree {α β ε : Type} (P : α → β → Prop) : Except ε α → Except ε β → Prop where
  | error (e : ε) : Agree P (.error e) (.error e)
  | ok {a : α} {b : β} (h : P a b) : Agree P (.ok a) (.ok b)

namespace Agree

variable {α β γ δ ε : Type} {P : α → β → Prop} {Q : γ → δ → Prop} {x : Except ε α} {y : Except ε β}

/-- Computations in a row agree if both do. -/
lemma bind {f : α → Except ε γ} {g : β → Except ε δ} (h : Agree P x y)
    (hf : ∀ {a b}, P a b → Agree Q (f a) (g b)) : Agree Q (x >>= f) (y >>= g) := by
  cases h with
  | error e => exact .error e
  | ok h => exact hf h

/-- Two computations that begin in the same way. -/
lemma bind_same {x : Except ε α} {f : α → Except ε γ} {g : α → Except ε δ} (hf : ∀ a, Agree Q (f a) (g a)) :
    Agree Q (x >>= f) (x >>= g) := by
  cases x with
  | error e => exact .error e
  | ok a => exact hf a

end Agree

/-- The order of the queue depends on the differences of numbers only. -/
lemma Due.compare_shift (p q : Nat) (a b : Due) :
    compare (⟨a.time, p + a.number⟩ : Due) ⟨b.time, p + b.number⟩ =
      compare (⟨a.time, q + a.number⟩ : Due) ⟨b.time, q + b.number⟩ := by
  have hadd : ∀ p, compare (p + a.number) (p + b.number) = compare a.number b.number := by
    intro p
    simp [Nat.compare_eq_ite_lt]
  show (compare a.time b.time).then (compare (p + a.number) (p + b.number)) =
    (compare a.time b.time).then (compare (q + a.number) (q + b.number))
  rw [hadd, hadd]

/-- The two handles come from the same post, counted from the numbers `p` and `q`. -/
def EventId.Renumbered (p q : Nat) (a b : EventId) : Prop := ∃ k, a = ⟨p + k⟩ ∧ b = ⟨q + k⟩

/-- Handles that correspond to the same handle are the same. -/
lemma EventId.Renumbered.eq_iff {p q : Nat} {a b a' b' : EventId} (h : a.Renumbered p q b)
    (h' : a'.Renumbered p q b') : a = a' ↔ b = b' := by
  obtain ⟨k, rfl, rfl⟩ := h
  obtain ⟨k', rfl, rfl⟩ := h'
  simp

namespace Scheduler

variable {ε : Type} {p q : Nat} {s t : Scheduler ε} {due : Due} {e : ε} {a b : EventId}

/-- The event that fires next is taken out if its time has come. -/
lemma popDue_of_first {e : ε} {due : Due} (h : s.Filed) (hf : s.first? = some (due, e)) :
    s.popDue =
      if s.now < due.time then none else some ((⟨due.number⟩, e), (s.drop ⟨due.number⟩).2) := by
  split
  · rename_i hlater
    simp only [Scheduler.popDue, hf, hlater, if_true]
  · rename_i hdue
    obtain ⟨s', hpop⟩ : ∃ s', s.popDue = some ((⟨due.number⟩, e), s') := by
      simp only [Scheduler.popDue, hf, hdue, if_false]
      exact ⟨_, rfl⟩
    rw [hpop, popDue_eq_drop h hpop]

/-- The same events are pending in two schedulers, but for the numbers of their posts. -/
structure Renumbered (p q : Nat) (s t : Scheduler ε) : Prop where
  filed : s.Filed
  filed' : t.Filed
  now : t.now = s.now
  next : ∃ k, s.nextNumber = p + k ∧ t.nextNumber = q + k
  since : ∀ {due e}, s.Pending due e → p ≤ due.number
  since' : ∀ {due e}, t.Pending due e → q ≤ due.number
  pending : ∀ {time k e}, s.Pending ⟨time, p + k⟩ e ↔ t.Pending ⟨time, q + k⟩ e

namespace Renumbered

/-- What is pending has a number from `p` on. -/
lemma counted (h : s.Renumbered p q t) (hp : s.Pending due e) :
    ∃ k, due.number = p + k ∧ t.Pending ⟨due.time, q + k⟩ e := by
  obtain ⟨time, n⟩ := due
  obtain ⟨k, rfl⟩ := Nat.exists_eq_add_of_le (h.since hp)
  exact ⟨k, rfl, h.pending.1 hp⟩

/-- What is pending in the second scheduler is pending in the first one under the number that corresponds. -/
lemma counted' (h : s.Renumbered p q t) (hp : t.Pending due e) :
    ∃ k, due.number = q + k ∧ s.Pending ⟨due.time, p + k⟩ e := by
  obtain ⟨time, n⟩ := due
  obtain ⟨k, rfl⟩ := Nat.exists_eq_add_of_le (h.since' hp)
  exact ⟨k, rfl, h.pending.2 hp⟩

/-- Two schedulers that are reset have nothing pending. -/
lemma reset (s t : Scheduler ε) : s.reset.Renumbered s.nextNumber t.nextNumber t.reset where
  filed := filed_reset s
  filed' := filed_reset t
  now := rfl
  next := ⟨0, rfl, rfl⟩
  since := fun hp => absurd hp not_pending_reset
  since' := fun hp => absurd hp not_pending_reset
  pending := ⟨fun hp => absurd hp not_pending_reset, fun hp => absurd hp not_pending_reset⟩

/-- The clocks of both schedulers may be moved alike. -/
lemma advanceTo (h : s.Renumbered p q t) (time : Nat) :
    (s.advanceTo time).Renumbered p q (t.advanceTo time) where
  filed := h.filed.advanceTo time
  filed' := h.filed'.advanceTo time
  now := by simp [h.now]
  next := by simpa using h.next
  since := fun hp => h.since (pending_advanceTo.1 hp)
  since' := fun hp => h.since' (pending_advanceTo.1 hp)
  pending := by
    simp only [pending_advanceTo]
    exact h.pending

/-- A post is refused by both, or gives handles that correspond. -/
lemma post (h : s.Renumbered p q t) (time : Nat) (e : ε) :
    Agree (fun x y => x.1.Renumbered p q y.1 ∧ x.2.Renumbered p q y.2) (s.post time e) (t.post time e) := by
  obtain ⟨k, hk, hk'⟩ := h.next
  rcases Nat.lt_or_ge time s.now with hpast | hfuture
  · simp only [Scheduler.post, h.now, hpast, if_true]
    exact .error _
  obtain ⟨id, s', hpost⟩ : ∃ id s', s.post time e = .ok (id, s') := ⟨_, _, post_eq_ok.2 ⟨hfuture, rfl, rfl⟩⟩
  obtain ⟨id', t', hpost'⟩ : ∃ id t', t.post time e = .ok (id, t') :=
    ⟨_, _, post_eq_ok.2 ⟨h.now ▸ hfuture, rfl, rfl⟩⟩
  obtain ⟨-, hid, hs⟩ := post_eq_ok.1 hpost
  obtain ⟨-, hid', ht⟩ := post_eq_ok.1 hpost'
  rw [hpost, hpost']
  have hpend : ∀ {due e'}, s'.Pending due e' ↔ due = ⟨time, id.number⟩ ∧ e' = e ∨ s.Pending due e' :=
    pending_post h.filed hpost
  have hpend' : ∀ {due e'}, t'.Pending due e' ↔ due = ⟨time, id'.number⟩ ∧ e' = e ∨ t.Pending due e' :=
    pending_post h.filed' hpost'
  refine .ok ⟨⟨k, by rw [hid, hk], by rw [hid', hk']⟩, ?_⟩
  refine ⟨h.filed.post hpost, h.filed'.post hpost', ?_, ⟨k + 1, ?_, ?_⟩, fun hp => ?_, fun hp => ?_, ?_⟩
  · rw [now_post hpost, now_post hpost', h.now]
  · rw [hs]
    exact congrArg (· + 1) hk
  · rw [ht]
    exact congrArg (· + 1) hk'
  · rcases hpend.1 hp with ⟨rfl, -⟩ | hp
    · simp [hid, hk]
    · exact h.since hp
  · rcases hpend'.1 hp with ⟨rfl, -⟩ | hp
    · simp [hid', hk']
    · exact h.since' hp
  · intro time' k' e'
    rw [hpend, hpend', h.pending]
    simp [hid, hid', hk, hk']

/-- A post after some delay is answered alike. -/
lemma postAfter (h : s.Renumbered p q t) (delay : Nat) (e : ε) :
    Agree (fun x y => x.1.Renumbered p q y.1 ∧ x.2.Renumbered p q y.2) (s.postAfter delay e)
      (t.postAfter delay e) := by
  unfold Scheduler.postAfter
  rw [h.now]
  exact h.post _ e

/-- Handles that correspond cancel the same event. -/
lemma drop (h : s.Renumbered p q t) (hid : a.Renumbered p q b) :
    (s.drop a).2.Renumbered p q (t.drop b).2 := by
  obtain ⟨k, rfl, rfl⟩ := hid
  refine ⟨h.filed.drop, h.filed'.drop, by simp [h.now], by simpa using h.next, fun hp => ?_, fun hp => ?_, ?_⟩
  · exact h.since ((pending_drop h.filed).1 hp).1
  · exact h.since' ((pending_drop h.filed').1 hp).1
  · intro time k' e
    rw [pending_drop h.filed, pending_drop h.filed', h.pending]
    simp

/-- The queues are in the same order. -/
lemma toList (h : s.Renumbered p q t) : t.queue.toList =
    s.queue.toList.map fun entry => (⟨entry.1.time, q + (entry.1.number - p)⟩, entry.2) := by
  have hcounted : ∀ {entry}, entry ∈ s.queue.toList → p + (entry.1.number - p) = entry.1.number := by
    intro entry hmem
    have hle := h.since (mem_toList.1 hmem)
    omega
  refine toList_eq ?_ fun due e => ?_
  · refine List.pairwise_map.2 (s.sorted_toList.imp_of_mem fun {x y} hx hy hxy => ?_)
    have hshift := Due.compare_shift p q ⟨x.1.time, x.1.number - p⟩ ⟨y.1.time, y.1.number - p⟩
    simp only [hcounted hx, hcounted hy] at hshift
    rw [← hshift]
    exact hxy
  · constructor
    · intro hmem
      obtain ⟨entry, hentry, heq⟩ := List.mem_map.1 hmem
      cases heq
      have hp := mem_toList.1 hentry
      rw [← h.pending, hcounted hentry]
      exact hp
    · intro hp
      obtain ⟨k, hk, hp⟩ := h.counted' hp
      refine List.mem_map.2 ⟨(⟨due.time, p + k⟩, e), mem_toList.2 hp, ?_⟩
      rw [Nat.add_sub_cancel_left, ← hk]

/-- The same events are pending for the same ticks, in the same order. -/
lemma agenda (h : s.Renumbered p q t) : t.agenda = s.agenda := by
  rw [Scheduler.agenda, h.toList, List.map_map]
  rfl

/-- Both schedulers wait for the same tick. -/
lemma nextTime? (h : s.Renumbered p q t) : t.nextTime? = s.nextTime? := by
  rw [nextTime?_eq_head?, nextTime?_eq_head?, h.agenda]

/-- The same event fires next. -/
lemma first? (h : s.Renumbered p q t) :
    Option.Rel (fun x y => x.1.time = y.1.time ∧ (⟨x.1.number⟩ : EventId).Renumbered p q ⟨y.1.number⟩ ∧ x.2 = y.2)
      s.first? t.first? := by
  rw [first?_eq_head?, first?_eq_head?, h.toList, List.head?_map]
  cases hs : s.queue.toList.head? with
  | none => exact .none
  | some entry =>
    have hmem : entry ∈ s.queue.toList := List.mem_of_head? hs
    obtain ⟨k, hk, -⟩ := h.counted (mem_toList.1 hmem)
    refine .some ⟨rfl, ⟨k, by rw [hk], ?_⟩, rfl⟩
    simp [hk]

/-- The same event is taken out of both. -/
lemma popDue (h : s.Renumbered p q t) :
    Option.Rel (fun x y => x.1.1.Renumbered p q y.1.1 ∧ x.1.2 = y.1.2 ∧ x.2.Renumbered p q y.2)
      s.popDue t.popDue := by
  have hfirst := h.first?
  generalize hs : s.first? = x at hfirst
  generalize ht : t.first? = y at hfirst
  cases hfirst with
  | none =>
    simp only [Scheduler.popDue, hs, ht]
    exact .none
  | some hxy =>
    obtain ⟨htime, hid, hevent⟩ := hxy
    rw [popDue_of_first h.filed hs, popDue_of_first h.filed' ht, h.now, htime]
    split
    · exact .none
    · exact .some ⟨hid, hevent, h.drop hid⟩

end Renumbered

end Scheduler

end CarrierSense
