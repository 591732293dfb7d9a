import CarrierSense.Proofs.Scheduler.Ledger

/-!
# The order in which events fire

An event has the place in the queue that it was given when it was posted: first by its tick, then by the
number of its post. Between two resets the events that are handed out have increasing places, however posts,
drops and moves of the clock come in between. What carries the induction is that a place that was handed
out is `Passed`: the clock has reached it, and all that waits, or is still to be posted, comes behind it.
-/

namespace CarrierSense

/-- The order of the queue: an earlier tick, or the same tick and an earlier post. -/
def Due.Precedes (a b : Due) : Prop := a.time < b.time ∨ a.time = b.time ∧ a.number < b.number

/-- Which of two places comes first can be decided. -/
instance : DecidableRel Due.Precedes := fun a b =>
  inferInstanceAs (Decidable (a.time < b.time ∨ a.time = b.time ∧ a.number < b.number))

namespace Scheduler

variable {ε : Type} {s s' : Scheduler ε} {due place : Due} {e : ε} {r : Request ε}
  {requests : List (Request ε)}

namespace Service

/-- The place that an event was given when it was posted. -/
def booked (x : Service ε) : List Due :=
  match x.request, x.answer with
  | .post time _, .posted (.ok id) => [⟨time, id.number⟩]
  | .postAfter delay _, .posted (.ok id) => [⟨Clock.later x.before.now delay, id.number⟩]
  | _, _ => []

/-- The place from which an event was handed out. -/
def fired (x : Service ε) : List Due :=
  x.popped.filterMap fun entry => (x.before.pending[entry.1.number]?).map fun time => ⟨time, entry.1.number⟩

end Service

/-- A post after a delay books the tick to which the delay leads. -/
lemma booked_postAfter (s : Scheduler ε) (delay : Nat) (e : ε) (answer : Answer ε) :
    (Service.mk s (.postAfter delay e) answer).booked =
      (Service.mk s (.post (Clock.later s.now delay) e) answer).booked := by
  cases answer with
  | posted result => cases result <;> rfl
  | _ => rfl

/-- What a post does if it is asked for the tick `time`: it is refused, or the event gets the last place of
this tick. -/
lemma post_books (time : Nat) (e : ε) (h : s.Filed) :
    let x : Service ε := ⟨s, .post time e, (s.serve (.post time e)).1⟩
    (x.booked = [] ∧ (s.serve x.request).2 = s) ∨
      s.now ≤ time ∧ x.booked = [⟨time, s.nextNumber⟩] ∧ (s.serve x.request).2.now = s.now ∧
        (s.serve x.request).2.nextNumber = s.nextNumber + 1 ∧
        ∀ {due e'}, (s.serve x.request).2.Pending due e' → s.Pending due e' ∨ due = ⟨time, s.nextNumber⟩ := by
  intro x
  cases hp : s.post time e with
  | error refusal =>
    apply Or.inl
    simp [x, serve, hp, Service.booked]
  | ok result =>
    obtain ⟨id, s'⟩ := result
    apply Or.inr
    have hpend : ∀ {due e'}, s'.Pending due e' ↔ due = ⟨time, id.number⟩ ∧ e' = e ∨ s.Pending due e' :=
      pending_post h hp
    simp only [x, serve, hp, Service.booked]
    obtain ⟨hnow, rfl, rfl⟩ := post_eq_ok.1 hp
    refine ⟨hnow, rfl, rfl, rfl, ?_⟩
    intro due e' hq
    rcases hpend.1 hq with ⟨hdue, -⟩ | hq
    · exact .inr hdue
    · exact .inl hq

/-- What a request other than a reset makes of a scheduler: the clock does not go back, and whatever waits
has waited before, or has just been given a place that is not over, with the next number. -/
structure GoesOn (s : Scheduler ε) (booked : List Due) (s' : Scheduler ε) : Prop where
  now : s.now ≤ s'.now
  number : s'.nextNumber = s.nextNumber + booked.length
  new : ∀ due ∈ booked, s.now ≤ due.time ∧ due.number = s.nextNumber
  waits : ∀ {due e}, s'.Pending due e → s.Pending due e ∨ due ∈ booked

/-- A scheduler that is asked for nothing goes on as it is. -/
lemma GoesOn.refl (s : Scheduler ε) : s.GoesOn [] s :=
  ⟨Nat.le_refl _, rfl, by simp, .inl⟩

/-- A scheduler goes on after a post with one more place. -/
lemma post_goesOn (time : Nat) (e : ε) (h : s.Filed) :
    s.GoesOn (Service.mk s (.post time e) (s.serve (.post time e)).1).booked (s.serve (.post time e)).2 := by
  rcases post_books time e h with ⟨hbooked, hsame⟩ | ⟨hnow, hbooked, hclock, hnumber, hwaits⟩
  · rw [hbooked, show (s.serve (.post time e)).2 = s from hsame]
    exact .refl s
  · rw [hbooked]
    refine ⟨Nat.le_of_eq hclock.symm, hnumber, ?_, ?_⟩
    · intro due hmem
      rw [List.mem_singleton.1 hmem]
      exact ⟨hnow, rfl⟩
    · intro due e' hq
      rw [List.mem_singleton]
      exact hwaits hq

/-- Only a reset turns the clock back, and only a post adds to what waits. -/
lemma serve_goesOn (h : s.Filed) (hr : r ≠ .reset) :
    s.GoesOn (Service.mk s r (s.serve r).1).booked (s.serve r).2 := by
  cases r with
  | post time e => exact post_goesOn time e h
  | postAfter delay e =>
    have hpost := post_goesOn (Clock.later s.now delay) e h
    rw [booked_postAfter]
    exact hpost
  | drop id =>
    refine ⟨?_, nextNumber_drop s id, by simp [Service.booked], ?_⟩
    · exact Nat.le_of_eq (now_drop s id).symm
    · intro due e hq
      exact .inl ((pending_drop h).1 hq).1
  | isPending id => exact .refl s
  | advanceTo time =>
    refine ⟨?_, nextNumber_advanceTo s time, by simp [Service.booked], ?_⟩
    · rw [serve, now_advanceTo]
      exact Nat.le_max_left _ _
    · intro due e hq
      exact .inl (pending_advanceTo.1 hq)
  | popDue =>
    cases hp : s.popDue with
    | none =>
      simp only [serve, hp]
      exact .refl s
    | some entry =>
      obtain ⟨⟨id, e⟩, s'⟩ := entry
      simp only [serve, hp, popDue_eq_drop h hp]
      refine ⟨?_, nextNumber_drop s id, by simp [Service.booked], ?_⟩
      · exact Nat.le_of_eq (now_drop s id).symm
      · intro due e hq
        exact .inl ((pending_drop h).1 hq).1
  | nextTime => exact .refl s
  | reset => exact absurd rfl hr

/-- The place is over: the clock has reached it, its number was given out, and what waits comes behind it. -/
structure Passed (s : Scheduler ε) (due : Due) : Prop where
  reached : due.time ≤ s.now
  used : due.number < s.nextNumber
  ahead : ∀ {place e}, s.Pending place e → due.Precedes place

/-- A place that is over stays so: what is posted later does not come before the clock, and has a higher
number. -/
lemma Passed.goesOn {booked : List Due} (hd : s.Passed due) (h : s.GoesOn booked s') : s'.Passed due where
  reached := Nat.le_trans hd.reached h.now
  used := by
    rw [h.number]
    exact Nat.lt_add_right _ hd.used
  ahead := by
    intro place e hq
    rcases h.waits hq with hq | hnew
    · exact hd.ahead hq
    · obtain ⟨hnow, hnumber⟩ := h.new place hnew
      have hle := Nat.le_trans hd.reached hnow
      have hused := hnumber ▸ hd.used
      rcases Nat.lt_or_eq_of_le hle with hlt | heq
      · exact .inl hlt
      · exact .inr ⟨heq, hused⟩

/-- An event is handed out from the place at which it waited, when the clock has reached it, and from then on
this place is over. -/
lemma fired_passed (h : s.Filed) (hd : due ∈ (Service.mk s r (s.serve r).1).fired) :
    (∃ e, s.Pending due e) ∧ due.time ≤ s.now ∧ (s.serve r).2.Passed due := by
  cases r with
  | popDue =>
    cases hp : s.popDue with
    | none => simp [Service.fired, Service.popped, serve, hp] at hd
    | some entry =>
      obtain ⟨⟨id, e⟩, s'⟩ := entry
      obtain ⟨time, hpend, htime, -⟩ := popDue_eq_some hp
      have hindex : s.pending[id.number]? = some time := (h.index _ _).2 ⟨e, hpend⟩
      have hplace : due = ⟨time, id.number⟩ := by
        simpa [Service.fired, Service.popped, serve, hp, hindex] using hd
      subst hplace
      refine ⟨⟨e, hpend⟩, htime, ?_⟩
      simp only [serve, hp]
      have hwaits : ∀ {place e'}, s'.Pending place e' ↔ s.Pending place e' ∧ place.number ≠ id.number :=
        pending_popDue h hp
      refine ⟨?_, ?_, ?_⟩
      · rw [popDue_eq_drop h hp, now_drop]
        exact htime
      · rw [popDue_eq_drop h hp, nextNumber_drop]
        exact h.fresh hpend
      · intro place e' hq
        obtain ⟨hq, hne⟩ := hwaits.1 hq
        -- the event came first in the queue, and no other has its place
        have hfirst : s.first? = some (⟨time, id.number⟩, e) := by
          unfold popDue at hp
          split at hp
          · cases hp
          · rename_i first event hfirst
            split at hp
            · cases hp
            · cases hp
              rw [hfirst, h.place_unique hpend (first?_eq_some hfirst).1 rfl]
        rcases first?_least hfirst hq with heq | hlt
        · cases heq
          exact absurd rfl hne
        · exact Due.compare_eq_lt_iff.1 hlt
  | _ => simp [Service.fired, Service.popped] at hd

/-- Every event that is handed out has its place. -/
lemma fired_number (h : s.Filed) (r : Request ε) :
    let x : Service ε := ⟨s, r, (s.serve r).1⟩
    x.fired.map (·.number) = x.popped.map (·.1.number) := by
  intro x
  cases r with
  | popDue =>
    cases hp : s.popDue with
    | none => simp [x, Service.fired, Service.popped, serve, hp]
    | some entry =>
      obtain ⟨⟨id, e⟩, s'⟩ := entry
      obtain ⟨time, hpend, -, -⟩ := popDue_eq_some hp
      have hindex : s.pending[id.number]? = some time := (h.index _ _).2 ⟨e, hpend⟩
      simp [x, Service.fired, Service.popped, serve, hp, hindex]
  | _ => rfl

/-- Nothing is out of order in a list with one item at most. -/
lemma pairwise_of_length_le_one {α : Type} {R : α → α → Prop} {l : List α} (h : l.length ≤ 1) :
    l.Pairwise R := by
  match l, h with
  | [], _ => exact .nil
  | [a], _ => exact List.pairwise_singleton R a

/-- The first request is served, and then the others. -/
lemma serveAll_cons (s : Scheduler ε) (r : Request ε) (rest : List (Request ε)) :
    s.serveAll (r :: rest) =
      (⟨s, r, (s.serve r).1⟩ :: ((s.serve r).2.serveAll rest).1, ((s.serve r).2.serveAll rest).2) := rfl

/-- What is handed out comes behind all places that are over, and waits already, or is posted meanwhile. -/
lemma fired_serveAll (h : s.Filed) (hr : .reset ∉ requests) :
    let log := (s.serveAll requests).1
    (∀ due ∈ log.flatMap (·.fired), (∃ e, s.Pending due e) ∨ due ∈ log.flatMap (·.booked)) ∧
      ∀ {due}, s.Passed due → ∀ place ∈ log.flatMap (·.fired), due.Precedes place := by
  induction requests generalizing s with
  | nil => simp [serveAll]
  | cons r rest ih =>
    have hgoes := serve_goesOn h (List.ne_of_not_mem_cons hr).symm
    obtain ⟨horigin, hlater⟩ := ih (h.serve r) (List.not_mem_of_not_mem_cons hr)
    simp only [serveAll_cons, List.flatMap_cons, List.mem_append]
    constructor
    · rintro due (hdue | hdue)
      · exact .inl (fired_passed h hdue).1
      · rcases horigin due hdue with ⟨e, hq⟩ | hbooked
        · rcases hgoes.waits hq with hq | hbooked
          · exact .inl ⟨e, hq⟩
          · exact .inr (.inl hbooked)
        · exact .inr (.inr hbooked)
    · rintro due hpassed place (hplace | hplace)
      · obtain ⟨⟨e, hq⟩, -⟩ := fired_passed h hplace
        exact hpassed.ahead hq
      · exact hlater (hpassed.goesOn hgoes) place hplace

/-- The places of what is handed out increase. -/
lemma fired_pairwise (h : s.Filed) (hr : .reset ∉ requests) :
    ((s.serveAll requests).1.flatMap (·.fired)).Pairwise Due.Precedes := by
  induction requests generalizing s with
  | nil => exact .nil
  | cons r rest ih =>
    have hrest := List.not_mem_of_not_mem_cons hr
    rw [serveAll_cons, List.flatMap_cons, List.pairwise_append]
    refine ⟨?_, ih (h.serve r) hrest, ?_⟩
    · -- one request hands out one event at most
      have hone : (Service.mk s r (s.serve r).1).fired.length ≤ 1 := by
        rw [← List.length_map (f := Due.number), fired_number h r, List.length_map]
        unfold Service.popped
        split <;> simp
      exact pairwise_of_length_le_one hone
    · intro due hdue place hplace
      obtain ⟨-, hlater⟩ := fired_serveAll (h.serve r) hrest
      exact hlater (fired_passed h hdue).2.2 place hplace

/-- The numbers of posts increase, and go on from the next one. -/
lemma booked_pairwise (h : s.Filed) (hr : .reset ∉ requests) :
    (∀ due ∈ (s.serveAll requests).1.flatMap (·.booked), s.nextNumber ≤ due.number) ∧
      ((s.serveAll requests).1.flatMap (·.booked)).Pairwise (·.number < ·.number) := by
  induction requests generalizing s with
  | nil => simp [serveAll]
  | cons r rest ih =>
    have hgoes := serve_goesOn h (List.ne_of_not_mem_cons hr).symm
    obtain ⟨hfrom, hpairs⟩ := ih (h.serve r) (List.not_mem_of_not_mem_cons hr)
    simp only [serveAll_cons, List.flatMap_cons]
    have hone : (Service.mk s r (s.serve r).1).booked.length ≤ 1 := by
      unfold Service.booked
      split <;> simp
    generalize (Service.mk s r (s.serve r).1).booked = booked at hgoes hone
    have hnumber := hgoes.number
    constructor
    · intro due hdue
      rcases List.mem_append.1 hdue with hdue | hdue
      · exact Nat.le_of_eq (hgoes.new due hdue).2.symm
      · have := hfrom due hdue
        omega
    · rw [List.pairwise_append]
      refine ⟨pairwise_of_length_le_one hone, hpairs, ?_⟩
      intro due hdue place hplace
      have hnew := (hgoes.new due hdue).2
      have hlater := hfrom place hplace
      have hsome := List.length_pos_of_mem hdue
      omega

/-- The clock goes on from where it stands. -/
lemma now_serveAll (h : s.Filed) (hr : .reset ∉ requests) :
    let readings := (s.serveAll requests).1.map (·.before.now) ++ [(s.serveAll requests).2.now]
    (∀ t ∈ readings, s.now ≤ t) ∧ readings.Pairwise (· ≤ ·) := by
  induction requests generalizing s with
  | nil => simp [serveAll]
  | cons r rest ih =>
    have hnow := (serve_goesOn h (List.ne_of_not_mem_cons hr).symm).now
    obtain ⟨hfrom, hpairs⟩ := ih (h.serve r) (List.not_mem_of_not_mem_cons hr)
    simp only [serveAll_cons, List.map_cons, List.cons_append, List.pairwise_cons, List.forall_mem_cons]
    have hlater : ∀ t ∈ ((s.serve r).2.serveAll rest).1.map (·.before.now) ++
        [((s.serve r).2.serveAll rest).2.now], s.now ≤ t := fun t ht => Nat.le_trans hnow (hfrom t ht)
    exact ⟨⟨Nat.le_refl _, hlater⟩, hlater, hpairs⟩

/-- What a sequence of requests is made of: each is served by the scheduler that the ones before have left,
whose index describes its queue. -/
lemma mem_serveAll {x : Service ε} (h : s.Filed) (hx : x ∈ (s.serveAll requests).1) :
    x.before.Filed ∧ x.answer = (x.before.serve x.request).1 := by
  induction requests generalizing s with
  | nil => cases hx
  | cons r rest ih =>
    rw [serveAll_cons] at hx
    rcases List.mem_cons.1 hx with rfl | hx
    · exact ⟨h, rfl⟩
    · exact ih (h.serve r) hx

/-- Events fire in the order of their ticks, and within a tick in the order of their posts. Take a scheduler that was
just reset, whatever was asked of it before, and ask anything of it but another reset. The events that are handed out
have increasing places in the order of the queue, and each has the place that it was given when it was posted, between
the two resets; posts are numbered in their order. No event is handed out before the clock has reached its tick, and the
clock never goes back. -/
theorem serveAll_fires_in_order (earlier requests : List (Request ε)) (h : .reset ∉ requests) :
    let start := (serveAll {} earlier).2.reset
    let log := (start.serveAll requests).1
    (log.flatMap (·.fired)).Pairwise Due.Precedes ∧
      (log.flatMap (·.fired)).map (·.number) = (log.flatMap (·.popped)).map (·.1.number) ∧
      (∀ due ∈ log.flatMap (·.fired), due ∈ log.flatMap (·.booked)) ∧
      (log.flatMap (·.booked)).Pairwise (·.number < ·.number) ∧
      (∀ x ∈ log, ∀ due ∈ x.fired, due.time ≤ x.before.now) ∧
      (log.map (·.before.now) ++ [(start.serveAll requests).2.now]).Pairwise (· ≤ ·) := by
  intro start log
  have hfiled : start.Filed := filed_reset _
  obtain ⟨horigin, -⟩ := fired_serveAll hfiled h
  refine ⟨fired_pairwise hfiled h, ?_, ?_, (booked_pairwise hfiled h).2, ?_, (now_serveAll hfiled h).2⟩
  · simp only [List.map_flatMap]
    apply List.flatMap_congr
    intro x hx
    obtain ⟨hbefore, hanswer⟩ := mem_serveAll hfiled hx
    have hnumber := fired_number hbefore x.request
    rw [← hanswer] at hnumber
    exact hnumber
  · intro due hdue
    rcases horigin due hdue with ⟨e, hq⟩ | hbooked
    · exact absurd hq not_pending_reset
    · exact hbooked
  · intro x hx due hdue
    obtain ⟨hbefore, hanswer⟩ := mem_serveAll hfiled hx
    have hfired : due ∈ (Service.mk x.before x.request (x.before.serve x.request).1).fired := by
      rw [← hanswer]
      exact hdue
    exact (fired_passed hbefore hfired).2.1

/-- After a run that was cut short, the clock is moved past two of the events that are posted, and two more
are posted for the tick at which these are handed out. -/
theorem overdue_events_fire_in_order :
    let earlier : List (Request Nat) := [.post 3 0, .advanceTo 7]
    let requests : List (Request Nat) := [.post 5 1, .post 4 2, .advanceTo 9, .popDue, .post 9 3,
      .postAfter 0 4, .popDue, .drop ⟨0⟩, .popDue, .popDue, .popDue]
    let start := (serveAll {} earlier).2.reset
    let log := (start.serveAll requests).1
    .reset ∉ requests ∧ log.flatMap (·.fired) = [⟨4, 2⟩, ⟨5, 1⟩, ⟨9, 3⟩, ⟨9, 4⟩] ∧
      (log.flatMap (·.fired)).Pairwise Due.Precedes ∧
      (∀ x ∈ log, ∀ due ∈ x.fired, due.time ≤ x.before.now) := by
  intro earlier requests start log
  have hreset : .reset ∉ requests := by simp [requests]
  obtain ⟨horder, -, -, -, hreached, -⟩ := serveAll_fires_in_order earlier requests hreset
  exact ⟨hreset, by decide +kernel, horder, hreached⟩

end Scheduler

end CarrierSense
