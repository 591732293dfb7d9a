import CarrierSense.Proofs.Network.Twins

/-!
# Twins in step

Two networks that are twins start the same traffic, fire the same events in the same order, and take the
same steps, until both come to an end, meet the same error, or halt.
-/

namespace CarrierSense

variable {a b : Network} {c : Naming}

/-- Two places are the same exactly if those that correspond to them are. -/
lemma Naming.index_eq_iff {v v' u u' : VariateId} (hv : c.variates v v') (hu : c.variates u u') :
    v.index = u.index ↔ v'.index = u'.index := by
  obtain ⟨v⟩ := v
  obtain ⟨v'⟩ := v'
  obtain ⟨u⟩ := u
  obtain ⟨u'⟩ := u'
  simpa only [VariateId.mk.injEq] using c.one_to_one hv hu

/-- The number of frames is all that changes when a source produces. -/
lemma Traffic.Twins.produce {t t' : Traffic} (h : t.Twins c t') :
    ({ t with produced := t.produced + 1 } : Traffic).Twins c { t' with produced := t'.produced + 1 } := by
  obtain ⟨arrival, period, rfl, ha, hp⟩ := h
  exact ⟨arrival, period, rfl, ha, hp⟩

namespace Network.Twins

/-- A draw from variates that correspond gives the same delay. -/
lemma drawDelay {v v' : VariateId} (h : a.Twins c b) (hv : c.variates v v') :
    Agree (fun x y => ∃ delay a b, x = (delay, a) ∧ y = (delay, b) ∧ a.Twins c b) (a.drawDelay v)
      (b.drawDelay v') := by
  unfold Network.drawDelay
  rw [h.variates hv, h.stream]
  cases a.variates[v.index]? with
  | none => exact .error _
  | some variate =>
    refine .bind_same fun drawn => .ok ⟨_, _, _, rfl, rfl, ?_⟩
    refine { h with stream := rfl, variates := fun {u u'} hu => ?_ }
    -- the place of a sequence moves on for all owners of the variate, and for no other one
    simp only [getElem?_setIfInBounds_eq_map, h.variates hu, Naming.index_eq_iff hv hu]

/-- The next production is posted after the same delay. -/
lemma produceLater {v v' : VariateId} (h : a.Twins c b) (hv : c.variates v v') (n : NodeId) :
    TwinReplies c
      (do
        let (delay, net) ← a.drawDelay v
        net.withPost (net.scheduler.postAfter delay (.produce n)))
      (do
        let (delay, net) ← b.drawDelay v'
        net.withPost (net.scheduler.postAfter delay (.produce n))) := by
  refine .bind (h.drawDelay hv) fun hdrawn => ?_
  obtain ⟨delay, a, b, rfl, rfl, h⟩ := hdrawn
  exact h.withPost (h.scheduler.postAfter _ _)

/-- Twins produce the same frame. -/
lemma produce (h : a.Twins c b) (n : NodeId) : TwinReplies c (a.produce n) (b.produce n) := by
  unfold Network.produce
  rw [show b.topology.node n = a.topology.node n by rw [h.topology]]
  refine .bind_same fun site => .bind (h.endpoint n) fun {e e'} he => ?_
  have ht := he.traffic
  generalize e.traffic = t, e'.traffic = t' at ht
  cases ht with
  | none => exact .ok _ h
  | @some t t' ht =>
    have hmore := ht.produce
    obtain ⟨arrival, period, rfl, -, -⟩ := ht
    refine .ite Iff.rfl (.ok _ h) (.ite Iff.rfl (.ok _ h) ?_)
    cases site.iface with
    | none => exact .ok _ h
    | some i =>
      rw [h.stream]
      generalize a.stream.between64 0 (t.destinations.length - 1) = place
      obtain ⟨place, stream⟩ := place
      dsimp only
      generalize stream.between32 0 32767 = drawn
      obtain ⟨id, stream⟩ := drawn
      refine ((h.draw _).send _ _).andThen fun {_ a b} h => ?_
      have hset : (a.setEndpoint n { e with traffic := some { t with produced := t.produced + 1 } }).Twins c
          (b.setEndpoint n { e' with traffic := some { t with arrival, period, produced := t.produced + 1 } }) :=
        h.setEndpoint ⟨he.consumed, .some hmore⟩
      exact .ite Iff.rfl (.ok _ hset) (hset.produceLater hmore.nextDelay n)

/-- Twins start the same node alike. -/
lemma start (h : a.Twins c b) (n : NodeId) : TwinReplies c (a.start n) (b.start n) := by
  unfold Network.start
  refine .bind (h.endpoint n) fun {e e'} he => ?_
  have ht := he.traffic
  generalize e.traffic = t, e'.traffic = t' at ht
  cases ht with
  | none => exact .ok _ h
  | @some t t' ht =>
    obtain ⟨arrival, period, rfl, ha, -⟩ := ht
    refine .ite Iff.rfl (.ok _ h) (.bind (h.drawDelay ha) fun hdrawn => ?_)
    obtain ⟨delay, a, b, rfl, rfl, h⟩ := hdrawn
    exact h.withPost (h.scheduler.post _ _)

/-- Twins start the same nodes alike, by induction over them. -/
lemma startAll (h : a.Twins c b) (nodes : List NodeId) :
    TwinReplies c (a.startAll nodes) (b.startAll nodes) := by
  induction nodes generalizing a b with
  | nil => exact .ok _ h
  | cons n rest ih => exact (h.start n).andThen fun h => ih h

/-- The same event fires alike in twins. -/
lemma fire (h : a.Twins c b) (e : Event) : TwinReplies c (a.fire e) (b.fire e) := by
  cases e with
  | produce n => exact h.produce n
  | timer i k => exact h.expire i k
  | forward i frame => exact h.send i frame

/-- A timer forgets its event exactly if its twin does. -/
lemma clearTimer {id id' : EventId} (h : a.Twins c b) (hid : id.Renumbered c.number c.number' id')
    (e : Event) : Agree (Twins c) (a.clearTimer id e) (b.clearTimer id' e) := by
  cases e with
  | timer i k =>
    refine (h.radio i).bind fun {r r'} hr => ?_
    obtain ⟨timers, rfl, ht⟩ := hr
    have hset : (a.setRadio i { r with timers := r.timers.set k none }).Twins c
        (b.setRadio i { r with timers := timers.set k none }) := h.setRadio ⟨_, rfl, ht.set .none⟩
    have hsame : r.timers.get k = some id ↔ timers.get k = some id' := by
      have hk := ht k
      generalize r.timers.get k = x, timers.get k = y at hk
      cases hk with
      | none => simp
      | some hxy => simpa using hxy.eq_iff hid
    dsimp only
    simp only [hsame]
    split
    · exact .ok hset
    · exact .ok h
  | produce n => exact .ok h
  | forward i frame => exact .ok h

/-- Twins fire the events of a tick alike, by induction over the fuel. -/
lemma drain (h : a.Twins c b) (fuel : Nat) :
    TwinReplies c (Network.drain fuel a) (Network.drain fuel b) := by
  induction fuel generalizing a b with
  | zero => exact .error _
  | succ fuel ih =>
    unfold Network.drain
    have hpop := h.scheduler.popDue
    generalize a.scheduler.popDue = x, b.scheduler.popDue = y at hpop
    cases hpop with
    | none => exact .ok _ h
    | @some x y hxy =>
      obtain ⟨⟨id, e⟩, s⟩ := x
      obtain ⟨⟨id', e'⟩, t⟩ := y
      obtain ⟨hid, heq, hs⟩ := hxy
      obtain rfl : e = e' := heq
      refine .bind ((h.schedule hs).clearTimer hid e) fun h => ?_
      exact (h.fire e).andThen fun h => ih h

/-- Twins make the same step. -/
lemma step (h : a.Twins c b) (fuel : Nat) : TwinReplies c (a.step fuel) (b.step fuel) := by
  unfold Network.step Scheduler.nextTime
  rw [h.scheduler.nextTime?]
  cases a.scheduler.nextTime? with
  | none => exact .ok _ h
  | some time => exact ((h.schedule (h.scheduler.advanceTo time)).drain fuel).andThen fun h => .ok _ h

/-- Twins make the same steps in a row, by induction over their number. -/
lemma stepWhile (h : a.Twins c b) (goesOn : Nat → Bool) (fuel steps : Nat) :
    TwinReplies c (Network.stepWhile goesOn fuel steps a) (Network.stepWhile goesOn fuel steps b) := by
  induction steps generalizing a b with
  | zero => exact .error _
  | succ steps ih =>
    unfold Network.stepWhile
    rw [h.scheduler.nextTime?]
    cases a.scheduler.nextTime? with
    | none => exact .ok _ h
    | some time => exact .ite Iff.rfl ((h.step fuel).andThen fun h => ih h) (.ok _ h)

/-- The answer is the clock. -/
lemma reply_now (h : a.Twins c b) : TwinReplies c (.ok (.ok a.now, a)) (.ok (.ok b.now, b)) := by
  rw [h.now]
  exact .ok _ h

/-- Twins run up to a limit alike. -/
lemma runTo (h : a.Twins c b) (fuel limit : Nat) :
    TwinReplies c (a.runTo fuel limit) (b.runTo fuel limit) :=
  (h.stepWhile _ fuel fuel).andThen fun h => (h.schedule (h.scheduler.advanceTo limit)).reply_now

/-- Twins run alike until nothing is pending. -/
lemma runUntilIdle (h : a.Twins c b) (fuel : Nat) :
    TwinReplies c (a.runUntilIdle fuel) (b.runUntilIdle fuel) :=
  (h.stepWhile _ fuel fuel).andThen fun h => h.reply_now

end Network.Twins

end CarrierSense
