import CarrierSense.Proofs.Network.Ticks
import CarrierSense.Proofs.Scheduler.Agenda

/-!
# What an error leaves behind

The operations of a network change it bit by bit, and an error ends them wherever it comes up. It does so in
two places only: a frame finds no next hop, or a source is not ready to produce. Both are met before anything
is changed, and all that is done later goes without an error. So an error leaves no half of a change behind,
and in the middle of a tick it costs the one event at which it came up (`Refused`).
-/

namespace CarrierSense.Network

variable {net mid net' : Network} {m : Moment} {log : List Moment} {fuel steps time : Nat} {i : InterfaceId}
  {n : NodeId} {f : Frame} {e : NetworkError} {id : EventId} {event : Event}
  {result : Except NetworkError Unit}

/-- A route is refused only for want of members of the medium. -/
lemma route_refuses {topo : Topology Float} (h : topo.route i n = .ok (.error e)) :
    ∃ name, e = .emptyMedium name := by
  simp only [Topology.route, bind_eq_ok] at h
  obtain ⟨iface, -, medium, -, h⟩ := h
  split at h
  · cases h
    exact ⟨_, rfl⟩
  simp only [bind_eq_ok] at h
  obtain ⟨target, -, h⟩ := h
  split at h
  · cases h
  simp only [bind_eq_ok] at h
  obtain ⟨here, -, h⟩ := h
  split at h
  · simp only [bind_eq_ok] at h
    obtain ⟨best, -, h⟩ := h
    cases h
  split at h
  · simp only [bind_eq_ok] at h
    obtain ⟨best, -, h⟩ := h
    cases h
  · cases h

/-- A frame that is refused finds no next hop, and changes nothing. -/
lemma Sound.send_refused (h : net.Sound) (hs : net.send i f = .ok (.error e, net')) :
    net' = net ∧ ((∃ medium, e = .emptyMedium medium) ∨ ∃ iface destination, e = .noRoute iface destination) := by
  simp only [Network.send, bind_eq_ok] at hs
  obtain ⟨route, hroute, hs⟩ := hs
  split at hs
  · cases hs
    exact ⟨rfl, .inl (route_refuses hroute)⟩
  · simp only [bind_eq_ok] at hs
    obtain ⟨iface, -, target, -, hs⟩ := hs
    cases hs
    exact ⟨rfl, .inr ⟨_, _, rfl⟩⟩
  · -- a frame with a next hop is queued, and an attempt to send meets no error
    simp only [bind_eq_ok] at hs
    obtain ⟨r, hr, hs⟩ := hs
    split at hs
    · have hqueued : ∀ r' : Radio, r'.timers = r.timers → (net.setRadio i r').Coherent := by
        intro r' ht
        exact (h.coherent.setRadio hr ht).1
      have hended := (act_settled (hqueued _ (by rfl)) h.onTime
        (Radio.trySend_proper (Turn.proper_start _ _)) hs).1
      cases hended
    · cases hs

/-- A frame that is refused changes nothing, and the scheduler has no part in it. -/
lemma Sound.send_fails (h : net.Sound) (hs : net.send i f = .ok (.error e, net')) :
    net' = net ∧ e.cause? = none := by
  obtain ⟨rfl, ⟨medium, rfl⟩ | ⟨iface, destination, rfl⟩⟩ := h.send_refused hs
  · exact ⟨rfl, rfl⟩
  · exact ⟨rfl, rfl⟩

/-- A production is refused because the node is no source, or has nobody to send to, or nothing to send with, or
because the frame that was drawn finds no next hop. -/
lemma Sound.production_refused (h : net.Sound) (hp : net.produce n = .ok (.error e, net')) :
    ∃ site x, net.topology.node n = .ok site ∧ net.endpoint n = .ok x ∧
      ((x.traffic = none ∧ e = .notASource site.name ∧ net' = net) ∨
        ∃ t, x.traffic = some t ∧
          ((t.destinations = [] ∧ e = .noDestination site.name ∧ net' = net) ∨
            (site.iface = none ∧ e = .noInterface site.name ∧ net' = net) ∨
            (net' = { net with stream := net'.stream } ∧
              ((∃ medium, e = .emptyMedium medium) ∨ ∃ iface destination, e = .noRoute iface destination)))) := by
  simp only [Network.produce, bind_eq_ok] at hp
  obtain ⟨site, hsite, x, hx, hp⟩ := hp
  refine ⟨site, x, hsite, hx, ?_⟩
  split at hp
  · rename_i hnone
    cases hp
    exact .inl ⟨hnone, rfl, rfl⟩
  rename_i t ht
  refine .inr ⟨t, ht, ?_⟩
  split at hp
  · cases hp
  split at hp
  · rename_i hempty
    cases hp
    exact .inl ⟨List.isEmpty_iff.1 hempty, rfl, rfl⟩
  split at hp
  · rename_i hnone
    cases hp
    exact .inr (.inl ⟨hnone, rfl, rfl⟩)
  rename_i i _
  generalize (net.stream.between64 0 (t.destinations.length - 1)).2.between32 0 32767 = draw at hp
  have hdrawn := h.withStream draw.2
  rcases andThen_eq_ok.1 hp with ⟨e', hs, he⟩ | ⟨_, mid, hs, hp⟩
  · cases he
    obtain ⟨rfl, hrouting⟩ := hdrawn.send_refused hs
    exact .inr (.inr ⟨rfl, hrouting⟩)
  · -- once the frame is queued it is counted, and the next production is posted for a later tick
    rcases send_queued hdrawn.coherent hdrawn.onTime hs with ⟨⟨_, he, -⟩, -⟩ | ⟨-, -, next, hq⟩
    · cases he
    have hx' : mid.endpoint n = .ok x := by
      rw [hq.endpoint]
      exact hx
    obtain ⟨r, w, -, -, hset⟩ := hq
    have hcounted := (count_produced hset.coherent hset.onTime hx' ht hp).1
    cases hcounted

/-- A source that meets an error has at most drawn the frame. -/
lemma Sound.produce_fails (h : net.Sound) (hp : net.produce n = .ok (.error e, net')) :
    net' = { net with stream := net'.stream } ∧ e.cause? = none := by
  obtain ⟨site, x, -, -, ⟨-, rfl, rfl⟩ | ⟨t, -, hrefused⟩⟩ := h.production_refused hp
  · exact ⟨rfl, rfl⟩
  rcases hrefused with ⟨-, rfl, rfl⟩ | ⟨-, rfl, rfl⟩ | ⟨hleft, ⟨medium, rfl⟩ | ⟨iface, destination, rfl⟩⟩
  · exact ⟨rfl, rfl⟩
  · exact ⟨rfl, rfl⟩
  · exact ⟨hleft, rfl⟩
  · exact ⟨hleft, rfl⟩

/-- The event that comes first is fired and refused. It is a production or a frame to be sent on, and the
network `left` is what `net` was before, without this event, and with the stream moved on by what was drawn. -/
structure Refused (net : Network) (id : EventId) (event : Event) (e : NetworkError) (left : Network) : Prop where
  first : net.scheduler.popDue = some ((id, event), (net.scheduler.drop id).2)
  kind : (∃ n, event = .produce n) ∨ ∃ i f, event = .forward i f
  fired : fire { net with scheduler := (net.scheduler.drop id).2 } event = .ok (.error e, left)
  left_eq : left = { net with scheduler := (net.scheduler.drop id).2, stream := left.stream }
  agenda : net.scheduler.agenda = (net.now, event) :: left.scheduler.agenda

/-- Timers run out without an error. -/
lemma Sound.timer_fires {k : Timer} (h : net.Sound) (hf : net.Fires m result)
    (hm : m.cause = .event (.timer i k)) : result = .ok () := by
  obtain ⟨id, event, scheduler, hp, hc, hcause, hfire⟩ := hf
  cases hcause.symm.trans hm
  obtain ⟨-, hcoh, hon, -⟩ := h.pop_timer hp hc
  exact (expire_moved hcoh hon hfire).1

/-- If an event meets an error, it is refused. -/
lemma Sound.fires_fails (h : net.Sound) (hf : net.Fires m (.error e)) :
    ∃ id event, net.Refused id event e m.after ∧ m.cause = .event event ∧ e.cause? = none := by
  have htimer : ∀ i k, m.cause ≠ .event (.timer i k) := by
    intro i k hm
    cases h.timer_fires hf hm
  obtain ⟨id, event, scheduler, hp, hc, hcause, hfire⟩ := hf
  have hother : ∀ i k, event ≠ .timer i k := by
    rintro i k rfl
    exact htimer i k hcause
  obtain ⟨hbefore, -⟩ := Network.pop_other h.coherent h.onTime hp hc hother
  have hsound := h.pop_other hp hc hother
  obtain ⟨time, hpend, -, hagenda⟩ := Scheduler.agenda_popDue h.coherent.filed hp
  obtain rfl := Scheduler.popDue_eq_drop h.coherent.filed hp
  -- the event was due right now
  have hnow := h.onTime.pending_now hp
  cases h.coherent.filed.place_unique hpend hnow rfl
  rw [hbefore] at hfire hsound
  have hleft : m.after = { net with scheduler := (net.scheduler.drop id).2, stream := m.after.stream } ∧
      ((∃ n, event = .produce n) ∨ ∃ i f, event = .forward i f) ∧ e.cause? = none := by
    cases event with
    | produce n =>
      obtain ⟨hleft, hnone⟩ := hsound.produce_fails hfire
      exact ⟨hleft, .inl ⟨n, rfl⟩, hnone⟩
    | timer i k => exact absurd rfl (hother i k)
    | forward i f =>
      obtain ⟨hleft, hnone⟩ := hsound.send_fails hfire
      refine ⟨?_, .inr ⟨i, f, rfl⟩, hnone⟩
      rw [hleft]
  obtain ⟨hleft, hkind, hnone⟩ := hleft
  have hqueue : m.after.scheduler = (net.scheduler.drop id).2 := by rw [hleft]
  exact ⟨id, event, ⟨hp, hkind, hfire, hleft, by rw [hqueue]; exact hagenda⟩, hcause, hnone⟩

/-- A step that ends with an error, though something was pending, has fired some events of the tick, and was
refused the next one. -/
lemma Sound.step_fails (h : net.Sound) (ht : net.scheduler.nextTime? = some time)
    (hs : net.step fuel = .ok (.error e, net')) :
    ∃ fired cur id event, Firings { net with scheduler := net.scheduler.advanceTo time } fired cur ∧
      cur.Refused id event e net' ∧ cur.now = time ∧ e.cause? = none := by
  rcases step_eq_ok hs with ⟨hnone, -⟩ | ⟨time', result, ht', hd, hres⟩
  · cases hnone.symm.trans ht
  cases ht'.symm.trans ht
  obtain ⟨-, hsound, hnow⟩ := h.turn_to ht
  rcases drain_firings hd with ⟨rfl, -⟩ | ⟨e', fired, cur, m, rfl, -, hfired, hfails, rfl⟩
  · cases hres
  · cases hres
    obtain ⟨hcur, hstand, -⟩ := hfired.stand hsound
    obtain ⟨id, event, hrefused, -, hnone⟩ := hcur.fires_fails hfails
    exact ⟨fired, cur, id, event, hfired, hrefused, hstand.trans hnow, hnone⟩

/-- In the middle of a tick a step goes on where the last one ended. -/
lemma step_goes_on (hnow : net.now = time) (hfirst : net.FirstTick time) :
    net.step fuel = andThen (drain fuel net) fun _ left => .ok (.ok time, left) := by
  obtain ⟨⟨due, e, hp, rfl⟩, hmin⟩ := hfirst
  cases ht : net.scheduler.nextTime? with
  | none => exact absurd hp (Scheduler.nextTime?_eq_none.1 ht due e)
  | some next =>
    obtain ⟨⟨due', e', hp', rfl⟩, hmin'⟩ := Scheduler.nextTime?_eq_some ht
    have htime : due'.time = due.time := Nat.le_antisymm (hmin' hp) (hmin _ _ hp')
    have hstill : net.scheduler.advanceTo due'.time = net.scheduler := by
      have hnow : net.scheduler.now = due.time := hnow
      simp [Scheduler.advanceTo, htime, hnow]
    simp only [step, Scheduler.nextTime, ht]
    rw [hstill, htime]

/-- A step of a sound network meets no error of the scheduler but that nothing is pending. -/
lemma Sound.step_error (h : net.Sound) (hs : net.step fuel = .ok (.error e, net')) :
    e.cause? = none ∨ e = .scheduler .noMoreEvents := by
  cases ht : net.scheduler.nextTime? with
  | none =>
    rcases step_eq_ok hs with ⟨-, hres, -⟩ | ⟨time, result, ht', -⟩
    · cases hres
      exact .inr rfl
    · cases ht'.symm.trans ht
  | some time =>
    obtain ⟨_, _, _, _, -, -, -, hnone⟩ := h.step_fails ht hs
    exact .inl hnone

/-- So do steps in a row. -/
lemma Sound.stepWhile_error {goesOn : Nat → Bool} (h : net.Sound)
    (hs : stepWhile goesOn fuel steps net = .ok (.error e, net')) :
    e.cause? = none ∨ e = .scheduler .noMoreEvents := by
  induction steps generalizing net with
  | zero => cases hs
  | succ steps ih =>
    unfold stepWhile at hs
    split at hs
    · cases hs
    split at hs
    · rcases andThen_eq_ok.1 hs with ⟨e', hstep, he⟩ | ⟨time, mid, hstep, hs⟩
      · cases he
        exact h.step_error hstep
      · obtain ⟨-, hmid, -⟩ := h.step_ends hstep
        exact ih hmid hs
    · cases hs

/-- To edit traffic meets no error of the scheduler. -/
lemma editTraffic_error {edit : Traffic → Traffic}
    (he : net.editTraffic n edit = .ok (.error e, net')) : e.cause? = none := by
  simp only [editTraffic, bind_eq_ok] at he
  obtain ⟨x, -, site, -, he⟩ := he
  split at he <;> cases he
  rfl

/-- Whatever is called, the only error that has to do with the scheduler is that nothing is pending. -/
lemma Op.apply_error {op : Op} (h : net.Sound) (ha : op.apply fuel net = .ok (.error e, net')) :
    e.cause? = none ∨ e = .scheduler .noMoreEvents := by
  cases op with
  | addVariate | setVariate | addNode | addSource | connectInRange | startTrace | stopTrace | reseed => cases ha
  | setPeriod | setMessageLength | addDestination => exact .inl (editTraffic_error ha)
  | addInterface | addMember | put =>
    simp only [apply, bind_eq_ok] at ha
    obtain ⟨_, -, ha⟩ := ha
    cases ha
  | initRun => cases initRun_ends ha
  | produce n => exact .inl (h.produce_fails ha).2
  | send i f => exact .inl (h.send_fails ha).2
  | receive i f => cases (receive_settled h.coherent h.onTime ha).1
  | broadcast i f => cases (broadcast_hears h.coherent h.onTime ha).1
  | step =>
    obtain ⟨answer, hs, hres⟩ := done_eq_ok ha
    cases answer with
    | error e' =>
      cases hres
      exact h.step_error hs
    | ok time => cases hres
  | runTo | runUntilIdle =>
    obtain ⟨answer, hs, hres⟩ := done_eq_ok ha
    rcases andThen_eq_ok.1 hs with ⟨e', hw, rfl⟩ | ⟨_, mid, -, hs⟩
    · cases hres
      exact h.stepWhile_error hw
    · cases hs
      cases hres

/-- A frame that is refused changes nothing, and a production that is refused nothing but the random stream. If a step
meets an error at an event, the events before it have fired, it is refused, and all others still wait in their order:
the clock stands at the tick, where the next step goes on. No timer, and no frame that is heard, leads to an error, and
none ever says that an event was posted too late. -/
theorem Reachable.failures_atomic (h : net.Reachable) :
    (∀ i f e net', net.send i f = .ok (.error e, net') → net' = net) ∧
      (∀ n e net', net.produce n = .ok (.error e, net') → net' = { net with stream := net'.stream }) ∧
      (∀ fuel time e net', net.scheduler.nextTime? = some time → net.step fuel = .ok (.error e, net') →
        ∃ fired cur id event, Firings { net with scheduler := net.scheduler.advanceTo time } fired cur ∧
          cur.Refused id event e net' ∧ cur.now = time ∧ net'.now = time ∧
          (net'.FirstTick time → ∀ fuel, net'.step fuel =
            andThen (drain fuel net') fun _ left => .ok (.ok time, left))) ∧
      (∀ time fired cur m result i k, net.scheduler.nextTime? = some time →
        Firings { net with scheduler := net.scheduler.advanceTo time } fired cur → cur.Fires m result →
        m.cause = .event (.timer i k) → result = .ok ()) ∧
      (∀ i f result net', net.receive i f = .ok (result, net') → result = .ok ()) ∧
      (∀ i f result net', net.broadcast i f = .ok (result, net') → result = .ok ()) ∧
      ∀ requested now, net.scheduler.nextTime ≠ .error (.inThePast requested now) ∧
        ∀ (op : Op) fuel net', op.apply fuel net ≠ .ok (.error (.scheduler (.inThePast requested now)), net') := by
  have hsound := h.sound
  refine ⟨fun _ _ _ _ hs => (hsound.send_fails hs).1, fun _ _ _ hp => (hsound.produce_fails hp).1, ?_, ?_, ?_,
    ?_, ?_⟩
  · intro fuel time e net' ht hs
    obtain ⟨fired, cur, id, event, hfired, hrefused, hnow, -⟩ := hsound.step_fails ht hs
    have hclock : net'.now = time := by
      rw [hrefused.left_eq]
      exact (Scheduler.now_drop _ _).trans hnow
    exact ⟨fired, cur, id, event, hfired, hrefused, hnow, hclock, fun hfirst _ => step_goes_on hclock hfirst⟩
  · intro time fired cur m result i k ht hfired hf hm
    obtain ⟨-, hturned, -⟩ := hsound.turn_to ht
    obtain ⟨hcur, -⟩ := hfired.stand hturned
    exact hcur.timer_fires hf hm
  · intro i f result net' hr
    exact (receive_settled hsound.coherent hsound.onTime hr).1
  · intro i f result net' hb
    exact (broadcast_hears hsound.coherent hsound.onTime hb).1
  · intro requested now
    constructor
    · intro hnext
      unfold Scheduler.nextTime at hnext
      split at hnext <;> cases hnext
    · intro op fuel net' ha
      rcases Op.apply_error hsound ha with hnone | hidle
      · cases hnone
      · cases hidle

/-- Of three sources that are due at one tick the first produces its frame, and the second has nobody to send
to. What is left of the tick is the third source, and the timer that the first frame has set still runs. -/
theorem second_source_refused : ∃ (net left : Network) (e : NetworkError),
    net.Reachable ∧ net.scheduler.nextTime? = some 5 ∧ net.step 100 = .ok (.error e, left) ∧ left.now = 5 ∧
      left.scheduler.agenda = [(5, .produce ⟨2⟩), (33, .timer ⟨0⟩ .difs)] ∧
      ∃ (cur : Network) (id : EventId) (event : Event), cur.Refused id event e left ∧
        cur.scheduler.agenda = [(5, event), (5, .produce ⟨2⟩), (33, .timer ⟨0⟩ .difs)] := by
  have hend : endsWith (Op.applyAll 100 [.addSource "a" ⟨0, 0⟩ ⟨0⟩ 1, .addSource "c" ⟨0, 0⟩ ⟨0⟩ 1,
      .addSource "d" ⟨0, 0⟩ ⟨0⟩ 1, .addNode "b" ⟨1, 0⟩, .addInterface ⟨0⟩ "ia" 2, .addInterface ⟨3⟩ "ib" 2,
      .addMember ⟨0⟩ ⟨1⟩, .addMember ⟨1⟩ ⟨0⟩, .addDestination ⟨0⟩ ⟨3⟩, .initRun] [] (.new {} 7 [.delta 5]))
      (fun _ net => net.scheduler.nextTime? = some 5 &&
        failsWith (net.step 100) fun left =>
          left.scheduler.agenda = [(5, .produce ⟨2⟩), (33, .timer ⟨0⟩ .difs)]) = true := by
    decide +kernel
  obtain ⟨log, net, hok, htest⟩ := endsWith_iff.1 hend
  have hrun : Run (fun _ _ => True) (Network.new {} 7 [.delta 5]) log net :=
    .of_applyAll .start hok fun _ _ => trivial
  have hreach : net.Reachable := ⟨{}, 7, [.delta 5], log, hrun⟩
  simp only [Bool.and_eq_true, decide_eq_true_eq] at htest
  obtain ⟨hnext, htest⟩ := htest
  obtain ⟨e, left, hfails, htest⟩ := failsWith_iff.1 htest
  have hagenda := of_decide_eq_true htest
  obtain ⟨-, -, hsteps, -⟩ := hreach.failures_atomic
  obtain ⟨fired, cur, id, event, -, hrefused, hnow, hleft, -⟩ := hsteps 100 5 e left hnext hfails
  refine ⟨net, left, e, hreach, hnext, hfails, hleft, hagenda, cur, id, event, hrefused, ?_⟩
  rw [hrefused.agenda, hnow, hagenda]

end CarrierSense.Network
