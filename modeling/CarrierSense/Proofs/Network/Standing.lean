import CarrierSense.Proofs.Network.Changes
import CarrierSense.Proofs.Network.Ticks

/-!
# What a run leaves standing

A network is set up once, and then runs any number of times. A run changes the clock, the radios, the counts
of the nodes, the places of the variates in their sequences, the stream, the counters and the records of the
trace. What was set up stays (`SameSetUp`), however a run ends, so that the next one finds the same network.
-/

namespace CarrierSense.Network

variable {net mid net' : Network} {w : Setting} {i : InterfaceId} {k : Timer} {n : NodeId} {f : Frame}
  {α β : Type}

/-- Timing and topology, the number of radios, the endpoints but for what they count, the laws of the variates,
and whether a trace is recorded are the same. -/
structure SameSetUp (net net' : Network) : Prop where
  timing : net'.timing = net.timing
  topology : net'.topology = net.topology
  radios : net'.radios.size = net.radios.size
  endpoints : net'.endpoints.map Endpoint.reset = net.endpoints.map Endpoint.reset
  laws : net'.variates.map Variate.law = net.variates.map Variate.law
  isOn : net'.recorder.isOn = net.recorder.isOn

/-- Every network has its own set-up. -/
lemma SameSetUp.refl (net : Network) : net.SameSetUp net := ⟨rfl, rfl, rfl, rfl, rfl, rfl⟩

/-- The set-up stays the same through two changes that keep it. -/
lemma SameSetUp.trans (h : net.SameSetUp mid) (h' : mid.SameSetUp net') : net.SameSetUp net' where
  timing := h'.timing.trans h.timing
  topology := h'.topology.trans h.topology
  radios := h'.radios.trans h.radios
  endpoints := h'.endpoints.trans h.endpoints
  laws := h'.laws.trans h.laws
  isOn := h'.isOn.trans h.isOn

/-- To have the same set-up is symmetric. -/
lemma SameSetUp.symm (h : net.SameSetUp net') : net'.SameSetUp net :=
  ⟨h.timing.symm, h.topology.symm, h.radios.symm, h.endpoints.symm, h.laws.symm, h.isOn.symm⟩

/-- A node has an endpoint before and after, and only what it counts may differ. -/
lemma SameSetUp.endpoint {x : Endpoint} (h : net.SameSetUp net') (hx : net.endpoint n = .ok x) :
    ∃ y, net'.endpoint n = .ok y ∧ y.reset = x.reset := by
  have hat := congrArg (fun xs => xs[n.index]?) h.endpoints
  simp only [Array.getElem?_map, endpoint_eq_ok.1 hx, Option.map_some] at hat
  obtain ⟨y, hy, hreset⟩ := Option.map_eq_some_iff.1 hat
  exact ⟨y, endpoint_eq_ok.2 hy, hreset⟩

/-- The traffic of a source differs at most in how many frames it has produced. -/
lemma SameSetUp.traffic {x : Endpoint} {t : Traffic} (h : net.SameSetUp net') (hx : net'.endpoint n = .ok x)
    (ht : x.traffic = some t) : ∃ y produced, net.endpoint n = .ok y ∧ y.traffic = some { t with produced } := by
  obtain ⟨y, hy, hsame⟩ := h.symm.endpoint hx
  have htraffic : y.reset.traffic = some { t with produced := 0 } := by
    rw [hsame]
    simp [Endpoint.reset, ht]
  obtain ⟨s, hs, heq⟩ := Option.map_eq_some_iff.1 htraffic
  refine ⟨y, s.produced, hy, ?_⟩
  rw [hs]
  cases s
  cases t
  simp_all

/-- An operation that comes to its end, with an answer or an error, leaves the set-up as it was. -/
structure Keeps (net : Network) (reply : Except Halt (Reply α)) : Prop where
  left : ∀ {result net'}, reply = .ok (result, net') → net.SameSetUp net'

namespace Keeps

/-- An answer keeps the set-up if the network that comes with it has the same. -/
lemma ok (h : net.SameSetUp net') (answer : Except NetworkError α) : net.Keeps (.ok (answer, net')) := by
  refine ⟨fun he => ?_⟩
  cases he
  exact h

/-- What comes before an operation leaves the set-up as it was, too. -/
lemma of_step {reply : Except Halt (Reply α)} (h : net.SameSetUp mid) (hr : mid.Keeps reply) :
    net.Keeps reply :=
  ⟨fun he => h.trans (hr.left he)⟩

/-- Operations in a row keep the set-up if each does. -/
lemma andThen {reply : Except Halt (Reply α)} {next : α → Network → Except Halt (Reply β)}
    (h : net.Keeps reply) (hn : ∀ a (mid : Network), mid.Keeps (next a mid)) :
    net.Keeps (andThen reply next) := by
  refine ⟨fun he => ?_⟩
  rcases andThen_eq_ok.1 he with ⟨e, hr, -⟩ | ⟨a, mid, hr, hnext⟩
  · exact h.left hr
  · exact (h.left hr).trans ((hn a mid).left hnext)

/-- What is computed before an operation does not touch the set-up. -/
lemma bind {x : Except Halt β} {next : β → Except Halt (Reply α)} (h : ∀ b, x = .ok b → net.Keeps (next b)) :
    net.Keeps (x >>= next) := by
  refine ⟨fun he => ?_⟩
  obtain ⟨b, hb, hnext⟩ := bind_eq_ok.1 he
  exact (h b hb).left hnext

end Keeps

/-- The set-up does not include what a radio does. -/
lemma sameSetUp_setRadio (net : Network) (i : InterfaceId) (r : Radio) : net.SameSetUp (net.setRadio i r) :=
  ⟨rfl, rfl, Array.size_setIfInBounds, rfl, rfl, rfl⟩

/-- An endpoint may be replaced by one that differs in what it counts. -/
lemma sameSetUp_setEndpoint {x y : Endpoint} (hx : net.endpoint n = .ok x) (hy : y.reset = x.reset) :
    net.SameSetUp (net.setEndpoint n y) := by
  refine ⟨rfl, rfl, rfl, ?_, rfl, rfl⟩
  have hget := endpoint_eq_ok.1 hx
  apply Array.ext_getElem?
  intro k
  show ((net.endpoints.setIfInBounds n.index y).map Endpoint.reset)[k]? = _
  rw [Array.getElem?_map, Array.getElem?_map, Array.getElem?_setIfInBounds]
  split
  · rename_i hk
    subst hk
    rw [hget]
    split
    · show some y.reset = some x.reset
      rw [hy]
    · rename_i hlt
      exact absurd (Array.getElem?_eq_some_iff.1 hget).1 hlt
  · rfl

/-- Variates may move on within their sequences. -/
lemma SameLaws.map_law (h : net.SameLaws net') :
    net'.variates.map Variate.law = net.variates.map Variate.law := by
  apply Array.ext_getElem?
  intro k
  rw [Array.getElem?_map, Array.getElem?_map]
  exact h k

/-- Posts keep the set-up. -/
lemma withPost_keeps (post : Except SchedulerError (EventId × Scheduler Event)) :
    net.Keeps (net.withPost post) := by
  unfold withPost
  split
  · exact .ok (.refl _) _
  · apply Keeps.ok
    exact ⟨rfl, rfl, rfl, rfl, rfl, rfl⟩

/-- A frame that is handed to its node changes what the node counts, and that is not part of the set-up. -/
lemma put_sameSetUp (h : net.put n = .ok net') : net.SameSetUp net' := by
  obtain ⟨x, hx, rfl⟩ := put_eq_ok h
  have hset := sameSetUp_setEndpoint hx (y := x.took 1) rfl
  exact ⟨hset.timing, hset.topology, hset.radios, hset.endpoints, hset.laws, hset.isOn⟩

/-- Nothing that radios do changes the set-up. -/
lemma sameSetUp_turnClosed : TurnClosed SameSetUp where
  refl := .refl
  trans := .trans
  radio := sameSetUp_setRadio
  count _ _ := ⟨rfl, rfl, rfl, rfl, rfl, rfl⟩
  note net record := ⟨rfl, rfl, rfl, rfl, rfl, net.recorder.isOn_note record⟩
  put := put_sameSetUp
  drop _ _ := ⟨rfl, rfl, rfl, rfl, rfl, rfl⟩
  post _ _ := ⟨rfl, rfl, rfl, rfl, rfl, rfl⟩

/-- Effects in a row keep the set-up. -/
lemma performAll_keeps (w : Setting) (es : List Effect) : net.Keeps (net.performAll w es) :=
  ⟨sameSetUp_turnClosed.performAll⟩

/-- A turn that is carried out keeps the set-up. -/
lemma settle_keeps (w : Setting) (t : Turn) : net.Keeps (net.settle w t) :=
  ⟨sameSetUp_turnClosed.settle⟩

/-- What a radio does keeps the set-up. -/
lemma act_keeps (i : InterfaceId) (move : Setting → Turn → Turn) : net.Keeps (net.act i move) :=
  ⟨sameSetUp_turnClosed.act⟩

/-- A frame that is put on the air keeps the set-up. -/
lemma broadcast_keeps (i : InterfaceId) (f : Frame) : net.Keeps (net.broadcast i f) :=
  ⟨sameSetUp_turnClosed.broadcast⟩

/-- A timer that runs out keeps the set-up. -/
lemma expire_keeps (i : InterfaceId) (k : Timer) : net.Keeps (net.expire i k) :=
  ⟨sameSetUp_turnClosed.expire fun _ _ => ⟨rfl, rfl, rfl, rfl, rfl, rfl⟩⟩

/-- A frame that is queued keeps the set-up. -/
lemma send_keeps (i : InterfaceId) (f : Frame) : net.Keeps (net.send i f) :=
  ⟨sameSetUp_turnClosed.send⟩

/-- To draw a delay moves on a cursor, and no law. -/
lemma drawDelay_sameSetUp {v : VariateId} {delay : Nat} (hd : net.drawDelay v = .ok (delay, net')) :
    net.SameSetUp net' := by
  have hlaws := (drawDelay_sameLaws hd).map_law
  obtain ⟨-, variates, stream, rfl⟩ := drawDelay_eq_ok hd
  exact ⟨rfl, rfl, rfl, rfl, hlaws, rfl⟩

/-- Counting a frame is no change of the set-up. -/
lemma countOne_keeps {x y : Endpoint} {traffic : Traffic} (hy : net.endpoint n = .ok y)
    (hsame : y.reset = x.reset) (ht : x.traffic = some traffic) : net.Keeps (net.countOne n x traffic) := by
  have hcount : net.SameSetUp (net.setEndpoint n
      { x with traffic := some { traffic with produced := traffic.produced + 1 } }) := by
    apply sameSetUp_setEndpoint hy
    rw [hsame]
    simp [Endpoint.reset, ht]
  unfold countOne
  dsimp only
  apply Keeps.of_step hcount
  split
  · exact .ok (.refl _) _
  · apply Keeps.bind
    rintro ⟨delay, mid⟩ hd
    exact .of_step (drawDelay_sameSetUp hd) (withPost_keeps _)

/-- A frame that is produced keeps the set-up. -/
lemma produce_keeps (n : NodeId) : net.Keeps (net.produce n) := by
  refine ⟨fun hp => ?_⟩
  rcases produce_eq_ok hp with ⟨rfl, -⟩ | ⟨site, x, traffic, i, stream, f, -, -, hx, ht, -, -, hp⟩
  · exact .refl _
  have hdraw : net.SameSetUp { net with stream } := ⟨rfl, rfl, rfl, rfl, rfl, rfl⟩
  rcases andThen_eq_ok.1 hp with ⟨e, hs, -⟩ | ⟨_, mid, hs, hp⟩
  · exact hdraw.trans ((send_keeps i f).left hs)
  · have hsent := hdraw.trans ((send_keeps i f).left hs)
    obtain ⟨y, hy, hsame⟩ := hsent.endpoint hx
    exact hsent.trans ((countOne_keeps hy hsame ht).left hp)

/-- Whatever event fires, the set-up stays. -/
lemma fire_keeps (e : Event) : net.Keeps (net.fire e) := by
  cases e with
  | produce n => exact produce_keeps n
  | timer i k => exact expire_keeps i k
  | forward i f => exact send_keeps i f

/-- To clear the timer of an event keeps the set-up. -/
lemma clearTimer_sameSetUp {id : EventId} {e : Event} (hc : net.clearTimer id e = .ok net') :
    net.SameSetUp net' := by
  rcases clearTimer_eq_ok hc with rfl | ⟨i, k, r, -, rfl⟩
  · exact .refl _
  · exact sameSetUp_setRadio _ _ _

/-- The events of a tick keep the set-up, by induction over the fuel. -/
lemma drain_keeps (fuel : Nat) : net.Keeps (drain fuel net) := by
  induction fuel generalizing net with
  | zero =>
    refine ⟨fun hd => ?_⟩
    cases hd
  | succ fuel ih =>
    unfold drain
    split
    · exact .ok (.refl _) _
    · rename_i id event scheduler _
      apply Keeps.bind
      intro mid hc
      have hpopped : net.SameSetUp { net with scheduler } := ⟨rfl, rfl, rfl, rfl, rfl, rfl⟩
      apply Keeps.of_step (hpopped.trans (clearTimer_sameSetUp hc))
      apply Keeps.andThen (fire_keeps event)
      intro _ after
      exact ih

/-- A step keeps the set-up. -/
lemma step_keeps (fuel : Nat) : net.Keeps (net.step fuel) := by
  unfold step
  split
  · exact .ok (.refl _) _
  · rename_i time _
    have hmoved : net.SameSetUp { net with scheduler := net.scheduler.advanceTo time } :=
      ⟨rfl, rfl, rfl, rfl, rfl, rfl⟩
    apply Keeps.of_step hmoved
    apply Keeps.andThen (drain_keeps fuel)
    intro _ mid
    exact .ok (.refl _) _

/-- Steps in a row keep the set-up, by induction over their number. -/
lemma stepWhile_keeps (goesOn : Nat → Bool) (fuel steps : Nat) :
    net.Keeps (stepWhile goesOn fuel steps net) := by
  induction steps generalizing net with
  | zero =>
    refine ⟨fun hs => ?_⟩
    cases hs
  | succ steps ih =>
    unfold stepWhile
    split
    · exact .ok (.refl _) _
    · split
      · apply Keeps.andThen (step_keeps fuel)
        intro _ mid
        exact ih
      · exact .ok (.refl _) _

/-- A run up to a limit keeps the set-up. -/
lemma runTo_keeps (fuel limit : Nat) : net.Keeps (net.runTo fuel limit) := by
  apply Keeps.andThen (stepWhile_keeps _ fuel fuel)
  intro _ mid
  apply Keeps.ok
  exact ⟨rfl, rfl, rfl, rfl, rfl, rfl⟩

/-- A reset turns back what the set-up leaves out. -/
lemma reset_sameSetUp (net : Network) : net.SameSetUp net.reset := by
  have hlaws := (reset_sameLaws net).map_law
  obtain ⟨variates, hr⟩ := reset_eq net
  rw [hr] at hlaws ⊢
  refine ⟨rfl, rfl, Array.size_map .., ?_, hlaws, rfl⟩
  show (net.endpoints.map Endpoint.reset).map Endpoint.reset = _
  have htwice : Endpoint.reset ∘ Endpoint.reset = Endpoint.reset := by
    funext x
    simp [Endpoint.reset, Function.comp_def]
  rw [Array.map_map, htwice]

/-- The first posts of a run keep the set-up. -/
lemma startAll_keeps (nodes : List NodeId) : net.Keeps (net.startAll nodes) :=
  ⟨startAll_closed .refl .trans drawDelay_sameSetUp (withPost_keeps _).left⟩

/-- The start of a run leaves the set-up as it was. -/
theorem initRun_keeps : net.Keeps net.initRun :=
  .of_step (reset_sameSetUp net) (startAll_keeps _)

/-- Whatever event fires, the set-up stays as it was. -/
theorem Fires.sameSetUp {m : Moment} {result : Except NetworkError Unit} (hf : net.Fires m result) :
    net.SameSetUp m.before ∧ m.before.SameSetUp m.after := by
  obtain ⟨id, event, scheduler, -, hc, -, hfire⟩ := hf
  have hpopped : net.SameSetUp { net with scheduler } := ⟨rfl, rfl, rfl, rfl, rfl, rfl⟩
  exact ⟨hpopped.trans (clearTimer_sameSetUp hc), (fire_keeps event).left hfire⟩

/-- Every interface has a radio, and every radio belongs to an interface. -/
def Fitted (net : Network) : Prop := net.radios.size = net.topology.interfaces.size

/-- Whether interfaces and radios belong together is a matter of the set-up. -/
lemma SameSetUp.fitted (h : net.SameSetUp net') (hn : net.Fitted) : net'.Fitted := by
  unfold Fitted
  rw [h.radios, h.topology]
  exact hn

/-- In a fitted network every interface has a radio. -/
lemma Fitted.radio {iface : Interface Float} (h : net.Fitted) (hi : net.topology.interface i = .ok iface) :
    ∃ r, net.radio i = .ok r := by
  have hlt := (Array.getElem?_eq_some_iff.1 (Topology.interface_eq_ok.1 hi)).1
  rw [← h] at hlt
  exact ⟨_, radio_eq_ok.2 (Array.getElem?_eq_getElem hlt)⟩

/-- In a fitted network every radio has an interface. -/
lemma Fitted.interface {r : Radio} (h : net.Fitted) (hr : net.radio i = .ok r) :
    ∃ iface, net.topology.interface i = .ok iface := by
  have hlt := (Array.getElem?_eq_some_iff.1 (radio_eq_ok.1 hr)).1
  rw [h] at hlt
  exact ⟨_, Topology.interface_eq_ok.2 (Array.getElem?_eq_getElem hlt)⟩

/-- Operations that fire no events keep a network fitted, those that build it included. -/
lemma Fitted.apply {op : Op} {fuel : Nat} {result : Except NetworkError Unit} (h : net.Fitted)
    (hop : op.firesEvents = false) (ha : op.apply fuel net = .ok (result, net')) : net'.Fitted := by
  cases op with
  | addVariate | setVariate | addNode | addSource | startTrace | stopTrace | reseed =>
    cases ha
    exact h
  | setPeriod | setMessageLength | addDestination =>
    rcases editTraffic_eq_ok ha with rfl | ⟨x, traffic, -, -, rfl⟩ <;> exact h
  | addInterface n name radius =>
    simp only [Op.apply, addInterface, Topology.addInterface, bind_eq_ok] at ha
    obtain ⟨_, ⟨_, ⟨site, -, ht⟩, hi⟩, ha⟩ := ha
    cases ht
    cases hi
    cases ha
    show (net.radios.push _).size = (net.topology.interfaces.push _).size
    rw [Array.size_push, Array.size_push, h]
  | addMember m i =>
    simp only [Op.apply, addMember, Topology.addMember, bind_eq_ok] at ha
    obtain ⟨_, ⟨_, ⟨medium, -, ht⟩, hm⟩, ha⟩ := ha
    cases ht
    cases hm
    cases ha
    exact h
  | connectInRange =>
    cases ha
    show net.radios.size = net.topology.connectInRange.interfaces.size
    rw [(Topology.connectInRange_same net.topology).2]
    exact h
  | initRun => exact (initRun_keeps.left ha).fitted h
  | produce n => exact ((produce_keeps n).left ha).fitted h
  | put n =>
    obtain ⟨mid, hp, ha⟩ := bind_eq_ok.1 ha
    cases ha
    exact (put_sameSetUp hp).fitted h
  | send i f => exact ((send_keeps i f).left ha).fitted h
  | receive i f => exact ((act_keeps i _).left ha).fitted h
  | broadcast i f => exact ((broadcast_keeps i f).left ha).fitted h
  | step | runTo | runUntilIdle => cases hop

/-- In every reachable network the radios belong to the interfaces. -/
theorem Reachable.fitted (h : net.Reachable) : net.Fitted := by
  obtain ⟨timing, seed, laws, log, hrun⟩ := h
  have hclosed : Closed (fun _ net => net.Fitted) fun _ => True :=
    ⟨fun h _ => h, fun h hf _ => (hf.sameSetUp.1.trans hf.sameSetUp.2).fitted h⟩
  have hnew : (Network.new timing seed laws).Fitted := rfl
  exact hclosed.run (fun h hop _ ha => h.apply hop ha) (fun _ _ => trivial) hnew hrun

end CarrierSense.Network
