import CarrierSense.Proofs.Network.BusyPeriods
import CarrierSense.Proofs.Network.Fuel
import CarrierSense.Proofs.Network.Sources
import CarrierSense.Proofs.Network.Standing
import CarrierSense.Proofs.Network.Worth
import CarrierSense.Proofs.Radio.Unrest

/-!
# Every step ends

Within a tick events give rise to further events, and two radios may hand a frame to and fro. The tick comes to its
end nevertheless, for what its events can still do becomes less with each of them. The `outlook` of a network counts
frames that sources have left to produce, frames that wait to be forwarded, and what radios can still set off. An
event takes from it, or it takes from the `bustle` of the radios, of which there is little at any time. So the
`unrest` of a network, which is made up of both, bounds the number of events in a step, whatever numbers are drawn.
-/

namespace CarrierSense

/-- How many frames the node has left to produce. -/
def Endpoint.left (x : Endpoint) : Nat :=
  match x.traffic with
  | some t => t.maxMessages - t.produced
  | none => 0

/-- A source that makes a frame has one less to make. -/
lemma Endpoint.left_madeOne {x : Endpoint} {t : Traffic} (ht : x.traffic = some t)
    (hmore : t.isExhausted = false) : x.left = x.madeOne.left + 1 := by
  have hlt : t.produced < t.maxMessages := by simpa [Traffic.isExhausted] using hmore
  simp only [left, madeOne, ht, Option.map_some]
  omega

namespace Network

variable {net mid net' before : Network} {w : Setting} {i j : InterfaceId} {k : Timer} {n : NodeId} {r : Radio}
  {s : Sequel} {t : Turn} {f : Frame} {m : Moment} {fuel : Nat} {result : Except NetworkError Unit}

/-- The network is sound, and each acknowledgement that is owed takes the time that the timing gives it. -/
structure Replies (net : Network) : Prop where
  sound : net.Sound
  airtime : ∀ {i a}, a ∈ net.owes i → a.airtime = net.timing.ackDuration

/-- An acknowledgement that comes to be owed is made after the timing. -/
lemma Replies.fires (h : net.Replies) (hf : net.Fires m result) : m.after.Replies := by
  refine ⟨h.sound.fires hf, fun {i a} ha => ?_⟩
  rw [(h.sound.fires_timing hf).2]
  obtain ⟨id, e, scheduler, hp, hc, -, hfire⟩ := hf
  have hold : (∀ j k, e ≠ .timer j k) → m.before.owes = net.owes := by
    intro he
    obtain ⟨hmid, -⟩ := Network.pop_other h.sound.coherent h.sound.onTime hp hc he
    rw [hmid]
    rfl
  cases e with
  | timer j k =>
    obtain ⟨-, r, w, s, t, mid, hF, hnext⟩ := h.sound.fired hp hc hfire
    rcases (hF.news hnext).owed ha with ha | ⟨-, x, -, -, -, rfl⟩
    · exact h.airtime ha
    · rfl
  | produce n =>
    have hs := h.sound.pop_other hp hc (by simp)
    rw [(produce_unanswered hs hfire).owes, hold (by simp)] at ha
    exact h.airtime ha
  | forward j f =>
    have hs := h.sound.pop_other hp hc (by simp)
    rw [(send_unanswered hs hfire).owes, hold (by simp)] at ha
    exact h.airtime ha

/-- No call makes an interface owe an acknowledgement. -/
lemma Replies.apply {op : Op} (h : net.Replies) (hop : op.firesEvents = false)
    (ha : op.apply fuel net = .ok (result, net')) : net'.Replies := by
  refine ⟨h.sound.apply hop ha, fun {i a} hmem => ?_⟩
  rw [h.sound.apply_timing hop ha]
  exact h.airtime ((apply_takesNothing h.sound hop ha i).acks.subset hmem)

/-- The clock moves on without changing what acknowledgements take. -/
lemma Replies.advanceTo {time : Nat} (h : net.Replies) (ha : net.Awaits time) :
    Replies { net with scheduler := net.scheduler.advanceTo time } :=
  ⟨h.sound.advanceTo ha, fun hmem => h.airtime hmem⟩

/-- Another stream does not change what acknowledgements take. -/
lemma Replies.withStream (h : net.Replies) (stream : Stream) : Replies { net with stream } :=
  ⟨h.sound.withStream stream, fun hmem => h.airtime hmem⟩

/-- In every reachable network an acknowledgement takes the time that the timing gives it. -/
lemma Reachable.replies (h : net.Reachable) : net.Replies := by
  obtain ⟨timing, seed, laws, log, hrun⟩ := h
  have hclosed : Closed (fun _ net => net.Replies) fun _ => True :=
    ⟨fun h ha => h.advanceTo ha, fun h hf _ => h.fires hf⟩
  have hnew : (Network.new timing seed laws).Replies := by
    refine ⟨new_sound timing seed laws, fun {i a} ha => ?_⟩
    simp [owes, radio, Network.new] at ha
  exact hclosed.run (fun h hop _ ha => h.apply hop ha) (fun _ _ => trivial) hnew hrun

/-- What is read off a radio, its alarms and the clock, whatever handles the radio keeps. -/
structure Gauge where
  read : Radio → Alarms → Nat → Nat
  blind : ∀ r timers d now, read { r with timers } d now = read r d now

/-- What is read at an interface. -/
def gauge (net : Network) (q : Gauge) (i : InterfaceId) : Nat :=
  match net.radio i with
  | .ok r => q.read r (net.alarms i) net.now
  | .error _ => 0

/-- The sum of what is read at the interfaces. -/
def total (net : Network) (q : Gauge) : Nat :=
  ∑ i ∈ Finset.range net.topology.interfaces.size, net.gauge q ⟨i⟩

/-- What radios can still set off, as a gauge. -/
def Gauge.outlook : Gauge := ⟨Radio.outlook, fun _ _ _ _ => rfl⟩

/-- The timers that are set, as a gauge. -/
def Gauge.bustle : Gauge := ⟨fun r _ _ => r.bustle, fun _ _ _ _ => rfl⟩

variable {q : Gauge}

/-- The gauge of an interface is read off its radio. -/
lemma gauge_eq (hr : net.radio i = .ok r) : net.gauge q i = q.read r (net.alarms i) net.now := by
  simp only [gauge, hr]

/-- The total depends on nothing but the gauges of the interfaces. -/
lemma total_congr (ht : net'.topology = net.topology) (h : ∀ i, net'.gauge q i = net.gauge q i) :
    net'.total q = net.total q := by
  unfold total
  rw [ht]
  exact Finset.sum_congr rfl fun i _ => h ⟨i⟩

/-- If only one interface has another reading, the total differs by that. -/
lemma total_change (ht : net'.topology = net.topology) (hi : i.index < net.topology.interfaces.size)
    (h : ∀ j, j ≠ i → net'.gauge q j = net.gauge q j) :
    net'.total q + net.gauge q i = net.total q + net'.gauge q i := by
  unfold total
  rw [ht]
  refine sum_change (a := fun i => net.gauge q ⟨i⟩) (b := fun i => net'.gauge q ⟨i⟩) hi fun j hj => ?_
  exact h _ fun he => hj (congrArg InterfaceId.index he)

/-- Nothing is read otherwise where the radio, its alarms and the clock are as before. -/
lemma gauge_congr (hr : net'.radio i = net.radio i) (hal : net'.alarms i = net.alarms i)
    (hnow : net'.now = net.now) : net'.gauge q i = net.gauge q i := by
  unfold gauge
  rw [hr, hal, hnow]

/-- A turn that is carried out shows in the gauge of its own interface. -/
lemma Settled.gauge_self (hs : net.Settled w t net') :
    net'.gauge q w.self = q.read t.radio (t.alarms (net.alarms w.self)) net.now := by
  obtain ⟨timers, hself⟩ := hs.radio_self
  rw [gauge_eq hself, q.blind, hs.alarms_self, hs.now]
  rfl

/-- A turn that is carried out shows in no other gauge. -/
lemma Settled.gauge_other (hs : net.Settled w t net') (hj : j ≠ w.self) : net'.gauge q j = net.gauge q j :=
  gauge_congr (hs.radio_other hj) (hs.alarms_other hj) hs.now

/-- An interface that is looked up with success is one of the network. -/
lemma setting_lt (hw : net.setting i = .ok w) : i.index < net.topology.interfaces.size := by
  obtain ⟨iface, hi, -⟩ := setting_eq_ok.1 hw
  exact (Array.getElem?_eq_some_iff.1 (Topology.interface_eq_ok.1 hi)).1

/-- The total differs by what the turn makes of its own interface. -/
lemma Settled.total (hs : net.Settled w t net') (hi : w.self.index < net.topology.interfaces.size) :
    net'.total q + net.gauge q w.self =
      net.total q + q.read t.radio (t.alarms (net.alarms w.self)) net.now := by
  rw [← hs.gauge_self]
  exact total_change hs.topology hi fun _ hj => hs.gauge_other hj

/-- Whoever hears a frame, there is no more to set off than before. -/
lemma Hears.total {members : List InterfaceId} (hh : Hears net f members net') (h : net.Sound) :
    net'.total .outlook = net.total .outlook := by
  induction hh with
  | nil => rfl
  | @cons net mid net' i r w f rest hr hw hs _ ih =>
    refine (ih (h.receive hr hw hs)).trans ?_
    have hi := setting_lt hw
    obtain rfl := setting_self hw
    have hchange := hs.total (q := .outlook) hi
    have hsame : Gauge.outlook.read (Radio.receive w f { radio := r }).radio
        ((Radio.receive w f { radio := r }).alarms (net.alarms w.self)) net.now =
          Gauge.outlook.read r (net.alarms w.self) net.now :=
      Radio.receive_outlook f (h.radio hr) (h.coherent.slot_isSome hr .backoff) net.now
    rw [gauge_eq hr, hsame] at hchange
    exact Nat.add_right_cancel hchange

/-- A frame that joins a queue can be launched. -/
lemma Queued.total (hq : net.Queued i f net') :
    net'.topology = net.topology ∧ net'.total .outlook = net.total .outlook + 1 := by
  obtain ⟨r, w, hr, hw, hs⟩ := hq
  have hi := setting_lt hw
  obtain rfl := setting_self hw
  have hchange := hs.total (q := .outlook) hi
  have hmore : Gauge.outlook.read (Radio.enqueue w f r).radio
      ((Radio.enqueue w f r).alarms (net.alarms w.self)) net.now =
        Gauge.outlook.read r (net.alarms w.self) net.now + 1 :=
    Radio.enqueue_outlook w f r (net.alarms w.self) net.now
  rw [gauge_eq hr, hmore] at hchange
  exact ⟨hs.topology, by omega⟩

/-- At most five timers are set at each interface, by their ranks. -/
lemma bustle_le (net : Network) : net.total .bustle ≤ 5 * net.topology.interfaces.size := by
  have hle : ∀ i ∈ Finset.range net.topology.interfaces.size, net.gauge .bustle ⟨i⟩ ≤ 5 := by
    intro i _
    unfold gauge
    split
    · exact Radio.bustle_le _
    · exact Nat.zero_le _
  have hsum := Finset.sum_le_card_nsmul _ _ _ hle
  rw [Finset.card_range, nsmul_eq_mul, Nat.mul_comm] at hsum
  exact hsum

/-- How many frames a node has left to produce. -/
def left (net : Network) (n : NodeId) : Nat :=
  match net.endpoint n with
  | .ok x => x.left
  | .error _ => 0

/-- What a node has left is read off its endpoint. -/
lemma left_eq {x : Endpoint} (hx : net.endpoint n = .ok x) : net.left n = x.left := by simp only [left, hx]

/-- Networks with the same sources have as many frames left to produce. -/
lemma SameSources.left (h : net.SameSources net') (n : NodeId) : net'.left n = net.left n := by
  have hn := h.traffic n
  unfold Network.left Endpoint.left
  cases hx : net'.endpoint n <;> cases hy : net.endpoint n <;> rw [hx, hy] at hn <;> simp_all [Except.map]

/-- The productions of a node that are pending, and those to come, each of which is to queue a frame. -/
def prospects (net : Network) (n : NodeId) : Nat := net.productions n + 2 * net.left n

/-- What sources can still produce. -/
def supply (net : Network) : Nat := ∑ n ∈ Finset.range net.topology.nodes.size, net.prospects ⟨n⟩

/-- What events can still set off before the tick is over. -/
def outlook (net : Network) : Nat :=
  net.supply + 2 * net.scheduler.waiting Event.isForward + net.total .outlook

/-- How many events can still fire before the tick is over. -/
def unrest (net : Network) : Nat :=
  (5 * net.topology.interfaces.size + 1) * net.outlook + net.total .bustle

/-- There is less to set off, or as much by less timers. -/
inductive Calms (net net' : Network) : Prop where
  | outlook (ht : net'.topology = net.topology) (h : net'.outlook < net.outlook)
  | bustle (ht : net'.topology = net.topology) (h : net'.outlook ≤ net.outlook)
      (hb : net'.total .bustle < net.total .bustle)

/-- What calms a network lowers the count of the events that it can fire. -/
lemma Calms.unrest (h : net.Calms net') : net'.unrest < net.unrest := by
  cases h with
  | outlook ht h =>
    have hle := net'.bustle_le
    unfold Network.unrest
    rw [ht] at hle ⊢
    calc (5 * net.topology.interfaces.size + 1) * net'.outlook + net'.total .bustle
        < (5 * net.topology.interfaces.size + 1) * net'.outlook + (5 * net.topology.interfaces.size + 1) := by omega
      _ = (5 * net.topology.interfaces.size + 1) * (net'.outlook + 1) := (Nat.mul_succ _ _).symm
      _ ≤ (5 * net.topology.interfaces.size + 1) * net.outlook := Nat.mul_le_mul_left _ h
      _ ≤ _ := Nat.le_add_right _ _
  | bustle ht h hb =>
    unfold Network.unrest
    rw [ht]
    exact Nat.add_lt_add_of_le_of_lt (Nat.mul_le_mul_left _ h) hb

/-- The supply depends on nothing but topology and sources. -/
lemma supply_congr (ht : net'.topology = net.topology) (hs : net.SameSources net') : net'.supply = net.supply := by
  unfold supply prospects
  rw [ht]
  refine Finset.sum_congr rfl fun n _ => ?_
  rw [hs.productions, hs.left]

/-- If one node changes its prospects, then the supply changes by that node. -/
lemma supply_change (ht : net'.topology = net.topology) (hn : n.index < net.topology.nodes.size)
    (h : ∀ m, m ≠ n → net'.prospects m = net.prospects m) :
    net'.supply + net.prospects n = net.supply + net'.prospects n := by
  unfold supply
  rw [ht]
  refine sum_change (a := fun n => net.prospects ⟨n⟩) (b := fun n => net'.prospects ⟨n⟩) hn fun m hm => ?_
  exact h _ fun he => hm (congrArg NodeId.index he)

/-- What leaves radios and clock alone changes no total. -/
lemma Aside.total (h : net.Aside net') (ht : net'.topology = net.topology) : net'.total q = net.total q :=
  total_congr ht fun j => gauge_congr (congrFun h.radio j) (congrFun h.alarms j) h.now

section Events

variable {id : EventId} {scheduler : Scheduler Event}

/-- The radio whose timer has run out can do less than before. -/
lemma Fired.wanes (hF : Fired net before i k r w s t mid) (h : net.Replies) (hack : 1 ≤ net.timing.ackDuration) :
    Radio.Wanes w r (net.alarms i) k s t := by
  obtain ⟨timers, htwin⟩ := hF.twin
  have hacks : ∀ a ∈ r.acks, 1 ≤ a.airtime := by
    intro a ha
    have hmem : a ∈ net.owes i := by
      rw [owes_eq htwin]
      exact ha
    rw [h.airtime hmem]
    exact hack
  rw [hF.sequel]
  exact Radio.expire_wanes (hF.timing ▸ hack) hacks hF.sound (hF.now ▸ hF.due) hF.ends

/-- The total differs by what the radio has come to whose timer has run out. -/
lemma Fired.total (hF : Fired net before i k r w s t mid) (q : Gauge) :
    mid.total q + q.read r (net.alarms i) w.now =
      net.total q + q.read t.radio (t.alarms ((net.alarms i).set k none)) w.now := by
  obtain ⟨timers, htwin⟩ := hF.twin
  have hi : i.index < net.topology.interfaces.size := hF.topology ▸ setting_lt hF.setting
  obtain rfl := hF.self
  rw [hF.now, ← q.blind r timers, ← gauge_eq htwin]
  exact hF.settled.total hi

/-- No more frames come to wait than the turn hands on. -/
lemma Fired.waiting_le (hF : Fired net before i k r w s t mid) (hnext : before.Follows i s mid net') :
    net'.scheduler.waiting Event.isForward ≤
      net.scheduler.waiting Event.isForward + t.handedOn.length := by
  rw [(hnext.undisturbed hF.after).waiting fun _ _ => rfl, hF.settled.waiting fun _ _ => rfl, Turn.countP_posts]
  exact Nat.add_le_add_left List.countP_le_length _

/-- A frame that others hear changes nothing of what radios can set off. -/
lemma Follows.total (hnext : before.Follows i s mid net') (h : mid.Sound) :
    net'.total .outlook = mid.total .outlook := by
  cases hnext with
  | silent _ heq => rw [heq]
  | transmit _ _ hh => exact hh.total h

/-- A timer that runs out takes part of what its radio could do, and this is more than it hands to others. -/
lemma Replies.timer_calms (h : net.Replies) (hack : 1 ≤ net.timing.ackDuration)
    (hp : net.scheduler.popDue = some ((id, .timer i k), scheduler))
    (hc : { net with scheduler }.clearTimer id (.timer i k) = .ok before)
    (he : before.expire i k = .ok (result, net')) (ht : net'.topology = net.topology)
    (hsupply : net'.supply = net.supply) : net.Calms net' := by
  obtain ⟨-, r, w, s, t, mid, hF, hnext⟩ := h.sound.fired hp hc he
  have hwait := hF.waiting_le hnext
  have hoverheard := hnext.total hF.after
  have houtlook : mid.total .outlook + r.outlook (net.alarms i) w.now =
      net.total .outlook + t.radio.outlook (t.alarms ((net.alarms i).set k none)) w.now := hF.total .outlook
  cases hF.wanes h hack with
  | spends hless =>
    apply Calms.outlook ht
    unfold outlook
    omega
  | calms silent hhand hle hless =>
    obtain rfl := hnext.eq_of_silent silent
    have hbustle : net'.total .bustle + r.bustle = net.total .bustle + t.radio.bustle := hF.total .bustle
    rw [hhand, List.length_nil] at hwait
    refine .bustle ht ?_ (by omega)
    unfold outlook
    omega

/-- An event that is no timer is taken out without a trace at the radios. -/
lemma Sound.pop_total (h : net.Sound) {e : Event} (hp : net.scheduler.popDue = some ((id, e), scheduler))
    (hc : { net with scheduler }.clearTimer id e = .ok before) (he : ∀ i k, e ≠ .timer i k) :
    before.topology = net.topology ∧ before.total q = net.total q := by
  obtain ⟨hmid, -, -, hnow, hal, -⟩ := Network.pop_other h.coherent h.onTime hp hc he
  have ht : before.topology = net.topology := by rw [hmid]
  refine ⟨ht, total_congr ht fun j => gauge_congr ?_ (congrFun hal j) hnow⟩
  rw [hmid]
  rfl

/-- A frame that is forwarded joins a queue, and waits no more. -/
lemma Sound.forward_calms (h : net.Sound) (hp : net.scheduler.popDue = some ((id, .forward i f), scheduler))
    (hc : { net with scheduler }.clearTimer id (.forward i f) = .ok before)
    (hs : before.send i f = .ok (.ok (), net')) (ht : net'.topology = net.topology)
    (hsupply : net'.supply = net.supply) : net.Calms net' := by
  obtain ⟨-, hcoh, hon, -, -, -, hpop⟩ := Network.pop_other h.coherent h.onTime hp hc (by simp)
  obtain ⟨-, hbefore⟩ := h.pop_total (q := .outlook) hp hc (by simp)
  rcases send_queued hcoh hon hs with ⟨⟨_, he, -⟩, -⟩ | ⟨-, -, next, hq⟩
  · cases he
  obtain ⟨-, htotal⟩ := hq.total
  have hwait : net.scheduler.waiting Event.isForward = net'.scheduler.waiting Event.isForward + 1 := by
    rw [hq.waiting fun _ _ => rfl]
    exact hpop Event.isForward
  apply Calms.outlook ht
  unfold outlook
  omega

/-- A production that is not refused queues at most one frame. -/
lemma Sound.produce_queues (h : net.Sound) (hp : net.produce n = .ok (result, net'))
    (ht : net'.topology = net.topology) : net'.total .outlook ≤ net.total .outlook + 1 ∧
      net'.scheduler.waiting Event.isForward = net.scheduler.waiting Event.isForward := by
  rcases produce_cases h.coherent h.onTime hp with ⟨ha, -⟩ | ⟨-, i, f, next, hmade⟩
  · rw [ha.total ht]
    exact ⟨Nat.le_succ _, ha.waiting fun _ => rfl⟩
  · obtain ⟨mid, hq, ha, htop⟩ := hmade.queued
    obtain ⟨-, htotal⟩ := hq.total
    rw [ha.total htop, htotal]
    exact ⟨Nat.le_refl _, (ha.waiting fun _ => rfl).trans (hq.waiting fun _ _ => rfl)⟩

/-- A source has less to produce than before, and may have queued a frame. -/
lemma Sound.produce_calms (h : net.Sound) (hp : net.scheduler.popDue = some ((id, .produce n), scheduler))
    (hc : { net with scheduler }.clearTimer id (.produce n) = .ok before)
    (hf : before.produce n = .ok (.ok (), net')) (ht : net'.topology = net.topology) : net.Calms net' := by
  have hs := h.pop_other hp hc (by simp)
  obtain ⟨-, -, -, -, -, -, hwait⟩ := Network.pop_other h.coherent h.onTime hp hc (by simp)
  obtain ⟨htop, hbefore⟩ := h.pop_total (q := .outlook) hp hc (by simp)
  obtain ⟨hend, hpop⟩ := h.pop_production hp hc
  have hforward : net.scheduler.waiting Event.isForward = before.scheduler.waiting Event.isForward :=
    hwait Event.isForward
  have hn : n.index < net.topology.nodes.size := by
    simp only [Network.produce, bind_eq_ok] at hf
    obtain ⟨site, hsite, -⟩ := hf
    rw [← htop]
    exact (Array.getElem?_eq_some_iff.1 (Topology.node_eq_ok.1 hsite)).1
  have hleft : ∀ m, before.left m = net.left m := fun m => by
    unfold left
    rw [hend]
  obtain ⟨hqueue, hwait'⟩ := hs.produce_queues hf (ht.trans htop.symm)
  apply Calms.outlook ht
  unfold outlook
  rcases produce_eq_ok hf with ⟨rfl, -⟩ | ⟨site, x, t, i, stream, f, -, -, hx, htraffic, hmore, -, -⟩
  · -- the event is gone, and nothing has come of it
    have hchange := supply_change ht hn fun m hm => by
      unfold prospects
      rw [hpop, if_neg hm.symm, hleft]
      rfl
    unfold prospects at hchange
    rw [hpop, if_pos rfl, hleft] at hchange
    omega
  · obtain ⟨hcount, hnext⟩ := produce_productions hs hx htraffic hmore hf
    have hchange := supply_change ht hn fun m hm => by
      unfold prospects left
      rw [hpop, hnext, hcount, hend, if_neg hm.symm, if_neg hm, if_neg fun he => hm he.1.symm]
    have hspent := Endpoint.left_madeOne htraffic hmore
    have hposted : net'.productions n ≤ before.productions n + 1 := by
      rw [hnext]
      split <;> omega
    unfold prospects at hchange
    rw [hpop, if_pos rfl, left_eq (hend ▸ hx), left_eq ((hcount n).trans (if_pos rfl))] at hchange
    omega

end Events

/-- Whatever event fires, less remains to be done in the tick. -/
theorem Replies.fires_calms (h : net.Replies) (hack : 1 ≤ net.timing.ackDuration) (hf : net.Fires m (.ok ())) :
    net.Calms m.after := by
  have ht : m.after.topology = net.topology := (hf.sameSetUp.1.trans hf.sameSetUp.2).topology
  have hsupply : (∀ n, m.cause ≠ .event (.produce n)) → m.after.supply = net.supply :=
    fun hcause => supply_congr ht (h.sound.fires_sameSources hf hcause)
  obtain ⟨id, e, scheduler, hp, hc, hcause, hfire⟩ := hf
  cases e with
  | timer i k => exact h.timer_calms hack hp hc hfire ht (hsupply (by simp [hcause]))
  | forward i f => exact h.sound.forward_calms hp hc hfire ht (hsupply (by simp [hcause]))
  | produce n => exact h.sound.produce_calms hp hc hfire ht

/-- However much fuel there is, the unrest bounds the events that fire, but for one that fails. -/
lemma Replies.moments_le (h : net.Replies) (hack : 1 ≤ net.timing.ackDuration) :
    (drainMoments fuel net).length ≤ net.unrest + 1 := by
  induction fuel generalizing net with
  | zero => exact Nat.zero_le _
  | succ fuel ih =>
    unfold drainMoments
    split
    · exact Nat.zero_le _
    rename_i id event scheduler hpop
    split
    · exact Nat.zero_le _
    rename_i before hclear
    split
    · exact Nat.zero_le _
    · exact Nat.le_add_left _ _
    · rename_i after hfire
      have hf : net.Fires ⟨before, .event event, after⟩ (.ok ()) :=
        ⟨id, event, scheduler, hpop, hclear, rfl, hfire⟩
      have hless := (h.fires_calms hack hf).unrest
      have hrest := ih (h.fires hf) ((h.sound.fires_timing hf).2 ▸ hack)
      exact Nat.succ_le_succ (hrest.trans hless)

/-- Fuel beyond the unrest is enough for all events that are due, and for what they give rise to. -/
lemma Replies.drain_fuelless (h : net.Replies) (hack : 1 ≤ net.timing.ackDuration) (hfuel : net.unrest < fuel) :
    Fuelless (drain fuel net) := by
  induction fuel generalizing net with
  | zero => exact absurd hfuel (Nat.not_lt_zero _)
  | succ fuel ih =>
    unfold drain
    split
    · exact .ok _
    rename_i id event scheduler hpop
    refine .bind (clearTimer_fuelless _ id event) fun before hclear => ?_
    refine .andThen (before.fire_fuelless event) fun _ after hfire => ?_
    have hf : net.Fires ⟨before, .event event, after⟩ (.ok ()) :=
      ⟨id, event, scheduler, hpop, hclear, rfl, hfire⟩
    have hless : after.unrest < net.unrest := (h.fires_calms hack hf).unrest
    exact ih (h.fires hf) ((h.sound.fires_timing hf).2 ▸ hack) (by omega)

/-- A step fires at most `bound` events, with whatever fuel. With more fuel than that it always comes to the same
end, and not for want of fuel: an event has failed, a computation has halted, or no event is due any more. -/
structure EndsWithin (net : Network) (bound : Nat) : Prop where
  moments : ∀ fuel, (stepMoments fuel net).length ≤ bound
  same : ∀ fuel, bound < fuel → net.step fuel = net.step (bound + 1)
  fuelled : net.step (bound + 1) ≠ .error .outOfFuel
  quiet : ∀ fuel time net', net.step fuel = .ok (.ok time, net') → net'.scheduler.popDue = none

/-- After a step nothing is due any more. -/
lemma step_quiet {time : Nat} (hs : net.step fuel = .ok (.ok time, net')) : net'.scheduler.popDue = none := by
  rcases step_eq_ok hs with ⟨-, he, -⟩ | ⟨_, result, -, hd, hres⟩
  · cases he
  rcases drain_firings hd with ⟨-, -, hnone⟩ | ⟨e, fired, cur, m, rfl, -⟩
  · exact hnone
  · cases hres

/-- The unrest at the next tick bounds the events of a step. -/
lemma Replies.endsWithin {time : Nat} (h : net.Replies) (hack : 1 ≤ net.timing.ackDuration)
    (ht : net.scheduler.nextTime? = some time) :
    net.EndsWithin (unrest { net with scheduler := net.scheduler.advanceTo time } + 1) := by
  obtain ⟨⟨due, e, hp, hdue⟩, hmin⟩ := Scheduler.nextTime?_eq_some ht
  have hmoved := h.advanceTo ⟨hmin, .inr ⟨due, e, hp, hdue⟩⟩
  have hack' : 1 ≤ ({ net with scheduler := net.scheduler.advanceTo time } : Network).timing.ackDuration := hack
  have hstep : ∀ fuel, net.step fuel = andThen (drain fuel { net with scheduler := net.scheduler.advanceTo time })
      fun _ net => .ok (.ok time, net) := fun _ => step_of_nextTime ht
  have hmoments : ∀ fuel, stepMoments fuel net =
      drainMoments fuel { net with scheduler := net.scheduler.advanceTo time } := by
    intro fuel
    simp only [stepMoments, ht]
  generalize ({ net with scheduler := net.scheduler.advanceTo time } : Network) = turned
    at hmoved hack' hstep hmoments ⊢
  have henough : ∀ fuel, turned.unrest < fuel → Fuelless (drain fuel turned) := fun _ hfuel =>
    hmoved.drain_fuelless hack' hfuel
  refine ⟨fun fuel => ?_, fun fuel hfuel => ?_, ?_, fun _ _ _ hs => step_quiet hs⟩
  · rw [hmoments]
    exact hmoved.moments_le hack'
  · obtain ⟨more, rfl⟩ := Nat.exists_eq_add_of_lt hfuel
    rw [hstep, hstep, Nat.add_right_comm, drain_more turned (henough _ (by omega))]
  · rw [hstep]
    exact Fuelless.andThen (henough _ (by omega)) fun _ _ _ => .ok _

/-- Where nothing waits, a step is refused. -/
lemma endsWithin_of_idle (ht : net.scheduler.nextTime? = none) : net.EndsWithin 0 := by
  have hstep : ∀ fuel, net.step fuel = .ok (.error (.scheduler .noMoreEvents), net) := by
    intro fuel
    simp only [step, Scheduler.nextTime, ht]
  refine ⟨fun fuel => ?_, fun fuel _ => ?_, ?_, fun _ _ _ hs => step_quiet hs⟩
  · simp only [stepMoments, ht]
    exact Nat.le_refl _
  · rw [hstep, hstep]
  · rw [hstep]
    exact Fuelless.ok _

/-- Every step ends. If an acknowledgement takes any time, then a step of a reachable network fires only so many events,
whatever numbers are drawn in it, and though the timing may be zero otherwise, and delays and frames too. Fuel for as
many events is all that it needs to come to its end. -/
theorem Reachable.steps_terminate (h : net.Reachable) (hack : 1 ≤ net.timing.ackDuration) :
    ∃ bound, ∀ stream, EndsWithin { net with stream } bound := by
  cases ht : net.scheduler.nextTime? with
  | none => exact ⟨0, fun stream => endsWithin_of_idle ht⟩
  | some time =>
    refine ⟨unrest { net with scheduler := net.scheduler.advanceTo time } + 1, fun stream => ?_⟩
    exact (h.replies.withStream stream).endsWithin hack ht

/-- Two radios hear each other, and the node for which the first one has frames hears neither. All that takes time
is an acknowledgement. In the first tick three frames are produced, one of them goes on the air and is taken, waits
to be sent back, and is about to be acknowledged. -/
theorem timeless_step_terminates : ∃ (net : Network) (bound : Nat), net.Reachable ∧
    net.timing = { slot := 0, sifs := 0, ackDuration := 1, windowMin := 1, windowMax := 1 } ∧
      (stepMoments 100 net).length = 8 ∧ 8 ≤ bound ∧ ∀ stream, EndsWithin { net with stream } bound := by
  have hend : endsWith (Op.applyAll 100 [.addSource "a" ⟨0, 0⟩ ⟨0⟩ 3, .addNode "b" ⟨1, 0⟩, .addNode "c" ⟨5, 0⟩,
      .addInterface ⟨0⟩ "ia" 2, .addInterface ⟨1⟩ "ib" 2, .addMember ⟨0⟩ ⟨1⟩, .addMember ⟨1⟩ ⟨0⟩,
      .addDestination ⟨0⟩ ⟨2⟩, .setMessageLength ⟨0⟩ 0, .initRun] []
      (.new { slot := 0, sifs := 0, ackDuration := 1, windowMin := 1, windowMax := 1 } 7 [.delta 0]))
      (fun _ net => (stepMoments 100 net).length = 8 &&
        net.timing = { slot := 0, sifs := 0, ackDuration := 1, windowMin := 1, windowMax := 1 }) = true := by
    decide +kernel
  obtain ⟨log, net, hok, htest⟩ := endsWith_iff.1 hend
  simp only [Bool.and_eq_true, decide_eq_true_eq] at htest
  obtain ⟨hevents, htiming⟩ := htest
  have hreach : net.Reachable := ⟨_, 7, [.delta 0], log, .of_applyAll .start hok fun _ _ => trivial⟩
  obtain ⟨bound, hends⟩ := hreach.steps_terminate (by rw [htiming])
  have hle : 8 ≤ bound := hevents ▸ (hends net.stream).moments 100
  exact ⟨net, bound, hreach, htiming, hevents, hle, hends⟩

end Network

end CarrierSense
