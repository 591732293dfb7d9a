import CarrierSense.Proofs.Network.Broadcasting

/-!
# Locality of events

How far an event reaches. When a timer runs out, its interface acts by itself (`Network.ActsAlone`), and may then put a
frame on the air. Beyond the members of its medium, who hear this frame, nobody is concerned (`Network.ActsNear`). A
frame that is forwarded or produced concerns the interface that it is queued at, and the timer of its attempt to send.
-/

namespace CarrierSense

/-- A radio that turns to its queue sets no timer but one. -/
lemma Radio.event_of_trySend {w : Setting} {r : Radio} {i : InterfaceId} {e : Effect} {event : Event}
    (he : e ∈ (trySend w { radio := r }).effects) (h : e.event? i = some event) : event = .timer i .difs := by
  have hreports : ∀ s, e ∈ ((Turn.mk r []).enter s).effects → e = .report s := by
    intro s hmem
    rw [Turn.enter] at hmem
    split at hmem
    · cases hmem
    · exact List.mem_singleton.1 hmem
  rw [trySend] at he
  split at he
  · cases hreports _ he
    cases h
  · rcases List.mem_append.1 he with he | he
    · cases hreports _ he
      cases h
    · cases List.mem_singleton.1 he
      cases h
      rfl

/-- The node sends through the interface. -/
def Topology.Attached {κ : Type} (topo : Topology κ) (n : NodeId) (i : InterfaceId) : Prop :=
  ∃ site, topo.node n = .ok site ∧ site.iface = some i

namespace Network

variable {first net mid net' : Network} {near : InterfaceId → Prop} {w : Setting} {i : InterfaceId} {k : Timer}
  {r : Radio} {n : NodeId} {f : Frame} {t : Turn} {event : Event} {id : EventId} {m : Moment}
  {scheduler : Scheduler Event} {x : Endpoint} {traffic : Traffic} {result : Except NetworkError Unit}

/-- No traffic has changed, nor the variates that sources draw from, and frames have reached at most the node of the
interface `i`. -/
structure HandsOver (net : Network) (i : InterfaceId) (net' : Network) : Prop where
  variates : net'.variates = net.variates
  endpoint : ∀ n, ∃ c, net'.endpoint n = (net.endpoint n).map (Endpoint.took · c) ∧
    (c ≠ 0 → ∃ iface, net.topology.interface i = .ok iface ∧ iface.node = n)

/-- Where variates and endpoints stay, nothing has been handed over. -/
lemma HandsOver.of_eq (hv : net'.variates = net.variates) (he : net'.endpoint = net.endpoint) :
    net.HandsOver i net' := by
  refine ⟨hv, fun n => ⟨0, ?_, fun h => absurd rfl h⟩⟩
  rw [he]
  cases net.endpoint n <;> rfl

/-- What is handed over in two parts goes to the same node. -/
lemma HandsOver.trans (h : net.HandsOver i mid) (h' : mid.HandsOver i net') (ht : mid.topology = net.topology) :
    net.HandsOver i net' := by
  refine ⟨h'.variates.trans h.variates, fun n => ?_⟩
  obtain ⟨c, hc, hhome⟩ := h.endpoint n
  obtain ⟨c', hc', hhome'⟩ := h'.endpoint n
  refine ⟨c + c', ?_, fun hne => ?_⟩
  · rw [hc', hc]
    cases net.endpoint n with
    | error halt => rfl
    | ok x => simp [Except.map, Endpoint.took, Nat.add_assoc]
  · by_cases hzero : c = 0
    · rw [← ht]
      exact hhome' (by omega)
    · exact hhome hzero

/-- The interface `i` has acted by itself: on its own radio, its own timers, and frames that it forwards. -/
structure ActsAlone (net : Network) (i : InterfaceId) (net' : Network) : Prop
    extends net.Touches (· = i) (fun event => event.iface? = some i) net', net.HandsOver i net'

/-- An interface that acts by itself twice has acted by itself. -/
lemma ActsAlone.trans (h : net.ActsAlone i mid) (h' : mid.ActsAlone i net') : net.ActsAlone i net' :=
  ⟨h.toTouches.trans h'.toTouches, h.toHandsOver.trans h'.toHandsOver h.topology⟩

/-- Whatever a turn is about, the radio acts by itself. -/
lemma settle_actsAlone (h : net.Clocked) (hr : net.radio w.self = .ok r) (hw : net.setting w.self = .ok w)
    (ht : t.Proper w r.timers) (hs : net.settle w t = .ok (result, net')) :
    result = .ok () ∧ net'.Clocked ∧ net.ActsAlone w.self net' := by
  have hnow := setting_now hw
  obtain ⟨hres, hset⟩ := settle_settled h.coherent h.onTime hr hnow ht hs
  have htouches := settle_touches h.coherent h.onTime hr hnow ht
    (fun _ _ _ hevent => Effect.iface_of_event? hevent) hs
  refine ⟨hres, ⟨hset.coherent, hset.onTime⟩, htouches, variates_turnClosed.settle hs, fun n => ?_⟩
  refine ⟨_, hset.endpoint n, fun hne => ?_⟩
  obtain ⟨iface, hi, hw⟩ := setting_eq_ok.1 hw
  have hhome : w.home = iface.node := congrArg Setting.home hw
  refine ⟨iface, hi, ?_⟩
  by_contra hn
  exact hne (if_neg fun he => hn (he.trans hhome).symm)

/-- A turn of an interface concerns nobody else. -/
lemma act_actsAlone {move : Setting → Turn → Turn} (h : net.Clocked)
    (hm : ∀ {w r}, (move w { radio := r }).Proper w r.timers) (ha : net.act i move = .ok (result, net')) :
    net.ActsAlone i net' := by
  simp only [act, bind_eq_ok] at ha
  obtain ⟨r, hr, w, hw, hs⟩ := ha
  obtain rfl := setting_self hw
  exact (settle_actsAlone h hr hw hm hs).2.2

/-- Another stream changes neither radios nor clock. -/
lemma Clocked.withStream (h : net.Clocked) (stream : Stream) : Clocked { net with stream } :=
  ⟨⟨h.coherent.filed, h.coherent.slot, h.coherent.kept⟩, h.onTime⟩

/-- A countdown that is drawn concerns nobody else. -/
lemma contend_actsAlone (h : net.Clocked) (hc : net.contend i = .ok (result, net')) : net.ActsAlone i net' := by
  simp only [contend, bind_eq_ok] at hc
  obtain ⟨r, -, ha⟩ := hc
  generalize net.stream.between32 1 (max r.window 1) = draw at ha
  have hdrawn : net.ActsAlone i { net with stream := draw.2 } := ⟨.of_eq rfl rfl rfl, .of_eq rfl rfl⟩
  have hproper : ∀ {w r}, (Radio.beginCountdown w draw.1 { radio := r }).Proper w r.timers :=
    Radio.beginCountdown_proper draw.1 (Turn.proper_start _ _)
  exact hdrawn.trans (act_actsAlone (h.withStream draw.2) hproper ha)

/-- The interface `i` has acted. Radios, timers and events are concerned only as far as its medium reaches, and what is
forwarded is forwarded by `i`. It has acted by itself first, and if others are concerned then it has put a frame on
the air, which has been heard by them, and nothing else. -/
structure ActsNear (net : Network) (i : InterfaceId) (net' : Network) : Prop
    extends net.Touches (fun j => j = i ∨ j ∈ net.topology.listeners i)
      (fun event => event.iface? = some i ∨ ∃ j ∈ net.topology.listeners i, ∃ k, event = .timer j k) net',
    net.HandsOver i net' where
  sequel : ∃ turned : Network, net.ActsAlone i turned ∧
    (net' = turned ∨ ∃ f, turned.broadcast i f = .ok (.ok (), net') ∧ turned.Broadcasts i f net')

/-- To act by oneself is to act near. -/
lemma ActsNear.alone (h : net.ActsAlone i net') : net.ActsNear i net' where
  toTouches := h.toTouches.mono (fun _ => .inl) fun _ => .inl
  toHandsOver := h.toHandsOver
  sequel := ⟨net', h, .inl rfl⟩

/-- To put a frame on the air is to act near: it is heard on the medium of the interface. -/
lemma ActsNear.broadcast (h : net.ActsAlone i mid) (hb : mid.broadcast i f = .ok (.ok (), net'))
    (hair : mid.Broadcasts i f net') : net.ActsNear i net' where
  toTouches := by
    have hheard := hair.toTouches
    rw [h.topology] at hheard
    refine Touches.trans (h.toTouches.mono (fun _ => .inl) fun _ => .inl)
      (hheard.mono (fun _ => .inr) fun event hevent => .inr ?_)
    obtain ⟨j, hj, he⟩ := hevent
    exact ⟨j, hj, he.elim (fun he => ⟨_, he⟩) fun he => ⟨_, he⟩⟩
  toHandsOver := h.toHandsOver.trans (.of_eq hair.variates hair.endpoint) h.topology
  sequel := ⟨mid, h, .inr ⟨f, hb, hair⟩⟩

/-- What happens before an interface acts may be its own. -/
lemma ActsNear.of_alone (h : net.ActsAlone i mid) (h' : mid.ActsNear i net') : net.ActsNear i net' := by
  obtain ⟨turned, hturned, rfl | ⟨f, hb, hair⟩⟩ := h'.sequel
  · exact .alone (h.trans hturned)
  · exact .broadcast (h.trans hturned) hb hair

/-- What a timer sets off happens near its interface. -/
lemma expire_actsNear (h : net.Clocked) (hd : net.topology.Distinct) (he : net.expire i k = .ok (result, net')) :
    net.ActsNear i net' := by
  obtain ⟨r, w, hr, hw, he⟩ := expire_eq_ok he
  obtain rfl := setting_self hw
  have hproper := Radio.expire_proper k (Turn.proper_start w r)
  generalize Radio.expire w { radio := r } k = move at he hproper
  rcases andThen_eq_ok.1 he with ⟨_, hs, -⟩ | ⟨_, mid, hs, hfollow⟩
  · exact .alone (settle_actsAlone h hr hw hproper hs).2.2
  · obtain ⟨-, hmid, hacts⟩ := settle_actsAlone h hr hw hproper hs
    cases hm : move.2 with
    | none =>
      rw [hm] at hfollow
      cases hfollow
      exact .alone hacts
    | contend =>
      rw [hm] at hfollow
      exact .alone (hacts.trans (contend_actsAlone hmid hfollow))
    | transmit f =>
      rw [hm] at hfollow
      obtain ⟨rfl, hair⟩ := broadcast_broadcasts hmid (hacts.topology ▸ hd) hfollow
      exact .broadcast hacts hfollow hair

/-- To queue a frame touches the interface that sends it, and the timer of its long pause. -/
lemma send_touches (h : net.Clocked) (hs : net.send i f = .ok (result, net')) :
    net.Touches (· = i) (· = .timer i .difs) net' := by
  rcases send_eq_ok hs with ⟨rfl, -⟩ | ⟨next, r, mid, -, hr, rfl, hs⟩
  · exact .refl _
  · have hqueued : net.Touches (· = i) (· = .timer i .difs)
        (net.setRadio i { r with outgoing := r.outgoing ++ [f.onHop i next] }) := .setRadio net i _
    have hslots : { r with outgoing := r.outgoing ++ [f.onHop i next] }.timers = r.timers := rfl
    split at hs
    · exact hqueued.trans (act_touches (h.coherent.setRadio hr hslots).1 h.onTime
        (Radio.trySend_proper (Turn.proper_start _ _)) (fun _ _ _ he _ => Radio.event_of_trySend he) hs)
    · cases hs
      exact hqueued

/-- To queue a frame reaches no node. -/
lemma send_endpoint (h : net.Clocked) (hs : net.send i f = .ok (result, net')) : net'.endpoint = net.endpoint := by
  rcases send_queued h.coherent h.onTime hs with ⟨-, rfl⟩ | ⟨-, -, next, hq⟩
  · rfl
  · exact hq.endpoint

/-- To draw a delay changes neither topology nor radios nor scheduler. -/
lemma drawDelay_same {v : VariateId} {delay : ℕ} (hd : net.drawDelay v = .ok (delay, net')) :
    net'.topology = net.topology ∧ net'.radio = net.radio ∧ net'.scheduler = net.scheduler := by
  obtain ⟨-, variates, stream, rfl⟩ := drawDelay_eq_ok hd
  exact ⟨rfl, rfl, rfl⟩

/-- To count a frame is to post the next production at most. -/
lemma countOne_touches (h : net.Clocked) (hc : net.countOne n x traffic = .ok (result, net')) :
    net.Touches near (· = .produce n) net' := by
  unfold countOne at hc
  dsimp only at hc
  have hcounted : ∀ y, net.Touches near (· = .produce n) (net.setEndpoint n y) := fun _ => .of_eq rfl rfl rfl
  have hfiled : ∀ y, (net.setEndpoint n y).scheduler.Filed := fun _ => h.coherent.filed
  split at hc
  · cases hc
    exact hcounted _
  · obtain ⟨⟨delay, drawn⟩, hd, hp⟩ := bind_eq_ok.1 hc
    obtain ⟨htopology, hradio, hscheduler⟩ := drawDelay_same hd
    have hdrawn := (hcounted _).trans (.of_eq htopology hradio hscheduler)
    exact hdrawn.trans (.withPost (hscheduler ▸ hfiled _) hp)

/-- A source that produces concerns the interface of its node. -/
lemma produce_touches (h : net.Clocked) (hp : net.produce n = .ok (result, net')) :
    net.Touches (net.topology.Attached n)
      (fun event => event = .produce n ∨ ∃ i, net.topology.Attached n i ∧ event = .timer i .difs) net' := by
  rcases produce_eq_ok hp with ⟨rfl, -⟩ | ⟨site, x, traffic, i, stream, f, hsite, hi, -, -, -, -, hp⟩
  · exact .refl _
  have hattached : net.topology.Attached n i := ⟨site, hsite, hi⟩
  have hdrawn := h.withStream stream
  have hsent : ∀ {result mid}, { net with stream }.send i f = .ok (result, mid) → net.Touches (net.topology.Attached n)
      (fun event => event = .produce n ∨ ∃ i, net.topology.Attached n i ∧ event = .timer i .difs) mid := by
    intro result mid hs
    have hstream : net.Touches (net.topology.Attached n) (fun event => event = .produce n ∨
        ∃ i, net.topology.Attached n i ∧ event = .timer i .difs) { net with stream } := .of_eq rfl rfl rfl
    refine hstream.trans ((send_touches hdrawn hs).mono ?_ ?_)
    · rintro _ rfl
      exact hattached
    · rintro _ rfl
      exact .inr ⟨i, hattached, rfl⟩
  rcases andThen_eq_ok.1 hp with ⟨_, hs, -⟩ | ⟨_, mid, hs, hc⟩
  · exact hsent hs
  · exact (hsent hs).trans ((countOne_touches (hdrawn.send hs) hc).mono (fun _ hj => hj) fun _ => .inl)

/-- To produce a frame changes no node but the one that produces. -/
lemma produce_endpoint {l : NodeId} (h : net.Clocked) (hp : net.produce n = .ok (result, net')) (hne : l ≠ n) :
    net'.endpoint l = net.endpoint l := by
  rcases produce_cases h.coherent h.onTime hp with ⟨-, -, he⟩ | ⟨-, i, f, next, hmade⟩
  · rw [he]
  · rw [hmade.endpoint, if_neg hne]

/-- What an event may have changed, at most. -/
def Local (net net' : Network) : Event → Prop
  | .timer i _ => net.ActsNear i net'
  | .forward i f => net.Touches (· = i) (fun event => event = .forward i f ∨ event = .timer i .difs) net' ∧
      net'.endpoint = net.endpoint
  | .produce n => net.Touches (net.topology.Attached n)
      (fun event => event = .produce n ∨ ∃ i, net.topology.Attached n i ∧ event = .timer i .difs) net' ∧
      ∀ l, l ≠ n → net'.endpoint l = net.endpoint l

/-- The timer that runs out is forgotten by its radio. -/
lemma taken_timer (h : net.Coherent) (hp : net.scheduler.popDue = some ((id, .timer i k), scheduler))
    (hc : { net with scheduler }.clearTimer id (.timer i k) = .ok mid) : net.ActsAlone i mid := by
  have hpop : net.ActsAlone i { net with scheduler } := by
    refine ⟨(Touches.pop h hp).mono (fun _ hj => hj) ?_, .of_eq rfl rfl⟩
    rintro _ rfl
    rfl
  obtain ⟨r, -, hc⟩ := bind_eq_ok.1 hc
  split at hc <;> cases hc
  · exact hpop.trans ⟨.setRadio _ i _, .of_eq rfl rfl⟩
  · exact hpop

/-- Any other event is taken out, and that is all. -/
lemma taken_other (h : net.Clocked) (hp : net.scheduler.popDue = some ((id, event), scheduler))
    (hc : { net with scheduler }.clearTimer id event = .ok mid) (he : ∀ i k, event ≠ .timer i k) :
    net.Touches near (· = event) mid ∧ mid.endpoint = net.endpoint := by
  obtain ⟨rfl, -⟩ := pop_other h.coherent h.onTime hp hc he
  exact ⟨.pop h.coherent hp, rfl⟩

/-- Whatever event is taken out and fires, what it changes is near. -/
lemma Fires.isLocal (h : net.Clocked) (hd : net.topology.Distinct) (hf : net.Fires m result)
    (hm : m.cause = .event event) : net.Local m.after event := by
  obtain ⟨id, e, scheduler, hp, hc, hcause, hfire⟩ := hf
  cases hcause.symm.trans hm
  have hbefore := h.taken hp hc
  cases event with
  | timer i k =>
    have htaken := taken_timer h.coherent hp hc
    exact .of_alone htaken (expire_actsNear hbefore (htaken.topology ▸ hd) hfire)
  | forward i f =>
    obtain ⟨htaken, hsame⟩ : net.Touches (· = i) (· = .forward i f) m.before ∧ m.before.endpoint = net.endpoint :=
      taken_other h hp hc nofun
    refine ⟨(htaken.mono (fun _ hj => hj) fun _ => .inl).trans ?_, (send_endpoint hbefore hfire).trans hsame⟩
    exact (send_touches hbefore hfire).mono (fun _ hj => hj) fun _ => .inr
  | produce n =>
    obtain ⟨htaken, hsame⟩ : net.Touches (net.topology.Attached n) (· = .produce n) m.before ∧
        m.before.endpoint = net.endpoint := taken_other h hp hc nofun
    have hmade := produce_touches hbefore hfire
    rw [htaken.topology] at hmade
    refine ⟨(htaken.mono (fun _ hj => hj) fun _ => .inl).trans hmade, fun l hl => ?_⟩
    rw [produce_endpoint hbefore hfire hl, hsame]

/-- Another scheduler makes no other set-up. -/
lemma sameSetUp_scheduler (net : Network) (scheduler : Scheduler Event) : net.SameSetUp { net with scheduler } :=
  ⟨rfl, rfl, rfl, rfl, rfl, rfl⟩

/-- What calls and turns keep holds of every network that operations pass through. -/
lemma ComesTo.keeps {P : Network → Prop} (h : first.ComesTo net) (hf : first.Clocked) (hP : P first)
    (hsame : ∀ {net net' : Network}, net.SameSetUp net' → P net → P net')
    (hcall : ∀ {net net' : Network} {op : Op} {fuel : ℕ} {result : Except NetworkError Unit}, net.Clocked → P net →
      op.firesEvents = false → op.apply fuel net = .ok (result, net') → P net') : P net := by
  induction h with
  | start => exact hP
  | @call net net' op fuel result before ok ih =>
    -- a call that lets events fire is a run of its own
    have hclosed : Closed (fun _ net => net.Clocked ∧ P net) fun _ => True := by
      refine ⟨fun h ha => ⟨h.1.advanceTo ha, hsame (sameSetUp_scheduler _ _) h.2⟩, fun h hfires _ => ?_⟩
      obtain ⟨hpop, hfire⟩ := hfires.sameSetUp
      obtain ⟨id, e, scheduler, hp, hc, -, hevent⟩ := hfires
      exact ⟨(h.1.taken hp hc).fire hevent, hsame (hpop.trans hfire) h.2⟩
    have hrun : Run (fun _ _ => True) net ([] ++ op.moments fuel net) net' := Run.start.op ok trivial
    exact (hclosed.run (fun h hop _ ha => ⟨h.1.apply ha, hcall h.1 h.2 hop ha⟩) (fun _ _ => trivial)
      ⟨before.clocked hf, ih⟩ hrun).2
  | clock _ _ ih => exact hsame (sameSetUp_scheduler _ _) ih
  | taken _ _ clear ih => exact hsame ((sameSetUp_scheduler _ _).trans (clearTimer_sameSetUp clear)) ih
  | fired _ fire ih => exact hsame ((fire_keeps _).left fire) ih
  | acting _ _ _ _ _ ok ih => exact hsame ((sameSetUp_setRadio _ _ _).trans ((performAll_keeps _ _).left ok)) ih

/-- What lasts while a topology grows holds of every network that operations pass through. -/
lemma ComesTo.lasting {P : Topology Float → Prop} (h : first.ComesTo net) (hf : first.Clocked)
    (hP : Topology.Lasting P) (hfirst : P first.topology) : P net.topology :=
  h.keeps (P := fun net => P net.topology) hf hfirst (fun hsame hp => hsame.topology ▸ hp)
    fun hc hp hop ha => apply_lasting hP hp hc.coherent hc.onTime hop ha

/-- Whatever a network comes to, every interface still has a radio. -/
lemma ComesTo.fitted (h : first.ComesTo net) (hf : first.Clocked) (hfirst : first.Fitted) : net.Fitted :=
  h.keeps hf hfirst SameSetUp.fitted fun _ hp hop ha => hp.apply hop ha

/-- Whatever a network comes to, endpoints and nodes still belong together. -/
lemma ComesTo.matched (h : first.ComesTo net) (hf : first.Clocked) (hfirst : first.Matched) : net.Matched :=
  h.keeps hf hfirst SameSetUp.matched fun hc hp hop ha => hp.apply hc.coherent hc.onTime hop ha

/-- Wherever operations on a new network pass, what an event changes is near. A timer of an interface concerns this
interface and the members of its medium: no other radio changes, no events come or go but those of their timers and the
frames that the interface itself forwards, and no node but its own consumes a frame, while all traffic stays as it is. A
frame that is forwarded or produced concerns no interface but its own. A frame that is put on the air is heard by the
members of the medium once each, in the order in which they joined it. Until all have heard it nobody begins to send,
takes a frame, changes a queue or draws a number, and only three counters go on. If no handle dangles, then a frame that
ends on the clock comes to all of them. -/
theorem ComesTo.events_local {timing : Timing} {seed : UInt64} {laws : List Law}
    (h : (Network.new timing seed laws).ComesTo net) :
    (∀ m event result, net.Fires m result → m.cause = .event event → net.Local m.after event) ∧
      (∀ i f result net', net.broadcast i f = .ok (result, net') → result = .ok () ∧ net.Broadcasts i f net') ∧
      (net.topology.Furnished → ∀ i f iface, net.topology.interface i = .ok iface →
        net.now + f.airtime ≤ Clock.last → ∃ net', net.broadcast i f = .ok (.ok (), net')) ∧
      ∀ earlier, (Network.new timing seed laws).ComesTo earlier → earlier.ComesTo net → ∀ i,
        earlier.topology.listeners i <+: net.topology.listeners i := by
  have hnew := new_clocked timing seed laws
  have hnet := h.clocked hnew
  have hdistinct : net.topology.Distinct :=
    h.lasting hnew Topology.distinct_lasting (new_distinct timing seed laws)
  refine ⟨fun m event result hf hm => hf.isLocal hnet hdistinct hm,
    fun i f result net' hb => broadcast_broadcasts hnet hdistinct hb,
    fun hfurnished i f iface hi ht => ?_, fun earlier hearlier hlater i => ?_⟩
  · have hfitted := h.fitted hnew rfl
    have hmatched := h.matched hnew ⟨rfl, fun hi => by simp [Topology.interface_eq_ok, new] at hi⟩
    exact broadcast_ends hnet hfitted hmatched hfurnished hi ht
  · have hextends := hlater.lasting (hearlier.clocked hnew) (Topology.extends_lasting _) (.refl _)
    exact hextends.listeners i

/-- The event of a moment, if it is no call. -/
def Moment.event? (m : Moment) : Option Event :=
  match m.cause with
  | .event e => some e
  | .call _ => none

/-- The event of a moment is its cause. -/
lemma Moment.cause_of_event? (h : m.event? = some event) : m.cause = .event event := by
  unfold Moment.event? at h
  split at h
  · rename_i hcause
    rw [hcause, Option.some.inj h]
  · cases h

/-- An interface that is a member of its own medium sends, and misses its own frame, while the other member begins to
receive it. Later on another frame reaches both. -/
theorem own_frame_missed : ∃ (found net net' : Network) (m : Moment) (result : Except NetworkError Unit) (f : Frame),
    (Network.new {} 7 [.delta 5]).ComesTo found ∧ found.Fires m result ∧ m.cause = .event (.timer ⟨0⟩ .difs) ∧
      m.after.topology.listeners ⟨0⟩ = [⟨1⟩, ⟨0⟩] ∧
      m.after.radios.map (·.status) = #[.sendingMessage, .receivingMessage] ∧ m.after.counters.missed = 1 ∧
      found.Local m.after (.timer ⟨0⟩ .difs) ∧ (Network.new {} 7 [.delta 5]).ComesTo net ∧ net.topology.Furnished ∧
      net.broadcast ⟨0⟩ f = .ok (.ok (), net') ∧ net.Broadcasts ⟨0⟩ f net' := by
  have hend : endsWith (Op.applyAll 100 (Op.pair ++ [.addMember ⟨0⟩ ⟨0⟩, .initRun, .runTo 550]) []
      (.new {} 7 [.delta 5])) (fun log net => decide (∀ m ∈ log, m.Valid) && (decide (∃ m ∈ log,
        m.event? = some (.timer ⟨0⟩ .difs) ∧ m.after.topology.listeners ⟨0⟩ = [⟨1⟩, ⟨0⟩] ∧
          m.after.radios.map (·.status) = #[.sendingMessage, .receivingMessage] ∧ m.after.counters.missed = 1) &&
        (decide (∃ iface, net.topology.interface ⟨0⟩ = .ok iface) && decide (net.now = 550)))) = true := by
    decide +kernel
  obtain ⟨log, net, hok, htest⟩ := endsWith_iff.1 hend
  have hrun : Run (fun _ _ => True) (Network.new {} 7 [.delta 5]) log net :=
    .of_applyAll .start hok fun _ _ => trivial
  simp only [Bool.and_eq_true, decide_eq_true_eq] at htest
  obtain ⟨hvalid, ⟨m, hm, hevent, hlisteners, hstatus, hmissed⟩, ⟨iface, hi⟩, hnow⟩ := htest
  have hcause := Moment.cause_of_event? hevent
  obtain ⟨hnet, hpassed⟩ := hrun.comesTo
  obtain ⟨-, -, hfired⟩ := hpassed m hm
  obtain ⟨found, result, hfound, hfires⟩ := hfired _ hcause
  obtain ⟨hlocal, -⟩ := hfound.events_local
  obtain ⟨-, hheard, hends, -⟩ := hnet.events_local
  have hfurnished := (hrun.built hvalid).furnished
  obtain ⟨net', hb⟩ := hends hfurnished ⟨0⟩ (.data 1 512 ⟨0⟩ ⟨1⟩) iface hi (by rw [hnow]; decide)
  exact ⟨found, net, net', m, result, _, hfound, hfires, hcause, hlisteners, hstatus, hmissed,
    hlocal m _ result hfires hcause, hnet, hfurnished, hb, (hheard ⟨0⟩ _ _ net' hb).2⟩

end Network

end CarrierSense
