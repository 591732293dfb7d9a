import CarrierSense.Proofs.Network.Course
import CarrierSense.Proofs.Network.Enactment
import CarrierSense.Proofs.Network.Complete
import CarrierSense.Proofs.Network.Sources
import CarrierSense.Proofs.Radio.Horizon

/-!
# Networks that cannot halt

A network is `Confined` if it is complete for a run, its radios are confined, and the clock stands far enough from its
last tick. Then no timer is set beyond that tick, and no handle is looked up in vain, so that whatever event fires
comes to its end, and in a confined network again (`Lands`). The loops of a run may halt for one reason only, which is
that their fuel has run out.
-/

namespace CarrierSense.Network

variable {net mid net' : Network} {w : Setting} {i : InterfaceId} {k : Timer} {n : NodeId} {r r' : Radio} {f : Frame}
  {t : Turn} {es : List Effect} {e : Event} {time limit : Nat} {α β : Type}

/-- What the event names is there, and a frame that waits to be forwarded ends within the horizon. -/
def Admits (net : Network) : Event → Prop
  | .produce n => net.Knows n
  | .timer i _ => ∃ iface, net.topology.interface i = .ok iface
  | .forward i f =>
    (∃ iface, net.topology.interface i = .ok iface) ∧ f.airtime ≤ net.timing.horizon ∧ net.Knows f.destination

/-- Whether a node is one of the network can be decided. -/
instance (net : Network) (n : NodeId) : Decidable (net.Knows n) := inferInstanceAs (Decidable (∃ _, _ = Except.ok _))

/-- Whether an event may be pending can be decided. -/
instance (net : Network) (e : Event) : Decidable (net.Admits e) :=
  match e with
  | .produce _ => inferInstanceAs (Decidable (Knows _ _))
  | .timer _ _ => inferInstanceAs (Decidable (∃ _, _ = Except.ok _))
  | .forward _ _ => inferInstanceAs (Decidable ((∃ _, _ = Except.ok _) ∧ _ ≤ _ ∧ Knows _ _))

/-- Whether an event must not be pending. Timers are left out: radios know of those that are. -/
def stray (net : Network) : Event → Bool
  | .timer _ _ => false
  | e => !decide (net.Admits e)

/-- Nothing in the network, and nothing that it may come to, leaves the horizon, and the clock does not reach its last
tick within it. -/
structure Confined (net : Network) : Prop where
  coherent : net.Coherent
  onTime : net.scheduler.OnTime
  complete : net.Complete
  clock : net.now + net.timing.horizon ≤ Clock.last
  radio : ∀ {i r}, net.radio i = .ok r → r.Confined net.timing net.Knows
  pending : net.scheduler.waiting net.stray = 0
  produced : ∀ {n x t}, net.endpoint n = .ok x → x.traffic = some t → t.produced ≤ t.maxMessages

/-- An operation comes to its end in a confined network, unless its fuel has run out. -/
structure Lands (reply : Except Halt (Reply α)) : Prop where
  halts : ∀ {halt}, reply = .error halt → halt = .outOfFuel
  left : ∀ {result net'}, reply = .ok (result, net') → net'.Confined

namespace Lands

/-- An answer lands if the network that comes with it is confined. -/
lemma ok (h : net.Confined) (answer : Except NetworkError α) : Lands (.ok (answer, net)) := by
  refine ⟨nofun, fun he => ?_⟩
  cases he
  exact h

/-- An operation that wants fuel lands, too. -/
lemma outOfFuel : Lands (.error .outOfFuel : Except Halt (Reply α)) := by
  refine ⟨fun he => ?_, nofun⟩
  cases he
  rfl

/-- Operations in a row land if each does in a confined network. -/
lemma andThen {reply : Except Halt (Reply α)} {next : α → Network → Except Halt (Reply β)} (h : Lands reply)
    (hn : ∀ a mid, reply = .ok (.ok a, mid) → mid.Confined → Lands (next a mid)) : Lands (andThen reply next) := by
  match reply, h, hn with
  | .error halt, h, _ =>
    cases h.halts rfl
    exact outOfFuel
  | .ok (.error e, mid), h, _ => exact ok (h.left rfl) _
  | .ok (.ok a, mid), h, hn => exact hn a mid rfl (h.left rfl)

/-- What does not answer for a network has to come to its end. -/
lemma bind {x : Except Halt β} {b : β} {next : β → Except Halt (Reply α)} (hx : x = .ok b)
    (hn : Lands (next b)) : Lands (x >>= next) := by
  subst hx
  exact hn

end Lands

/-- Which nodes are known is part of the set-up. -/
lemma SameSetUp.knows_eq (h : net.SameSetUp net') : net'.Knows = net.Knows := by
  funext n
  unfold Knows
  rw [h.topology]

/-- Which events are admitted is part of the set-up. -/
lemma SameSetUp.admits_eq (h : net.SameSetUp net') : net'.Admits = net.Admits := by
  funext e
  unfold Admits
  rw [h.topology, h.timing, h.knows_eq]

/-- Which events are stray is part of the set-up. -/
lemma SameSetUp.stray_eq (h : net.SameSetUp net') : net'.stray = net.stray := by
  funext e
  unfold stray
  simp only [h.admits_eq]

namespace Confined

/-- Numbers that are drawn move variates and the stream on. -/
lemma draw {variates : Array Variate} (h : net.Confined) (stream : Stream)
    (hv : net.SameLaws { net with variates }) : Confined { net with variates, stream } where
  coherent := ⟨h.coherent.filed, h.coherent.slot, h.coherent.kept⟩
  onTime := h.onTime
  complete := h.complete.same ⟨rfl, rfl, rfl, rfl, hv.map_law, rfl⟩
  clock := h.clock
  radio := h.radio
  pending := h.pending
  produced := h.produced

/-- Another stream leaves a network confined. -/
lemma withStream (h : net.Confined) (stream : Stream) : Confined { net with stream } :=
  h.draw stream fun _ => rfl

/-- A radio may be replaced by a confined one that keeps the same handles. -/
lemma setRadio (h : net.Confined) (hr : net.radio i = .ok r) (ht : r'.timers = r.timers)
    (hc : r'.Confined net.timing net.Knows) : (net.setRadio i r').Confined where
  coherent := (h.coherent.setRadio hr ht).1
  onTime := h.onTime
  complete := h.complete.same (sameSetUp_setRadio net i r')
  clock := h.clock
  radio := fun {j s} hs => by
    by_cases hj : j = i
    · subst hj
      rw [radio_setRadio_self hr] at hs
      cases hs
      exact hc
    · rw [radio_setRadio_ne hj] at hs
      exact h.radio hs
  pending := h.pending
  produced := h.produced

/-- What effects make of a confined network, if they relay nothing but confined frames. -/
lemma carried (h : net.Confined) (hc : net.Carried w es net') (hsame : net.SameSetUp net')
    (hi : ∃ iface, net.topology.interface w.self = .ok iface)
    (hr : ∀ {f}, .relay f ∈ es → f.airtime ≤ net.timing.horizon ∧ net.Knows f.destination) : net'.Confined where
  coherent := hc.coherent
  onTime := hc.onTime
  complete := h.complete.same hsame
  clock := by
    rw [hc.now, hc.timing]
    exact h.clock
  radio := fun {j s} hs => by
    rw [hsame.timing, hsame.knows_eq]
    by_cases hj : j = w.self
    · subst hj
      obtain ⟨iface, hiface⟩ := hi
      obtain ⟨r, hradio⟩ := (h.complete.interface hiface).1
      obtain ⟨timers, hself⟩ := hc.radio_self hradio
      rw [hself] at hs
      cases hs
      exact (h.radio hradio).withTimers timers
    · rw [hc.radio_other hj] at hs
      exact h.radio hs
  pending := by
    rw [hsame.stray_eq, hc.waiting fun _ _ => rfl, h.pending, Nat.zero_add]
    refine List.countP_eq_zero.2 fun e he => ?_
    cases e with
    | relay f =>
      obtain ⟨hairtime, hknown⟩ := hr he
      have hadmits : net.Admits (.forward w.self f) := ⟨hi, hairtime, hknown⟩
      simp [Effect.posts, stray, hadmits]
    | _ => exact Bool.false_ne_true
  produced := fun hx ht => by
    obtain ⟨y, hy, htraffic⟩ := hc.sameSources.endpoint hx
    exact h.produced hy (htraffic ▸ ht)

/-- The clock may move on to a tick that is awaited, as long as a horizon is left behind it. -/
lemma advanceTo (h : net.Confined) (ha : net.Awaits time) (ht : time + net.timing.horizon ≤ Clock.last) :
    Confined { net with scheduler := net.scheduler.advanceTo time } where
  coherent := (h.coherent.advanceTo time).1
  onTime := ha.onTime h.onTime
  complete := h.complete.same ⟨rfl, rfl, rfl, rfl, rfl, rfl⟩
  clock := by
    have hnow := h.clock
    have hmax : (net.scheduler.advanceTo time).now = max net.now time := Scheduler.now_advanceTo _ _
    show (net.scheduler.advanceTo time).now + net.timing.horizon ≤ Clock.last
    omega
  radio := h.radio
  pending := (Scheduler.waiting_advanceTo _ _ _).trans h.pending
  produced := h.produced

/-- The effects of a confined turn are carried out. -/
lemma performAll (h : net.Confined) (hw : net.setting w.self = .ok w) (ht : Timely net.now es)
    (hr : ∀ {f}, .relay f ∈ es → f.airtime ≤ net.timing.horizon ∧ net.Knows f.destination) :
    Lands (net.performAll w es) := by
  obtain ⟨iface, hiface, -⟩ := setting_eq_ok.1 hw
  obtain ⟨hradio, w', hw', hhome⟩ := h.complete.interface hiface
  cases hw.symm.trans hw'
  obtain ⟨net', hp, hen⟩ := performAll_enacted
    ⟨h.coherent, h.onTime, setting_now hw, hradio, ⟨iface, hiface⟩, hhome⟩ ht
  rw [hp]
  exact .ok (h.carried hen.toCarried ((performAll_keeps w es).left hp) ⟨iface, hiface⟩ hr) _

/-- A confined turn comes to its end. -/
lemma settle (h : net.Confined) (hr : net.radio w.self = .ok r) (hw : net.setting w.self = .ok w)
    (hp : t.Proper w r.timers) (hc : t.Confined w net.Knows) : Lands (net.settle w t) := by
  have hnow := setting_now hw
  have htiming := setting_timing hw
  have hclock := h.clock
  refine (h.setRadio hr hp.timers (htiming ▸ hc.radio)).performAll hw (fun hmem => ?_) fun hmem => ?_
  · have hlow := hp.punctual hmem
    have hhigh := hc.timely hmem
    rw [hnow, htiming] at hhigh
    rw [hnow] at hlow
    exact ⟨hlow, Nat.le_trans hhigh hclock⟩
  · exact htiming ▸ hc.relayed hmem

/-- A turn of an interface that is there lands. -/
lemma act {move : Setting → Turn → Turn} {iface : Interface Float} (h : net.Confined)
    (hi : net.topology.interface i = .ok iface)
    (hp : ∀ {w r}, (move w { radio := r }).Proper w r.timers)
    (hc : ∀ {w r}, w.timing = net.timing → r.Confined w.timing net.Knows →
      (move w { radio := r }).Confined w net.Knows) : Lands (net.act i move) := by
  obtain ⟨⟨r, hr⟩, w, hw, -⟩ := h.complete.interface hi
  refine .bind hr (.bind hw ?_)
  obtain rfl := setting_self hw
  have htiming := setting_timing hw
  exact h.settle hr hw hp (hc htiming (htiming ▸ h.radio hr))

/-- A confined frame is heard by all that are there. -/
lemma receiveAll {members : List InterfaceId} (h : net.Confined) (hf : f.Confined net.timing net.Knows)
    (hm : ∀ j ∈ members, ∃ iface, net.topology.interface j = .ok iface) : Lands (net.receiveAll f members) := by
  induction members generalizing net with
  | nil => exact .ok h _
  | cons i rest ih =>
    obtain ⟨hfirst, hrest⟩ := List.forall_mem_cons.1 hm
    obtain ⟨iface, hi⟩ := hfirst
    have hhears : Lands (net.receive i f) := by
      refine h.act hi (Radio.receive_proper f (Turn.proper_start _ _)) fun htiming hr => ?_
      exact Radio.receive_confined (Turn.confined_start hr) (htiming ▸ hf)
    refine .andThen hhears fun _ mid hmid hconf => ?_
    have hsame : net.SameSetUp mid := (act_keeps i _).left hmid
    refine ih hconf ?_ ?_
    · rw [hsame.timing, hsame.knows_eq]
      exact hf
    · rw [hsame.topology]
      exact hrest

/-- A confined frame that is put on the air lands with all who hear it. -/
lemma broadcast {iface : Interface Float} (h : net.Confined) (hi : net.topology.interface i = .ok iface)
    (hf : f.Confined net.timing net.Knows) : Lands (net.broadcast i f) := by
  obtain ⟨medium, hm⟩ := h.complete.furnished.medium hi
  refine .bind (bind_eq_ok.2 ⟨iface, hi, hm⟩) (h.receiveAll hf fun j hj => ?_)
  exact h.complete.furnished.member hm hj

/-- A countdown is drawn from the contention window. -/
lemma contend {iface : Interface Float} (h : net.Confined) (hi : net.topology.interface i = .ok iface) :
    Lands (net.contend i) := by
  obtain ⟨⟨r, hr⟩, -⟩ := h.complete.interface hi
  refine .bind hr ?_
  have hdrawn : (net.stream.between32 1 (max r.window 1)).1 ≤ net.timing.longestCountdown := by
    have hle := net.stream.between32_le (Nat.le_max_right r.window 1)
    have hwindow := (h.radio hr).window
    have hone : 1 ≤ net.timing.longestCountdown := Nat.le_max_right _ _
    omega
  generalize net.stream.between32 1 (max r.window 1) = draw at hdrawn ⊢
  refine (h.withStream draw.2).act hi (Radio.beginCountdown_proper draw.1 (Turn.proper_start _ _)) fun htiming hr => ?_
  exact Radio.beginCountdown_confined (Turn.confined_start hr) (htiming ▸ hdrawn)

/-- What follows a turn lands. -/
lemma follow {iface : Interface Float} {s : Sequel} (h : net.Confined) (hi : net.topology.interface i = .ok iface)
    (hf : ∀ {f}, s = .transmit f → f.Confined net.timing net.Knows) : Lands (net.follow i s) := by
  cases s with
  | none => exact .ok h _
  | contend => exact h.contend hi
  | transmit frame => exact h.broadcast hi (hf rfl)

/-- Whatever timer of an interface runs out, all that follows comes to its end. -/
lemma expire {iface : Interface Float} (h : net.Confined) (hi : net.topology.interface i = .ok iface) (k : Timer) :
    Lands (net.expire i k) := by
  have hmoves : Lands (do
      let radio ← net.radio i
      let w ← net.setting i
      CarrierSense.andThen (net.settle w (Radio.expire w { radio } k).1) fun _ net =>
        net.follow i (Radio.expire w { radio } k).2) := by
    obtain ⟨⟨r, hr⟩, w, hw, -⟩ := h.complete.interface hi
    refine .bind hr (.bind hw ?_)
    obtain rfl := setting_self hw
    have htiming := setting_timing hw
    have hmove := Radio.expire_confined k (Turn.confined_start (htiming ▸ h.radio hr : r.Confined w.timing net.Knows))
    have hproper := Radio.expire_proper (w := w) k (Turn.proper_start w r)
    refine .andThen (h.settle hr hw hproper hmove.turn) fun _ mid hmid hconf => ?_
    have hsame : net.SameSetUp mid := (settle_keeps w _).left hmid
    refine hconf.follow (i := w.self) (hsame.topology ▸ hi) fun hs => ?_
    rw [hsame.timing, hsame.knows_eq]
    exact htiming ▸ hmove.sequel hs
  have hdifs : net.timing.difs ≤ Clock.last := by
    have hle := net.timing.countdown_le_horizon
    have hclock := h.clock
    omega
  unfold Network.expire
  split
  · exact .bind (Clock.check_eq_ok_iff.2 ⟨hdifs, rfl⟩) hmoves
  · exact hmoves

/-- A frame is queued, unless it has no next hop. -/
lemma send {iface : Interface Float} (h : net.Confined) (hi : net.topology.interface i = .ok iface)
    (hf : f.airtime ≤ net.timing.horizon) (hd : net.Knows f.destination) : Lands (net.send i f) := by
  obtain ⟨target, htarget⟩ := hd
  obtain ⟨route, hroute⟩ := h.complete.furnished.route_ends hi htarget
  refine .bind hroute ?_
  split
  · exact .ok h _
  · exact .bind hi (.bind htarget (.ok h _))
  · rename_i next
    obtain ⟨⟨r, hr⟩, -⟩ := h.complete.interface hi
    refine .bind hr ?_
    have hr' := h.radio hr
    have hqueued : (net.setRadio i { r with outgoing := r.outgoing ++ [f.onHop i next] }).Confined := by
      refine h.setRadio hr rfl (hr'.holding (fun f' hf' => ?_) (fun _ ha => hr'.acks ha) fun _ hx => hr'.incoming hx)
      rcases List.mem_append.1 hf' with hf' | hf'
      · exact hr'.outgoing hf'
      · rw [List.mem_singleton.1 hf']
        exact ⟨hf, fun _ => ⟨target, htarget⟩⟩
    dsimp only
    split
    · exact hqueued.act hi (Radio.trySend_proper (Turn.proper_start _ _)) fun _ hr =>
        Radio.trySend_confined (Turn.confined_start hr)
    · exact .ok hqueued _

/-- The next production of a node may be posted for any tick of the clock. -/
lemma postProduction (h : net.Confined) (hn : net.Knows n) (ht : time ≤ Clock.last) :
    Lands (net.withPost (net.scheduler.post time (.produce n))) := by
  unfold withPost
  split
  · exact .ok h _
  · rename_i id scheduler hpost
    have hposted : Coherent { net with scheduler } ∧ _ := h.coherent.post_other (by simp) hpost rfl
    have honTime : scheduler.OnTime := h.onTime.post h.coherent.filed hpost ht
    refine .ok ⟨hposted.1, honTime, h.complete.same ⟨rfl, rfl, rfl, rfl, rfl, rfl⟩, ?_, h.radio, ?_, h.produced⟩ _
    · have hnow : scheduler.now = net.now := Scheduler.now_post hpost
      show scheduler.now + net.timing.horizon ≤ Clock.last
      rw [hnow]
      exact h.clock
    · show scheduler.waiting net.stray = 0
      rw [Scheduler.waiting_post h.coherent.filed hpost, h.pending]
      have hadmits : net.Admits (.produce n) := hn
      simp [stray, hadmits]

/-- An endpoint may be replaced by one that differs in what it counts, if it has not produced too many frames. -/
lemma setEndpoint {x y : Endpoint} (h : net.Confined) (hx : net.endpoint n = .ok x) (hy : y.reset = x.reset)
    (hp : ∀ t, y.traffic = some t → t.produced ≤ t.maxMessages) : (net.setEndpoint n y).Confined where
  coherent := ⟨h.coherent.filed, h.coherent.slot, h.coherent.kept⟩
  onTime := h.onTime
  complete := h.complete.same (sameSetUp_setEndpoint hx hy)
  clock := h.clock
  radio := h.radio
  pending := h.pending
  produced := fun {m z t} hz ht => by
    rw [endpoint_setEndpoint hx] at hz
    split at hz
    · cases hz
      exact hp t ht
    · exact h.produced hz ht

/-- A source with frames left counts one, and has its next delay drawn. -/
lemma countOne {x y : Endpoint} {t : Traffic} (h : net.Confined) (hn : net.Knows n) (hy : net.endpoint n = .ok y)
    (hsame : y.reset = x.reset) (ht : x.traffic = some t) (hmore : t.isExhausted = false) :
    Lands (net.countOne n x t) := by
  have hleft : t.produced < t.maxMessages := by simpa [Traffic.isExhausted] using hmore
  have hcounted : (net.setEndpoint n { x with traffic := some { t with produced := t.produced + 1 } }).Confined := by
    refine h.setEndpoint hy ?_ fun s hs => ?_
    · rw [hsame]
      simp [Endpoint.reset, ht]
    · cases hs
      exact hleft
  have hknows : (net.setEndpoint n { x with traffic := some { t with produced := t.produced + 1 } }).Knows n := hn
  have hself := endpoint_setEndpoint hy (y := { x with traffic := some { t with produced := t.produced + 1 } }) n
  rw [if_pos rfl] at hself
  unfold Network.countOne
  generalize { t with produced := t.produced + 1 } = t' at hcounted hknows hself ⊢
  dsimp only
  generalize net.setEndpoint n { x with traffic := some t' } = counted at hcounted hknows hself ⊢
  split
  · exact .ok hcounted _
  · obtain ⟨law, hlaw, hdrawable⟩ := (hcounted.complete.fed n _ t' hself rfl).nextDelay
    obtain ⟨delay, mid, hd⟩ := drawDelay_total hlaw hdrawable
    refine .bind hd ?_
    have hlaws := drawDelay_sameLaws hd
    obtain ⟨-, variates, stream, rfl⟩ := drawDelay_eq_ok hd
    exact (hcounted.draw stream hlaws).postProduction hknows (Clock.later_le_last _ _)

/-- The frame that a source makes ends within the horizon, and is meant for one of its destinations. -/
lemma drawFrame {x : Endpoint} {t : Traffic} (h : net.Confined) (hx : net.endpoint n = .ok x)
    (ht : x.traffic = some t) (hne : t.destinations ≠ []) :
    (net.drawFrame n t).1.airtime ≤ net.timing.horizon ∧ net.Knows (net.drawFrame n t).1.destination := by
  have hplace := net.stream.between64_le (Nat.zero_le (t.destinations.length - 1))
  have hlength := List.length_pos_iff.2 hne
  have hlt : (net.stream.between64 0 (t.destinations.length - 1)).1 < t.destinations.length := by omega
  constructor
  · exact Nat.le_trans (Nat.le_of_lt (h.complete.fed n x t hx ht).messageLength) net.timing.word_le_horizon
  · simp only [Network.drawFrame]
    generalize net.stream.between64 0 (t.destinations.length - 1) = place at hlt ⊢
    show net.Knows (t.destinations.getD place.1 n)
    rw [List.getD_eq_getElem?_getD, List.getElem?_eq_getElem hlt]
    exact h.complete.directed n x t hx ht _ (List.getElem_mem hlt)

/-- A source that fires comes to its end. -/
lemma produce (h : net.Confined) (hn : net.Knows n) : Lands (net.produce n) := by
  obtain ⟨x, hx⟩ := h.complete.matched.endpoint_of_knows hn
  obtain ⟨site, hsite⟩ := hn
  unfold Network.produce
  refine .bind hsite (.bind hx ?_)
  split
  · exact .ok h _
  rename_i t ht
  dsimp only
  split
  · exact .ok h _
  rename_i hmore
  split
  · exact .ok h _
  rename_i hne
  split
  · exact .ok h _
  rename_i i hi
  obtain ⟨iface, hiface⟩ := h.complete.furnished.iface hsite hi
  obtain ⟨hairtime, hdestination⟩ := h.drawFrame hx ht (by simpa using hne)
  simp only [Network.drawFrame] at hairtime hdestination
  generalize net.stream.between64 0 (t.destinations.length - 1) = place at hairtime hdestination ⊢
  generalize place.2.between32 0 32767 = id at hairtime hdestination ⊢
  refine .andThen ((h.withStream id.2).send hiface hairtime hdestination) fun _ mid hmid hconf => ?_
  have hdrawn : net.SameSetUp { net with stream := id.2 } := ⟨rfl, rfl, rfl, rfl, rfl, rfl⟩
  have hsent := hdrawn.trans ((send_keeps i _).left hmid)
  obtain ⟨y, hy, hsame⟩ := hsent.endpoint hx
  exact hconf.countOne (hsent.knows ⟨site, hsite⟩) hy hsame ht (by simpa using hmore)

/-- Whatever event is admitted, firing it comes to its end. -/
lemma fire (h : net.Confined) (he : net.Admits e) : Lands (net.fire e) := by
  cases e with
  | produce n => exact h.produce he
  | timer i k =>
    obtain ⟨iface, hi⟩ := he
    exact h.expire hi k
  | forward i f =>
    obtain ⟨⟨iface, hi⟩, hairtime, hdestination⟩ := he
    exact h.send hi hairtime hdestination

/-- Nothing waits but what is admitted. -/
lemma admits {due : Due} (h : net.Confined) (hp : net.scheduler.Pending due e) : net.Admits e := by
  have hnone : ¬ net.stray e = true := fun hs =>
    Nat.ne_of_gt (List.countP_pos_iff.2 ⟨_, Scheduler.mem_toList.2 hp, hs⟩) h.pending
  cases e with
  | timer i k =>
    obtain ⟨r, hr, -⟩ := h.coherent.kept hp
    exact h.complete.fitted.interface hr
  | produce | forward => simpa [stray] using hnone

/-- The event that comes first is taken out. -/
lemma pop {id : EventId} {scheduler : Scheduler Event} (h : net.Confined)
    (hp : net.scheduler.popDue = some ((id, e), scheduler)) :
    ∃ mid, { net with scheduler }.clearTimer id e = .ok mid ∧ mid.Confined ∧ mid.Admits e := by
  have hadmits := h.admits (h.onTime.pending_now hp)
  have hpopped : net.SameSetUp { net with scheduler } := ⟨rfl, rfl, rfl, rfl, rfl, rfl⟩
  by_cases ht : ∃ i k, e = .timer i k
  · obtain ⟨i, k, rfl⟩ := ht
    obtain ⟨iface, hi⟩ := hadmits
    obtain ⟨⟨r, hr⟩, w, hw, -⟩ := h.complete.interface hi
    obtain rfl := setting_self hw
    have hr' : { net with scheduler }.radio w.self = .ok r := hr
    obtain ⟨mid, hc⟩ : ∃ mid, { net with scheduler }.clearTimer id (.timer w.self k) = .ok mid := by
      simp only [clearTimer, hr', ok_bind]
      split <;> exact ⟨_, rfl⟩
    have hsame := hpopped.trans (clearTimer_sameSetUp hc)
    obtain ⟨-, hcarried⟩ := pop_timer h.coherent h.onTime hp hc rfl
    refine ⟨mid, hc, h.carried (hcarried rfl) hsame ⟨iface, hi⟩ (by simp), ?_⟩
    rw [hsame.admits_eq]
    exact ⟨iface, hi⟩
  · have he : ∀ i k, e ≠ .timer i k := fun i k heq => ht ⟨i, k, heq⟩
    have hc : { net with scheduler }.clearTimer id e = .ok { net with scheduler } := by
      cases e with
      | timer i k => exact absurd rfl (he i k)
      | produce | forward => rfl
    obtain ⟨-, hcoherent, honTime, hnow, -, -, hwaiting⟩ := pop_other h.coherent h.onTime hp hc he
    have hcount := hwaiting net.stray
    rw [h.pending] at hcount
    have hnone : scheduler.waiting net.stray = 0 := (Nat.add_eq_zero_iff.1 hcount.symm).1
    have hclock : scheduler.now + net.timing.horizon ≤ Clock.last := by
      rw [show scheduler.now = net.now from hnow]
      exact h.clock
    exact ⟨_, hc, ⟨hcoherent, honTime, h.complete.same hpopped, hclock, h.radio, hnone, h.produced⟩, hadmits⟩

/-- A network is confined when an event has been taken out, and when it has been fired. -/
lemma fires {m : Moment} {result : Except NetworkError Unit} (h : net.Confined) (hf : net.Fires m result) :
    m.before.Confined ∧ m.after.Confined := by
  obtain ⟨id, e, scheduler, hp, hc, -, hfire⟩ := hf
  obtain ⟨mid, hc', hconf, hadmits⟩ := h.pop hp
  cases hc.symm.trans hc'
  exact ⟨hconf, (hconf.fire hadmits).left hfire⟩

/-- The events of a tick land, by induction over the fuel. -/
lemma drain (h : net.Confined) (fuel : Nat) : Lands (Network.drain fuel net) := by
  induction fuel generalizing net with
  | zero => exact .outOfFuel
  | succ fuel ih =>
    unfold Network.drain
    split
    · exact .ok h _
    · rename_i id e scheduler hp
      obtain ⟨mid, hc, hconf, hadmits⟩ := h.pop hp
      exact .bind hc (.andThen (hconf.fire hadmits) fun _ _ _ hafter => ih hafter)

/-- A step lands if a horizon is left behind the tick that it fires. -/
lemma step (h : net.Confined) (fuel : Nat)
    (ht : ∀ time, net.scheduler.nextTime? = some time → time + net.timing.horizon ≤ Clock.last) :
    Lands (net.step fuel) := by
  cases hnext : net.scheduler.nextTime? with
  | none =>
    simp only [Network.step, Scheduler.nextTime, hnext]
    exact .ok h _
  | some time =>
    obtain ⟨hpending, hmin⟩ := Scheduler.nextTime?_eq_some hnext
    obtain ⟨due, e, hp, hdue⟩ := hpending
    simp only [Network.step, Scheduler.nextTime, hnext]
    have hmoved := h.advanceTo ⟨hmin, .inr ⟨due, e, hp, hdue⟩⟩ (ht time hnext)
    exact .andThen (hmoved.drain fuel) fun _ _ _ hafter => .ok hafter _

/-- Steps are taken only to ticks from which the horizon is within the clock. -/
lemma stepWhile {goesOn : Nat → Bool} (h : net.Confined) (fuel steps : Nat)
    (hgoes : ∀ time, goesOn time = true → time + net.timing.horizon ≤ Clock.last) :
    Lands (Network.stepWhile goesOn fuel steps net) := by
  induction steps generalizing net with
  | zero => exact .outOfFuel
  | succ steps ih =>
    unfold Network.stepWhile
    split
    · exact .ok h _
    · rename_i time hnext
      split
      · rename_i hgo
        have hstep : Lands (net.step fuel) := by
          refine h.step fuel fun time' hnext' => ?_
          cases hnext.symm.trans hnext'
          exact hgoes time hgo
        refine .andThen hstep fun _ mid hmid hafter => ih hafter ?_
        rw [((step_keeps fuel).left hmid).timing]
        exact hgoes
      · exact .ok h _

/-- A run up to a limit comes to its end, and leaves the clock at the limit or where an error has come up. -/
lemma runTo (h : net.Confined) (fuel : Nat) (hlimit : limit + net.timing.horizon ≤ Clock.last) :
    Lands (net.runTo fuel limit) := by
  refine .andThen (h.stepWhile fuel fuel fun time hgo => ?_) fun _ mid hmid hafter => ?_
  · have hle : time ≤ limit := by simpa using hgo
    omega
  · refine .ok (hafter.advanceTo ⟨fun {due e} hp => ?_, .inl (by omega)⟩ ?_) _
    · cases hnext : mid.scheduler.nextTime? with
      | none => exact absurd hp (Scheduler.nextTime?_eq_none.1 hnext due e)
      | some time =>
        have hstop := stepWhile_stops hmid hnext
        have hle := (Scheduler.nextTime?_eq_some hnext).2 hp
        simp only [decide_eq_false_iff_not] at hstop
        omega
    · rw [((stepWhile_keeps _ fuel fuel).left hmid).timing]
      exact hlimit

end Confined

end CarrierSense.Network
