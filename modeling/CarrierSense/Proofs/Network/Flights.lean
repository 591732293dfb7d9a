import CarrierSense.Proofs.Network.Setup
import CarrierSense.Proofs.Radio.Ether

/-!
# Flights in a network

A network is `Tracked` by flights if all radios are faithful to theirs and if what is on the air says so.
This is preserved by whatever happens in a run into which frames come by production, forwarding and
sending only; on the way, a radio launches a frame, has it accepted, and settles it, in this order.
-/

namespace CarrierSense

/-- Whether an event forwards an acknowledgement. -/
def Event.forwardsAck : Event → Bool
  | .forward _ f => f.isAck
  | _ => false

/-- Only what is handed on posts anything but timers. -/
lemma Turn.countP_posts (t : Turn) (i : InterfaceId) (p : Event → Bool) :
    t.effects.countP (Effect.posts i p) = t.handedOn.countP (Effect.posts i p) := by
  rw [handedOn, List.countP_filter]
  refine List.countP_congr fun e _ => ?_
  cases e <;> simp [Effect.posts, Effect.handsOn]

/-- Only what is handed on reaches the node. -/
lemma Turn.countP_delivers (t : Turn) :
    t.effects.countP Effect.delivers = t.handedOn.countP Effect.delivers := by
  rw [handedOn, List.countP_filter]
  refine List.countP_congr fun e _ => ?_
  cases e <;> simp [Effect.delivers, Effect.handsOn]

namespace Radio

variable {timing : Timing} {now : Nat} {g : Option Flight} {r : Radio} {d : Alarms}

/-- The handles of its timers do not matter to what a radio has put on the air. -/
lemma Faithful.withTimers (h : Faithful timing now g r d) (timers : Timers) :
    Faithful timing now g { r with timers } d :=
  ⟨h.head, h.sending, h.waiting, h.late⟩

/-- A radio keeps to its flight, whether it is accepted or not. -/
lemma Faithful.accepted {f : Frame} {endsAt : Nat} (h : Faithful timing now (some ⟨f, endsAt, .aloft⟩) r d) :
    Faithful timing now (some ⟨f, endsAt, .accepted⟩) r d where
  head := fun hg _ => by
    cases hg
    have hhead := h.head rfl (by simp)
    exact hhead
  sending := fun hs => by
    obtain ⟨fl, hg, -, hal⟩ := h.sending hs
    cases hg
    exact ⟨_, rfl, by simp, hal⟩
  waiting := fun hw => by
    obtain ⟨fl, hg, -, hal⟩ := h.waiting hw
    cases hg
    exact ⟨_, rfl, by simp, hal⟩
  late := fun hg _ hs hw => by
    cases hg
    have hlate := h.late rfl (by simp) hs hw
    exact hlate

/-- What was over is strictly over at a later tick. -/
lemma Faithful.later {later : Nat} (h : Faithful timing now g r d) (hlt : now < later) :
    Faithful timing later g r d :=
  ⟨h.head, h.sending, h.waiting, fun hg hst hs hw => by
    obtain ⟨hle, -⟩ := h.late hg hst hs hw
    exact ⟨by omega, fun heq => by omega⟩⟩

/-- A radio that was just switched on has put nothing on the air. -/
lemma powerOn_faithful : Faithful timing now none (powerOn timing) d :=
  ⟨fun h => (by cases h), fun h => (by cases h), fun h => (by cases h), fun h => (by cases h)⟩

/-- A sound radio keeps to its flight when it is given a frame to send. -/
lemma enqueue_faithful {w : Setting} {f : Frame} (h : r.Sound d)
    (hf : Faithful w.timing now g r d) :
    Faithful w.timing now g (enqueue w f r).radio ((enqueue w f r).alarms d) := by
  rw [enqueue_eq]
  split
  · rename_i hs
    have ho := h.orderly
    simp only [Orderly, hs] at ho
    obtain ⟨hu, hq, -⟩ := ho
    refine hf.congr (by simp [hq]) (by simp [hs]) (by simp [hs]) rfl (by simp [hu.waitingForAck]) ?_
    exact fun _ hne => absurd hq hne
  · refine hf.congr (fun {f'} hq => ?_) Iff.rfl (fun _ => rfl) rfl (fun _ => rfl) fun hh _ => hh
    rw [List.head?_append, hq]
    rfl

end Radio

namespace Network

variable {net mid net' : Network} {w : Setting} {i j : InterfaceId} {k : Timer} {r : Radio}
  {t u : Turn} {f : Frame} {g g' : Flights} {result : Except NetworkError Unit}

/-- The frames that an interface has to send, the next one first. -/
def queue (net : Network) (i : InterfaceId) : List Frame :=
  match net.radio i with
  | .ok r => r.outgoing
  | .error _ => []

/-- The acknowledgements that an interface owes. -/
def owes (net : Network) (i : InterfaceId) : List Frame :=
  match net.radio i with
  | .ok r => r.acks
  | .error _ => []

/-- The frame that an interface listens to. -/
def heardBy (net : Network) (i : InterfaceId) : Option Incoming :=
  match net.radio i with
  | .ok r => r.incoming
  | .error _ => none

/-- When the pause of an interface before an acknowledgement ends. -/
def pause (net : Network) (i : InterfaceId) : Option Nat := net.alarms i .sifs

/-- The queue of an interface is in its radio. -/
lemma queue_eq (h : net.radio i = .ok r) : net.queue i = r.outgoing := by simp only [queue, h]

/-- The acknowledgements that an interface owes are in its radio. -/
lemma owes_eq (h : net.radio i = .ok r) : net.owes i = r.acks := by simp only [owes, h]

/-- What an interface listens to is in its radio. -/
lemma heardBy_eq (h : net.radio i = .ok r) : net.heardBy i = r.incoming := by simp only [heardBy, h]

/-- What is seen of a radio does not include its handles. -/
lemma views_congr (h : (∃ r timers, net.radio i = .ok r ∧ net'.radio i = .ok { r with timers }) ∨
      net'.radio i = net.radio i) :
    net'.queue i = net.queue i ∧ net'.owes i = net.owes i ∧ net'.heardBy i = net.heardBy i := by
  rcases h with ⟨r, timers, hr, hr'⟩ | h
  · simp only [queue, owes, heardBy, hr, hr', and_self]
  · simp only [queue, owes, heardBy, h, and_self]

namespace Settled

variable (hs : net.Settled w t net')
include hs

/-- What is seen of an interface after its turn. -/
lemma views_self : net'.queue w.self = t.radio.outgoing ∧ net'.owes w.self = t.radio.acks ∧
    net'.heardBy w.self = t.radio.incoming := by
  obtain ⟨timers, hr⟩ := hs.radio_self
  exact ⟨(queue_eq hr :), (owes_eq hr :), (heardBy_eq hr :)⟩

/-- What is seen of the other interfaces after a turn is what it was before. -/
lemma views_other (hj : j ≠ w.self) :
    net'.queue j = net.queue j ∧ net'.owes j = net.owes j ∧ net'.heardBy j = net.heardBy j :=
  views_congr (.inr (hs.radio_other hj))

/-- The pause of an interface after its turn. -/
lemma pause_self : net'.pause w.self = t.alarms (net.alarms w.self) .sifs :=
  congrFun hs.alarms_self _

/-- The pauses of the other interfaces after a turn are what they were before. -/
lemma pause_other (hj : j ≠ w.self) : net'.pause j = net.pause j :=
  congrFun (hs.alarms_other hj) _

end Settled

/-- All radios keep to their flights, and what is on the air agrees with the flights. All queued and
forwarded frames are data frames. -/
structure Tracked (net : Network) (g : Flights) : Prop where
  sound : net.Sound
  queued : ∀ {i f}, f ∈ net.queue i → f.isAck = false ∧ f.sender = some i
  forwards : net.scheduler.waiting Event.forwardsAck = 0
  faithful : ∀ {i r}, net.radio i = .ok r → r.Faithful net.timing net.now (g i) (net.alarms i)
  ether : Ether net.timing.sifs net.owes net.heardBy net.pause g
  known : ∀ {i}, g i ≠ none → ∃ r, net.radio i = .ok r

/-- What has to be shown of a turn, so that the network stays tracked. -/
lemma Tracked.turn (h : net.Tracked g) (hs : net.Settled w t net')
    (hsound : net'.Sound)
    (hq : ∀ f ∈ t.radio.outgoing, f.isAck = false ∧ f.sender = some w.self)
    (hf : t.radio.Faithful net.timing net.now (g' w.self) (t.alarms (net.alarms w.self)))
    (hg : ∀ {j r d}, j ≠ w.self → net.radio j = .ok r → r.Faithful net.timing net.now (g j) d →
      r.Faithful net.timing net.now (g' j) d)
    (hfw : t.handedOn.countP (Effect.posts w.self Event.forwardsAck) = 0)
    (he : Ether net.timing.sifs net'.owes net'.heardBy net'.pause g')
    (hk : ∀ {j}, g' j ≠ none → g j ≠ none ∨ j = w.self) : net'.Tracked g' where
  sound := hsound
  -- everything is split into the interface that acts and the others, which are as before
  queued := fun {j f} hmem => by
    by_cases hj : j = w.self
    · subst hj
      rw [hs.views_self.1] at hmem
      exact hq f hmem
    · rw [(hs.views_other hj).1] at hmem
      exact h.queued hmem
  forwards := by
    rw [hs.waiting fun _ _ => rfl, h.forwards, t.countP_posts, hfw]
  faithful := fun {j r} hr => by
    rw [hs.timing, hs.now]
    by_cases hj : j = w.self
    · subst hj
      obtain ⟨timers, hself⟩ := hs.radio_self
      rw [hself] at hr
      cases hr
      rw [hs.alarms_self]
      exact hf.withTimers timers
    · rw [hs.radio_other hj] at hr
      rw [hs.alarms_other hj]
      exact hg hj hr (h.faithful hr)
  ether := by rw [hs.timing]; exact he
  known := fun {j} hj => by
    by_cases hself : j = w.self
    · subst hself
      obtain ⟨timers, hself⟩ := hs.radio_self
      exact ⟨_, hself⟩
    · rw [hs.radio_other hself]
      exact h.known ((hk hj).resolve_right hself)

/-- The timer `k` of the interface `i` has run out in `net`. The radio `r` that `before` hands to the
machine ends its move with the turn `t` and the sequel `s`, and `mid` is what becomes of the network
before the sequel. -/
structure Fired (net before : Network) (i : InterfaceId) (k : Timer) (r : Radio) (w : Setting)
    (s : Sequel) (t : Turn) (mid : Network) : Prop where
  radio : before.radio i = .ok r
  setting : before.setting i = .ok w
  sequel : s = (Radio.expire w { radio := r } k).2
  self : w.self = i
  now : w.now = net.now
  timing : w.timing = net.timing
  twin : ∃ timers, net.radio i = .ok { r with timers }
  rest : ∀ j, j ≠ i → before.radio j = net.radio j
  endpoint : before.endpoint = net.endpoint
  waiting : ∀ {p : Event → Bool}, (∀ i k, p (.timer i k) = false) →
    before.scheduler.waiting p = net.scheduler.waiting p
  topology : before.topology = net.topology
  sound : r.Sound (net.alarms i)
  due : net.alarms i k = some net.now
  ends : Radio.Ends w (Radio.expire w { radio := r } k) t
  outcome : r.Outcome w (net.alarms i) k s t
  settled : net.Settled w ⟨t.radio, .disarm k :: t.effects⟩ mid
  after : mid.Sound

/-- What follows the turn of the interface `i` that has led to `mid`: nothing more, or a frame that the
members of its medium hear. -/
inductive Follows (before : Network) (i : InterfaceId) (s : Sequel) (mid net' : Network) : Prop where
  | silent (hs : ∀ f, s ≠ .transmit f) (heq : net' = mid)
  | transmit {f : Frame} {medium : Medium} (hs : s = .transmit f)
      (ho : before.topology.mediumOf i = .ok medium) (hh : Hears mid f medium.members net')

/-- Nothing follows a turn that puts no frame on the air. -/
lemma Follows.eq_of_silent {before : Network} {s : Sequel} (h : before.Follows i s mid net')
    (hs : ∀ f, s ≠ .transmit f) : net' = mid := by
  cases h with
  | silent _ heq => exact heq
  | transmit hf => exact absurd hf (hs _)

/-- A turn that puts a frame on the air is followed by those who hear it. -/
lemma Follows.hears {before : Network} (h : before.Follows i (.transmit f) mid net') :
    ∃ members, Hears mid f members net' := by
  cases h with
  | silent hs => exact absurd rfl (hs f)
  | transmit hf _ hh =>
    cases hf
    exact ⟨_, hh⟩

/-- A move comes to an end, and after it a frame may be heard. -/
lemma Moved.ends {m : Move} (h : net.Moved w m net') :
    ∃ (t : Turn) (mid : Network), Radio.Ends w m t ∧ net.Settled w t mid ∧
      net.Follows w.self m.2 mid net' := by
  obtain ⟨t, s⟩ := m
  cases h with
  | rest hm hs =>
    obtain rfl : s = .none := hm
    exact ⟨t, net', .rest (by simp), hs, .silent (by simp) rfl⟩
  | contend hm hn hs =>
    obtain rfl : s = .contend := hm
    exact ⟨_, net', .contend hn, hs, .silent (by simp) rfl⟩
  | @transmit f mid medium hm hs ho hh =>
    obtain rfl : s = .transmit f := hm
    exact ⟨t, mid, .rest (by simp), hs, .transmit rfl ho hh⟩

/-- When a timer of a sound network runs out, the radio moves as it should. -/
theorem Sound.fired {id : EventId} {scheduler : Scheduler Event} {before : Network} (h : net.Sound)
    (hp : net.scheduler.popDue = some ((id, .timer i k), scheduler))
    (hc : { net with scheduler }.clearTimer id (.timer i k) = .ok before)
    (he : before.expire i k = .ok (result, net')) :
    result = .ok () ∧ ∃ (r : Radio) (w : Setting) (s : Sequel) (t : Turn) (mid : Network),
      Fired net before i k r w s t mid ∧ before.Follows i s mid net' := by
  obtain ⟨hal, hcar⟩ := Network.pop_timer h.coherent h.onTime hp hc rfl
  obtain ⟨-, hcoh, hon, -, -, hself⟩ := h.pop_timer hp hc
  obtain ⟨hres, r, w, hr, hw, hmoved⟩ := expire_moved hcoh hon he
  obtain rfl := setting_self hw
  have hcar := hcar (w := w) rfl
  obtain ⟨t, mid, hends, hs, hnext⟩ := hmoved.ends
  obtain ⟨d, hd, rfl, hmid⟩ := hself hr
  have hnow : w.now = net.now := (setting_now hw).trans hcar.now
  -- for the network, taking out the event is as if the radio itself had cleared the timer
  have hset : net.Settled w ⟨t.radio, .disarm k :: t.effects⟩ mid :=
    ⟨hcar.toAffected.trans hs.toAffected, hs.radio_self⟩
  have hsound := hends.sound (Radio.expire_sound hd (k := k) (by simp [hal]))
  have htwin : ∃ timers, net.radio w.self = .ok { r with timers } := by
    obtain ⟨r₀, hr₀, -⟩ := h.coherent.kept (h.onTime.pending_now hp)
    obtain ⟨timers, hr₁⟩ := hcar.radio_self hr₀
    rw [hr] at hr₁
    cases hr₁
    exact ⟨_, hr₀⟩
  have hend : before.endpoint = net.endpoint := by
    funext n
    rw [hcar.endpoint]
    cases net.endpoint n <;> simp [Except.map, Effect.delivers, Endpoint.took]
  refine ⟨hres, r, w, _, t, mid, ⟨hr, hw, rfl, rfl, hnow, ?_, htwin, fun j => hcar.radio_other, hend,
    fun hq => ?_, hcar.topology, hd, hal, hends, ?_, hset, h.settled hset hsound⟩, hnext⟩
  · rw [setting_timing hw]
    exact hcar.timing
  · rw [hcar.waiting hq]
    simp [Effect.posts]
  · exact Radio.expire_outcome hd (hal.trans (congrArg some hnow.symm)) hends

end Network

end CarrierSense
