import CarrierSense.Proofs.Network.Flights

/-!
# What a hop does to frames

Firing an event does one of a few things to the frames of a tracked network (`Progress`): a frame joins
a queue, the head of a queue is launched, a frame is accepted, or the head of a queue is settled and
leaves it. The network stays tracked, by the flights that `Progress` says.
-/

namespace CarrierSense.Network

variable {net mid net' before : Network} {w : Setting} {i j s : InterfaceId} {k : Timer} {r : Radio}
  {q : Sequel} {t : Turn} {f : Frame} {g g' : Flights} {result : Except NetworkError Unit}

/-- No alarm of a sound network is overdue. -/
lemma Sound.now_le_alarm {time : Nat} (h : net.Sound) (ha : net.alarms i k = some time) :
    net.now ≤ time := by
  obtain ⟨n, hp⟩ := h.coherent.alarms_eq_some.1 ha
  exact h.onTime.now_le_due hp

/-- The end of a frame that is heard is awaited. -/
lemma Sound.alarm_of_heard {x : Incoming} (h : net.Sound) (hx : net.heardBy i = some x) :
    net.alarms i .reception = some x.endsAt := by
  unfold heardBy at hx
  split at hx
  · rename_i r hr
    rw [(h.radio hr).reception, hx]
    rfl
  · cases hx

/-- In a sound network a frame that begins to be heard changes neither queues nor flights. -/
lemma Sound.heard (h : net.Sound) (hr : net.radio i = .ok r) (hw : net.setting i = .ok w) :
    Radio.Heard w f r (net.alarms w.self) (Radio.receive w f { radio := r }) := by
  obtain rfl := setting_self hw
  exact Radio.receive_heard f (h.radio hr) (h.coherent.slot_isSome hr .backoff)

/-- No node has taken a frame, and the same frames wait to be forwarded. -/
structure Kept (net net' : Network) : Prop where
  endpoint : net'.endpoint = net.endpoint
  waiting : ∀ {p : Event → Bool}, (∀ i k, p (.timer i k) = false) →
    net'.scheduler.waiting p = net.scheduler.waiting p

/-- What nodes have taken is kept through two changes that keep it. -/
lemma Kept.trans (h : net.Kept mid) (h' : mid.Kept net') : net.Kept net' :=
  ⟨h'.endpoint.trans h.endpoint, fun hp => (h'.waiting hp).trans (h.waiting hp)⟩

/-- Nothing has happened to a queue, a node or a frame that waits to be forwarded. -/
structure Undisturbed (net net' : Network) : Prop extends net.Kept net' where
  queue : net'.queue = net.queue
  owes : net'.owes = net.owes

/-- Where nothing happens, nothing is disturbed. -/
lemma Undisturbed.refl (net : Network) : net.Undisturbed net := ⟨⟨rfl, fun _ => rfl⟩, rfl, rfl⟩

/-- Two changes that disturb nothing disturb nothing together. -/
lemma Undisturbed.trans (h : net.Undisturbed mid) (h' : mid.Undisturbed net') :
    net.Undisturbed net' :=
  ⟨h.toKept.trans h'.toKept, h'.queue.trans h.queue, h'.owes.trans h.owes⟩

/-- A turn that hands nothing on leaves nodes and waiting frames alone. -/
lemma Settled.kept (hs : net.Settled w t net') (hh : t.handedOn = []) : net.Kept net' := by
  refine ⟨funext fun n => ?_, fun hp => ?_⟩
  · rw [hs.endpoint, t.countP_delivers, hh, List.countP_nil, ite_self]
    cases net.endpoint n <;> rfl
  · rw [hs.waiting hp, t.countP_posts, hh, List.countP_nil, Nat.add_zero]

/-- A frame that begins to be heard disturbs nothing. -/
lemma Sound.receive_undisturbed (h : net.Sound) (hr : net.radio i = .ok r) (hw : net.setting i = .ok w)
    (hs : net.Settled w (Radio.receive w f { radio := r }) net') : net.Undisturbed net' := by
  have hh := h.heard (f := f) hr hw
  obtain rfl := setting_self hw
  have hviews : ∀ j, net'.queue j = net.queue j ∧ net'.owes j = net.owes j := by
    intro j
    by_cases hj : j = w.self
    · subst hj
      obtain ⟨hq, ho, -⟩ := hs.views_self
      exact ⟨by rw [hq, hh.outgoing, queue_eq hr], by rw [ho, hh.acks, owes_eq hr]⟩
    · obtain ⟨hq, ho, -⟩ := hs.views_other hj
      exact ⟨hq, ho⟩
  exact ⟨hs.kept hh.handedOn, funext fun j => (hviews j).1, funext fun j => (hviews j).2⟩

/-- What an interface listens to after a frame has begun is what it listened to, or this frame. -/
lemma Sound.receive_heardBy {x : Incoming} (h : net.Sound) (hr : net.radio i = .ok r)
    (hw : net.setting i = .ok w) (hs : net.Settled w (Radio.receive w f { radio := r }) net')
    (hx : net'.heardBy j = some x) : net.heardBy j = some x ∨ x = ⟨f, net.now + f.airtime⟩ := by
  have hh := h.heard (f := f) hr hw
  have hnow := setting_now hw
  obtain rfl := setting_self hw
  by_cases hj : j = w.self
  · subst hj
    rw [hs.views_self.2.2] at hx
    rcases hh.incoming with hin | ⟨-, hin⟩
    · exact .inl (by rw [heardBy_eq hr, ← hin, hx])
    · rw [hin, hnow] at hx
      exact .inr (Option.some.inj hx).symm
  · exact .inl (by rw [← (hs.views_other hj).2.2, hx])

/-- A frame that is heard by members of a medium disturbs nothing, by induction over them. -/
lemma Hears.undisturbed {members : List InterfaceId} (hh : Hears net f members net') (h : net.Sound) :
    net.Undisturbed net' := by
  induction hh with
  | nil => exact .refl _
  | cons hr hw hs _ ih => exact (h.receive_undisturbed hr hw hs).trans (ih (h.receive hr hw hs))

/-- Whatever is heard after a turn, it disturbs no queue. -/
lemma Follows.undisturbed (hnext : before.Follows i q mid net') (hmid : mid.Sound) :
    mid.Undisturbed net' := by
  cases hnext with
  | silent _ heq => exact heq ▸ .refl _
  | transmit _ _ hh => exact hh.undisturbed hmid

/-- Hearing a frame that may be heard by anyone keeps a network tracked. -/
lemma Tracked.receive (h : net.Tracked g) (hr : net.radio i = .ok r) (hw : net.setting i = .ok w)
    (hs : net.Settled w (Radio.receive w f { radio := r }) net')
    (hf : Airs net.owes g f (net.now + f.airtime)) : net'.Tracked g := by
  have hh := h.sound.heard (f := f) hr hw
  have hun := h.sound.receive_undisturbed hr hw hs
  have hsound := h.sound.receive hr hw hs
  have hnow := setting_now hw
  have htime := setting_timing hw
  obtain rfl := setting_self hw
  refine h.turn hs hsound (fun f hmem => ?_) ?_ (fun _ _ hg => hg) ?_ ?_ fun hg => .inl hg
  · rw [hh.outgoing] at hmem
    exact h.queued (by rw [queue_eq hr]; exact hmem)
  · rw [← htime, ← hnow]
    refine hh.faithful ?_
    rw [htime, hnow]
    exact h.faithful hr
  · rw [hh.handedOn]
    rfl
  · rw [hun.owes]
    refine h.ether.hear hf (h.sound.receive_heardBy hr hw hs) fun {j a} _ => ?_
    by_cases hj : j = w.self
    · subst hj
      rw [hs.pause_self]
      exact hh.alarms _ (by simp) (by simp)
    · exact hs.pause_other hj

/-- Radios keep to their flights while a frame reaches the members of a medium. -/
lemma Tracked.hears {members : List InterfaceId} (h : net.Tracked g) (hh : Hears net f members net')
    (hf : Airs net.owes g f (net.now + f.airtime)) : net'.Tracked g := by
  induction hh with
  | nil => exact h
  | cons hr hw hs _ ih =>
    have hun := h.sound.receive_undisturbed hr hw hs
    have hmid := h.receive hr hw hs hf
    rw [← hun.owes, ← hs.now] at hf
    exact ih hmid hf

/-- When the timer `k` of the interface `i` runs out, its radio puts the frame `f` on the air. -/
def Transmits (net : Network) (i : InterfaceId) (k : Timer) (f : Frame) : Prop :=
  ∃ r w, net.radio i = .ok r ∧ net.setting i = .ok w ∧
    (Radio.expire w { radio := r } k).2 = .transmit f

/-- The interface `j` has heard the data frame `f` to its end. It queues the acknowledgement, and hands
the frame to its node if that is the destination; otherwise it posts the frame to be forwarded. -/
structure Accepts (net : Network) (j : InterfaceId) (f : Frame) (net' : Network) : Prop where
  heard : net.heardBy j = some ⟨f, net.now⟩
  acks : net'.owes j = net.owes j ++ [f.ackFrom j net.timing.ackDuration]
  handed : ∃ iface, net.topology.interface j = .ok iface ∧
    (∀ n, net'.endpoint n = (net.endpoint n).map
      (Endpoint.took · (if n = f.destination ∧ f.destination = iface.node then 1 else 0))) ∧
    ∀ {p : Event → Bool}, (∀ i k, p (.timer i k) = false) → net'.scheduler.waiting p =
      net.scheduler.waiting p + if f.destination ≠ iface.node ∧ p (.forward j f) then 1 else 0

/-- What becomes of frames, and of the flights of the radios, when the timer `k` of `i` runs out. -/
inductive Progress (net : Network) (i : InterfaceId) (k : Timer) (net' : Network) (g : Flights) :
    Flights → Prop where
  | launch {f : Frame} (transmits : net.Transmits i k f) (data : f.isAck = false)
      (head : (net.queue i).head? = some f) (queue : net'.queue = net.queue)
      (kept : net.Kept net') : Progress net i k net' g (g.put i ⟨f, net.now + f.airtime, .aloft⟩)
  | accept {s : InterfaceId} {f : Frame} (silent : ∀ f, ¬ net.Transmits i k f) (timer : k = .reception)
      (flight : g s = some ⟨f, net.now, .aloft⟩) (receiver : f.receiver = some i)
      (accepts : net.Accepts i f net') (queue : net'.queue = net.queue) :
      Progress net i k net' g (g.put s ⟨f, net.now, .accepted⟩)
  | settle {fl : Flight} (silent : ∀ f, ¬ net.Transmits i k f) (flight : g i = some fl)
      (accepted : fl.stage = .accepted) (head : net.queue i = fl.frame :: net'.queue i)
      (other : ∀ {j}, j ≠ i → net'.queue j = net.queue j) (kept : net.Kept net') :
      Progress net i k net' g (g.put i { fl with stage := .settled })
  | quiet (silent : ∀ f, net.Transmits i k f → f.isAck = true) (queue : net'.queue = net.queue)
      (kept : net.Kept net') : Progress net i k net' g g

section Fired

variable (hF : Fired net before i k r w q t mid)
include hF

namespace Fired

/-- The sequel of a timer tells which frame goes on the air. -/
lemma transmits_iff : before.Transmits i k f ↔ q = .transmit f := by
  constructor
  · rintro ⟨r', w', hr, hw, hq⟩
    rw [hF.radio] at hr
    rw [hF.setting] at hw
    cases hr
    cases hw
    rw [hF.sequel, hq]
  · intro hq
    exact ⟨r, w, hF.radio, hF.setting, by rw [← hF.sequel, hq]⟩

/-- To take out a timer changes nothing that is seen of queues and frames. -/
lemma views_before : before.queue = net.queue ∧ before.owes = net.owes ∧
    before.heardBy = net.heardBy := by
  have hviews : ∀ j, net.queue j = before.queue j ∧ net.owes j = before.owes j ∧
      net.heardBy j = before.heardBy j := by
    intro j
    by_cases hj : j = i
    · subst hj
      obtain ⟨timers, hr⟩ := hF.twin
      exact views_congr (.inl ⟨r, timers, hF.radio, hr⟩)
    · exact views_congr (.inr (hF.rest j hj).symm)
  exact ⟨funext fun j => (hviews j).1.symm, funext fun j => (hviews j).2.1.symm,
    funext fun j => (hviews j).2.2.symm⟩

/-- To take out a timer does not move the clock. -/
lemma now_before : before.now = net.now := (setting_now hF.setting).symm.trans hF.now

/-- What is seen of an interface before its turn is in its radio. -/
lemma views_net : net.queue i = r.outgoing ∧ net.owes i = r.acks ∧ net.heardBy i = r.incoming := by
  obtain ⟨timers, hr⟩ := hF.twin
  exact ⟨(queue_eq hr :), (owes_eq hr :), (heardBy_eq hr :)⟩

/-- The frame that is heard ends when the timer of the reception runs out. -/
lemma ends_now {x : Incoming} (hk : k = .reception) (hx : r.incoming = some x) : x.endsAt = net.now := by
  have hal := hF.sound.reception
  rw [hx, ← hk, hF.due] at hal
  exact (Option.some.inj hal).symm

/-- What is seen of an interface after its turn is in the radio of the turn. -/
lemma views_self : mid.queue i = t.radio.outgoing ∧ mid.owes i = t.radio.acks ∧
    mid.heardBy i = t.radio.incoming := by
  obtain rfl := hF.self
  exact hF.settled.views_self

/-- A turn changes nothing that is seen of other interfaces. -/
lemma views_other (hj : j ≠ i) : mid.queue j = net.queue j ∧ mid.owes j = net.owes j ∧
    mid.heardBy j = net.heardBy j := by
  obtain rfl := hF.self
  exact hF.settled.views_other hj

/-- A turn says itself when its pause before an acknowledgement ends. -/
lemma pause_self : mid.pause i = t.alarms ((net.alarms i).set k none) .sifs := by
  obtain rfl := hF.self
  exact hF.settled.pause_self

/-- A turn leaves the pauses of other interfaces alone. -/
lemma pause_other (hj : j ≠ i) : mid.pause j = net.pause j := by
  obtain rfl := hF.self
  exact hF.settled.pause_other hj

/-- A turn that hands nothing on leaves nodes and waiting frames alone, also those of the network that
the timer was handed to. -/
lemma kept (hh : t.handedOn = []) : before.Kept mid := by
  obtain ⟨hend, hwait⟩ := hF.settled.kept (t := ⟨t.radio, .disarm k :: t.effects⟩) hh
  exact ⟨hend.trans hF.endpoint.symm, fun hp => (hwait hp).trans (hF.waiting hp).symm⟩

/-- If the radio owes nothing after the turn, what is owed is owed by others, and was before. -/
lemma owed_before {a : Frame} (hacks : t.radio.acks = []) (hmem : a ∈ mid.owes j) :
    j ≠ i ∧ a ∈ net.owes j ∧ mid.pause j = net.pause j := by
  by_cases hj : j = i
  · subst hj
    rw [hF.views_self.2.1, hacks] at hmem
    cases hmem
  · rw [(hF.views_other hj).2.1] at hmem
    exact ⟨hj, hmem, hF.pause_other hj⟩

/-- What is heard was heard before, if the turn tracks nothing new. -/
lemma heard_before {x : Incoming} (hin : t.radio.incoming = r.incoming ∨ t.radio.incoming = none)
    (hx : mid.heardBy j = some x) : net.heardBy j = some x := by
  by_cases hj : j = i
  · subst hj
    rw [hF.views_self.2.2] at hx
    rcases hin with hin | hin
    · rw [hF.views_net.2.2, ← hin, hx]
    · rw [hin] at hx
      cases hx
  · rw [(hF.views_other hj).2.2] at hx
    exact hx

/-- If a turn leaves its own queue alone, then all queues are as before. -/
lemma queue_eq (hq : t.radio.outgoing = r.outgoing) : mid.queue = before.queue := by
  rw [hF.views_before.1]
  funext j
  by_cases hj : j = i
  · subst hj
    rw [hF.views_self.1, hF.views_net.1, hq]
  · exact (hF.views_other hj).1

end Fired

/-- What has to be shown of a timer that runs out, so that the network stays tracked. -/
lemma Tracked.fired (h : net.Tracked g) (hq : ∀ f ∈ t.radio.outgoing, f ∈ r.outgoing)
    (hf : t.radio.Faithful w.timing w.now (g' i) (t.alarms ((net.alarms i).set k none)))
    (hg : ∀ {j r d}, j ≠ i → net.radio j = .ok r → r.Faithful net.timing net.now (g j) d →
      r.Faithful net.timing net.now (g' j) d)
    (hfw : t.handedOn.countP (Effect.posts i Event.forwardsAck) = 0)
    (he : Ether net.timing.sifs mid.owes mid.heardBy mid.pause g')
    (hk : ∀ {j}, g' j ≠ none → g j ≠ none ∨ j = i) : mid.Tracked g' := by
  obtain rfl := hF.self
  refine h.turn hF.settled hF.after (fun f hmem => ?_) ?_ hg hfw he hk
  · exact h.queued (by rw [hF.views_net.1]; exact hq f hmem)
  · rw [← hF.timing, ← hF.now]
    exact hf

/-- A radio whose timer has run out has kept to its flight so far. -/
lemma Tracked.faithful_fired (h : net.Tracked g) : r.Faithful w.timing w.now (g i) (net.alarms i) := by
  obtain ⟨timers, hr⟩ := hF.twin
  rw [hF.timing, hF.now]
  exact (h.faithful hr).withTimers r.timers

/-- When a radio launches a frame, nothing is left on the air of what it launched before. -/
lemma Tracked.stale (h : net.Tracked g) (hs : r.status ≠ .sendingMessage) (hw : r.waitingForAck = false)
    (hh : ¬ r.Held w.now) :
    (∀ {j x}, net.heardBy j = some x → x.frame.isAck = false → x.frame.receiver = some j →
      x.frame.sender ≠ some i) ∧ ∀ {j a}, a ∈ net.owes j → a.receiver ≠ some i := by
  -- the timeout is over, and not just now: a radio whose timeout is just over is held
  have hlate : ∀ {fl}, g i = some fl → fl.stage ≠ .settled →
      fl.endsAt + net.timing.ackTimeout < net.now := by
    intro fl hg hst
    obtain ⟨hle, hheld⟩ := (h.faithful_fired hF).late hg hst hs hw
    rw [hF.timing, hF.now] at hle hheld
    rw [hF.now] at hh
    exact Nat.lt_of_le_of_ne hle fun heq => hh (hheld heq)
  constructor
  · intro j x hx hd hr hsend
    obtain ⟨i', hi', hg⟩ := h.ether.data hx hd hr
    rw [hsend] at hi'
    cases hi'
    have hlt : x.endsAt + net.timing.ackTimeout < net.now := hlate hg (by simp)
    have hle := h.sound.now_le_alarm (h.sound.alarm_of_heard hx)
    omega
  · intro j a hmem hrecv
    obtain ⟨-, i', fl, hi', hg, hacc, -, hdue⟩ := h.ether.owed hmem
    rw [hrecv] at hi'
    cases hi'
    -- the acknowledgement leaves one pause after the frame, which is before the timeout
    have hlt := hlate hg (by simp [hacc])
    have hle := h.sound.now_le_alarm hdue
    unfold Timing.ackTimeout at hlt
    omega

/-- A radio launches the head of its queue. -/
lemma Tracked.launched (h : net.Tracked g) (hhead : r.outgoing.head? = some f)
    (hout : t.radio.outgoing = r.outgoing) (hacks : t.radio.acks = []) (hin : t.radio.incoming = none)
    (hst : t.radio.status = .sendingMessage) (hw : t.radio.waitingForAck = false)
    (hal : t.alarms ((net.alarms i).set k none) .transmission = some (w.now + f.airtime))
    (hb : r.status ≠ .sendingMessage ∧ r.waitingForAck = false ∧ ¬ r.Held w.now)
    (hh : t.handedOn = []) :
    mid.Tracked (g.put i ⟨f, net.now + f.airtime, .aloft⟩) ∧
      Airs mid.owes (g.put i ⟨f, net.now + f.airtime, .aloft⟩) f (net.now + f.airtime) := by
  obtain ⟨hdata, howed⟩ := h.stale hF hb.1 hb.2.1 hb.2.2
  have hframe := h.queued (i := i) (f := f) (by rw [hF.views_net.1]; exact List.mem_of_mem_head? hhead)
  obtain ⟨-, -, hin'⟩ := hF.views_self
  refine ⟨h.fired hF (fun _ hmem => hout ▸ hmem) ?_ (fun hj _ hg => ?_) (by rw [hh]; rfl) ?_
    Flights.put_ne_none, ?_⟩
  · rw [Flights.put_self]
    refine ⟨fun hg _ => ?_, fun _ => ⟨_, rfl, by simp, ?_⟩, fun hw' => ?_, fun _ _ hs _ => absurd hst hs⟩
    · cases hg
      rw [hout, hhead]
    · rw [hal, hF.now]
    · rw [hw] at hw'
      cases hw'
  · rw [Flights.put_ne hj]
    exact hg
  · exact h.ether.launch (by rw [hin', hin]) (fun hj => (hF.views_other hj).2.2)
      (fun hmem => (hF.owed_before hacks hmem).2) hdata howed
  · exact ⟨fun _ => ⟨i, hframe.2, Flights.put_self ..⟩, fun ha => by rw [hframe.1] at ha; cases ha⟩

/-- A radio sends an acknowledgement that it owed. -/
lemma Tracked.answered {a : Frame} (h : net.Tracked g) (hqueue : r.acks = [a])
    (hout : t.radio.outgoing = r.outgoing) (hacks : t.radio.acks = []) (hin : t.radio.incoming = none)
    (hf : t.radio.Faithful w.timing w.now (g i) (t.alarms ((net.alarms i).set k none)))
    (hh : t.handedOn = []) :
    mid.Tracked g ∧ a.isAck = true ∧ ∀ endsAt, Airs mid.owes g a endsAt := by
  have hmem_a : a ∈ net.owes i := by
    rw [hF.views_net.2.1, hqueue]
    exact List.mem_singleton.2 rfl
  obtain ⟨hack, s, fl, hrecv, hg, hacc, hfor, -⟩ := h.ether.owed hmem_a
  refine ⟨h.fired hF (fun _ hmem => hout ▸ hmem) hf (fun _ _ hg => hg) (by rw [hh]; rfl) ?_ .inl, hack,
    fun endsAt => ⟨fun hd => ?_, fun _ {s'} hs' => ?_⟩⟩
  · exact h.ether.mono (fun hmem => (hF.owed_before hacks hmem).2) fun hx => hF.heard_before (.inr hin) hx
  · rw [hack] at hd
    cases hd
  · rw [hrecv] at hs'
    cases hs'
    refine ⟨⟨fl, hg, hacc⟩, fun {j b} hmem hb => ?_⟩
    -- two interfaces cannot owe acknowledgements of the same flight
    obtain ⟨hj, hmem, -⟩ := hF.owed_before hacks hmem
    obtain ⟨-, s', fl', hs', hg', -, hfor', -⟩ := h.ether.owed hmem
    rw [hb] at hs'
    cases hs'
    rw [hg] at hg'
    cases hg'
    rw [hfor] at hfor'
    exact hj (Option.some.inj hfor').symm

/-- A radio takes the acknowledgement that it awaited, and settles the head of its queue. -/
lemma Tracked.settled {x : Incoming} (h : net.Tracked g) (hx : r.incoming = some x)
    (hack : x.frame.isAck = true) (hrecv : x.frame.receiver = some i)
    (hout : ∃ f, r.outgoing = f :: t.radio.outgoing) (hacks : t.radio.acks = [])
    (hin : t.radio.incoming = none) (hst : t.radio.status ≠ .sendingMessage)
    (hw : t.radio.waitingForAck = false) (hh : t.handedOn = []) :
    ∃ fl, g i = some fl ∧ fl.stage = .accepted ∧ before.queue i = fl.frame :: mid.queue i ∧
      mid.Tracked (g.put i { fl with stage := .settled }) := by
  obtain ⟨hq', -, hin'⟩ := hF.views_self
  have hx' : net.heardBy i = some x := by rw [hF.views_net.2.2, hx]
  obtain ⟨⟨fl, hg, hacc⟩, -⟩ := h.ether.answered hx' hack hrecv
  obtain ⟨f, hq⟩ := hout
  refine ⟨fl, hg, hacc, ?_, h.fired hF (fun f' hmem => ?_) ?_ (fun hj _ hg => ?_) (by rw [hh]; rfl) ?_
    Flights.put_ne_none⟩
  · have hhead := (h.faithful_fired hF).head hg (by simp [hacc])
    rw [hq, List.head?_cons, Option.some.injEq] at hhead
    rw [hF.views_before.1, hF.views_net.1, hq', hq, hhead]
  · rw [hq]
    exact List.mem_cons_of_mem _ hmem
  · rw [Flights.put_self]
    refine ⟨fun hg hs => ?_, fun hs => absurd hs hst, fun hw' => ?_, fun hg hs => ?_⟩
    · cases hg
      exact absurd rfl hs
    · rw [hw] at hw'
      cases hw'
    · cases hg
      exact absurd rfl hs
  · rw [Flights.put_ne hj]
    exact hg
  · exact h.ether.settle hx' hack hrecv (by rw [hin', hin]) (fun hj => (hF.views_other hj).2.2)
      fun hmem => (hF.owed_before hacks hmem).2

/-- A radio takes a data frame: the flight of its sender is accepted. -/
lemma Tracked.accepted {x : Incoming} (h : net.Tracked g) (hk : k = .reception) (hx : r.incoming = some x)
    (hd : x.frame.isAck = false) (hrecv : x.frame.receiver = some i)
    (hout : t.radio.outgoing = r.outgoing)
    (hacks : t.radio.acks = [x.frame.ackFrom i w.timing.ackDuration])
    (hin : t.radio.incoming = none)
    (hal : t.alarms ((net.alarms i).set k none) .sifs = some (w.now + w.timing.sifs))
    (hf : ∀ {g}, r.Faithful w.timing w.now g (net.alarms i) →
      t.radio.Faithful w.timing w.now g (t.alarms ((net.alarms i).set k none)))
    (hh : t.handedOn = [if x.frame.destination = w.home then .deliver x.frame else .relay x.frame]) :
    ∃ s, g s = some ⟨x.frame, net.now, .aloft⟩ ∧ x.endsAt = net.now ∧
      mid.Tracked (g.put s ⟨x.frame, net.now, .accepted⟩) := by
  obtain ⟨-, hacks', hin'⟩ := hF.views_self
  have hx' : net.heardBy i = some x := by rw [hF.views_net.2.2, hx]
  have hnow := hF.ends_now hk hx
  obtain ⟨s, hs, hg⟩ := h.ether.data hx' hd hrecv
  rw [hnow] at hg
  -- no radio minds whether its flight is accepted or not
  have hput : ∀ {j} {r : Radio} {d : Alarms}, r.Faithful w.timing w.now (g j) d →
      r.Faithful w.timing w.now (g.put s ⟨x.frame, net.now, .accepted⟩ j) d := by
    intro j r d hj
    by_cases hjs : j = s
    · subst hjs
      rw [hg] at hj
      rw [Flights.put_self]
      exact hj.accepted
    · rw [Flights.put_ne hjs]
      exact hj
  refine ⟨s, hg, hnow, h.fired hF (fun _ hmem => hout ▸ hmem) (hf (hput (h.faithful_fired hF)))
    (fun _ _ hj => ?_) ?_ ?_ ?_⟩
  · have hj' := hput (by rw [hF.timing, hF.now]; exact hj)
    rw [hF.timing, hF.now] at hj'
    exact hj'
  · rw [hh]
    by_cases hdest : x.frame.destination = w.home <;> simp [hdest, Effect.posts, Event.forwardsAck, hd]
  · rw [← hnow]
    refine h.ether.accept hx' hd hrecv hs (by rw [hacks', hacks]) ?_ (by rw [hin', hin])
      (fun hj => (hF.views_other hj).2.2) fun hj => ⟨(hF.views_other hj).2.1, hF.pause_other hj⟩
    rw [hF.pause_self, hal, hF.now, hF.timing, hnow]
  · intro j hj
    rcases Flights.put_ne_none hj with hj | rfl
    · exact .inl hj
    · exact .inl (by rw [hg]; simp)

/-- The frame that a radio takes is acknowledged, and handed on. -/
lemma Fired.accepts {x : Incoming} (hnow : x.endsAt = net.now) (hx : r.incoming = some x)
    (hacks : r.acks = [] ∧ t.radio.acks = [x.frame.ackFrom i w.timing.ackDuration])
    (hh : t.handedOn = [if x.frame.destination = w.home then .deliver x.frame else .relay x.frame]) :
    before.Accepts i x.frame mid := by
  obtain ⟨-, howes, hheard⟩ := hF.views_before
  obtain ⟨iface, hiface, hw⟩ := setting_eq_ok.1 hF.setting
  have htime : w.timing = before.timing := by rw [hw]
  have hhome : w.home = iface.node := by rw [hw]
  have hself := hF.self
  refine ⟨?_, ?_, iface, hiface, fun n => ?_, fun {p} hp => ?_⟩
  · rw [hheard, hF.views_net.2.2, hx, hF.now_before, ← hnow]
  · rw [howes, hF.views_self.2.1, hF.views_net.2.1, hacks.1, hacks.2, htime]
    rfl
  · have hend := hF.settled.endpoint n
    rw [hend, hF.endpoint, Turn.countP_delivers]
    have hcount : Turn.handedOn ⟨t.radio, .disarm k :: t.effects⟩ = t.handedOn := rfl
    rw [hcount, hh, ← hhome]
    by_cases hd : x.frame.destination = w.home <;> simp [hd, Effect.delivers]
  · have hwait := hF.settled.waiting hp
    rw [hwait, hF.waiting hp, Turn.countP_posts]
    have hcount : Turn.handedOn ⟨t.radio, .disarm k :: t.effects⟩ = t.handedOn := rfl
    rw [hcount, hh, ← hhome, hself]
    by_cases hd : x.frame.destination = w.home
    · simp [hd, Effect.posts]
    · cases hpost : p (.forward i x.frame) <;> simp [hd, hpost, Effect.posts]

/-- Nothing happens to any frame, but that a frame may have ended. -/
lemma Tracked.unmoved (h : net.Tracked g) (hout : t.radio.outgoing = r.outgoing)
    (hacks : t.radio.acks = r.acks)
    (hal : r.acks ≠ [] → t.alarms ((net.alarms i).set k none) .sifs = net.alarms i .sifs)
    (hin : t.radio.incoming = r.incoming ∨ t.radio.incoming = none)
    (hf : t.radio.Faithful w.timing w.now (g i) (t.alarms ((net.alarms i).set k none)))
    (hh : t.handedOn = []) : mid.Tracked g := by
  refine h.fired hF (fun _ hmem => hout ▸ hmem) hf (fun _ _ hg => hg) (by rw [hh]; rfl) ?_ .inl
  refine h.ether.mono (fun {j a} hmem => ?_) fun hx => hF.heard_before hin hx
  by_cases hj : j = i
  · subst hj
    rw [hF.views_self.2.1, hacks] at hmem
    refine ⟨by rw [hF.views_net.2.1]; exact hmem, ?_⟩
    rw [hF.pause_self, hal (List.ne_nil_of_mem hmem)]
    rfl
  · rw [(hF.views_other hj).2.1] at hmem
    exact ⟨hmem, hF.pause_other hj⟩

end Fired

/-- When a timer runs out in a tracked network, something becomes of frames and flights, and the network
stays tracked. -/
theorem Tracked.expire {id : EventId} {scheduler : Scheduler Event} (h : net.Tracked g)
    (hp : net.scheduler.popDue = some ((id, .timer i k), scheduler))
    (hc : { net with scheduler }.clearTimer id (.timer i k) = .ok before)
    (he : before.expire i k = .ok (result, net')) :
    result = .ok () ∧ net.Undisturbed before ∧
      ∃ g', net'.Tracked g' ∧ before.Progress i k net' g g' := by
  obtain ⟨hres, r, w, q, t, mid, hF, hnext⟩ := h.sound.fired hp hc he
  refine ⟨hres, ⟨⟨hF.endpoint, hF.waiting⟩, hF.views_before.1, hF.views_before.2.1⟩, ?_⟩
  have hself := hF.self
  -- either nothing goes on the air, or some interfaces hear it after the turn
  have hrest : (∀ f, q ≠ .transmit f) → net' = mid ∧ ∀ f, ¬ before.Transmits i k f := fun hq =>
    ⟨hnext.eq_of_silent hq, fun f hf => hq f (hF.transmits_iff.1 hf)⟩
  have hair : ∀ {f}, q = .transmit f → ∃ members, Hears mid f members net' := fun hq =>
    (hq ▸ hnext).hears
  have hun := hnext.undisturbed hF.after
  have hnow := hF.now_before
  cases hF.outcome with
  | @launch f hq hhead hout hacks hin hst hw hal hb hh =>
    obtain ⟨members, hhears⟩ := hair hq
    obtain ⟨hmid, hairs⟩ := h.launched hF hhead hout hacks hin hst hw hal hb hh
    refine ⟨_, hmid.hears hhears (by rw [hF.settled.now]; exact hairs), ?_⟩
    rw [← hnow]
    have hqueue : before.queue i = r.outgoing := by rw [hF.views_before.1, hF.views_net.1]
    have hdata := h.queued (i := i) (f := f)
      (by rw [hF.views_net.1]; exact List.mem_of_mem_head? hhead)
    exact .launch (hF.transmits_iff.2 hq) hdata.1 (by rw [hqueue, hhead])
      (hun.queue.trans (hF.queue_eq hout)) ((hF.kept hh).trans hun.toKept)
  | @answer a hq htimer hqueue hout hacks hin hf hh =>
    -- what goes on the air is an acknowledgement, which is no flight
    obtain ⟨members, hhears⟩ := hair hq
    obtain ⟨hmid, hack, hairs⟩ := h.answered hF hqueue hout hacks hin (hf (h.faithful_fired hF)) hh
    refine ⟨g, hmid.hears hhears (hairs _), .quiet (fun f hf => ?_)
      (hun.queue.trans (hF.queue_eq hout)) ((hF.kept hh).trans hun.toKept)⟩
    have hsame := hF.transmits_iff.1 hf
    rw [hq] at hsame
    cases hsame
    exact hack
  | @settle x hq hx hack hrecv hout hacks hin hst hw hh =>
    obtain ⟨rfl, hsilent⟩ := hrest hq
    rw [hself] at hrecv
    obtain ⟨fl, hg, hacc, hhead, htracked⟩ := h.settled hF hx hack hrecv hout hacks hin hst hw hh
    refine ⟨_, htracked, .settle hsilent hg hacc hhead (fun hj => ?_) (hF.kept hh)⟩
    rw [hF.views_before.1]
    exact (hF.views_other hj).1
  | @accept x hq htimer hx hd hrecv hout hacks hin hal hf hh =>
    obtain ⟨rfl, hsilent⟩ := hrest hq
    rw [hself] at hrecv hacks
    obtain ⟨s, hg, hend, htracked⟩ := h.accepted hF htimer hx hd hrecv hout hacks.2 hin hal hf hh
    refine ⟨_, htracked, ?_⟩
    rw [← hnow] at hg ⊢
    exact .accept hsilent htimer hg hrecv (hF.accepts hend hx hacks hh) (hF.queue_eq hout)
  | quiet hq hout hacks hal hin hf hh =>
    obtain ⟨rfl, hsilent⟩ := hrest hq
    have htracked := h.unmoved hF hout hacks hal hin (hf (h.faithful_fired hF)) hh
    exact ⟨g, htracked, .quiet (fun f hf => absurd hf (hsilent f)) (hF.queue_eq hout) (hF.kept hh)⟩

end CarrierSense.Network
