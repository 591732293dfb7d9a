import CarrierSense.Proofs.Network.Hops
import CarrierSense.Proofs.Network.Matched

/-!
# Frames that come into a network

A run starts with empty queues and no flights. Frames come into a queue by production, by forwarding and
by sending; none of these, and no bookkeeping, changes a flight: frames join the queues at their ends, and
the network stays tracked.
-/

namespace CarrierSense.Network

variable {net mid net' : Network} {w : Setting} {i j : InterfaceId} {k : Timer} {r : Radio}
  {f : Frame} {g g' : Flights} {e : Event} {result : Except NetworkError Unit}

/-- The frame `f` has joined the queue of the interface `i`. -/
structure Joined (net : Network) (i : InterfaceId) (f : Frame) (net' : Network) : Prop where
  self : net'.queue i = net.queue i ++ [f]
  other : ∀ {j}, j ≠ i → net'.queue j = net.queue j

/-- A frame that is queued joins the end of its queue. -/
lemma Queued.joined (h : net.Queued i f net') : net.Joined i f net' := by
  obtain ⟨r, w, hr, hw, hs⟩ := h
  obtain rfl := setting_self hw
  refine ⟨?_, fun hj => (hs.views_other hj).1⟩
  rw [hs.views_self.1, queue_eq hr, Radio.enqueue_eq]
  split <;> rfl

/-- A data frame of its own may join the queue of an interface. -/
lemma Tracked.join (h : net.Tracked g) (hq : net.Queued i f net') (hd : f.isAck = false)
    (hf : f.sender = some i) : net'.Tracked g := by
  have hsound := h.sound.queued hq
  have hwait := hq.waiting (p := Event.forwardsAck) fun _ _ => rfl
  obtain ⟨r, w, hr, hw, hs⟩ := hq
  obtain rfl := setting_self hw
  have htime := setting_timing hw
  have hnow := setting_now hw
  -- the queue apart, the frame changes nothing of what a radio holds
  have hout : (Radio.enqueue w f r).radio.outgoing = r.outgoing ++ [f] := by
    rw [Radio.enqueue_eq]
    split <;> rfl
  have hkeep : (Radio.enqueue w f r).radio.acks = r.acks ∧
      (Radio.enqueue w f r).radio.incoming = r.incoming ∧
      ∀ d, (Radio.enqueue w f r).alarms d .sifs = d .sifs := by
    rw [Radio.enqueue_eq]
    split <;> simp [Turn.alarms]
  obtain ⟨hacks, hin, hsifs⟩ := hkeep
  have hhand : (Radio.enqueue w f r).handedOn = [] := by
    rw [Radio.enqueue_eq]
    split <;> rfl
  refine h.turn hs hsound (fun f' hmem => ?_) ?_ (fun _ _ hg => hg) (by rw [hhand]; rfl) ?_ .inl
  · rw [hout, List.mem_append, List.mem_singleton] at hmem
    rcases hmem with hmem | rfl
    · exact h.queued (by rw [queue_eq hr]; exact hmem)
    · exact ⟨hd, hf⟩
  · rw [← htime, ← hnow]
    refine Radio.enqueue_faithful (h.sound.radio hr) ?_
    rw [htime, hnow]
    exact h.faithful hr
  · refine h.ether.mono (fun {j a} hmem => ?_) fun {j x} hx => ?_
    · by_cases hj : j = w.self
      · subst hj
        rw [hs.views_self.2.1, hacks] at hmem
        exact ⟨by rw [owes_eq hr]; exact hmem, hs.pause_self.trans (hsifs _)⟩
      · rw [(hs.views_other hj).2.1] at hmem
        exact ⟨hmem, hs.pause_other hj⟩
    · by_cases hj : j = w.self
      · subst hj
        rw [hs.views_self.2.2, hin] at hx
        rw [heardBy_eq hr, hx]
      · rw [(hs.views_other hj).2.2] at hx
        exact hx

/-- Without a change of radios the same is seen of all interfaces. -/
lemma views_of_radio (h : net'.radio = net.radio) :
    net'.queue = net.queue ∧ net'.owes = net.owes ∧ net'.heardBy = net.heardBy := by
  have hviews := fun j => views_congr (i := j) (.inr (congrFun h j))
  exact ⟨funext fun j => (hviews j).1, funext fun j => (hviews j).2.1, funext fun j => (hviews j).2.2⟩

/-- What radios, alarms and clock take no part in keeps a network tracked. -/
lemma Tracked.same (h : net.Tracked g) (hs : net'.Sound) (hr : net'.radio = net.radio)
    (ha : net'.alarms = net.alarms) (hn : net'.now = net.now) (ht : net'.timing = net.timing)
    (hw : net'.scheduler.waiting Event.forwardsAck = 0) : net'.Tracked g := by
  obtain ⟨hqueue, howes, hheard⟩ := views_of_radio hr
  have hpause : net'.pause = net.pause := by
    funext j
    unfold pause
    rw [ha]
  refine ⟨hs, fun hmem => h.queued (by rw [← hqueue]; exact hmem), hw, fun hr' => ?_, ?_, fun hg => ?_⟩
  · rw [ht, hn, ha]
    exact h.faithful (hr ▸ hr')
  · rw [ht, howes, hheard, hpause]
    exact h.ether
  · rw [hr]
    exact h.known hg

/-- What leaves radios and clock alone leaves flights as they are. -/
lemma Tracked.aside (h : net.Tracked g) (ha : net.Aside net') : net'.Tracked g :=
  h.same (h.sound.aside ha) ha.radio ha.alarms ha.now ha.timing
    ((ha.waiting fun _ => rfl).trans h.forwards)

/-- Of the events that are not about timers, those that forward a frame forward a data frame. -/
lemma Tracked.pop_other {id : EventId} {scheduler : Scheduler Event} (h : net.Tracked g)
    (hp : net.scheduler.popDue = some ((id, e), scheduler))
    (hc : { net with scheduler }.clearTimer id e = .ok mid) (he : ∀ i k, e ≠ .timer i k) :
    mid.Tracked g ∧ mid.queue = net.queue ∧ e.forwardsAck = false := by
  obtain ⟨hmid, -, -, hnow, hal, -, hwait⟩ := Network.pop_other h.sound.coherent h.sound.onTime hp hc he
  have hradio : mid.radio = net.radio := by
    rw [hmid]
    rfl
  have hnone := hwait Event.forwardsAck
  rw [h.forwards] at hnone
  refine ⟨h.same (h.sound.pop_other hp hc he) hradio hal hnow (by rw [hmid]) (by omega),
    (views_of_radio hradio).1, ?_⟩
  cases hack : e.forwardsAck with
  | false => rfl
  | true => simp [hack] at hnone

/-- A later time takes nothing from what a radio keeps to. -/
lemma Tracked.advanceTo {time : Nat} (h : net.Tracked g) (ha : net.Awaits time) :
    Tracked { net with scheduler := net.scheduler.advanceTo time } g := by
  have hsound := h.sound.advanceTo ha
  obtain ⟨-, hal⟩ := h.sound.coherent.advanceTo time
  have hpend : ∀ {p}, (net.scheduler.advanceTo time).waiting p = net.scheduler.waiting p := by simp
  have hnow : Network.now { net with scheduler := net.scheduler.advanceTo time } = max net.now time :=
    Scheduler.now_advanceTo net.scheduler time
  by_cases hlt : time ≤ net.now
  · exact h.same hsound rfl hal (hnow.trans (Nat.max_eq_left hlt)) rfl (hpend.trans h.forwards)
  · have hpause : Network.pause { net with scheduler := net.scheduler.advanceTo time } = net.pause := by
      funext j
      unfold pause
      rw [hal]
    refine ⟨hsound, h.queued, hpend.trans h.forwards, fun {j r} hr => ?_, ?_, h.known⟩
    · rw [hal, hnow, Nat.max_eq_right (by omega)]
      exact (h.faithful hr).later (by omega)
    · rw [hpause]
      exact h.ether

/-- The frames that join the queue of an interface. -/
def Moment.joined (m : Moment) (i : InterfaceId) : List Frame :=
  (m.after.queue i).drop (m.before.queue i).length

/-- Frames have joined the queues at their ends. -/
def Grown (net net' : Network) : Prop := ∀ i, ∃ fs, net'.queue i = net.queue i ++ fs

/-- Without a change of queues no frame has joined one. -/
lemma Grown.of_eq (h : net'.queue = net.queue) : net.Grown net' :=
  fun i => ⟨[], by rw [h, List.append_nil]⟩

/-- A frame that joins a queue stands at its end. -/
lemma Joined.grown (h : net.Joined i f net') : net.Grown net' := by
  intro j
  by_cases hj : j = i
  · subst hj
    exact ⟨[f], h.self⟩
  · exact ⟨[], by rw [h.other hj, List.append_nil]⟩

/-- A data frame that is sent joins its queue, and all radios keep to their flights. -/
lemma Tracked.send (h : net.Tracked g) (hd : f.isAck = false) (hs : net.send i f = .ok (result, net')) :
    net'.Tracked g ∧ net.Grown net' := by
  rcases send_queued h.sound.coherent h.sound.onTime hs with ⟨-, rfl⟩ | ⟨-, -, next, hq⟩
  · exact ⟨h, .of_eq rfl⟩
  · exact ⟨h.join hq hd rfl, hq.joined.grown⟩

/-- A frame that is produced joins its queue, and all radios keep to their flights. -/
lemma Tracked.produce {n : NodeId} (h : net.Tracked g) (hp : net.produce n = .ok (result, net')) :
    net'.Tracked g ∧ net.Grown net' := by
  rcases produce_cases h.sound.coherent h.sound.onTime hp with ⟨ha, -, -⟩ | ⟨-, i, f, next, hmade⟩
  · exact ⟨h.aside ha, .of_eq (views_of_radio ha.radio).1⟩
  · obtain ⟨mid, hq, ha, -⟩ := hmade.queued
    refine ⟨(h.join hq hmade.data rfl).aside ha, fun j => ?_⟩
    rw [(views_of_radio ha.radio).1]
    exact hq.joined.grown j

/-- Whether an operation lets no frame in but data frames to be sent, and starts no new run. -/
def Op.isRegular : Op → Bool
  | initRun | receive .. | broadcast .. => false
  | send _ f => !f.isAck
  | _ => true

/-- A radio that is missing holds as little as one that has just been switched on. -/
lemma addInterface_views {n : NodeId} {name : String} {radius : Float} (h : net.Coherent)
    (ha : net.addInterface n name radius = .ok (i, net')) :
    net'.queue = net.queue ∧ net'.owes = net.owes ∧ net'.heardBy = net.heardBy ∧
      net'.pause = net.pause := by
  obtain ⟨-, -, -, i, hnew, hself, hnone, hother, halarms⟩ := addInterface_radio h ha
  have hmissing : ∃ halt, net.radio i = .error halt := by
    cases hr : net.radio i with
    | error halt => exact ⟨halt, rfl⟩
    | ok r => exact absurd hr (hnew r)
  obtain ⟨halt, hmissing⟩ := hmissing
  have hviews : ∀ j, net'.queue j = net.queue j ∧ net'.owes j = net.owes j ∧
      net'.heardBy j = net.heardBy j ∧ net'.pause j = net.pause j := by
    intro j
    by_cases hj : j = i
    · subst hj
      have hpause : net.pause j = none := by simp only [pause, alarms, hmissing]
      rw [hpause]
      refine ⟨?_, ?_, ?_, hnone _⟩ <;> simp [queue, owes, heardBy, hself, hmissing, Radio.powerOn]
    · obtain ⟨hq, ho, hh⟩ := views_congr (.inr (hother hj))
      exact ⟨hq, ho, hh, congrFun (halarms hj) _⟩
  exact ⟨funext fun j => (hviews j).1, funext fun j => (hviews j).2.1,
    funext fun j => (hviews j).2.2.1, funext fun j => (hviews j).2.2.2⟩

/-- A new interface has an empty queue and no flight. -/
lemma Tracked.addInterface {n : NodeId} {name : String} {radius : Float} (h : net.Tracked g)
    (ha : net.addInterface n name radius = .ok (i, net')) : net'.Tracked g ∧ net.Grown net' := by
  have hsound := h.sound.addInterface ha
  obtain ⟨hqueue, howes, hheard, hpause⟩ := addInterface_views h.sound.coherent ha
  obtain ⟨-, hs, ht, i, hnew, hself, -, hother, halarms⟩ := addInterface_radio h.sound.coherent ha
  have hnow : net'.now = net.now := congrArg Scheduler.now hs
  refine ⟨⟨hsound, fun hmem => h.queued (by rw [← hqueue]; exact hmem), by rw [hs]; exact h.forwards,
    fun {j r} hr => ?_, ?_, fun {j} hg => ?_⟩, .of_eq hqueue⟩
  · rw [ht, hnow]
    by_cases hj : j = i
    · subst hj
      have hg : g j = none := by
        by_contra hg
        obtain ⟨r, hr⟩ := h.known hg
        exact hnew r hr
      rw [hself] at hr
      cases hr
      rw [hg]
      exact Radio.powerOn_faithful
    · rw [hother hj] at hr
      rw [halarms hj]
      exact h.faithful hr
  · rw [ht, howes, hheard, hpause]
    exact h.ether
  · by_cases hj : j = i
    · subst hj
      exact ⟨_, hself⟩
    · rw [hother hj]
      exact h.known hg

/-- A call that lets no other frame in keeps a network tracked. -/
theorem Tracked.apply {op : Op} {fuel : Nat} (h : net.Tracked g) (hop : op.firesEvents = false)
    (hreg : op.isRegular = true) (ha : op.apply fuel net = .ok (result, net')) :
    net'.Tracked g ∧ net.Grown net' := by
  by_cases hk : op.keepsBooks = true
  · have haside := Op.apply_aside hk h.sound.coherent h.sound.onTime ha
    exact ⟨h.aside haside, .of_eq (views_of_radio haside.radio).1⟩
  cases op with
  | addInterface n name radius =>
    simp only [Op.apply, bind_eq_ok] at ha
    obtain ⟨⟨i, mid⟩, hi, ha⟩ := ha
    cases ha
    exact h.addInterface hi
  | produce n => exact h.produce ha
  | send i f => exact h.send (by simpa [Op.isRegular] using hreg) ha
  | initRun | receive | broadcast => cases hreg
  | step | runTo | runUntilIdle => cases hop
  | _ => exact absurd rfl hk

/-- A run starts with empty queues, and with nothing on the air. -/
theorem Tracked.start (hi : net.initRun = .ok (result, net')) :
    net'.Tracked (fun _ => none) ∧ ∀ i, net'.queue i = [] := by
  have hreset : ∀ i, net.reset.queue i = [] ∧ net.reset.owes i = [] ∧ net.reset.heardBy i = none := by
    intro i
    unfold queue owes heardBy
    cases hr : net.reset.radio i with
    | error halt => exact ⟨rfl, rfl, rfl⟩
    | ok r =>
      rw [radio_reset_eq hr]
      exact ⟨rfl, rfl, rfl⟩
  have haside := (initRun_aside hi).1
  have htracked : net.reset.Tracked fun _ => none := by
    refine ⟨reset_sound net, fun {i f} hmem => ?_, ?_, fun hr => ?_, ⟨fun {j x} hx => ?_, fun {j a} hmem => ?_,
      fun {j x} hx => ?_⟩, fun hg => absurd rfl hg⟩
    · rw [(hreset i).1] at hmem
      cases hmem
    · rw [scheduler_reset]
      rfl
    · rw [radio_reset_eq hr, timing_reset]
      exact Radio.powerOn_faithful
    · rw [(hreset j).2.2] at hx
      cases hx
    · rw [(hreset j).2.1] at hmem
      cases hmem
    · rw [(hreset j).2.2] at hx
      cases hx
  refine ⟨htracked.aside haside, fun i => ?_⟩
  rw [(views_of_radio haside.radio).1]
  exact (hreset i).1

/-- The network is at the start of a run, with some random stream. -/
def Begins (start : Network) : Prop :=
  ∃ (net : Network) (stream : Stream) (result : Except NetworkError Unit),
    net.Reachable ∧ { net with stream }.initRun = .ok (result, start)

/-- At the start of a run endpoints and nodes belong together. -/
lemma Begins.matched {start : Network} (h : start.Begins) : start.Matched := by
  obtain ⟨net, stream, result, hreach, hi⟩ := h
  have hm := hreach.matched
  obtain ⟨-, ht, he⟩ := initRun_aside hi
  have hshape : SameShape { net with stream } start :=
    ⟨ht, fun n => by rw [he, endpoint_reset, exists_map]⟩
  exact hshape.matched ⟨hm.endpoints, hm.home⟩

/-- At the start of a run nothing is on the air, and all queues are empty. -/
lemma Begins.tracked {start : Network} (h : start.Begins) :
    start.Tracked (fun _ => none) ∧ ∀ i, start.queue i = [] := by
  obtain ⟨net, stream, result, -, hi⟩ := h
  exact Tracked.start hi

/-- Carries out one script to build a network, starts a run, and carries out another script. -/
def Op.runAfter (fuel : Nat) (build run : List Op) (net : Network) :
    Except Halt (Reply (List Moment)) :=
  andThen (applyAll fuel build [] net) fun _ net =>
    andThen net.initRun fun _ start => applyAll fuel run [] start

/-- What follows the start of a run in a script is a run from there. -/
lemma Run.of_runAfter (allowed : Op → Except NetworkError Unit → Prop) {timing : Timing} {seed : UInt64}
    {laws : List Law} {build run : List Op} {fuel : Nat} {log : List Moment}
    (h : Op.runAfter fuel build run (.new timing seed laws) = .ok (.ok log, net))
    (hall : ∀ op ∈ run, allowed op (.ok ())) :
    ∃ start : Network, start.Begins ∧ Run allowed start log net := by
  rcases andThen_eq_ok.1 h with ⟨e, -, he⟩ | ⟨built, mid, hbuild, h⟩
  · cases he
  rcases andThen_eq_ok.1 h with ⟨e, -, he⟩ | ⟨_, start, hi, h⟩
  · cases he
  have hreach : mid.Reachable :=
    ⟨timing, seed, laws, built, .of_applyAll .start hbuild fun _ _ => trivial⟩
  exact ⟨start, ⟨mid, mid.stream, .ok (), hreach, hi⟩, .of_applyAll .start h hall⟩

end CarrierSense.Network
