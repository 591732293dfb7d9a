import CarrierSense.Proofs.Network.Enactment
import CarrierSense.Proofs.Network.Idle
import CarrierSense.Proofs.Network.Matched
import CarrierSense.Proofs.Radio.Listening

/-!
# Views of a network

What can be followed of a network by hand while it runs: the clock, some of its radios, the agenda, and
how many frames have been handed to each node since the beginning. A network `Shows` such a view, and a
view `Leads` to another one if the next event fires without fault and takes every network that shows the
first to one that shows the second. What happens in a small network can then be told event by event.
-/

namespace CarrierSense

/-- What is followed of a network while it runs. -/
structure View where
  now : Nat
  /-- The radios that are followed, but for the handles of their timers. -/
  radios : InterfaceId → Option Radio
  agenda : List (Nat × Event)
  /-- How many frames have been handed to each node. -/
  served : NodeId → Nat

/-- What the radio of an interface knows in a view. -/
def View.setting (v : View) (timing : Timing) (i : InterfaceId) (iface : Interface Float) : Setting :=
  { self := i, home := iface.node, timing, now := v.now }

/-- The view after a turn of the radio `w.self`, which has left `r` and asked for `es`. -/
def View.after (v : View) (w : Setting) (r : Radio) (es : List Effect) : View :=
  { v with
    radios := Function.update v.radios w.self (some r)
    agenda := es.foldl (Effect.reschedule w) v.agenda
    served := fun n => v.served n + if n = w.home then es.countP Effect.delivers else 0 }

/-- After its turn an interface has the radio of the turn. -/
lemma View.radios_after_self (v : View) (w : Setting) (r : Radio) (es : List Effect) :
    (v.after w r es).radios w.self = some r := Function.update_self ..

/-- A turn leaves the radios of the others in view as they were. -/
lemma View.radios_after_other (v : View) {w : Setting} {i : InterfaceId} (r : Radio) (es : List Effect)
    (hi : i ≠ w.self) : (v.after w r es).radios i = v.radios i := Function.update_of_ne hi ..

/-- Two turns of one radio, one after the other. -/
lemma View.after_after (v : View) (w : Setting) (r r' : Radio) (es es' : List Effect) :
    (v.after w r es).after w r' es' = v.after w r' (es ++ es') := by
  have hserved : ∀ n, (v.served n + if n = w.home then es.countP Effect.delivers else 0) +
      (if n = w.home then es'.countP Effect.delivers else 0) =
        v.served n + if n = w.home then (es ++ es').countP Effect.delivers else 0 := by
    intro n
    split <;> simp [Nat.add_assoc]
  simp [View.after, List.foldl_append, hserved]

/-- What the radio `r` does when the timer `k` runs out, whatever handles it keeps: it becomes `r'`, asks
for `es`, and goes on with `q`. -/
def Radio.Expires (r : Radio) (w : Setting) (k : Timer) (r' : Radio) (es : List Effect) (q : Sequel) : Prop :=
  ∀ timers, expire w { radio := { r with timers } } k = (⟨{ r' with timers }, es⟩, q)

/-- What the radio `r` does with a frame, whatever handles it keeps: it becomes `r'` and asks for `es`. -/
def Radio.Receives (r : Radio) (w : Setting) (f : Frame) (r' : Radio) (es : List Effect) : Prop :=
  ∀ timers, receive w f { radio := { r with timers } } = ⟨{ r' with timers }, es⟩

/-- Whether a counter counts things that went wrong. -/
def Counter.isFault : Counter → Bool
  | .ackTimeouts | .collisions => true
  | _ => false

/-- Whether an effect counts something that went wrong. -/
def Effect.isFault : Effect → Bool
  | .count c => c.isFault
  | _ => false

/-- Effects without faults count no fault. -/
lemma Effect.countP_counts {es : List Effect} {c : Counter} (hc : c.isFault = true)
    (hes : ∀ e ∈ es, e.isFault = false) : es.countP (Effect.counts c) = 0 := by
  refine List.countP_eq_zero.2 fun e hmem => ?_
  have he := hes e hmem
  cases e with
  | count c' =>
    have hne : c' ≠ c := by
      rintro rfl
      simp [isFault, hc] at he
    simpa [counts] using hne
  | deliver | relay => cases c <;> simp_all [counts, Counter.isFault]
  | _ => simp [counts]

namespace Network

variable {first net mid net' : Network} {w : Setting} {i : InterfaceId} {k : Timer} {r r' : Radio}
  {es : List Effect} {t : Turn} {f : Frame} {v v' v'' : View} {iface : Interface Float}

/-- The network shows the view `v`, and since it was `first` nothing has gone wrong. -/
structure Shows (first : Network) (v : View) (net : Network) : Prop where
  coherent : net.Coherent
  onTime : net.scheduler.OnTime
  timing : net.timing = first.timing
  topology : net.topology = first.topology
  now : net.now = v.now
  radio : ∀ {i r}, v.radios i = some r → ∃ timers, net.radio i = .ok { r with timers }
  agenda : net.scheduler.agenda = v.agenda
  endpoint : ∀ n, net.endpoint n = (first.endpoint n).map (Endpoint.took · (v.served n))
  faultless : ∀ {c : Counter}, c.isFault = true → net.counters.get c = first.counters.get c

namespace Shows

/-- What is in view tells the setting of an interface. -/
lemma setting (h : Shows first v net) (hi : first.topology.interface i = .ok iface) :
    net.setting i = .ok (v.setting first.timing i iface) := by
  refine setting_eq_ok.2 ⟨iface, h.topology ▸ hi, ?_⟩
  rw [h.timing, h.now]
  rfl

/-- Where an interface is in view, its effects can be carried out. -/
lemma able (h : Shows first v net) (hm : first.Matched) (hi : first.topology.interface i = .ok iface)
    (hr : v.radios i = some r) : net.Able (v.setting first.timing i iface) := by
  obtain ⟨timers, hr⟩ := h.radio hr
  obtain ⟨x, hx⟩ := hm.endpoint hi
  refine ⟨h.coherent, h.onTime, h.now.symm, ⟨_, hr⟩, ⟨iface, h.topology ▸ hi⟩,
    x.took (v.served iface.node), ?_⟩
  show net.endpoint iface.node = _
  rw [h.endpoint, hx]
  rfl

/-- A turn is carried out to its end. -/
lemma settle {timers : Timers} (r' : Radio) (h : Shows first v net) (hm : first.Matched)
    (hi : first.topology.interface i = .ok iface) (hw : w = v.setting first.timing i iface)
    (hv : v.radios i = some r) (hr : net.radio i = .ok { r with timers })
    (ht : t.Proper w timers) (hrad : t.radio = { r' with timers }) (htime : Timely v.now t.effects)
    (hfault : ∀ e ∈ t.effects, e.isFault = false) :
    ∃ net', net.settle w t = .ok (.ok (), net') ∧ Shows first (v.after w r' t.effects) net' := by
  have hnow : w.now = v.now := by rw [hw]; rfl
  have hable := h.able hm hi hv
  obtain rfl : w.self = i := by rw [hw]; rfl
  rw [← hw] at hable
  have hset : (net.setRadio w.self t.radio).Coherent := (h.coherent.setRadio hr ht.timers).1
  -- carrying out the effects starts with the new state of the radio
  have hstart : (net.setRadio w.self t.radio).Able w :=
    ⟨hset, h.onTime, hable.now, ⟨_, radio_setRadio_self hr _⟩, hable.iface, hable.home⟩
  have hnow' : (net.setRadio w.self t.radio).now = v.now := h.now
  obtain ⟨net', hp, hc⟩ := performAll_enacted hstart (hnow' ▸ htime)
  have hs : net.settle w t = .ok (.ok (), net') := hp
  obtain ⟨-, hsettled⟩ := settle_settled h.coherent h.onTime hr (hnow.trans h.now.symm) ht hs
  refine ⟨net', hs, hc.coherent, hc.onTime, hc.timing.trans h.timing, hc.topology.trans h.topology,
    hc.now.trans h.now, fun {j s} hj => ?_, ?_, fun n => ?_, fun hf => ?_⟩
  · by_cases hji : j = w.self
    · subst hji
      rw [v.radios_after_self w] at hj
      cases hj
      obtain ⟨timers', hself⟩ := hsettled.radio_self
      exact ⟨timers', by rw [hrad] at hself; exact hself⟩
    · rw [v.radios_after_other r' t.effects hji] at hj
      obtain ⟨timers', hj⟩ := h.radio hj
      exact ⟨timers', (hsettled.radio_other hji).trans hj⟩
  · rw [hc.agenda, View.after, ← h.agenda]
    rfl
  · rw [hsettled.endpoint, h.endpoint]
    cases first.endpoint n with
    | error e => rfl
    | ok x => simp [View.after, Except.map, Endpoint.took, Nat.add_assoc]
  · rw [hc.counters, Effect.countP_counts hf hfault]
    exact h.faultless hf

/-- A timer of an interface runs out, up to the sequel. -/
lemma expire {q : Sequel} (h : Shows first v net) (hm : first.Matched)
    (hi : first.topology.interface i = .ok iface) (hw : w = v.setting first.timing i iface)
    (hv : v.radios i = some r) (hexp : r.Expires w k r' es q) (hdifs : first.timing.difs ≤ Clock.last)
    (htime : Timely v.now es) (hfault : ∀ e ∈ es, e.isFault = false) :
    ∃ mid, net.expire i k = mid.follow i q ∧ Shows first (v.after w r' es) mid := by
  obtain ⟨timers, hr⟩ := h.radio hv
  have hset := h.setting hi
  rw [← hw] at hset
  have hturn := hexp timers
  have hproper := Radio.expire_proper (w := w) k (Turn.proper_start w { r with timers })
  rw [hturn] at hproper
  obtain ⟨mid, hs, hmid⟩ := h.settle r' hm hi hw hv hr hproper rfl htime hfault
  have hcheck : Clock.check net.timing.difs = .ok net.timing.difs :=
    Clock.check_eq_ok_iff.2 ⟨h.timing ▸ hdifs, rfl⟩
  refine ⟨mid, ?_, hmid⟩
  unfold Network.expire
  simp only [hcheck, hr, hset, hturn, hs, ok_bind, andThen]
  split <;> rfl

/-- An interface hears a frame. -/
lemma receive (h : Shows first v net) (hm : first.Matched)
    (hi : first.topology.interface i = .ok iface) (hw : w = v.setting first.timing i iface)
    (hv : v.radios i = some r) (hrec : r.Receives w f r' es) (htime : Timely v.now es)
    (hfault : ∀ e ∈ es, e.isFault = false) :
    ∃ net', net.receive i f = .ok (.ok (), net') ∧ Shows first (v.after w r' es) net' := by
  obtain ⟨timers, hr⟩ := h.radio hv
  have hset := h.setting hi
  rw [← hw] at hset
  have hturn := hrec timers
  have hproper := Radio.receive_proper (w := w) f (Turn.proper_start w { r with timers })
  rw [hturn] at hproper
  obtain ⟨net', hs, hshows⟩ := h.settle r' hm hi hw hv hr hproper rfl htime hfault
  refine ⟨net', ?_, hshows⟩
  simp only [Network.receive, act, hr, hset, hturn, hs, ok_bind]

/-- An interface that cannot hear misses the frame, which nobody sees. -/
lemma miss (h : Shows first v net) (hm : first.Matched)
    (hi : first.topology.interface i = .ok iface) (hv : v.radios i = some r) (hd : r.isDeaf = true) :
    ∃ net', net.receive i f = .ok (.ok (), net') ∧ Shows first v net' := by
  have hrec : r.Receives (v.setting first.timing i iface) f r [.count .missed] := fun timers =>
    Radio.receive_deaf (r := { r with timers }) hd
  obtain ⟨net', hn, hshows⟩ := h.receive hm hi rfl hv hrec (by simp)
    (by simp [Effect.isFault, Counter.isFault])
  refine ⟨net', hn, ?_⟩
  have hsame : v.after (v.setting first.timing i iface) r [.count .missed] = v := by
    have hradios : Function.update v.radios i (some r) = v.radios := by
      rw [← hv, Function.update_eq_self]
    simp [View.after, View.setting, hradios, Effect.reschedule, Effect.delivers]
  rw [hsame] at hshows
  exact hshows

/-- The clock moves to the next event. -/
lemma advance {time : Nat} {e : Event} {rest : List (Nat × Event)} (h : Shows first v net)
    (ha : v.agenda = (time, e) :: rest) :
    net.scheduler.nextTime? = some time ∧ Shows first { v with now := time }
      { net with scheduler := net.scheduler.advanceTo time } := by
  have hnext : net.scheduler.nextTime? = some time := by
    rw [Scheduler.nextTime?_eq_head?, h.agenda, ha]
    rfl
  obtain ⟨⟨due, e', hp, hdue⟩, hmin⟩ := Scheduler.nextTime?_eq_some hnext
  have hle : net.scheduler.now ≤ time := hdue ▸ h.onTime.now_le_due hp
  refine ⟨hnext, ?_, h.onTime.advanceTo hmin (hdue ▸ h.onTime.due_le hp), h.timing, h.topology, ?_,
    h.radio, (Scheduler.agenda_advanceTo _ _).trans h.agenda, h.endpoint, h.faultless⟩
  · exact (h.coherent.advanceTo time).1
  · exact (Scheduler.now_advanceTo _ _).trans (Nat.max_eq_right hle)

/-- The event of a timer is taken out of the scheduler. -/
lemma due {rest : List (Nat × Event)} (h : Shows first v net)
    (ha : v.agenda = (v.now, .timer i k) :: rest) :
    ∃ before, Shows first { v with agenda := rest } before ∧ ∀ {result after},
      before.expire i k = .ok (result, after) →
        net.Fires ⟨before, .event (.timer i k), after⟩ result := by
  obtain ⟨id, scheduler, hpop, hpend, hrest⟩ :=
    Scheduler.popDue_of_agenda h.coherent.filed (h.agenda.trans ha) (Nat.le_of_eq h.now.symm)
  obtain ⟨r, hr, hid⟩ := h.coherent.kept hpend
  obtain ⟨before, hclear, hs, hcount⟩ : ∃ before, { net with scheduler }.clearTimer id (.timer i k) =
      .ok before ∧ before.scheduler = scheduler ∧ before.counters = net.counters := by
    have hr' : { net with scheduler }.radio i = .ok r := hr
    simp only [clearTimer, hr', ok_bind, hid, if_true]
    exact ⟨_, rfl, rfl, rfl⟩
  have hcarried := (pop_timer h.coherent h.onTime hpop hclear rfl).2
    (w := v.setting first.timing i default) rfl
  refine ⟨before, ⟨hcarried.coherent, hcarried.onTime, hcarried.timing.trans h.timing,
    hcarried.topology.trans h.topology, hcarried.now.trans h.now, fun {j s} hj => ?_, hs ▸ hrest,
    fun n => ?_, fun hf => ?_⟩, fun he => ⟨id, _, scheduler, hpop, hclear, rfl, he⟩⟩
  · obtain ⟨timers, hj'⟩ := h.radio hj
    by_cases hji : j = i
    · subst hji
      obtain ⟨timers', hself⟩ := hcarried.radio_self hj'
      exact ⟨timers', hself⟩
    · exact ⟨timers, (hcarried.radio_other hji).trans hj'⟩
  · rw [hcarried.endpoint, h.endpoint]
    cases first.endpoint n <;> simp [Except.map, Endpoint.took, Effect.delivers]
  · rw [hcount]
    exact h.faultless hf

/-- An idle interface takes a frame to send, and starts an attempt. -/
lemma send {next : InterfaceId} (h : Shows first v net) (hm : first.Matched)
    (hi : first.topology.interface i = .ok iface) (hv : v.radios i = some r) (hs : r.status = .idle)
    (hroute : first.topology.route i f.destination = .ok (.ok (some next)))
    (hlast : v.now + first.timing.difs ≤ Clock.last) :
    ∃ net', net.send i f = .ok (.ok (), net') ∧
      Shows first (v.after (v.setting first.timing i iface)
        { r with
          status := .waitingForDifs, outgoing := r.outgoing ++ [f.onHop i next], collision := false }
        [.report .waitingForDifs, .arm .difs (v.now + first.timing.difs)]) net' := by
  obtain ⟨timers, hr⟩ := h.radio hv
  let w := v.setting first.timing i iface
  let queued : Radio := { r with outgoing := r.outgoing ++ [f.onHop i next] }
  let tried : Radio := { queued with status := .waitingForDifs, collision := false }
  -- queueing the frame is a turn without effects
  obtain ⟨mid, hq, hmid⟩ := h.settle (t := ⟨{ queued with timers }, []⟩) queued hm hi rfl hv hr
    ⟨rfl, fun hmem => by cases hmem⟩ rfl (timely_nil _) (by simp)
  have hqueued : net.setRadio i { queued with timers } = mid := by
    cases hq
    rfl
  have hmr : mid.radio i = .ok { queued with timers } := hqueued ▸ radio_setRadio_self hr _
  -- trying to send it is another one
  have hturn : Radio.trySend w { radio := { queued with timers } } =
      ⟨{ tried with timers }, [.report .waitingForDifs, .arm .difs (v.now + first.timing.difs)]⟩ := by
    have henq := Radio.enqueue_eq w (f.onHop i next) { r with timers }
    rw [if_pos hs, Radio.enqueue, if_pos hs] at henq
    exact henq
  have hproper := Radio.trySend_proper (w := w) (Turn.proper_start w { queued with timers })
  rw [hturn] at hproper
  have htime : Timely v.now [.report .waitingForDifs, .arm .difs (v.now + first.timing.difs)] := by
    simp [hlast]
  obtain ⟨net', htry, hshows⟩ := hmid.settle tried hm hi rfl (v.radios_after_self w queued []) hmr hproper rfl
    htime (by simp [Effect.isFault])
  have hafter : Shows first ((v.after w queued []).after w tried
      [.report .waitingForDifs, .arm .difs (v.now + first.timing.difs)]) net' := hshows
  rw [View.after_after] at hafter
  refine ⟨net', ?_, hafter⟩
  have htop : net.topology.route i f.destination = .ok (.ok (some next)) := h.topology ▸ hroute
  have hset : mid.setting i = .ok w := hmid.setting hi
  have hact : net.send i f = mid.act i Radio.trySend := by
    simp only [Network.send, htop, hr, ok_bind]
    exact (if_pos hs).trans (congrArg (act · i Radio.trySend) hqueued)
  simp only [hact, act, hmr, hset, ok_bind, hturn]
  exact htry

end Shows

/-- Every network that shows the view `v` fires its next event without fault, and then shows `v'`. -/
def Leads (first : Network) (v v' : View) : Prop :=
  ∀ net, Shows first v net → ∃ time m, net.scheduler.nextTime? = some time ∧
    Fires { net with scheduler := net.scheduler.advanceTo time } m (.ok ()) ∧ Shows first v' m.after

/-- The next event is that of a timer, whose radio turns; what follows then leads to the view `v'`. -/
lemma leads_of_timer {time : Nat} {rest : List (Nat × Event)} {u : View} {q : Sequel}
    (hm : first.Matched) (ha : v.agenda = (time, .timer i k) :: rest)
    (hi : first.topology.interface i = .ok iface) (hv : v.radios i = some r)
    (hu : u = { v with now := time, agenda := rest }) (hw : w = u.setting first.timing i iface)
    (hexp : r.Expires w k r' es q) (hdifs : first.timing.difs ≤ Clock.last) (htime : Timely time es)
    (hfault : ∀ e ∈ es, e.isFault = false)
    (hfollow : ∀ {mid}, Shows first (u.after w r' es) mid →
      ∃ net', mid.follow i q = .ok (.ok (), net') ∧ Shows first v' net') : first.Leads v v' := by
  intro net h
  obtain ⟨hnext, hmoved⟩ := h.advance ha
  obtain ⟨before, hbefore, hfires⟩ := hmoved.due ha
  subst hu
  obtain ⟨mid, hexpire, hmid⟩ := hbefore.expire hm hi hw hv hexp hdifs htime hfault
  obtain ⟨net', hn, hshows⟩ := hfollow hmid
  exact ⟨time, ⟨before, .event (.timer i k), net'⟩, hnext, hfires (hexpire.trans hn), hshows⟩

/-- Every network that shows the view `v` plays `n` events, and then shows `v'`. -/
def LeadsIn (first : Network) (n : Nat) (v v' : View) : Prop :=
  ∀ net, Shows first v net → ∃ net', Plays net n net' ∧ Shows first v' net'

/-- With nothing pending no event leads further. -/
lemma leadsIn_of_idle (ha : v.agenda = []) : first.LeadsIn 0 v v := by
  intro net h
  refine ⟨net, .idle ?_, h⟩
  rw [Scheduler.nextTime?_eq_head?, h.agenda, ha]
  rfl

/-- An event that leads to a view may go before those that lead on from there. -/
lemma Leads.before {n : Nat} (h : first.Leads v v') (hrest : first.LeadsIn n v' v'') :
    first.LeadsIn (n + 1) v v'' := by
  intro net hshows
  obtain ⟨time, m, hnext, hfires, hafter⟩ := h net hshows
  obtain ⟨net', hplays, hend⟩ := hrest m.after hafter
  exact ⟨net', .event hnext hfires hplays, hend⟩

end Network

end CarrierSense
