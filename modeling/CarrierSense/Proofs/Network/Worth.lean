import CarrierSense.Proofs.Network.Hearing
import CarrierSense.Proofs.Radio.Bookings
import Mathlib.Algebra.BigOperators.Group.List.Basic
import Mathlib.Tactic.Linarith
import Mathlib.Tactic.Ring

/-!
# The worth of a network

A `Valuation` gives a price to each thing that is counted in a network, and to each thing that its radios,
nodes and events hold. The `worth` of a network is the sum of all that. If the valuation is `Neutral`, then
whatever happens keeps the worth as it is, up to two kinds of moments: a frame is accepted, or a frame is
acknowledged. So the worth after a run says how often these happened, and each neutral valuation gives one
law of what the counters of a network count.
-/

namespace CarrierSense

/-- Whether an event forwards a frame. -/
def Event.isForward : Event → Bool
  | .forward _ _ => true
  | _ => false

/-- The price of each thing that is counted, and of each thing that is held. -/
structure Valuation where
  framesSent : ℤ := 0
  acksSent : ℤ := 0
  ackTimeouts : ℤ := 0
  collisions : ℤ := 0
  delivered : ℤ := 0
  forwarded : ℤ := 0
  /-- A frame in a queue. -/
  queued : ℤ := 0
  /-- An acknowledgement in a queue. -/
  owed : ℤ := 0
  /-- A frame that was sent, and was neither acknowledged nor given up. -/
  outstanding : ℤ := 0
  /-- A frame lost at a radio. -/
  corrupted : ℤ := 0
  /-- A frame that waits to be forwarded. -/
  pending : ℤ := 0
  /-- A frame that has reached a node. -/
  consumed : ℤ := 0
  /-- A frame that a node has produced. -/
  produced : ℤ := 0

namespace Valuation

variable (v : Valuation)

/-- The price of one more in a counter; deferrals and missed frames are free. -/
def counter : Counter → ℤ
  | .framesSent => v.framesSent
  | .acksSent => v.acksSent
  | .ackTimeouts => v.ackTimeouts
  | .collisions => v.collisions
  | .delivered => v.delivered
  | .forwarded => v.forwarded
  | .deferrals | .missed => 0

/-- The price of all that the counters of a network count. -/
def counters (c : Counters) : ℤ := (Counter.all.map fun k => v.counter k * c.get k).sum

/-- The price of what a radio holds. -/
def stock (s : Stock) : ℤ :=
  v.queued * s.queued + v.owed * s.owed + v.outstanding * s.outstanding + v.corrupted * s.corrupted

/-- The price of what a node has consumed and produced. -/
def endpoint (x : Endpoint) : ℤ := v.consumed * x.consumed + v.produced * x.produced

/-- What an effect adds to the books. -/
def effect : Effect → ℤ
  | .count k => v.counter k
  | .deliver _ => v.delivered + v.consumed
  | .relay _ => v.forwarded
  | _ => 0

/-- What effects add to the books. -/
def effects (es : List Effect) : ℤ := (es.map v.effect).sum

/-- What is gained by a turn of the radio `r`. -/
def gain (r : Radio) (t : Turn) : ℤ := v.stock t.radio.stock - v.stock r.stock + v.effects t.effects

/-- What is gained when a frame is accepted. -/
def acceptance : ℤ := v.owed + v.delivered + v.consumed

/-- What is gained when a frame is acknowledged. -/
def settlement : ℤ := - (v.queued + v.outstanding)

/-- Nothing is gained but by acceptance and settlement. -/
structure Neutral : Prop where
  collide : v.collisions + v.corrupted = 0
  launch : v.framesSent + v.outstanding = 0
  timeout : v.ackTimeouts = v.outstanding
  answer : v.acksSent = v.owed
  /-- A frame is taken on for another node at the price at which it is handed to its own. -/
  relay : v.forwarded + v.pending = v.delivered + v.consumed
  forward : v.pending = v.queued
  produce : v.queued + v.produced = 0

variable {v}

/-- Counters that count nothing are worth nothing. -/
lemma counters_empty : v.counters {} = 0 := by simp [counters, Counter.all, Counters.get]

/-- One more in a counter is worth its price. -/
lemma counters_increment (c : Counters) (k : Counter) :
    v.counters (c.increment k) = v.counters c + v.counter k := by
  cases k <;> simp [counters, Counter.all, Counters.get_increment, counter] <;> ring

/-- No effects add nothing. -/
@[simp] lemma effects_nil : v.effects [] = 0 := rfl

/-- The first of several effects adds its own share. -/
@[simp] lemma effects_cons (e : Effect) (es : List Effect) :
    v.effects (e :: es) = v.effect e + v.effects es := by
  simp [effects]

/-- Effects in two parts add the sum of both. -/
lemma effects_append (es es' : List Effect) : v.effects (es ++ es') = v.effects es + v.effects es' := by
  simp [effects]

/-- Effects that are not booked have no price. -/
lemma effects_booked (t : Turn) : v.effects t.effects = v.effects t.booked := by
  unfold Turn.booked
  induction t.effects with
  | nil => rfl
  | cons e es ih =>
    rw [List.filter_cons]
    split
    · simp [ih]
    · rename_i he
      have hnone : v.effect e = 0 := by
        cases e with
        | count k => cases k <;> simp at he <;> rfl
        | deliver | relay => simp at he
        | _ => rfl
      simp [ih, hnone]

/-- Only the effects that are booked count for the gain of a turn, since the others add nothing. -/
lemma gain_eq_booked (r : Radio) (t : Turn) :
    v.gain r t = v.stock t.radio.stock - v.stock r.stock + v.effects t.booked := by
  rw [gain, effects_booked]

end Valuation

/-- The frames that a turn forwards are among the effects that are booked. -/
lemma Turn.countP_forwards (t : Turn) (i : InterfaceId) :
    t.effects.countP (Effect.posts i Event.isForward) = t.booked.countP (Effect.posts i Event.isForward) := by
  rw [booked, List.countP_filter]
  refine List.countP_congr fun e _ => ?_
  cases e <;> simp [Effect.posts]

namespace Radio

variable {v : Valuation} {w : Setting} {r : Radio} {t t' : Turn}

/-- A frame that begins is lost and counted, or leaves the books alone. -/
lemma receive_gain (hv : v.Neutral) (w : Setting) (f : Frame) (r : Radio) :
    v.gain r (receive w f { radio := r }) = 0 := by
  have hcollide := hv.collide
  rw [v.gain_eq_booked]
  rcases receive_stock w f r with ⟨hb, hs⟩ | ⟨hb, hs⟩ <;> rw [hb, hs]
  · simp
  · simp [Valuation.effect, Valuation.counter, Valuation.stock]
    linarith

/-- An attempt to send that an idle radio starts leaves the books alone. -/
lemma trySend_gain (v : Valuation) (w : Setting) (hs : r.status ≠ .sendingMessage) :
    v.gain r (trySend w { radio := r }) = 0 := by
  obtain ⟨hb, hst⟩ := trySend_same (w := w) (t := { radio := r }) hs
  rw [v.gain_eq_booked, hb, hst]
  simp

/-- A radio with one more frame in its queue is worth the price of a queued frame more. -/
lemma stock_join (v : Valuation) (r : Radio) (f : Frame) :
    v.stock (stock { r with outgoing := r.outgoing ++ [f] }) = v.stock r.stock + v.queued := by
  simp [Valuation.stock, stock]
  ring

/-- The price of an entry is what is gained by acceptance and settlement. -/
lemma Entry.gain {k : Timer} (h : r.Entry w k t) (hv : v.Neutral) (i : InterfaceId) :
    v.gain r t + v.pending * t.effects.countP (Effect.posts i Event.isForward) =
      v.acceptance * (t.radio.stock.owed - r.stock.owed : ℕ) +
        v.settlement * (r.stock.queued - t.radio.stock.queued : ℕ) := by
  unfold Valuation.acceptance Valuation.settlement
  rw [v.gain_eq_booked, t.countP_forwards]
  cases h with
  | launch found booked stock =>
    have hlaunch := hv.launch
    rw [booked, stock]
    simp [Valuation.effect, Valuation.counter, Valuation.stock, Effect.posts, found]
    linarith
  | timeout found booked stock =>
    have htimeout := hv.timeout
    rw [booked, stock]
    simp [Valuation.effect, Valuation.counter, Valuation.stock, Effect.posts, found]
    linarith
  | settle _ _ _ _ found booked stock settled =>
    rw [booked, stock]
    simp [Valuation.stock, settled]
    ring
  | accept _ _ _ _ booked stock =>
    have hrelay := hv.relay
    rcases booked with booked | booked <;> rw [booked, stock] <;>
      simp [Valuation.effect, Valuation.stock, Effect.posts, Event.isForward] <;>
      linarith
  | answer booked stock =>
    have hanswer := hv.answer
    rw [booked, stock]
    simp [Valuation.effect, Valuation.counter, Valuation.stock, Effect.posts]
    linarith
  | quiet booked stock =>
    rw [booked, stock]
    simp

/-- However long a countdown that ends a move is, what is entered is the same. -/
lemma Ends.books_unique {m : Move} (h : Ends w m t) (h' : Ends w m t') :
    t'.booked = t.booked ∧ t'.radio.stock = t.radio.stock := by
  obtain ⟨u, s⟩ := m
  by_cases hs : s = .contend
  · subst hs
    obtain ⟨n, -, rfl⟩ := h.of_contend
    obtain ⟨n', -, rfl⟩ := h'.of_contend
    obtain ⟨hb, hst⟩ := beginCountdown_stock w n u
    obtain ⟨hb', hst'⟩ := beginCountdown_stock w n' u
    exact ⟨hb'.trans hb.symm, hst'.trans hst.symm⟩
  · rw [h.of_rest hs, h'.of_rest hs]
    exact ⟨rfl, rfl⟩

/-- Two turns that end in the same way gain the same. -/
lemma Ends.gain_eq {m : Move} (v : Valuation) (h : Ends w m t) (h' : Ends w m t') :
    v.gain r t' = v.gain r t := by
  obtain ⟨hb, hs⟩ := h.books_unique h'
  rw [v.gain_eq_booked, v.gain_eq_booked, hb, hs]

/-- A countdown taken up in a turn of its own adds its gain to that of the turn before. -/
lemma beginCountdown_gain (v : Valuation) (w : Setting) (n : Nat) (r : Radio) (t : Turn) (timers : Timers) :
    v.gain r t + v.gain { t.radio with timers } (beginCountdown w n { radio := { t.radio with timers } }) =
      v.gain r (beginCountdown w n t) := by
  obtain ⟨heff, hrad⟩ := beginCountdown_append w n t timers
  unfold Valuation.gain
  rw [heff, hrad, Valuation.effects_append, stock_withTimers t.radio timers,
    stock_withTimers (beginCountdown w n t).radio timers]
  ring

end Radio

/-- A total over an array changes by the new entry minus the entry that it replaces. -/
lemma sum_setIfInBounds {α : Type} {xs : Array α} {n : Nat} {a : α} (f : α → ℤ) (h : xs[n]? = some a)
    (b : α) :
    ((xs.setIfInBounds n b).toList.map f).sum = (xs.toList.map f).sum + (f b - f a) := by
  obtain ⟨hlt, hget⟩ := Array.getElem?_eq_some_iff.1 h
  rw [Array.toList_setIfInBounds, List.map_set, List.sum_set', dif_pos (by simpa using hlt)]
  simp only [List.getElem_map, Array.getElem_toList, hget]
  ring

namespace Network

/-- The worth of what is counted in a network, and of what its radios and nodes hold. -/
def books (net : Network) (v : Valuation) : ℤ :=
  v.counters net.counters + (net.radios.toList.map fun r => v.stock r.stock).sum +
    (net.endpoints.toList.map v.endpoint).sum

/-- The worth of a network: its books, and the frames that wait to be forwarded. -/
def worth (net : Network) (v : Valuation) : ℤ :=
  net.books v + v.pending * net.scheduler.waiting Event.isForward

variable {v : Valuation} {net mid net' : Network} {w : Setting} {i : InterfaceId} {n : NodeId} {k : Timer}
  {r : Radio} {t : Turn} {f : Frame} {e : Effect} {es : List Effect} {result : Except NetworkError Unit}

/-- A radio that takes the place of another changes the books by the difference of their stocks. -/
lemma setRadio_books (v : Valuation) (hr : net.radio i = .ok r) (r' : Radio) :
    (net.setRadio i r').books v = net.books v + (v.stock r'.stock - v.stock r.stock) := by
  have hsum := sum_setIfInBounds (fun r => v.stock r.stock) (radio_eq_ok.1 hr) r'
  unfold books setRadio
  rw [hsum]
  ring

/-- An endpoint that takes the place of another changes the books by the difference of the two. -/
lemma setEndpoint_books (v : Valuation) {x : Endpoint} (hx : net.endpoint n = .ok x) (y : Endpoint) :
    (net.setEndpoint n y).books v = net.books v + (v.endpoint y - v.endpoint x) := by
  have hsum := sum_setIfInBounds v.endpoint (endpoint_eq_ok.1 hx) y
  unfold books setEndpoint
  rw [hsum]
  ring

/-- One more in a counter of a network adds its price to the books. -/
lemma increment_books (v : Valuation) (net : Network) (c : Counter) :
    books { net with counters := net.counters.increment c } v = net.books v + v.counter c := by
  unfold books
  rw [Valuation.counters_increment]
  ring

/-- Handles of timers are not booked. -/
lemma setTimers_books (hr : net.radio i = .ok r) (timers : Timers) :
    (net.setRadio i { r with timers }).books v = net.books v := by
  rw [setRadio_books v hr, Radio.stock_withTimers, sub_self, add_zero]

/-- A post leaves the books as they are. -/
lemma withPost_books {post : Except SchedulerError (EventId × Scheduler Event)}
    (hp : net.withPost post = .ok (result, net')) : net'.books v = net.books v := by
  unfold withPost at hp
  split at hp <;> cases hp <;> rfl

/-- To disarm a timer leaves the books as they are. -/
lemma disarm_books (hd : net.disarm i k = .ok net') : net'.books v = net.books v := by
  simp only [disarm, bind_eq_ok] at hd
  obtain ⟨r, hr, hd⟩ := hd
  split at hd
  · cases hd
    rfl
  · cases hd
    exact setTimers_books hr _

/-- To arm a timer leaves the books as they are. -/
lemma arm_books {time : Nat} (ha : net.arm i k time = .ok (result, net')) : net'.books v = net.books v := by
  simp only [arm, bind_eq_ok] at ha
  obtain ⟨_, -, mid, hd, ha⟩ := ha
  rw [← disarm_books hd]
  split at ha
  · cases ha
    rfl
  · simp only [bind_eq_ok] at ha
    obtain ⟨r, hr, ha⟩ := ha
    cases ha
    exact (setTimers_books hr _ :)

/-- A frame that is handed to its node is booked as delivered and as consumed. -/
lemma put_books (hp : net.put n = .ok net') : net'.books v = net.books v + (v.delivered + v.consumed) := by
  obtain ⟨x, hx, rfl⟩ := put_eq_ok hp
  have htook : v.endpoint (x.took 1) = v.endpoint x + v.consumed := by
    simp [Valuation.endpoint, Endpoint.took, Endpoint.produced]
    ring
  refine (increment_books v (net.setEndpoint n (x.took 1)) .delivered).trans ?_
  rw [setEndpoint_books v hx, htook]
  simp only [Valuation.counter]
  ring

/-- An effect adds to the books what it is worth. -/
lemma perform_books (hp : net.perform w e = .ok (result, net')) :
    net'.books v = net.books v + v.effect e := by
  cases e with
  | report status =>
    simp only [perform, bind_eq_ok] at hp
    obtain ⟨iface, -, hp⟩ := hp
    cases hp
    exact (add_zero _).symm
  | count c =>
    cases hp
    exact increment_books v net c
  | arm timer time => simpa [Valuation.effect] using arm_books hp
  | disarm timer =>
    simp only [perform, bind_eq_ok] at hp
    obtain ⟨mid, hd, hp⟩ := hp
    cases hp
    simpa [Valuation.effect] using disarm_books hd
  | deliver frame =>
    simp only [perform, bind_eq_ok] at hp
    obtain ⟨mid, hd, hp⟩ := hp
    cases hp
    exact put_books hd
  | relay frame =>
    have hpost := withPost_books (v := v) hp
    exact hpost.trans (increment_books v net .forwarded)

/-- Effects in a row add the sum of what they are worth. -/
lemma performAll_books (hp : net.performAll w es = .ok (.ok (), net')) :
    net'.books v = net.books v + v.effects es := by
  induction es generalizing net with
  | nil =>
    cases hp
    exact (add_zero _).symm
  | cons e es ih =>
    rcases andThen_eq_ok.1 hp with ⟨_, -, he⟩ | ⟨_, mid, hm, hp⟩
    · cases he
    · rw [ih hp, perform_books hm]
      rw [Valuation.effects_cons, add_assoc]

/-- A turn that is carried out adds its gain to the books. -/
lemma settle_books (hr : net.radio w.self = .ok r) (hs : net.settle w t = .ok (.ok (), net')) :
    net'.books v = net.books v + v.gain r t := by
  rw [performAll_books hs, setRadio_books v hr]
  unfold Valuation.gain
  ring

/-- What a radio does adds the gain of its turn to the books. -/
lemma act_books {move : Setting → Turn → Turn} (ha : net.act i move = .ok (.ok (), net')) :
    ∃ r w, net.radio i = .ok r ∧ net.setting i = .ok w ∧
      net'.books v = net.books v + v.gain r (move w { radio := r }) := by
  simp only [act, bind_eq_ok] at ha
  obtain ⟨r, hr, w, hw, hs⟩ := ha
  obtain rfl := setting_self hw
  exact ⟨r, w, hr, hw, settle_books hr hs⟩

/-- Whoever hears a frame begin, the books are worth what they were. -/
lemma receive_books (hv : v.Neutral) (hr : net.receive i f = .ok (.ok (), net')) :
    net'.books v = net.books v := by
  obtain ⟨r, w, -, -, hbooks⟩ := act_books (v := v) hr
  rw [hbooks, Radio.receive_gain hv, add_zero]

/-- A frame that reaches radios leaves the books as they are: nothing is gained by listening. -/
lemma receiveAll_books {members : List InterfaceId} (hv : v.Neutral)
    (hr : net.receiveAll f members = .ok (.ok (), net')) : net'.books v = net.books v := by
  induction members generalizing net with
  | nil =>
    cases hr
    rfl
  | cons i rest ih =>
    rcases andThen_eq_ok.1 hr with ⟨_, -, he⟩ | ⟨_, mid, hm, hr⟩
    · cases he
    · rw [ih hr, receive_books hv hm]

/-- A frame that is put on the air leaves the books as they are. -/
lemma broadcast_books (hv : v.Neutral) (hb : net.broadcast i f = .ok (.ok (), net')) :
    net'.books v = net.books v := by
  simp only [broadcast, bind_eq_ok] at hb
  obtain ⟨medium, -, hb⟩ := hb
  exact receiveAll_books hv hb

/-- A radio that enters a countdown of some length adds the gain of that turn to the books. -/
lemma contend_books (hc : net.contend i = .ok (.ok (), net')) :
    ∃ n r w, 1 ≤ n ∧ net.radio i = .ok r ∧ net.setting i = .ok w ∧
      net'.books v = net.books v + v.gain r (Radio.beginCountdown w n { radio := r }) := by
  simp only [contend, bind_eq_ok] at hc
  obtain ⟨r₀, -, hc⟩ := hc
  have hn := net.stream.le_between32 1 (max r₀.window 1)
  generalize net.stream.between32 1 (max r₀.window 1) = draw at hn hc
  obtain ⟨r, w, hr, hw, hbooks⟩ := act_books (v := v) hc
  exact ⟨draw.1, r, w, hn, hr, hw, hbooks⟩

/-- When a timer runs out, the books gain what the radio gains by its move. -/
lemma expire_books (hv : v.Neutral) (h : net.Coherent) (ho : net.scheduler.OnTime)
    (he : net.expire i k = .ok (.ok (), net')) :
    ∃ r w t, net.radio i = .ok r ∧ net.setting i = .ok w ∧
      Radio.Ends w (Radio.expire w { radio := r } k) t ∧ net'.books v = net.books v + v.gain r t := by
  obtain ⟨r, w, hr, hw, he⟩ := expire_eq_ok he
  obtain rfl := setting_self hw
  have hproper := Radio.expire_proper (w := w) k (Turn.proper_start w r)
  suffices h : ∃ t, Radio.Ends w (Radio.expire w { radio := r } k) t ∧
      net'.books v = net.books v + v.gain r t by
    obtain ⟨t, hends, hbooks⟩ := h
    exact ⟨r, w, t, hr, hw, hends, hbooks⟩
  generalize Radio.expire w { radio := r } k = m at he hproper ⊢
  obtain ⟨t, s⟩ := m
  rcases andThen_eq_ok.1 he with ⟨_, -, he⟩ | ⟨_, mid, hs, hf⟩
  · cases he
  have hmid := settle_books (v := v) hr hs
  obtain ⟨-, hset⟩ := settle_settled h ho hr (setting_now hw) hproper hs
  cases s with
  | none =>
    cases hf
    exact ⟨t, .rest (by simp), hmid⟩
  | contend =>
    obtain ⟨n, r', w', hn, hr', hw', hbooks⟩ := contend_books (v := v) hf
    rw [setting_congr hset.now hset.timing hset.topology, hw] at hw'
    cases hw'
    obtain ⟨timers, hself⟩ := hset.radio_self
    cases hself.symm.trans hr'
    refine ⟨_, .contend hn, ?_⟩
    rw [hbooks, hmid, add_assoc, Radio.beginCountdown_gain]
  | transmit f => exact ⟨t, .rest (by simp), (broadcast_books hv hf).trans hmid⟩

/-- A frame that is sent joins a queue. -/
lemma send_books (hs : net.send i f = .ok (.ok (), net')) : net'.books v = net.books v + v.queued := by
  rcases send_eq_ok hs with ⟨-, _, he, -⟩ | ⟨next, r, mid, -, hr, hmid, hs⟩
  · cases he
  have hjoin : mid.books v = net.books v + v.queued := by
    rw [hmid, setRadio_books v hr, Radio.stock_join, add_sub_cancel_left]
  split at hs
  · rename_i hidle
    obtain ⟨r', w, hr', -, hbooks⟩ := act_books (v := v) hs
    rw [hmid] at hr'
    cases (radio_setRadio_self hr _).symm.trans hr'
    rw [hbooks, hjoin, Radio.trySend_gain v w (by simp [hidle]), add_zero]
  · cases hs
    exact hjoin

/-- To draw a delay leaves the books as they are. -/
lemma drawDelay_books {d : VariateId} {delay : Nat} (hd : net.drawDelay d = .ok (delay, net')) :
    net'.books v = net.books v := by
  obtain ⟨-, variates, stream, rfl⟩ := drawDelay_eq_ok hd
  rfl

/-- A node that produces one more frame adds its price to the books. -/
lemma countOne_books {x : Endpoint} {traffic : Traffic} (hx : net.endpoint n = .ok x)
    (ht : x.traffic = some traffic) (hp : net.countOne n x traffic = .ok (result, net')) :
    net'.books v = net.books v + v.produced := by
  have hcount : (net.setEndpoint n { x with
      traffic := some { traffic with produced := traffic.produced + 1 } }).books v =
        net.books v + v.produced := by
    rw [setEndpoint_books v hx]
    simp [Valuation.endpoint, Endpoint.produced, ht]
    ring
  unfold countOne at hp
  dsimp only at hp
  split at hp
  · cases hp
    exact hcount
  · simp only [bind_eq_ok] at hp
    obtain ⟨⟨delay, next⟩, hd, hp⟩ := hp
    rw [withPost_books hp, drawDelay_books hd, hcount]

/-- A frame that is produced joins a queue, and is counted. -/
lemma produce_worth (hv : v.Neutral) (h : net.Sound) (hp : net.produce n = .ok (result, net')) :
    net'.worth v = net.worth v := by
  have hwait : net'.scheduler.waiting Event.isForward = net.scheduler.waiting Event.isForward := by
    rcases produce_cases h.coherent h.onTime hp with ⟨ha, -⟩ | ⟨-, i, f, next, hmade⟩
    · exact ha.waiting fun _ => rfl
    · obtain ⟨mid, hq, ha, -⟩ := hmade.queued
      exact (ha.waiting fun _ => rfl).trans (hq.waiting fun _ _ => rfl)
  suffices hbooks : net'.books v = net.books v by
    unfold worth
    rw [hbooks, hwait]
  rcases produce_eq_ok hp with ⟨rfl, -⟩ | ⟨site, x, traffic, i, stream, f, -, -, hx, ht, -, -, hp⟩
  · rfl
  have h₀ := h.withStream stream
  rcases andThen_eq_ok.1 hp with ⟨_, hs, -⟩ | ⟨_, mid, hs, hp⟩
  · rcases send_queued h₀.coherent h₀.onTime hs with ⟨-, rfl⟩ | ⟨he, -⟩
    · rfl
    · cases he
  · rcases send_queued h₀.coherent h₀.onTime hs with ⟨⟨_, he, -⟩, -⟩ | ⟨-, -, next, hq⟩
    · cases he
    have hx' : mid.endpoint n = .ok x := by
      rw [hq.endpoint]
      exact hx
    rw [countOne_books hx' ht hp, send_books hs, add_assoc, hv.produce, add_zero]
    rfl

/-- A frame that is sent joins a queue; a frame that is refused does not. -/
lemma send_worth (h : net.Sound) (hs : net.send i f = .ok (result, net')) :
    net'.worth v = net.worth v + (if result = .ok () then v.queued else 0) := by
  rcases send_queued h.coherent h.onTime hs with ⟨⟨e, rfl, -⟩, rfl⟩ | ⟨rfl, -, next, hq⟩
  · simp
  · unfold worth
    rw [send_books hs, hq.waiting fun _ _ => rfl, if_pos rfl]
    ring

/-- To clear the timer of an event leaves the books as they are. -/
lemma clearTimer_books {id : EventId} {e : Event} (hc : net.clearTimer id e = .ok net') :
    net'.books v = net.books v := by
  rcases clearTimer_eq_ok hc with rfl | ⟨i, k, r, hr, rfl⟩
  · rfl
  · exact setTimers_books hr _

/-- A frame that waits to be forwarded has its price until its event is taken out. -/
lemma pop_worth {id : EventId} {e : Event} {scheduler : Scheduler Event} (v : Valuation) (h : net.Sound)
    (hp : net.scheduler.popDue = some ((id, e), scheduler))
    (hc : { net with scheduler }.clearTimer id e = .ok mid) (he : ∀ i k, e ≠ .timer i k) :
    net.worth v = mid.worth v + if e.isForward then v.pending else 0 := by
  obtain ⟨hmid, -, -, -, -, -, hwait⟩ := Network.pop_other h.coherent h.onTime hp hc he
  have hbooks : mid.books v = net.books v := by
    rw [hmid]
    rfl
  unfold worth
  rw [hwait, hbooks]
  split <;> push_cast <;> ring

/-- An interface whose timer runs out gains what its radio gains by its move. -/
lemma Fired.worth {before : Network} {s : Sequel} (hv : v.Neutral) (hF : Fired net before i k r w s t mid)
    (hnext : before.Follows i s mid net') (hbefore : before.Coherent ∧ before.scheduler.OnTime)
    (hbooks : before.books v = net.books v) (he : before.expire i k = .ok (.ok (), net')) :
    net'.worth v = net.worth v +
      (v.gain r t + v.pending * t.effects.countP (Effect.posts i Event.isForward)) := by
  obtain ⟨r', w', t', hr, hw, hends, hgain⟩ := expire_books hv hbefore.1 hbefore.2 he
  cases hF.radio.symm.trans hr
  cases hF.setting.symm.trans hw
  have hwait : net'.scheduler.waiting Event.isForward =
      net.scheduler.waiting Event.isForward + t.effects.countP (Effect.posts i Event.isForward) := by
    rw [(hnext.undisturbed hF.after).waiting fun _ _ => rfl, hF.settled.waiting fun _ _ => rfl, hF.self]
    simp [Effect.posts]
  unfold Network.worth
  rw [hgain, hF.ends.gain_eq v hends, hbooks, hwait]
  push_cast
  ring

/-- The traffic of a node may be edited without a change of worth, but for how much it has produced. -/
lemma editTraffic_worth {edit : Traffic → Traffic}
    (hedit : ∀ traffic, (edit traffic).produced = traffic.produced)
    (he : net.editTraffic n edit = .ok (result, net')) : net'.worth v = net.worth v := by
  rcases editTraffic_eq_ok he with rfl | ⟨x, traffic, hx, ht, rfl⟩
  · rfl
  · have hsame : v.endpoint { x with traffic := some (edit traffic) } = v.endpoint x := by
      simp [Valuation.endpoint, Endpoint.produced, ht, hedit]
    have hbooks := setEndpoint_books v hx { x with traffic := some (edit traffic) }
    rw [hsame, sub_self, add_zero] at hbooks
    unfold worth
    rw [hbooks]
    rfl

/-- A new node has neither produced nor consumed anything. -/
lemma pushEndpoint_worth {x : Endpoint} {topology : Topology Float} (hc : x.consumed = 0)
    (hp : x.produced = 0) :
    worth { net with topology, endpoints := net.endpoints.push x } v = net.worth v := by
  simp [worth, books, Valuation.endpoint, hc, hp]

/-- A new radio holds nothing. -/
lemma addInterface_worth {name : String} {radius : Float}
    (ha : net.addInterface n name radius = .ok (i, net')) : net'.worth v = net.worth v := by
  simp only [addInterface, bind_eq_ok] at ha
  obtain ⟨_, -, ha⟩ := ha
  cases ha
  simp [worth, books, Radio.stock, Radio.powerOn, Valuation.stock]

/-- The first posts of a run leave the books as they are. -/
lemma startAll_books {nodes : List NodeId} (hs : net.startAll nodes = .ok (result, net')) :
    net'.books v = net.books v :=
  startAll_closed (R := fun net net' => net'.books v = net.books v) (fun _ => rfl) (fun h h' => h'.trans h)
    drawDelay_books withPost_books hs

/-- A network of which nothing is counted and held is worth nothing. -/
lemma reset_books (v : Valuation) (net : Network) : net.reset.books v = 0 := by
  obtain ⟨variates, hr⟩ := reset_eq net
  have hproduced : ∀ x : Endpoint, v.endpoint x.reset = 0 := by
    intro x
    cases hx : x.traffic <;> simp [Valuation.endpoint, Endpoint.reset, Endpoint.produced, hx]
  rw [hr]
  simp [books, Valuation.counters_empty, Function.comp_def, hproduced, Radio.stock, Radio.powerOn,
    Valuation.stock]

/-- A run starts from a network that is worth nothing. -/
lemma initRun_worth (v : Valuation) (hi : net.initRun = .ok (result, net')) : net'.worth v = 0 := by
  have hwait : net'.scheduler.waiting Event.isForward = 0 := by
    rw [(initRun_aside hi).1.waiting fun _ => rfl, scheduler_reset]
    rfl
  unfold worth
  rw [startAll_books hi, reset_books, hwait]
  simp

/-- A call of any kind but the start of a run leaves the worth of a network as it is, unless a frame is sent
or handed to a node from outside, at a price. -/
theorem Op.apply_worth {op : Op} {fuel : Nat} (hv : v.Neutral) (h : net.Sound) (hop : op.firesEvents = false)
    (hinit : op ≠ .initRun) (hput : ∀ n, op = .put n → v.delivered + v.consumed = 0)
    (hsend : ∀ i f, op = .send i f → v.queued = 0) (ha : op.apply fuel net = .ok (result, net')) :
    net'.worth v = net.worth v := by
  have hheard : net'.books v = net.books v → net.Kept net' → net'.worth v = net.worth v := fun hb hk => by
    unfold worth
    rw [hb, hk.waiting fun _ _ => rfl]
  cases op with
  | addVariate | setVariate | connectInRange | startTrace | stopTrace | reseed =>
    cases ha
    rfl
  | addNode | addSource =>
    cases ha
    exact pushEndpoint_worth rfl rfl
  | setPeriod | setMessageLength => exact editTraffic_worth (fun _ => by rfl) ha
  | addDestination => exact editTraffic_worth (fun _ => by split <;> rfl) ha
  | addInterface n name radius =>
    simp only [apply, bind_eq_ok] at ha
    obtain ⟨⟨i, mid⟩, hi, ha⟩ := ha
    cases ha
    exact addInterface_worth hi
  | addMember m i =>
    simp only [apply, Network.addMember, bind_eq_ok] at ha
    obtain ⟨_, ⟨_, -, hm⟩, ha⟩ := ha
    cases hm
    cases ha
    rfl
  | initRun => exact absurd rfl hinit
  | produce n => exact produce_worth hv h ha
  | put n =>
    simp only [apply, bind_eq_ok] at ha
    obtain ⟨mid, hp, ha⟩ := ha
    cases ha
    have hbooks := put_books (v := v) hp
    rw [hput n rfl, add_zero] at hbooks
    obtain ⟨x, -, rfl⟩ := put_eq_ok hp
    unfold worth
    rw [hbooks]
    rfl
  | send i f =>
    rw [send_worth h ha, hsend i f rfl, ite_self, add_zero]
  | receive i f =>
    obtain ⟨rfl, r, w, hr, hw, hs⟩ := receive_settled h.coherent h.onTime ha
    exact hheard (receive_books hv ha) (h.receive_undisturbed hr hw hs).toKept
  | broadcast i f =>
    obtain ⟨rfl, medium, -, hh⟩ := broadcast_hears h.coherent h.onTime ha
    exact hheard (broadcast_books hv ha) (hh.undisturbed h).toKept
  | step | runTo | runUntilIdle => cases hop

end Network

end CarrierSense
