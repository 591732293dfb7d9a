import CarrierSense.Proofs.Network.Worth

/-!
# The books of a run

What the counters of a network count, in terms of what has happened in the run that led to it. A frame is
acknowledged when the head of a queue leaves it at the end of an acknowledgement, and accepted when a new
acknowledgement is owed at the end of a data frame. The worth of a network after a run is what these moments
have gained since the last start (`Run.worth_eq`). Two valuations give the books of the senders, four others
those of the receivers.
-/

namespace CarrierSense

namespace Valuation

/-- Frames that were sent timed out, were acknowledged, or are outstanding. -/
def transmissions : Valuation := { framesSent := 1, ackTimeouts := -1, outstanding := -1 }

/-- Frames that were produced or taken on were acknowledged, are queued, or wait to be forwarded. -/
def loads : Valuation := { produced := 1, forwarded := 1, queued := -1, pending := -1 }

/-- Frames that were accepted were handed to their node, or taken on for another one. -/
def handovers : Valuation := { delivered := 1, forwarded := 1 }

/-- Frames that were accepted were answered, or the answer is owed. -/
def answers : Valuation := { acksSent := 1, owed := 1 }

/-- Frames that were delivered have reached a node. -/
def deliveries : Valuation := { delivered := 1, consumed := -1 }

/-- Frames that overlapped were lost at a radio. -/
def losses : Valuation := { collisions := 1, corrupted := -1 }

/-- The law of transmissions is neutral. -/
lemma neutral_transmissions : transmissions.Neutral := by constructor <;> rfl

/-- The law of loads is neutral. -/
lemma neutral_loads : loads.Neutral := by constructor <;> rfl

/-- The law of handovers is neutral. -/
lemma neutral_handovers : handovers.Neutral := by constructor <;> rfl

/-- The law of answers is neutral. -/
lemma neutral_answers : answers.Neutral := by constructor <;> rfl

/-- The law of deliveries is neutral. -/
lemma neutral_deliveries : deliveries.Neutral := by constructor <;> rfl

/-- The law of losses is neutral. -/
lemma neutral_losses : losses.Neutral := by constructor <;> rfl

end Valuation

namespace Network

namespace Moment

/-- The acknowledgements that an interface owes anew. -/
def owing (m : Moment) (i : InterfaceId) : List Frame :=
  (m.after.owes i).drop (m.before.owes i).length

/-- How many `frames` an interface has for which a frame ends, an acknowledgement or a data frame. -/
def atEnd (m : Moment) (ack : Bool) (frames : InterfaceId → List Frame) : Nat :=
  match m.cause with
  | .event (.timer i .reception) =>
    if (m.before.heardBy i).any fun x => x.frame.isAck == ack && x.frame.isFor i then (frames i).length
    else 0
  | _ => 0

/-- How many frames are acknowledged in a moment: they leave a queue at the end of an acknowledgement. -/
def acknowledged (m : Moment) : Nat := m.atEnd true m.left

/-- How many frames are accepted in a moment: at the end of a data frame an acknowledgement is owed for it. -/
def accepted (m : Moment) : Nat := m.atEnd false m.owing

/-- At most all frames of one interface are counted at its timer. -/
lemma atEnd_le {m : Moment} {i : InterfaceId} {k : Timer} (hm : m.cause = .event (.timer i k)) (ack : Bool)
    (frames : InterfaceId → List Frame) : m.atEnd ack frames ≤ (frames i).length := by
  unfold atEnd
  rw [hm]
  split
  · rename_i heq
    cases heq
    split
    · exact Nat.le_refl _
    · exact Nat.zero_le _
  · exact Nat.zero_le _

/-- At the end of a frame for the interface itself all its frames are counted. -/
lemma atEnd_eq {m : Moment} {i : InterfaceId} {x : Incoming} (hm : m.cause = .event (.timer i .reception))
    (hx : m.before.heardBy i = some x) (hr : x.frame.receiver = some i)
    (frames : InterfaceId → List Frame) : m.atEnd x.frame.isAck frames = (frames i).length := by
  simp [atEnd, hm, hx, Frame.isFor, hr]

end Moment

/-- How often something has happened in a log since the last start of a run. -/
def sinceStart (count : Moment → Nat) (log : List Moment) : Nat :=
  log.foldl (fun n m => if m.restarts then 0 else n + count m) 0

/-- What has happened since the start goes on with each moment, and begins anew with each start. -/
lemma sinceStart_concat (count : Moment → Nat) (log : List Moment) (m : Moment) :
    sinceStart count (log ++ [m]) = if m.restarts then 0 else sinceStart count log + count m := by
  simp only [sinceStart, List.foldl_append, List.foldl_cons, List.foldl_nil]

variable {v : Valuation} {net mid : Network} {w : Setting} {i : InterfaceId} {k : Timer} {r : Radio}
  {t : Turn} {s : Sequel} {m : Moment} {log : List Moment} {result : Except NetworkError Unit}

/-- When a timer runs out, the radio tells what is acknowledged and accepted. -/
lemma Fired.counts (hF : Fired net m.before i k r w s t mid) (hnext : m.before.Follows i s mid m.after)
    (hm : m.cause = .event (.timer i k)) (he : r.Entry w k t) :
    m.acknowledged = r.stock.queued - t.radio.stock.queued ∧
      m.accepted = t.radio.stock.owed - r.stock.owed := by
  have hun := hnext.undisturbed hF.after
  obtain ⟨hq, ho, -⟩ := hF.views_self
  have hq₀ : m.before.queue i = r.outgoing := Network.queue_eq hF.radio
  have ho₀ : m.before.owes i = r.acks := Network.owes_eq hF.radio
  have hheard : m.before.heardBy i = r.incoming := Network.heardBy_eq hF.radio
  have hleft : (m.left i).length = r.stock.queued - t.radio.stock.queued := by
    simp [Moment.left, hun.queue, hq, hq₀, Radio.stock]
  have howing : (m.owing i).length = t.radio.stock.owed - r.stock.owed := by
    simp [Moment.owing, hun.owes, ho, ho₀, Radio.stock]
  have hack := m.atEnd_le hm true m.left
  have hdata := m.atEnd_le hm false m.owing
  unfold Moment.acknowledged Moment.accepted
  cases he with
  | quiet _ stock =>
    rw [stock] at hleft howing ⊢
    omega
  | launch _ _ stock | timeout _ _ stock | answer _ stock =>
    have hqueued := congrArg Stock.queued stock
    have howed := congrArg Stock.owed stock
    simp only at hqueued howed
    omega
  | settle timer heard receiver ack _ _ stock =>
    subst timer
    have htaken := m.atEnd_eq hm (hheard.trans heard) (hF.self ▸ receiver) m.left
    have howed := congrArg Stock.owed stock
    rw [ack] at htaken
    simp only at howed
    omega
  | accept timer heard receiver data _ stock =>
    subst timer
    have htaken := m.atEnd_eq hm (hheard.trans heard) (hF.self ▸ receiver) m.owing
    have hqueued := congrArg Stock.queued stock
    rw [data] at htaken
    simp only at hqueued
    omega

/-- What an event gains is what is gained by the frames that it has accepted and acknowledged. -/
lemma Sound.fires_worth (hv : v.Neutral) (h : net.Sound) (hf : net.Fires m result)
    (hmay : ∀ e, result = .error e → v.queued = 0 ∨ e.isQuiescent = true) :
    m.after.worth v = net.worth v + v.acceptance * m.accepted + v.settlement * m.acknowledged := by
  obtain ⟨id, e, scheduler, hp, hc, hm, hfire⟩ := hf
  have hnone : (∀ i k, e ≠ .timer i k) → m.accepted = 0 ∧ m.acknowledged = 0 := by
    intro he
    unfold Moment.accepted Moment.acknowledged Moment.atEnd
    rw [hm]
    cases e with
    | timer i k => exact absurd rfl (he i k)
    | produce | forward => exact ⟨rfl, rfl⟩
  cases e with
  | timer i k =>
    obtain ⟨rfl, r, w, s, t, mid, hF, hnext⟩ := h.fired hp hc hfire
    obtain ⟨-, hcoh, hon, -⟩ := h.pop_timer hp hc
    have hentry := Radio.expire_entry hF.sound (by simp [hF.due]) hF.ends
    have hbooks : m.before.books v = net.books v := (clearTimer_books hc :)
    obtain ⟨hack, hdata⟩ := hF.counts hnext hm hentry
    rw [hF.worth hv hnext ⟨hcoh, hon⟩ hbooks hfire, hentry.gain hv, hack, hdata, add_assoc]
  | produce n =>
    obtain ⟨hdata, hack⟩ := hnone (by simp)
    rw [hdata, hack, produce_worth hv (h.pop_other hp hc (by simp)) hfire, pop_worth v h hp hc (by simp)]
    simp [Event.isForward]
  | forward i f =>
    obtain ⟨hdata, hack⟩ := hnone (by simp)
    have hmid := h.pop_other hp hc (by simp)
    -- the frame that waited to be forwarded joins a queue, unless it is refused
    have hsend : (if result = .ok () then v.queued else 0) = v.pending := by
      rw [hv.forward]
      rcases send_queued hmid.coherent hmid.onTime hfire with ⟨⟨e, rfl, hfault⟩, -⟩ | ⟨rfl, -⟩
      · rcases hmay e rfl with hzero | hrest
        · simp [hzero]
        · rw [hfault] at hrest
          cases hrest
      · rfl
    rw [hdata, hack, send_worth hmid hfire, hsend, pop_worth v h hp hc (by simp)]
    simp [Event.isForward]

/-- The worth of a network is what its frames have gained since the last start of a run. -/
def Accounted (v : Valuation) (log : List Moment) (net : Network) : Prop :=
  net.worth v =
    v.acceptance * sinceStart Moment.accepted log + v.settlement * sinceStart Moment.acknowledged log

/-- A moment that gains what its frames gain keeps a network accounted for. -/
lemma Accounted.concat (h : Accounted v log net) (hm : m.restarts = false)
    (hgain : m.after.worth v = net.worth v + v.acceptance * m.accepted + v.settlement * m.acknowledged) :
    Accounted v (log ++ [m]) m.after := by
  unfold Accounted at h ⊢
  rw [sinceStart_concat, sinceStart_concat, hm, hgain, h]
  simp only [Bool.false_eq_true, if_false]
  push_cast
  ring

/-- Events keep the worth at what frames have gained, as long as no operation adds frames of its own. -/
lemma accounted_closed (hv : v.Neutral) : Closed (fun log net => net.Sound ∧ Accounted v log net)
    fun e => v.queued = 0 ∨ e.isQuiescent = true where
  clock := fun ⟨hs, h⟩ ha => by
    refine ⟨hs.advanceTo ha, ?_⟩
    unfold Accounted Network.worth at h ⊢
    rw [Scheduler.waiting_advanceTo]
    exact h
  event := fun ⟨hs, h⟩ hf hmay => by
    refine ⟨hs.fires hf, h.concat ?_ (hs.fires_worth hv hf hmay)⟩
    obtain ⟨id, e, scheduler, -, -, hm, -⟩ := hf
    simp only [Moment.restarts, hm]

/-- After a run from a new network, the network is worth what its frames have gained since the last start of
a run. A price on frames to send allows neither that they are sent from outside, nor that one is refused while
events fire; and a price on frames that reach a node does not allow that they are put there from outside. -/
theorem Run.worth_eq {allowed : Op → Except NetworkError Unit → Prop} {timing : Timing} {seed : UInt64}
    {laws : List Law} (hv : v.Neutral)
    (hput : ∀ n result, allowed (.put n) result → v.delivered + v.consumed = 0)
    (hsend : ∀ i f result, allowed (.send i f) result → v.queued = 0)
    (hfault : ∀ {op e}, op.firesEvents = true → allowed op (.error e) → v.queued = 0 ∨ e.isQuiescent = true)
    (hrun : Run allowed (Network.new timing seed laws) log net) :
    net.worth v =
      v.acceptance * sinceStart Moment.accepted log + v.settlement * sinceStart Moment.acknowledged log := by
  have hnew : Accounted v [] (Network.new timing seed laws) := by
    have hwait : (Network.new timing seed laws).scheduler.waiting Event.isForward = 0 := rfl
    unfold Accounted worth
    rw [hwait]
    simp [books, Network.new, Valuation.counters_empty, sinceStart]
  refine ((accounted_closed hv).run (fun {log net op fuel result net'} h hop hmay ha => ?_) hfault
    ⟨new_sound timing seed laws, hnew⟩ hrun).2
  obtain ⟨hs, h⟩ := h
  refine ⟨hs.apply hop ha, ?_⟩
  by_cases hinit : op = .initRun
  · subst hinit
    unfold Accounted
    rw [initRun_worth v ha, sinceStart_concat, sinceStart_concat]
    simp [Moment.restarts]
  · have hworth := Op.apply_worth hv hs hop hinit (fun n hn => hput n result (hn ▸ hmay))
      (fun i f hi => hsend i f result (hi ▸ hmay)) ha
    refine h.concat ?_ (hworth.trans ?_)
    · unfold Moment.restarts
      split
      · rename_i heq
        exact absurd (Cause.call.inj heq) hinit
      · rfl
    · simp [Moment.accepted, Moment.acknowledged, Moment.atEnd]

/-- How many frames the interfaces have to send. -/
def totalQueued (net : Network) : Nat := (net.radios.toList.map fun r => r.outgoing.length).sum

/-- How many acknowledgements the interfaces owe. -/
def totalOwed (net : Network) : Nat := (net.radios.toList.map fun r => r.acks.length).sum

/-- How many interfaces have a frame outstanding: it is on the air, or its acknowledgement is awaited. -/
def totalOutstanding (net : Network) : Nat :=
  net.radios.toList.countP fun r => r.status = .sendingMessage ∨ r.waitingForAck

/-- How many frames the interfaces have lost because they overlapped. -/
def totalCorrupted (net : Network) : Nat := (net.radios.toList.map fun r => r.corrupted).sum

/-- How many frames have reached the nodes. -/
def totalConsumed (net : Network) : Nat := (net.endpoints.toList.map Endpoint.consumed).sum

/-- How many frames the nodes have produced. -/
def totalProduced (net : Network) : Nat := (net.endpoints.toList.map Endpoint.produced).sum

/-- How many frames wait to be forwarded. -/
def totalPending (net : Network) : Nat := net.scheduler.waiting Event.isForward

/-- The frames that are outstanding are those in the stocks of the radios. -/
lemma totalOutstanding_eq (net : Network) :
    net.totalOutstanding = (net.radios.toList.map fun r => r.stock.outstanding).sum := by
  unfold totalOutstanding
  induction net.radios.toList with
  | nil => rfl
  | cons r rs ih =>
    rw [List.countP_cons, ih, List.map_cons, List.sum_cons, Nat.add_comm]
    by_cases hs : r.status = .sendingMessage <;> cases hw : r.waitingForAck <;> simp [Radio.stock, hs, hw]

/-- The stocks of all radios are worth what the totals are. -/
lemma sum_stock (v : Valuation) (net : Network) :
    (net.radios.toList.map fun r => v.stock r.stock).sum = v.queued * net.totalQueued +
      v.owed * net.totalOwed + v.outstanding * net.totalOutstanding + v.corrupted * net.totalCorrupted := by
  rw [totalOutstanding_eq]
  unfold totalQueued totalOwed totalCorrupted
  induction net.radios.toList with
  | nil => simp
  | cons r rs ih =>
    have hr : v.stock r.stock = v.queued * r.outgoing.length + v.owed * r.acks.length +
        v.outstanding * r.stock.outstanding + v.corrupted * r.corrupted := rfl
    simp only [List.map_cons, List.sum_cons, ih, hr]
    push_cast
    ring

/-- The endpoints of all nodes are worth what the totals are. -/
lemma sum_endpoint (v : Valuation) (net : Network) :
    (net.endpoints.toList.map v.endpoint).sum =
      v.consumed * net.totalConsumed + v.produced * net.totalProduced := by
  unfold totalConsumed totalProduced
  induction net.endpoints.toList with
  | nil => simp
  | cons x xs ih =>
    simp only [List.map_cons, List.sum_cons, ih, Valuation.endpoint]
    push_cast
    ring

/-- The worth of a network is made up of its counters and totals. -/
lemma worth_eq_totals (net : Network) (v : Valuation) : net.worth v =
    v.framesSent * net.counters.framesSent + v.acksSent * net.counters.acksSent +
      v.ackTimeouts * net.counters.ackTimeouts + v.collisions * net.counters.collisions +
      v.delivered * net.counters.delivered + v.forwarded * net.counters.forwarded +
      v.queued * net.totalQueued + v.owed * net.totalOwed + v.outstanding * net.totalOutstanding +
      v.corrupted * net.totalCorrupted + v.consumed * net.totalConsumed + v.produced * net.totalProduced +
      v.pending * net.totalPending := by
  unfold worth books totalPending
  rw [sum_stock, sum_endpoint]
  simp only [Valuation.counters, Counter.all, List.map_cons, List.map_nil, List.sum_cons, List.sum_nil,
    Valuation.counter, Counters.get]
  ring

/-- What an operation may be in a run in which no frame is sent from outside, and no event fails. -/
def Op.Unaided (op : Op) (result : Except NetworkError Unit) : Prop :=
  (∀ i f, op ≠ .send i f) ∧ (op.firesEvents = true → ∀ e, result = .error e → e.isQuiescent = true)

/-- In an unaided run a neutral worth counts acceptances and settlements since the start. -/
lemma Run.worth_of_unaided {timing : Timing} {seed : UInt64} {laws : List Law} (hv : v.Neutral)
    (hprice : v.delivered + v.consumed = 0)
    (hrun : Run Op.Unaided (Network.new timing seed laws) log net) : net.worth v =
      v.acceptance * sinceStart Moment.accepted log + v.settlement * sinceStart Moment.acknowledged log :=
  hrun.worth_eq hv (fun _ _ _ => hprice) (fun i f _ hmay => absurd rfl (hmay.1 i f))
    fun hop hmay => .inr (hmay.2 hop _ rfl)

/-- In a run in which no frame is sent from outside and no event fails, every transmission timed out, was
acknowledged, or is outstanding; and every frame that was produced or taken on was acknowledged, is queued,
or waits to be forwarded. -/
theorem Run.sender_ledger {timing : Timing} {seed : UInt64} {laws : List Law}
    (hrun : Run Op.Unaided (Network.new timing seed laws) log net) :
    (net.counters.framesSent : ℤ) = net.counters.ackTimeouts +
        (net.totalProduced + net.counters.forwarded - net.totalPending - net.totalQueued) +
        net.totalOutstanding ∧
      net.totalProduced + net.counters.forwarded =
        sinceStart Moment.acknowledged log + net.totalPending + net.totalQueued ∧
      net.counters.framesSent =
        net.counters.ackTimeouts + sinceStart Moment.acknowledged log + net.totalOutstanding := by
  have hsent := hrun.worth_of_unaided Valuation.neutral_transmissions rfl
  have hloads := hrun.worth_of_unaided Valuation.neutral_loads rfl
  rw [worth_eq_totals] at hsent hloads
  simp [Valuation.transmissions, Valuation.acceptance, Valuation.settlement] at hsent
  simp [Valuation.loads, Valuation.acceptance, Valuation.settlement] at hloads
  omega

/-- In a run of two nodes the one frame of the source was sent once, and was acknowledged. -/
theorem acknowledged_frame_of_pair : ∃ (log : List Moment) (net : Network),
    Run Op.Unaided (Network.new {} 7 [.delta 5]) log net ∧ net.counters.framesSent = 1 ∧
      net.counters.ackTimeouts = 0 ∧ net.totalOutstanding = 0 ∧ sinceStart Moment.acknowledged log = 1 := by
  have hend : endsWith (Op.applyAll 100 (Op.pair ++ [.initRun, .runUntilIdle]) [] (.new {} 7 [.delta 5]))
      (fun _ net => net.counters.framesSent = 1 ∧ net.counters.ackTimeouts = 0 ∧
        net.totalOutstanding = 0) = true := by
    decide +kernel
  obtain ⟨log, net, hok, htest⟩ := endsWith_iff.1 hend
  obtain ⟨hsent, hlost, hnone⟩ := of_decide_eq_true htest
  have hrun : Run Op.Unaided (Network.new {} 7 [.delta 5]) log net :=
    .of_applyAll .start hok (by simp [Op.pair, Op.Unaided])
  obtain ⟨-, -, hbooks⟩ := hrun.sender_ledger
  exact ⟨log, net, hrun, hsent, hlost, hnone, by omega⟩

/-- In a run in which no frame is put at a node from outside, every frame that was accepted was handed to its
node or taken on for another one, and was answered by one acknowledgement unless this is still owed. What was
delivered is what the nodes have consumed, and the collisions are what the radios have lost. -/
theorem Run.receiver_ledger {timing : Timing} {seed : UInt64} {laws : List Law}
    (hrun : Run (fun op _ => ∀ n, op ≠ .put n) (Network.new timing seed laws) log net) :
    net.counters.delivered + net.counters.forwarded = net.counters.acksSent + net.totalOwed ∧
      net.counters.delivered = net.totalConsumed ∧ net.counters.collisions = net.totalCorrupted ∧
      net.counters.delivered + net.counters.forwarded = sinceStart Moment.accepted log := by
  have hworth : ∀ {v : Valuation}, v.Neutral → v.queued = 0 → net.worth v =
      v.acceptance * sinceStart Moment.accepted log + v.settlement * sinceStart Moment.acknowledged log :=
    fun hv hq => hrun.worth_eq hv (fun n _ hmay => absurd rfl (hmay n)) (fun _ _ _ _ => hq)
      fun _ _ => .inl hq
  have hhanded := hworth Valuation.neutral_handovers rfl
  have hanswered := hworth Valuation.neutral_answers rfl
  have hconsumed := hworth Valuation.neutral_deliveries rfl
  have hlost := hworth Valuation.neutral_losses rfl
  rw [worth_eq_totals] at hhanded hanswered hconsumed hlost
  simp [Valuation.handovers, Valuation.acceptance, Valuation.settlement] at hhanded
  simp [Valuation.answers, Valuation.acceptance, Valuation.settlement] at hanswered
  simp [Valuation.deliveries, Valuation.acceptance, Valuation.settlement] at hconsumed
  simp [Valuation.losses, Valuation.acceptance, Valuation.settlement] at hlost
  omega

/-- In a run of two nodes one frame was accepted, delivered and answered. -/
theorem accepted_frame_of_pair : ∃ (log : List Moment) (net : Network),
    Run (fun op _ => ∀ n, op ≠ .put n) (Network.new {} 7 [.delta 5]) log net ∧ net.counters.delivered = 1 ∧
      net.counters.forwarded = 0 ∧ net.totalOwed = 0 ∧ net.counters.acksSent = 1 ∧ net.totalConsumed = 1 ∧
      sinceStart Moment.accepted log = 1 := by
  have hend : endsWith (Op.applyAll 100 (Op.pair ++ [.initRun, .runUntilIdle]) [] (.new {} 7 [.delta 5]))
      (fun _ net => net.counters.delivered = 1 ∧ net.counters.forwarded = 0 ∧
        net.totalOwed = 0) = true := by
    decide +kernel
  obtain ⟨log, net, hok, htest⟩ := endsWith_iff.1 hend
  obtain ⟨hdelivered, hforwarded, hnone⟩ := of_decide_eq_true htest
  have hrun : Run (fun op _ => ∀ n, op ≠ .put n) (Network.new {} 7 [.delta 5]) log net :=
    .of_applyAll .start hok (by simp [Op.pair])
  obtain ⟨hanswered, hconsumed, -, haccepted⟩ := hrun.receiver_ledger
  exact ⟨log, net, hrun, hdelivered, hforwarded, hnone, by omega, by omega, by omega⟩

end Network

end CarrierSense
