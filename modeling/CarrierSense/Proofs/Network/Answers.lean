import CarrierSense.Proofs.Network.Reliable
import CarrierSense.Proofs.Network.Status

/-!
# Acknowledgements on their way

In a run whose frames come in by production, forwarding and sending only, an acknowledgement carries the
number and the address of the flight that it answers, and is heard to its end at one fixed time after that
flight. If a slot takes any time at all, this is before the timeout: an acknowledgement that ends is
awaited, and settles the head of the queue unless it was spoiled.
-/

namespace CarrierSense

namespace Radio

variable {w : Setting} {r : Radio} {d : Alarms} {x : Incoming}

/-- The radio awaits the acknowledgement `a`: it answers the head of the queue, and comes from its next
hop. -/
structure AwaitsAck (r : Radio) (a : Frame) : Prop where
  status : r.status = .receivingMessage
  waiting : r.waitingForAck
  head : ∃ f j, r.outgoing.head? = some f ∧ f.id = a.id ∧ f.receiver = some j ∧ a.sender = some j

/-- What a radio has come to that has taken an acknowledgement. -/
structure TookAck (timing : Timing) (r r' : Radio) : Prop where
  outgoing : ∃ f, r.outgoing = f :: r'.outgoing
  waiting : r'.waitingForAck = false
  retransmit : r'.retransmitPending = false
  window : r'.window = timing.windowMin
  status : r'.status = if r'.outgoing = [] then .idle else .waitingForDifs

/-- A radio that hears the acknowledgement it awaits takes it, and turns to the rest of its queue. -/
lemma AwaitsAck.settles (h : r.AwaitsAck x.frame) (hr : r.Sound d) (hx : r.incoming = some x)
    (hc : r.collision = false) (hack : x.frame.isAck = true) (hfor : x.frame.receiver = some w.self) :
    (expire w { radio := r } .reception).2 = .none ∧
      r.TookAck w.timing (expire w { radio := r } .reception).1.radio := by
  obtain ⟨f, j, hhead, hid, -, -⟩ := h.head
  obtain ⟨rest, hq⟩ := List.head?_eq_some_iff.1 hhead
  have ho := hr.orderly
  simp only [Orderly, h.status] at ho
  obtain ⟨how, hacks, hp, -⟩ := ho
  obtain ⟨hre, -, -⟩ := how.of_waitingForAck h.waiting
  have hturn : expire w { radio := r } .reception = (trySend w
      { radio := { r with incoming := none, outgoing := rest, waitingForAck := false,
                          window := w.timing.windowMin }, effects := [.disarm .ackTimeout] }, .none) := by
    have hfor : x.frame.isFor w.self = true := by simp [Frame.isFor, hfor]
    simp [expire, receptionEnded, Turn.edit, Turn.ask, h.status, hx, finishListening, hc, accept, hfor,
      hack, h.waiting, headId, hq, hid, resume, hacks, hp, hre]
  rw [hturn]
  refine ⟨rfl, ?_⟩
  unfold trySend
  cases rest with
  | nil => constructor <;> simp [hq, hre]
  | cons f' rest => constructor <;> simp [hq, hre]

end Radio

namespace Network

variable {net mid net' before : Network} {w : Setting} {i j s : InterfaceId} {k : Timer} {r : Radio}
  {q : Sequel} {t : Turn} {a f : Frame} {x : Incoming} {g g' : Flights} {m : Moment} {log : List Moment}
  {result : Except NetworkError Unit}

/-- The acknowledgements that are owed and the frames that are heard are as before. -/
structure Unanswered (net net' : Network) : Prop where
  owes : net'.owes = net.owes
  heardBy : net'.heardBy = net.heardBy

/-- Without a change of radios nothing is answered. -/
lemma Unanswered.of_radio (hr : net'.radio = net.radio) : net.Unanswered net' :=
  (views_of_radio hr).2.elim .mk

/-- Two changes that answer nothing answer nothing together. -/
lemma Unanswered.trans (h : net.Unanswered mid) (h' : mid.Unanswered net') : net.Unanswered net' :=
  ⟨h'.owes.trans h.owes, h'.heardBy.trans h.heardBy⟩

/-- A frame that joins a queue is not on the air yet. -/
lemma Queued.unanswered (h : net.Queued i f net') : net.Unanswered net' := by
  obtain ⟨r, w, hr, hw, hs⟩ := h
  obtain rfl := setting_self hw
  have hkeep : (Radio.enqueue w f r).radio.acks = r.acks ∧
      (Radio.enqueue w f r).radio.incoming = r.incoming := by
    rw [Radio.enqueue_eq]
    split <;> exact ⟨rfl, rfl⟩
  have hviews : ∀ j, net'.owes j = net.owes j ∧ net'.heardBy j = net.heardBy j := by
    intro j
    by_cases hj : j = w.self
    · subst hj
      obtain ⟨-, howes, hheard⟩ := hs.views_self
      rw [howes, hheard, owes_eq hr, heardBy_eq hr]
      exact hkeep
    · exact (hs.views_other hj).2
  exact ⟨funext fun j => (hviews j).1, funext fun j => (hviews j).2⟩

/-- To send a frame answers nothing. -/
lemma send_unanswered (h : net.Sound) (hs : net.send i f = .ok (result, net')) :
    net.Unanswered net' := by
  rcases send_queued h.coherent h.onTime hs with ⟨-, rfl⟩ | ⟨-, -, next, hq⟩
  · exact .of_radio rfl
  · exact hq.unanswered

/-- To produce a frame answers nothing. -/
lemma produce_unanswered {n : NodeId} (h : net.Sound) (hp : net.produce n = .ok (result, net')) :
    net.Unanswered net' := by
  rcases produce_cases h.coherent h.onTime hp with ⟨ha, -, -⟩ | ⟨-, i, f, next, hmade⟩
  · exact .of_radio ha.radio
  · obtain ⟨mid, hq, ha, -⟩ := hmade.queued
    exact hq.unanswered.trans (.of_radio ha.radio)

/-- A call that lets no other frame in leaves the air alone. -/
lemma apply_unanswered {op : Op} {fuel : Nat} (h : net.Sound) (hop : op.firesEvents = false)
    (hreg : op.isRegular = true) (ha : op.apply fuel net = .ok (result, net')) : net.Unanswered net' := by
  by_cases hk : op.keepsBooks = true
  · have haside := Op.apply_aside hk h.coherent h.onTime ha
    exact .of_radio haside.radio
  cases op with
  | addInterface n name radius =>
    simp only [Op.apply, bind_eq_ok] at ha
    obtain ⟨⟨i, mid⟩, hi, ha⟩ := ha
    cases ha
    obtain ⟨-, howes, hheard, -⟩ := addInterface_views h.coherent hi
    exact ⟨howes, hheard⟩
  | produce n => exact produce_unanswered h ha
  | send i f => exact send_unanswered h ha
  | initRun | receive | broadcast => cases hreg
  | step | runTo | runUntilIdle => cases hop
  | _ => exact absurd rfl hk

/-- What is heard while a frame goes on the air was heard before, or is that frame. -/
lemma Hears.heardBy {members : List InterfaceId} (hh : Hears net f members net') (h : net.Sound)
    (hx : net'.heardBy j = some x) : net.heardBy j = some x ∨ x = ⟨f, net.now + f.airtime⟩ := by
  induction hh with
  | nil => exact .inl hx
  | cons hr hw hs _ ih =>
    rcases ih (h.receive hr hw hs) hx with hmid | rfl
    · exact h.receive_heardBy hr hw hs hmid
    · exact .inr (by rw [hs.now])

/-- When a timer of the interface `i` runs out, `i` may come to owe an acknowledgement of the frame that
it has heard, and others may hear what `i` puts on the air: the head of its queue, or an acknowledgement
that it owed until now. -/
structure News (net : Network) (i : InterfaceId) (net' : Network) : Prop where
  owed : ∀ {j a}, a ∈ net'.owes j → a ∈ net.owes j ∨ j = i ∧ ∃ x, net.heardBy i = some x ∧
    x.frame.isAck = false ∧ x.frame.receiver = some i ∧ a = x.frame.ackFrom i net.timing.ackDuration
  heard : ∀ {j x}, net'.heardBy j = some x → net.heardBy j = some x ∨ ∃ f,
    x = ⟨f, net.now + f.airtime⟩ ∧
      (f ∈ net.queue i ∨ f ∈ net.owes i ∧ net.pause i = some net.now)

/-- What the turn itself does to the interface: it may owe an acknowledgement of what it has heard, it hears
nothing new, and what it puts on the air comes from its queue or its acknowledgements. -/
lemma Fired.turn_news (hF : Fired net before i k r w q t mid) :
    (∀ {a}, a ∈ t.radio.acks → a ∈ r.acks ∨ ∃ x, r.incoming = some x ∧ x.frame.isAck = false ∧
      x.frame.receiver = some i ∧ a = x.frame.ackFrom i net.timing.ackDuration) ∧
    (t.radio.incoming = r.incoming ∨ t.radio.incoming = none) ∧
    ∀ {f}, q = .transmit f → f ∈ r.outgoing ∨ f ∈ r.acks ∧ net.pause i = some net.now := by
  have hself := hF.self
  cases hF.outcome with
  | launch hq hhead hout hacks hin =>
    refine ⟨by simp [hacks], .inr hin, fun hf => .inl ?_⟩
    rw [hq] at hf
    cases hf
    exact List.mem_of_mem_head? hhead
  | answer hq hk hr hout hacks hin =>
    refine ⟨by simp [hacks], .inr hin, fun hf => .inr ?_⟩
    rw [hq] at hf
    cases hf
    subst hk
    exact ⟨by rw [hr]; exact List.mem_singleton.2 rfl, hF.due⟩
  | settle hq _ _ _ _ hacks hin => exact ⟨by simp [hacks], .inr hin, fun hf => absurd hf (hq _)⟩
  | @accept x hq _ hx hdata hrecv _ hacks hin =>
    refine ⟨fun hmem => .inr ⟨x, hx, hdata, hself ▸ hrecv, ?_⟩, .inr hin, fun hf => absurd hf (hq _)⟩
    rw [hacks.2, List.mem_singleton] at hmem
    rw [hmem, hself, hF.timing]
  | quiet hq _ hacks _ hin => exact ⟨fun hmem => .inl (hacks ▸ hmem), hin, fun hf => absurd hf (hq _)⟩

/-- What a timer brings is an answer that is owed, or one that is heard. -/
lemma Fired.news (hF : Fired net before i k r w q t mid) (hnext : before.Follows i q mid net') :
    net.News i net' := by
  obtain ⟨hqueue, howes, hheard⟩ := hF.views_net
  obtain ⟨-, howes', -⟩ := hF.views_self
  obtain ⟨hacks, hin, hair⟩ := hF.turn_news
  have howed : ∀ {j a}, a ∈ mid.owes j → a ∈ net.owes j ∨ j = i ∧ ∃ x, net.heardBy i = some x ∧
      x.frame.isAck = false ∧ x.frame.receiver = some i ∧
      a = x.frame.ackFrom i net.timing.ackDuration := by
    intro j a hmem
    by_cases hj : j = i
    · subst hj
      rw [howes'] at hmem
      rw [howes, hheard]
      exact (hacks hmem).imp_right fun hx => ⟨rfl, hx⟩
    · rw [(hF.views_other hj).2.1] at hmem
      exact .inl hmem
  refine ⟨fun hmem => howed ((hnext.undisturbed hF.after).owes ▸ hmem), fun hx => ?_⟩
  cases hnext with
  | silent _ heq => exact .inl (hF.heard_before hin (heq ▸ hx))
  | @transmit f _ hq _ hh =>
    have hnow : mid.now = net.now := hF.settled.now
    rcases hh.heardBy hF.after hx with hx | rfl
    · exact .inl (hF.heard_before hin hx)
    · exact .inr ⟨f, by rw [hnow], by rw [hqueue, howes]; exact hair hq⟩

/-- Acknowledgements that are owed or heard carry the number of the flight that they answer, and come
from its receiver. One that is heard ends one pause and one acknowledgement after the flight. -/
structure Answers (net : Network) (g : Flights) : Prop where
  owed : ∀ {j a s fl}, a ∈ net.owes j → a.receiver = some s → g s = some fl →
    a.id = fl.frame.id ∧ a.sender = some j ∧ a.airtime = net.timing.ackDuration
  heard : ∀ {s x fl}, net.heardBy s = some x → x.frame.isAck = true → x.frame.receiver = some s →
    g s = some fl → x.frame.id = fl.frame.id ∧
      (∃ j, fl.frame.receiver = some j ∧ x.frame.sender = some j) ∧
      x.endsAt = fl.endsAt + net.timing.sifs + net.timing.ackDuration

/-- Answers stay as they are where nothing is answered. -/
lemma Answers.congr (h : net.Answers g) (hu : net.Unanswered net') (ht : net'.timing = net.timing) :
    net'.Answers g := by
  obtain ⟨howes, hheard⟩ := hu
  constructor
  · rw [ht, howes]
    exact h.owed
  · rw [ht, hheard]
    exact h.heard

/-- A flight that an acknowledgement is about was there before the moment in which it came up. -/
lemma Moment.Advance.flight_before (ha : m.Advance g g') (hm : m.before.Matched) {fl : Flight}
    (hg : g' s = some fl) (hst : fl.stage ≠ .aloft) :
    ∃ fl', g s = some fl' ∧ fl'.frame = fl.frame ∧ fl'.endsAt = fl.endsAt := by
  rcases ha.flight hm hg with ⟨-, hfl⟩ | ⟨-, fl', hg', hframe, hends, -⟩
  · rw [hfl] at hst
    exact absurd rfl hst
  · exact ⟨fl', hg', hframe, hends⟩

/-- Whatever the moment brings to the flights, acknowledgements are about them. -/
lemma Answers.advance (h : net.Answers g) (ht : net.Tracked g) (ht' : m.after.Tracked g')
    (ha : m.Advance g g') (hm : m.before.Matched) (hn : net.News i m.after)
    (htime : m.after.timing = net.timing) : m.after.Answers g' := by
  constructor
  · intro j a s fl hmem hrecv hg
    obtain ⟨-, s', fl', hs', hg', hacc, -⟩ := ht'.ether.owed hmem
    rw [hrecv] at hs'
    cases hs'
    rw [hg] at hg'
    cases hg'
    obtain ⟨old, hold, hframe, -⟩ := ha.flight_before hm hg (by simp [hacc])
    rw [← hframe, htime]
    rcases hn.owed hmem with hmem | ⟨rfl, x, hx, hdata, hfor, rfl⟩
    · exact h.owed hmem hrecv hold
    · -- a new acknowledgement is made out of the frame of the flight
      obtain ⟨s', hs', hg'⟩ := ht.ether.data hx hdata hfor
      have hs : x.frame.sender = some s := hrecv
      rw [hs] at hs'
      cases hs'
      rw [hold] at hg'
      cases hg'
      exact ⟨rfl, rfl, rfl⟩
  · intro s x fl hx hack hrecv hg
    obtain ⟨⟨fl', hg', hacc⟩, -⟩ := ht'.ether.answered hx hack hrecv
    rw [hg] at hg'
    cases hg'
    obtain ⟨old, hold, hframe, hends⟩ := ha.flight_before hm hg (by simp [hacc])
    rw [← hframe, ← hends, htime]
    rcases hn.heard hx with hx | ⟨f, rfl, hf | ⟨hmem, hpause⟩⟩
    · exact h.heard hx hack hrecv hold
    · have hack : f.isAck = true := hack
      rw [(ht.queued hf).1] at hack
      cases hack
    · -- it left when the pause of the receiver of the flight was over
      have hrecv : f.receiver = some s := hrecv
      obtain ⟨-, s', fl', hs', hg', -, hfor, hdue⟩ := ht.ether.owed hmem
      rw [hrecv] at hs'
      cases hs'
      rw [hold] at hg'
      cases hg'
      rw [hpause] at hdue
      obtain ⟨hid, hsend, hair⟩ := h.owed hmem hrecv hold
      exact ⟨hid, ⟨i, hfor, hsend⟩, by rw [hair, Option.some.inj hdue]⟩

/-- The interface `i` takes the acknowledgement that it awaited: the head of its queue leaves it, the
timeout is cancelled, and the contention window is the first one again. -/
structure Settles (net : Network) (i : InterfaceId) (net' : Network) : Prop where
  radio : ∃ r r', net.radio i = .ok r ∧ net'.radio i = .ok r' ∧ r.TookAck net.timing r'
  timeout : (∃ due, net.scheduler.Pending due (.timer i .ackTimeout)) ∧
    ∀ due, ¬ net'.scheduler.Pending due (.timer i .ackTimeout)

/-- Every acknowledgement that an interface has heard to its end in this moment, and that is addressed to
it, is awaited, and is taken unless it was spoiled. -/
def Moment.TakesAcks (m : Moment) : Prop :=
  ∀ {i r x}, m.cause = .event (.timer i .reception) → m.before.radio i = .ok r →
    r.incoming = some x → x.frame.isAck = true → x.frame.receiver = some i →
    x.endsAt = m.before.now ∧ r.AwaitsAck x.frame ∧
      (r.collision = false → m.before.Settles i m.after)

/-- An acknowledgement ends before its timeout, so that it is awaited. -/
lemma Answers.awaits (h : net.Answers g) (ht : net.Tracked g) (hslot : 1 ≤ net.timing.slot)
    (hF : Fired net before i .reception r w q t mid) (hx : r.incoming = some x)
    (hack : x.frame.isAck = true) (hrecv : x.frame.receiver = some i) :
    x.endsAt = net.now ∧ r.AwaitsAck x.frame := by
  have hx' : net.heardBy i = some x := by rw [hF.views_net.2.2, hx]
  have hnow := hF.ends_now rfl hx
  obtain ⟨⟨fl, hg, hacc⟩, -⟩ := ht.ether.answered hx' hack hrecv
  obtain ⟨hid, ⟨j, hfor, hsend⟩, hend⟩ := h.heard hx' hack hrecv hg
  have hfaithful := ht.faithful_fired hF
  have hne : r.incoming ≠ none := by simp [hx]
  have hquiet : r.status ≠ .sendingMessage := by
    intro hs
    have ho := hF.sound.orderly
    simp only [Radio.Orderly, hs] at ho
    exact hne ho.2.2
  -- a radio that does not wait any more has waited for a slot longer than this
  have hwait : r.waitingForAck = true := by
    by_contra hw
    obtain ⟨hle, -⟩ := hfaithful.late hg (by simp [hacc]) hquiet (by simpa using hw)
    rw [hF.timing, hF.now] at hle
    unfold Timing.ackTimeout at hle
    omega
  refine ⟨hnow, ⟨?_, hwait, fl.frame, j, hfaithful.head hg (by simp [hacc]), hid.symm, hfor, hsend⟩⟩
  have ho := hF.sound.orderly
  obtain ⟨-, hs | hs | hs | hs⟩ := hF.sound.of_waitingForAck hwait
  · simp only [Radio.Orderly, hs] at ho
    exact absurd ho.2.2.2 hne
  · exact hs
  · simp only [Radio.Orderly, hs] at ho
    exact absurd ho.2.2 hne
  · simp only [Radio.Orderly, hs] at ho
    exact absurd ho.2.2 hne

/-- An acknowledgement that is awaited and was not spoiled is taken. -/
lemma Sound.settles {id : EventId} {scheduler : Scheduler Event} (h : net.Sound)
    (hp : net.scheduler.popDue = some ((id, .timer i .reception), scheduler))
    (hc : { net with scheduler }.clearTimer id (.timer i .reception) = .ok before)
    (he : before.expire i .reception = .ok (result, net')) (hr : before.radio i = .ok r)
    (hx : r.incoming = some x) (haw : r.AwaitsAck x.frame) (hclean : r.collision = false)
    (hack : x.frame.isAck = true) (hrecv : x.frame.receiver = some i) : before.Settles i net' := by
  obtain ⟨-, hcoh, hon, -, -, hself⟩ := h.pop_timer hp hc
  have hafter := h.expire hp hc he
  obtain ⟨-, r', w, hr', hw, hmoved⟩ := expire_moved hcoh hon he
  rw [hr] at hr'
  cases hr'
  obtain rfl := setting_self hw
  obtain ⟨d, hd, -, hal⟩ := hself hr
  obtain ⟨hquiet, htook⟩ := haw.settles (w := w) hd hx hclean hack hrecv
  rw [setting_timing hw] at htook
  generalize Radio.expire w { radio := r } .reception = move at hmoved hquiet htook
  obtain ⟨timers, hself'⟩ : ∃ timers, net'.radio w.self = .ok { move.1.radio with timers } := by
    cases hmoved with
    | rest _ hs => exact hs.radio_self
    | contend hm => rw [hquiet] at hm; cases hm
    | transmit hm => rw [hquiet] at hm; cases hm
  have htook' : r.TookAck before.timing { move.1.radio with timers } :=
    ⟨htook.outgoing, htook.waiting, htook.retransmit, htook.window, htook.status⟩
  refine ⟨⟨r, _, hr, hself', htook'⟩, ?_, fun due hpend => ?_⟩
  · -- the timeout is set for as long as the acknowledgement is awaited
    have hset : (d .ackTimeout).isSome := (hd.dictated _).2 (by
      simp [Radio.dictated, haw.status, Radio.awaiting, haw.waiting])
    obtain ⟨time, htime⟩ := Option.isSome_iff_exists.1 hset
    have halarm : before.alarms w.self .ackTimeout = some time := by rw [hal]; exact htime
    exact (hcoh.alarms_eq_some.1 halarm).imp' (fun n => ⟨time, n⟩) fun _ hp => hp
  · have hexp := (hafter.radio hself').expects (k := .ackTimeout)
      (by simp [hafter.coherent.alarms_eq_of_pending hpend])
    have hexp : move.1.radio.waitingForAck = true := hexp
    rw [htook.waiting] at hexp
    cases hexp

/-- Whatever event fires, acknowledgements stay about flights, and those that end are taken. -/
lemma Answers.fires (h : net.Answers g) (ht : net.Tracked g) (hmatch : net.Matched)
    (hslot : 1 ≤ net.timing.slot) (hf : net.Fires m result) :
    (∃ g', m.after.Tracked g' ∧ m.after.Answers g') ∧ m.TakesAcks := by
  obtain ⟨-, g', ht', ha⟩ := ht.fires hf
  have htime := (ht.sound.fires_timing hf).2
  have hmatch' := (ht.sound.fires_sameShape hf).1.matched hmatch
  obtain ⟨id, e, scheduler, hp, hc, hcause, hfire⟩ := hf
  have hother : (∀ i k, e ≠ .timer i k) → (m.before.Sound → m.before.Unanswered m.after) →
      (∃ g', m.after.Tracked g' ∧ m.after.Answers g') ∧ m.TakesAcks := by
    intro he hsame
    obtain ⟨hmid, -⟩ := Network.pop_other ht.sound.coherent ht.sound.onTime hp hc he
    have hpop : net.Unanswered m.before := by
      rw [hmid]
      exact .of_radio rfl
    have hun := hpop.trans (hsame (ht.sound.pop_other hp hc he))
    refine ⟨⟨g, ?_, h.congr hun htime⟩, fun {i r x} hm => ?_⟩
    · -- no flight changes unless a timer runs out
      cases ha with
      | timer hm => rw [hcause] at hm; cases hm; exact absurd rfl (he _ _)
      | joins => exact ht'
    · rw [hcause] at hm
      cases hm
      exact absurd rfl (he _ _)
  cases e with
  | timer i k =>
    obtain ⟨-, r, w, q, t, mid, hF, hnext⟩ := ht.sound.fired hp hc hfire
    refine ⟨⟨g', ht', h.advance ht ht' ha hmatch' (hF.news hnext) htime⟩,
      fun {i' r' x} hm hr hx hack hrecv => ?_⟩
    rw [hcause] at hm
    cases hm
    rw [hF.radio] at hr
    cases hr
    obtain ⟨hnow, haw⟩ := h.awaits ht hslot hF hx hack hrecv
    refine ⟨hnow.trans hF.now_before.symm, haw, fun hclean => ?_⟩
    exact ht.sound.settles hp hc hfire hF.radio hx haw hclean hack hrecv
  | produce n => exact hother (by simp) fun hs => produce_unanswered hs hfire
  | forward i f => exact hother (by simp) fun hs => send_unanswered hs hfire

/-- The network is tracked, acknowledgements are about flights, and all that have ended were taken. -/
def Heeds (timing : Timing) (log : List Moment) (net : Network) : Prop :=
  (∃ g, net.Tracked g ∧ net.Answers g) ∧ net.Matched ∧ net.timing = timing ∧ ∀ m ∈ log, m.TakesAcks

/-- Whatever event fires, acknowledgements that have ended are taken. -/
lemma heeds_closed {timing : Timing} (hslot : 1 ≤ timing.slot) :
    Closed (Heeds timing) fun _ => True where
  clock := fun ⟨⟨g, ht, h⟩, hm, htime, hall⟩ hw =>
    ⟨⟨g, ht.advanceTo hw, h.congr (.of_radio rfl) rfl⟩, ⟨hm.endpoints, hm.home⟩, htime, hall⟩
  event := fun {log net m result} ⟨⟨g, ht, h⟩, hm, htime, hall⟩ hf _ => by
    obtain ⟨hg, htakes⟩ := h.fires ht hm (by rw [htime]; exact hslot) hf
    obtain ⟨hpop, hfire⟩ := ht.sound.fires_sameShape hf
    refine ⟨hg, (hpop.trans hfire).matched hm, (ht.sound.fires_timing hf).2.trans htime,
      fun m' hm' => ?_⟩
    rcases List.mem_append.1 hm' with hm' | hm'
    · exact hall m' hm'
    · obtain rfl := List.mem_singleton.1 hm'
      exact htakes

/-- Whatever is called in a regular run, acknowledgements that have ended are taken. -/
lemma heeds_call {timing : Timing} {op : Op} {fuel : Nat} (h : Heeds timing log net)
    (hop : op.firesEvents = false) (hreg : op.isRegular = true)
    (ha : op.apply fuel net = .ok (result, net')) :
    Heeds timing (log ++ [⟨net, .call op, net'⟩]) net' := by
  obtain ⟨⟨g, ht, h⟩, hm, htime, hall⟩ := h
  have hsame := ht.sound.apply_timing hop ha
  refine ⟨⟨g, (ht.apply hop hreg ha).1, h.congr (apply_unanswered ht.sound hop hreg ha) hsame⟩,
    hm.apply ht.sound.coherent ht.sound.onTime hop ha, hsame.trans htime, fun m' hm' => ?_⟩
  rcases List.mem_append.1 hm' with hm' | hm'
  · exact hall m' hm'
  · obtain rfl := List.mem_singleton.1 hm'
    intro i r x hcause
    cases hcause

/-- In a run from its start, with frames that come in by production, forwarding and the sending of data
frames only, and with slots that take any time at all, no acknowledgement comes late or to the wrong
interface: one that has been heard to its end, and was not spoiled, settles the head of the queue. -/
theorem Run.acks_taken {start : Network} (hstart : start.Begins) (hslot : 1 ≤ start.timing.slot)
    (hrun : Run (fun op _ => op.isRegular) start log net) : ∀ m ∈ log, m.TakesAcks := by
  obtain ⟨htracked, -⟩ := hstart.tracked
  have hfirst : Heeds start.timing [] start :=
    ⟨⟨fun _ => none, htracked, ⟨fun _ _ hg => (by cases hg), fun _ _ _ hg => (by cases hg)⟩⟩,
      hstart.matched, rfl, fun m hm => (by cases hm)⟩
  exact ((heeds_closed hslot).run heeds_call (fun _ _ => trivial) hfirst hrun).2.2.2

/-- Whether an acknowledgement for the interface `i` has just ended at `i`, and was not spoiled. -/
def Moment.hasCleanAck (m : Moment) (i : InterfaceId) : Bool :=
  match m.cause, m.before.radio i with
  | .event (.timer j .reception), .ok r =>
    j = i && !r.collision && r.incoming.any fun x => x.frame.isAck && x.frame.isFor i
  | _, _ => false

/-- The check for a clean acknowledgement is sound. -/
lemma Moment.hasCleanAck_eq_true (h : m.hasCleanAck i = true) :
    m.cause = .event (.timer i .reception) ∧ ∃ r x, m.before.radio i = .ok r ∧ r.collision = false ∧
      r.incoming = some x ∧ x.frame.isAck = true ∧ x.frame.receiver = some i := by
  unfold Moment.hasCleanAck at h
  split at h
  · rename_i j r hcause hr
    simp only [Bool.and_eq_true, decide_eq_true_eq, Bool.not_eq_true', Option.any_eq_true] at h
    obtain ⟨⟨rfl, hc⟩, x, hx, hack, hfor⟩ := h
    exact ⟨hcause, r, x, hr, hc, hx, hack, by simpa [Frame.isFor] using hfor⟩
  · cases h

/-- In a run of two nodes, the acknowledgement that the first one hears settles its frame. -/
theorem acks_of_pair : ∃ (start : Network) (log : List Moment) (net : Network),
    start.Begins ∧ 1 ≤ start.timing.slot ∧ Run (fun op _ => op.isRegular) start log net ∧
      ∃ m ∈ log, m.hasCleanAck ⟨0⟩ = true ∧ m.before.Settles ⟨0⟩ m.after := by
  have hend : endsWith (Op.runAfter 100 Op.pair [.runUntilIdle] (.new {} 7 [.delta 5]))
      (fun log net => decide (1 ≤ net.timing.slot) && log.any (·.hasCleanAck ⟨0⟩)) = true := by
    decide +kernel
  obtain ⟨log, net, hok, htest⟩ := endsWith_iff.1 hend
  rw [Bool.and_eq_true, decide_eq_true_eq] at htest
  obtain ⟨start, hstart, hrun⟩ := Run.of_runAfter (fun op _ => op.isRegular) hok (by simp [Op.isRegular])
  obtain ⟨m, hm, hclean⟩ := List.any_eq_true.1 htest.2
  have hslot : 1 ≤ start.timing.slot := hrun.timing hstart.tracked.1.sound ▸ htest.1
  obtain ⟨hcause, r, x, hr, hc, hx, hack, hfor⟩ := Moment.hasCleanAck_eq_true hclean
  obtain ⟨-, -, htakes⟩ := hrun.acks_taken hstart hslot m hm hcause hr hx hack hfor
  exact ⟨start, log, net, hstart, hslot, hrun, m, hm, hclean, htakes hc⟩

end Network

end CarrierSense
