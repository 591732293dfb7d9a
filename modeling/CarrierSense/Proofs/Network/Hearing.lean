import CarrierSense.Proofs.Network.Answers
import CarrierSense.Proofs.Network.Media
import CarrierSense.Proofs.Radio.Listening

/-!
# What interfaces hear

The frames that reach an interface in a moment of a run, whoever put them on the air, and the busy periods
that they make up over a log. In every run, whatever is called, each radio listens as its busy periods say;
and an interface takes a frame only at the end of a busy period of this one frame, which found it neither
sending nor waiting before an attempt.
-/

namespace CarrierSense

/-- A radio that is given a frame to send hears what it heard before. -/
lemma Radio.enqueue_steady {w : Setting} {f : Frame} {r : Radio} {d : Alarms} (hr : r.Sound d) :
    r.Steady (enqueue w f r).radio := by
  rw [enqueue_eq]
  split
  · rename_i hs
    have ho := hr.orderly
    simp only [Orderly, hs] at ho
    exact ⟨rfl, rfl, fun hin => absurd ho.2.2 hin, fun h => by cases h⟩
  · exact ⟨rfl, rfl, fun _ => rfl, fun h => ⟨h, id⟩⟩

/-- What a radio has heard after a moment that may bring another frame, end a busy period, or start a new
run. -/
def Listening.step (l : Listening) (restarts ends : Bool) (new : Option Hearing) : Listening :=
  if restarts then {} else if ends then l.close else l.add new

namespace Network

variable {net mid net' before : Network} {w : Setting} {i j : InterfaceId} {k : Timer} {r : Radio}
  {q : Sequel} {t : Turn} {f : Frame} {m : Moment} {log : List Moment} {l : InterfaceId → Listening}
  {members : List InterfaceId} {result : Except NetworkError Unit}

/-- The frame that goes on the air when the timer `k` of the interface `i` runs out. -/
def transmission (net : Network) (i : InterfaceId) (k : Timer) : Option Frame :=
  match net.radio i, net.setting i with
  | .ok radio, .ok w =>
    match (Radio.expire w { radio } k).2 with
    | .transmit f => some f
    | _ => none
  | _, _ => none

/-- The frame that goes on the air is the one that the timer transmits. -/
lemma transmission_eq_some : net.transmission i k = some f ↔ net.Transmits i k f := by
  unfold transmission Transmits
  constructor
  · intro h
    split at h
    · rename_i r w hr hw
      split at h
      · rename_i f' hf
        cases h
        exact ⟨r, w, hr, hw, hf⟩
      · cases h
    · cases h
  · rintro ⟨r, w, hr, hw, hf⟩
    simp only [hr, hw, hf]

/-- What the interface `i` begins to hear when the frame `f` reaches the interfaces of a list. -/
def hearing (net : Network) (f : Frame) (members : List InterfaceId) (i : InterfaceId) :
    Option Hearing :=
  match net.radio i with
  | .ok r => if i ∈ members ∧ r.isDeaf = false then some ⟨f, net.now + f.airtime, r⟩ else none
  | .error _ => none

namespace Moment

/-- The frame that goes on the air in a moment, and the interfaces that it reaches. An interface does not
hear what it sends itself. -/
def aired (m : Moment) : Option (Frame × List InterfaceId) :=
  match m.cause with
  | .call (.receive i f) => some (f, [i])
  | .call (.broadcast i f) => some (f, m.before.topology.listeners i)
  | .event (.timer i k) =>
    (m.before.transmission i k).map fun f => (f, (m.before.topology.listeners i).filter (· ≠ i))
  | _ => none

/-- What an interface begins to hear in a moment. -/
def hearing (m : Moment) (i : InterfaceId) : Option Hearing :=
  m.aired.bind fun (f, members) => m.before.hearing f members i

/-- Whether the busy period of an interface is over: the timer of the tracked frame has run out. -/
def endsListening (m : Moment) (i : InterfaceId) : Bool :=
  match m.cause with
  | .event (.timer j .reception) => j = i
  | _ => false

/-- Whether all radios are switched off and on. -/
def restarts (m : Moment) : Bool :=
  match m.cause with
  | .call .initRun => true
  | _ => false

end Moment

/-- The busy periods of an interface over a log, since the last start of a run. -/
def listening (log : List Moment) (i : InterfaceId) : Listening :=
  log.foldl (fun l m => l.step m.restarts (m.endsListening i) (m.hearing i)) {}

/-- The busy periods over a log are continued by its next moment. -/
lemma listening_concat (log : List Moment) (m : Moment) (i : InterfaceId) :
    listening (log ++ [m]) i =
      (listening log i).step m.restarts (m.endsListening i) (m.hearing i) := by
  simp only [listening, List.foldl_append, List.foldl_cons, List.foldl_nil]

/-- All radios listen as their busy periods say, and no frame has reached an interface that is missing. -/
def Attends (net : Network) (l : InterfaceId → Listening) : Prop :=
  ∀ i, match net.radio i with
    | .ok r => r.Listens (l i)
    | .error _ => l i = {}

/-- A radio listens as the busy periods of its interface say. -/
lemma Attends.listens (h : net.Attends l) (hr : net.radio i = .ok r) : r.Listens (l i) := by
  have hi := h i
  rw [hr] at hi
  exact hi

/-- An interface that is missing has heard nothing. -/
lemma Attends.eq_nothing (h : net.Attends l) (hi : ∀ r, net.radio i ≠ .ok r) : l i = {} := by
  have hl := h i
  split at hl
  · rename_i r hr
    exact absurd hr (hi r)
  · exact hl

/-- Only what has been heard at each interface counts. -/
lemma Attends.congr {l' : InterfaceId → Listening} (h : net.Attends l) (hl : ∀ i, l' i = l i) :
    net.Attends l' := by
  rw [funext hl]
  exact h

/-- Without a change of radios, all listen as before. -/
lemma Attends.of_radio (h : net.Attends l) (hr : net'.radio = net.radio) : net'.Attends l := by
  unfold Attends
  rw [hr]
  exact h

/-- One radio has acted, and the others are as before. -/
lemma Attends.settled {l' : InterfaceId → Listening} (h : net.Attends l) (hs : net.Settled w t net')
    (hself : t.radio.Listens (l' w.self)) (hother : ∀ {j}, j ≠ w.self → l' j = l j) :
    net'.Attends l' := by
  intro j
  by_cases hj : j = w.self
  · subst hj
    obtain ⟨timers, hr⟩ := hs.radio_self
    rw [hr]
    exact hself.withTimers timers
  · rw [hs.radio_other hj, hother hj]
    exact h j

/-- A frame that joins a queue leaves all radios listening as before. -/
lemma Attends.queued (h : net.Attends l) (hn : net.Sound) (hq : net.Queued i f net') :
    net'.Attends l := by
  obtain ⟨r, w, hr, hw, hs⟩ := hq
  obtain rfl := setting_self hw
  exact h.settled hs ((Radio.enqueue_steady (hn.radio hr)).listens (h.listens hr)) fun _ => rfl

/-- A frame that is sent leaves all radios listening as before. -/
lemma Attends.send (h : net.Attends l) (hn : net.Sound) (hs : net.send i f = .ok (result, net')) :
    net'.Attends l := by
  rcases send_queued hn.coherent hn.onTime hs with ⟨-, rfl⟩ | ⟨-, -, next, hq⟩
  · exact h
  · exact h.queued hn hq

/-- A frame that is produced leaves all radios listening as before. -/
lemma Attends.produce {n : NodeId} (h : net.Attends l) (hn : net.Sound)
    (hp : net.produce n = .ok (result, net')) : net'.Attends l := by
  rcases produce_cases hn.coherent hn.onTime hp with ⟨ha, -, -⟩ | ⟨-, i, f, next, hmade⟩
  · exact h.of_radio ha.radio
  · obtain ⟨mid, hq, ha, -⟩ := hmade.queued
    exact (h.queued hn hq).of_radio ha.radio

/-- A member begins to hear a frame unless it is deaf. -/
lemma hearing_of_radio (hr : net.radio i = .ok r) : net.hearing f members i =
    if i ∈ members ∧ r.isDeaf = false then some ⟨f, net.now + f.airtime, r⟩ else none := by
  simp only [hearing, hr]

/-- An interface that is no member hears nothing. -/
lemma hearing_of_not_mem (h : i ∉ members) : net.hearing f members i = none := by
  unfold hearing
  split <;> simp [h]

/-- A radio that is deaf hears nothing. -/
lemma hearing_of_deaf (hr : net.radio i = .ok r) (hd : r.isDeaf = true) :
    net.hearing f members i = none := by
  simp [hearing, hr, hd]

/-- What an interface hears depends on its own radio and on the clock only. -/
lemma hearing_congr {members' : List InterfaceId} (hr : net'.radio i = net.radio i)
    (hn : net'.now = net.now) (hm : i ∈ members' ↔ i ∈ members) :
    net'.hearing f members' i = net.hearing f members i := by
  simp only [hearing, hr, hn, hm]

/-- A frame that reaches different interfaces adds to the busy periods of those that can hear it. -/
lemma Hears.attends (hh : Hears net f members net') (hn : net.Sound) (hnd : members.Nodup)
    (h : net.Attends l) : net'.Attends fun i => (l i).add (net.hearing f members i) := by
  induction hh generalizing l with
  | nil => exact h.congr fun i => by rw [hearing_of_not_mem List.not_mem_nil, Listening.add_none]
  | @cons net mid net' i r w f rest hr hw hs _ ih =>
    obtain ⟨hnew, hrest⟩ := List.nodup_cons.1 hnd
    have hmid := hn.receive hr hw hs
    have hnow := setting_now hw
    obtain rfl := setting_self hw
    -- the first interface hears the frame, and then the rest do without it
    have hfirst : mid.Attends fun j =>
        (l j).add (if j = w.self then net.hearing f (w.self :: rest) j else none) := by
      refine h.settled hs ?_ fun hj => by rw [if_neg hj, Listening.add_none]
      rw [if_pos rfl, hearing_of_radio hr]
      have hl := h.listens hr
      cases hd : r.isDeaf with
      | true =>
        rw [Radio.receive_deaf hd]
        simpa using hl
      | false =>
        have hl' := hl.receive (w := w) (f := f) (hn.radio hr) hd
        rw [hnow] at hl'
        simpa using hl'
    refine (ih hmid hrest hfirst).congr fun j => ?_
    by_cases hj : j = w.self
    · subst hj
      rw [if_pos rfl, hearing_of_not_mem hnew, Listening.add_none]
    · have hmem : j ∈ rest ↔ j ∈ w.self :: rest := by simp [hj]
      rw [if_neg hj, Listening.add_none, hearing_congr (hs.radio_other hj) hs.now hmem]

/-- A busy period ends when the timer of its reception runs out, and in no other way. -/
lemma Moment.endsListening_timer (hm : m.cause = .event (.timer i k)) (j : InterfaceId) :
    m.endsListening j = decide (k = .reception ∧ i = j) := by
  simp only [Moment.endsListening, hm]
  cases k <;> simp

/-- No event restarts the radios. -/
lemma Moment.restarts_event {e : Event} (hm : m.cause = .event e) : m.restarts = false := by
  unfold Moment.restarts
  rw [hm]

/-- What is heard in a moment is what the timer transmits. -/
lemma Moment.hearing_timer (hm : m.cause = .event (.timer i k)) (j : InterfaceId) :
    m.hearing j = (m.before.transmission i k).bind fun f =>
      m.before.hearing f ((m.before.topology.listeners i).filter (· ≠ i)) j := by
  simp only [Moment.hearing, Moment.aired, hm]
  cases m.before.transmission i k <;> rfl

/-- A radio whose timer has run out has listened as its busy periods say. -/
lemma Fired.listens (hF : Fired net before i k r w q t mid) (h : net.Attends l) : r.Listens (l i) := by
  obtain ⟨timers, hr⟩ := hF.twin
  exact (h.listens hr).withTimers r.timers

/-- After the turn itself, only the interface that has acted can have ended its busy period. -/
lemma Fired.attends_turn (hF : Fired net before i k r w q t mid) (h : net.Attends l) :
    mid.Attends fun j => if k = .reception ∧ i = j then (l j).close else l j := by
  have hset : (net.alarms i k).isSome := by simp [hF.due]
  have hself := hF.self
  have hturn : t.radio.Listens (if k = .reception ∧ i = i then (l i).close else l i) := by
    by_cases hk : k = .reception
    · subst hk
      rw [if_pos ⟨rfl, rfl⟩]
      exact (hF.listens h).close hF.sound hset hF.ends
    · rw [if_neg fun h => hk h.1]
      exact (Radio.expire_steady hF.sound hset hk hF.ends).listens (hF.listens h)
  refine h.settled hF.settled ?_ fun {j} hj => if_neg fun hk => hj (hself.trans hk.2).symm
  rw [hself]
  exact hturn

/-- A radio that has begun to send is deaf. -/
lemma Fired.deaf (hF : Fired net before i k r w (.transmit f) t mid) :
    ∃ r', mid.radio i = .ok r' ∧ r'.isDeaf = true := by
  obtain ⟨timers, hr⟩ := hF.settled.radio_self
  rw [hF.self] at hr
  refine ⟨_, hr, ?_⟩
  have ht := hF.ends.eq_of_rest (by rw [← hF.sequel]; simp)
  have hd := Radio.expire_deaf hF.sequel.symm
  rw [← ht] at hd
  exact hd

/-- What the interface `i` sends is heard by others as it would have been before the turn. -/
lemma Fired.hearing_mid {medium : Medium} (hF : Fired net before i k r w (.transmit f) t mid)
    (ho : before.topology.mediumOf i = .ok medium) (j : InterfaceId) :
    mid.hearing f medium.members j =
      before.hearing f ((before.topology.listeners i).filter (· ≠ i)) j := by
  rw [Topology.listeners_eq ho]
  by_cases hj : j = i
  · subst hj
    obtain ⟨r', hr', hd⟩ := hF.deaf
    rw [hearing_of_deaf hr' hd, hearing_of_not_mem (by simp)]
  · have hsame : mid.radio j = before.radio j := by
      rw [hF.rest j hj]
      exact hF.settled.radio_other (hF.self ▸ hj)
    have hmem : j ∈ medium.members ↔ j ∈ medium.members.filter (· ≠ i) := by simp [hj]
    exact hearing_congr hsame (hF.settled.now.trans hF.now_before.symm) hmem

/-- When a timer runs out, the busy period of its interface may be over, or what it sends may begin to be
heard by others. -/
lemma Fired.attends (hF : Fired net before i k r w q t mid) (hnext : before.Follows i q mid net')
    (hnd : before.topology.Distinct) (h : net.Attends l) (hm : m = ⟨before, .event (.timer i k), net'⟩) :
    net'.Attends fun j => (l j).step m.restarts (m.endsListening j) (m.hearing j) := by
  have hcause : m.cause = .event (.timer i k) := by rw [hm]
  have hbefore : m.before = before := by rw [hm]
  have hmid := hF.attends_turn h
  have hstep : ∀ j, (l j).step m.restarts (m.endsListening j) (m.hearing j) =
      if k = .reception ∧ i = j then (l j).close else (l j).add (m.hearing j) := by
    intro j
    rw [Moment.restarts_event hcause, Moment.endsListening_timer hcause]
    simp [Listening.step]
  cases hnext with
  | silent hquiet heq =>
    have hnone : before.transmission i k = none := by
      refine Option.eq_none_iff_forall_ne_some.2 fun f hf => ?_
      exact hquiet f (hF.transmits_iff.1 (transmission_eq_some.1 hf))
    rw [heq]
    refine hmid.congr fun j => ?_
    rw [hstep, Moment.hearing_timer hcause, hbefore, hnone]
    simp
  | @transmit f medium hq ho hh =>
    subst hq
    have htrans : before.transmission i k = some f :=
      transmission_eq_some.2 (hF.transmits_iff.2 rfl)
    -- the end of a frame is not the moment to send
    have hsilent : k ≠ .reception := by
      rintro rfl
      exact Radio.receptionEnded_silent _ _ f hF.sequel.symm
    refine (hh.attends hF.after (hnd.mediumOf ho) hmid).congr fun j => ?_
    rw [hstep, if_neg fun hk => hsilent hk.1, if_neg fun hk => hsilent hk.1, Moment.hearing_timer hcause,
      hbefore, htrans, Option.bind_some, hF.hearing_mid ho]

/-- Whatever event fires, all radios go on listening as their busy periods say. -/
lemma Attends.fires (h : net.Attends l) (hn : net.Sound) (hnd : net.topology.Distinct)
    (hf : net.Fires m result) :
    m.after.Attends fun j => (l j).step m.restarts (m.endsListening j) (m.hearing j) := by
  have hdistinct : m.before.topology.Distinct := (hn.fires_sameShape hf).1.topology ▸ hnd
  obtain ⟨id, e, scheduler, hp, hc, hcause, hfire⟩ := hf
  have hother : (∀ i k, e ≠ .timer i k) → (m.before.Sound → m.before.Attends l → m.after.Attends l) →
      m.after.Attends fun j => (l j).step m.restarts (m.endsListening j) (m.hearing j) := by
    intro he hkeep
    obtain ⟨hmid, -⟩ := Network.pop_other hn.coherent hn.onTime hp hc he
    have hpop : m.before.Attends l := h.of_radio (by rw [hmid]; rfl)
    refine (hkeep (hn.pop_other hp hc he) hpop).congr fun j => ?_
    cases e with
    | timer i k => exact absurd rfl (he i k)
    | _ => simp [Listening.step, Moment.restarts, Moment.endsListening, Moment.hearing, Moment.aired, hcause]
  cases e with
  | timer i k =>
    obtain ⟨-, r, w, q, t, mid, hF, hnext⟩ := hn.fired hp hc hfire
    exact hF.attends hnext hdistinct h (by cases m; cases hcause; rfl)
  | produce n => exact hother (by simp) fun hs ha => ha.produce hs hfire
  | forward i f => exact hother (by simp) fun hs ha => ha.send hs hfire

/-- A new interface has heard nothing so far. -/
lemma Attends.addInterface {n : NodeId} {name : String} {radius : Float} (h : net.Attends l)
    (hc : net.Coherent) (ha : net.addInterface n name radius = .ok (i, net')) : net'.Attends l := by
  obtain ⟨-, -, -, i, hnew, hself, -, hother, -⟩ := addInterface_radio hc ha
  intro j
  by_cases hj : j = i
  · subst hj
    rw [hself, h.eq_nothing hnew]
    exact Radio.powerOn_listens _
  · rw [hother hj]
    exact h j

/-- At the start of a run nobody has heard anything. -/
lemma attends_initRun (hi : net.initRun = .ok (result, net')) : net'.Attends fun _ => {} := by
  have hreset : net.reset.Attends fun _ => {} := by
    intro j
    split
    · rename_i r hr
      rw [radio_reset_eq hr]
      exact Radio.powerOn_listens _
    · rfl
  exact hreset.of_radio (initRun_aside hi).1.radio

/-- Whatever is called, all radios go on listening as their busy periods say. -/
lemma Attends.apply {op : Op} {fuel : Nat} (h : net.Attends l) (hn : net.Sound)
    (hnd : net.topology.Distinct) (hop : op.firesEvents = false)
    (ha : op.apply fuel net = .ok (result, net')) (hm : m = ⟨net, .call op, net'⟩) :
    net'.Attends fun j => (l j).step m.restarts (m.endsListening j) (m.hearing j) := by
  have hcause : m.cause = .call op := by rw [hm]
  have hbefore : m.before = net := by rw [hm]
  -- a call that lets nobody hear anything
  have hquiet : m.restarts = false → m.aired = none → net'.Attends l →
      net'.Attends fun j => (l j).step m.restarts (m.endsListening j) (m.hearing j) := by
    intro hr hair hl
    refine hl.congr fun j => ?_
    simp [Listening.step, hr, Moment.endsListening, Moment.hearing, hair, hcause]
  have hnone : op.keepsBooks = true → m.restarts = false ∧ m.aired = none := by
    intro hk
    cases op <;> simp [Op.keepsBooks, Op.firesEvents, Moment.restarts, Moment.aired, hcause] at hk ⊢
  by_cases hk : op.keepsBooks = true
  · obtain ⟨hr, hair⟩ := hnone hk
    exact hquiet hr hair (h.of_radio (Op.apply_aside hk hn.coherent hn.onTime ha).radio)
  cases op with
  | addInterface n name radius =>
    simp only [Op.apply, bind_eq_ok] at ha
    obtain ⟨⟨i, mid⟩, hi, ha⟩ := ha
    cases ha
    exact hquiet (by simp [Moment.restarts, hcause]) (by simp [Moment.aired, hcause])
      (h.addInterface hn.coherent hi)
  | initRun =>
    refine (attends_initRun ha).congr fun j => ?_
    simp [Listening.step, Moment.restarts, hcause]
  | produce n =>
    exact hquiet (by simp [Moment.restarts, hcause]) (by simp [Moment.aired, hcause]) (h.produce hn ha)
  | send i f =>
    exact hquiet (by simp [Moment.restarts, hcause]) (by simp [Moment.aired, hcause]) (h.send hn ha)
  | receive i f =>
    obtain ⟨-, r, w, hr, hw, hs⟩ := receive_settled hn.coherent hn.onTime ha
    have hh : Hears net f [i] net' := .cons hr hw hs .nil
    refine (hh.attends hn (List.pairwise_singleton _ i) h).congr fun j => ?_
    simp [Listening.step, Moment.restarts, Moment.endsListening, Moment.hearing, Moment.aired, hcause,
      hbefore]
  | broadcast i f =>
    obtain ⟨-, medium, hmedium, hh⟩ := broadcast_hears hn.coherent hn.onTime ha
    refine (hh.attends hn (hnd.mediumOf hmedium) h).congr fun j => ?_
    simp [Listening.step, Moment.restarts, Moment.endsListening, Moment.hearing, Moment.aired, hcause,
      hbefore, Topology.listeners_eq hmedium]
  | step | runTo | runUntilIdle => cases hop
  | _ => exact absurd rfl hk

end Network

end CarrierSense
