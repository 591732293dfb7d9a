import CarrierSense.Proofs.Network.Timetable

/-!
# Production schedules

From the start of a run on, every source is on schedule, and every variate that goes through a sequence stands where
the draws of all its owners have led it to (`Scheduled`). This holds after each moment of the run, as long as no
production is refused, produced from outside, or set up anew.
-/

namespace CarrierSense.Network

/-- Whether an operation leaves the sources of a run alone. -/
def Op.leavesSources : Op → Bool
  | initRun | produce _ | setVariate .. | setPeriod .. | setMessageLength .. | addDestination .. => false
  | _ => true

/-- A node draws its delays from the variate. -/
def DrawsFrom (net : Network) (n : NodeId) (v : VariateId) : Prop :=
  ∃ t, net.traffic? n.index = some t ∧ (v = t.arrival ∨ t.period = some v)

/-- A run that was started in the network `first` is on schedule. -/
structure Scheduled (net first : Network) (log : List Moment) : Prop where
  sources : ∀ {n t}, first.traffic? n.index = some t → net.OnSchedule n t (first.drawsOf log) log
  /-- No other node has a production. -/
  others : ∀ {n : NodeId}, first.traffic? n.index = none → net.productions n = 0
  owned : ∀ {d}, d ∈ first.drawsOf log → ∃ t, first.traffic? d.node.index = some t
  wound : ∀ {n v values}, first.DrawsFrom n v → first.variates[v.index]?.map Variate.law = some (.sequence values) →
    0 < values.size → net.Wound v values (first.drawsOf log)

variable {first net mid net' start : Network} {n : NodeId} {v : VariateId} {t : Traffic} {log : List Moment}
  {m : Moment} {result : Except NetworkError Unit} {values : Array Float}

/-- To take out an event draws no delay. -/
lemma clearTimer_undrawn {id : EventId} {e : Event} {scheduler : Scheduler Event}
    (hp : net.scheduler.popDue = some ((id, e), scheduler)) (hc : { net with scheduler }.clearTimer id e = .ok mid) :
    net.Undrawn mid := by
  have hpop : net.Undrawn { net with scheduler } := by
    refine ⟨rfl, fun {due n} hq => ?_⟩
    obtain ⟨time, -, -, rfl⟩ := Scheduler.popDue_eq_some hp
    simp only [Scheduler.Pending, Std.TreeMap.getElem?_erase] at hq
    split at hq
    · cases hq
    · exact hq
  rcases clearTimer_eq_ok hc with rfl | ⟨i, k, r, -, rfl⟩
  · exact hpop
  · exact hpop.trans (.of_eq rfl rfl)

/-- Timers that run out and frames that are forwarded leave sources alone. -/
lemma Sound.fires_spares (h : net.Sound) (hf : net.Fires m result)
    (hcause : ∀ n, m.cause ≠ .event (.produce n)) : net.Spares m.after := by
  refine (h.fires_sameSources hf hcause).spares ?_
  obtain ⟨id, e, scheduler, hp, hc, hm, hfire⟩ := hf
  refine (clearTimer_undrawn hp hc).trans ?_
  cases e with
  | produce n => exact absurd hm (hcause n)
  | timer i k => exact undrawn_turnClosed.expire (fun _ _ => .of_eq rfl rfl) hfire
  | forward i f => exact undrawn_turnClosed.send hfire

/-- What is in an array stays in its place when one more item comes. -/
lemma getElem?_push_of_some {α : Type} {xs : Array α} {k : Nat} {a : α} (b : α) (h : xs[k]? = some a) :
    (xs.push b)[k]? = some a := by
  have hlt := (Array.getElem?_eq_some_iff.1 h).1
  rw [Array.getElem?_push_lt hlt, ← Array.getElem?_eq_getElem hlt, h]

/-- What is called leaves sources alone, unless it is about them. -/
lemma Sound.apply_spares {op : Op} {fuel : Nat} (h : net.Sound) (hop : op.firesEvents = false)
    (hleaves : op.leavesSources = true) (ha : op.apply fuel net = .ok (result, net')) : net.Spares net' := by
  cases op with
  | addVariate law =>
    cases ha
    exact .of_scheduler rfl (fun hx => ⟨_, hx, rfl⟩) (getElem?_push_of_some _)
  | addNode | addSource =>
    cases ha
    exact .of_scheduler rfl (fun hx => ⟨_, getElem?_push_of_some _ hx, rfl⟩) id
  | addInterface n name radius =>
    simp only [Op.apply, Network.addInterface, bind_eq_ok] at ha
    obtain ⟨⟨i, mid⟩, ⟨⟨j, topology⟩, -, hm⟩, ha⟩ := ha
    cases hm
    cases ha
    exact .of_scheduler rfl (fun hx => ⟨_, hx, rfl⟩) id
  | addMember medium i =>
    simp only [Op.apply, Network.addMember, bind_eq_ok] at ha
    obtain ⟨⟨added, mid⟩, ⟨⟨j, topology⟩, -, hm⟩, ha⟩ := ha
    cases hm
    cases ha
    exact .of_scheduler rfl (fun hx => ⟨_, hx, rfl⟩) id
  | connectInRange | startTrace | stopTrace | reseed =>
    cases ha
    exact .of_scheduler rfl (fun hx => ⟨_, hx, rfl⟩) id
  | put n =>
    simp only [Op.apply, bind_eq_ok] at ha
    obtain ⟨mid, hp, ha⟩ := ha
    cases ha
    have hput : net.Carried ⟨⟨0⟩, n, net.timing, net.now⟩ [.deliver default] net' :=
      put_carried h.coherent h.onTime hp
    exact hput.sameSources.spares (undrawn_turnClosed.put hp)
  | send i f => exact (send_sameSources h ha).spares (undrawn_turnClosed.send ha)
  | receive i f =>
    obtain ⟨-, r, w, -, -, hs⟩ := receive_settled h.coherent h.onTime ha
    exact hs.sameSources.spares (undrawn_turnClosed.act ha)
  | broadcast i f =>
    obtain ⟨-, medium, -, hh⟩ := broadcast_hears h.coherent h.onTime ha
    exact hh.sameSources.spares (undrawn_turnClosed.broadcast ha)
  | step | runTo | runUntilIdle => cases hop
  | _ => cases hleaves

/-- What spares the sources leaves their variates where they stand. -/
lemma Wound.spared {draws : List Draw} (h : net.Wound v values draws) (hs : net.Spares net') :
    net'.Wound v values draws :=
  ⟨hs.variates h.place, h.cycle⟩

/-- Moving the clock is no change to a schedule. -/
lemma Scheduled.spared (h : net.Scheduled first log) (hs : net.Spares net') : net'.Scheduled first log where
  sources ht := (h.sources ht).spared hs
  others hn := (hs.productions _).trans (h.others hn)
  owned := h.owned
  wound hv hlaw hne := (h.wound hv hlaw hne).spared hs

/-- A moment that is no production leaves a run on schedule. -/
lemma Scheduled.pass (h : net.Scheduled first log) (hs : net.Spares m.after)
    (hcause : ∀ n, m.cause ≠ .event (.produce n)) : m.after.Scheduled first (log ++ [m]) := by
  have hdraws : m.draws = [] := by
    unfold Moment.draws
    split
    · exact absurd ‹_› (hcause _)
    · rfl
  have hproduces : ∀ n, m.produces n = false := by
    intro n
    unfold Moment.produces Event.produces
    split
    · split
      · exact absurd ‹_› (hcause _)
      · rfl
    · rfl
  refine ⟨fun {n t} ht => ?_, fun hn => (h.spared hs).others hn, ?_, ?_⟩ <;> rw [drawsOf_snoc, hdraws]
  · exact (h.sources ht).pass hs.traffic (hs.productions n) hs.pending (hproduces n) (by simp)
  · rw [List.append_nil]
    exact h.owned
  · rw [List.append_nil]
    exact (h.spared hs).wound

/-- A production that is not refused leaves a run on schedule. -/
lemma Scheduled.produce {id : EventId} {scheduler : Scheduler Event} (h : net.Scheduled first log) (hn : net.Sound)
    (hp : net.scheduler.popDue = some ((id, .produce n), scheduler))
    (hc : { net with scheduler }.clearTimer id (.produce n) = .ok mid)
    (hf : mid.produce n = .ok (.ok (), net')) :
    net'.Scheduled first (log ++ [⟨mid, .event (.produce n), net'⟩]) := by
  have hmid := hn.pop_other hp hc (by simp)
  obtain ⟨hend, hpop⟩ := hn.pop_production hp hc
  have hundrawn := clearTimer_undrawn hp hc
  -- only sources have productions
  obtain ⟨t, ht⟩ : ∃ t, first.traffic? n.index = some t := by
    cases hnone : first.traffic? n.index with
    | some t => exact ⟨t, rfl⟩
    | none =>
      have hzero := h.others hnone
      rw [hpop, if_pos rfl] at hzero
      cases hzero
  obtain ⟨hlt, -, htraffic, -⟩ := (h.sources ht).due hn hp hc
  have hmore : ({ t with produced := (productionTicks n log).length } : Traffic).isExhausted = false := by
    simp [Traffic.isExhausted, hlt]
  obtain ⟨x, hx, hsource⟩ := traffic?_eq_some.1 htraffic
  obtain ⟨hcounted, hposted⟩ := produce_productions hmid hx hsource hmore hf
  -- what becomes of variates and of the productions of others
  have hown : (∀ d ∈ mid.produceDraws n, d.node = n) ∧
      (∀ {v values draws}, 0 < values.size → mid.Wound v values draws →
        net'.Wound v values (draws ++ mid.produceDraws n)) ∧
      ∀ {k due}, k ≠ n → net'.scheduler.Pending due (.produce k) → mid.scheduler.Pending due (.produce k) := by
    rcases produce_schedules hmid htraffic hmore hf with ⟨-, hnil, hquiet⟩ | ⟨-, delay, hdraw, hnext⟩
    · rw [hnil]
      refine ⟨by simp, fun _ hw => ?_, fun _ hq => hquiet.pending hq⟩
      rw [List.append_nil]
      exact hw.congr (by rw [hquiet.variates])
    · rw [hdraw]
      refine ⟨by simp, hnext.wound, fun hk hq => ?_⟩
      exact (hnext.pending hq).resolve_right fun hnew => hk hnew.1
  obtain ⟨hnodes, hwound, hpending⟩ := hown
  refine ⟨fun {k s} hs => ?_, fun {k} hk => ?_, fun {d} hd => ?_, fun hv hlaw hne => ?_⟩
  · rw [drawsOf_snoc]
    by_cases hkn : k = n
    · subst hkn
      exact (h.sources hs).produce hn hp hc hf
    · refine (h.sources hs).pass (fun hk => ?_) ?_ (fun hq => hundrawn.pending (hpending hkn hq)) ?_ ?_
      · obtain ⟨y, hy, hk⟩ := traffic?_eq_some.1 hk
        exact traffic?_eq_some.2 ⟨y, by rw [hcounted, if_neg hkn, hend, hy], hk⟩
      · rw [hposted, hpop k, if_neg (Ne.symm hkn), if_neg (fun hnk => hkn hnk.1.symm)]
      · simp [Moment.produces, Event.produces, Ne.symm hkn]
      · exact fun d hd => (hnodes d hd).trans_ne (Ne.symm hkn)
  · have hkn : k ≠ n := by
      rintro rfl
      rw [ht] at hk
      cases hk
    have hzero := h.others hk
    rw [hpop, if_neg (Ne.symm hkn), Nat.add_zero] at hzero
    rw [hposted, hzero, if_neg (fun hnk => hkn hnk.1.symm)]
  · rw [drawsOf_snoc] at hd
    rcases List.mem_append.1 hd with hd | hd
    · exact h.owned hd
    · exact ⟨t, by rw [hnodes d hd, ht]⟩
  · rw [drawsOf_snoc]
    exact hwound hne ((h.wound hv hlaw hne).congr (by rw [hundrawn.variates]))

/-- Whatever event fires unrefused, all sources stay on schedule. -/
lemma Scheduled.fires (h : net.Scheduled first log) (hn : net.Sound) (hf : net.Fires m result)
    (hm : m.Unrefused) : m.after.Scheduled first (log ++ [m]) := by
  by_cases hcause : ∃ n, m.cause = .event (.produce n)
  · obtain ⟨n, hn'⟩ := hcause
    have hmade := hm n hn'
    obtain ⟨id, e, scheduler, hp, hc, he, -⟩ := hf
    obtain ⟨before, cause, after⟩ := m
    cases hn'
    cases he
    exact h.produce hn hp hc hmade
  · exact h.pass (hn.fires_spares hf fun n hn' => hcause ⟨n, hn'⟩) fun n hn' => hcause ⟨n, hn'⟩

namespace Starts

variable {nodes : List NodeId} {draws before : List Draw} (h : Starts net nodes draws net')
include h

/-- After the first draws each variate has been moved on by its share. -/
lemma wound (hne : 0 < values.size) (hw : net.Wound v values before) : net'.Wound v values (before ++ draws) := by
  induction h generalizing before with
  | nil => simpa using hw
  | idle _ _ ih => exact ih hw
  | post _ _ _ hfirst _ _ ih =>
    rw [← List.singleton_append, ← List.append_assoc]
    exact ih (hfirst.wound hne hw)

/-- Only sources among the nodes draw delays. -/
lemma source {d : Draw} (hd : d ∈ draws) : d.node ∈ nodes ∧ ∃ t, net.traffic? d.node.index = some t := by
  induction h with
  | nil => cases hd
  | idle _ _ ih =>
    obtain ⟨hmem, ht⟩ := ih hd
    exact ⟨List.mem_cons_of_mem _ hmem, ht⟩
  | post ht _ _ _ hsame _ ih =>
    rcases List.mem_cons.1 hd with rfl | hd
    · exact ⟨List.mem_cons_self, _, ht⟩
    · obtain ⟨hmem, ht⟩ := ih hd
      exact ⟨List.mem_cons_of_mem _ hmem, hsame _ ▸ ht⟩

/-- The first draws are for the nodes that are started. -/
lemma ofNode_eq_nil (hn : n ∉ nodes) : Draw.ofNode n draws = [] := by
  refine List.filter_eq_nil_iff.2 fun d hd hnode => hn ?_
  rw [← of_decide_eq_true hnode]
  exact (h.source hd).1

/-- A source draws one delay if it has frames left. -/
lemma drawn (hnd : nodes.Nodup) (ht : net.traffic? n.index = some t) (hn : n ∈ nodes) :
    (Draw.ofNode n draws).map Draw.variate = if t.isExhausted then [] else [t.arrival] := by
  induction h with
  | nil => cases hn
  | @idle net net' k rest draws hdone hrest ih =>
    obtain ⟨hnew, hnd⟩ := List.nodup_cons.1 hnd
    rcases List.mem_cons.1 hn with rfl | hn
    · rw [hrest.ofNode_eq_nil hnew, if_pos (hdone ht)]
      rfl
    · exact ih hnd ht hn
  | @post net mid net' k s rest delay draws hs hmore _ _ hsame hrest ih =>
    obtain ⟨hnew, hnd⟩ := List.nodup_cons.1 hnd
    rcases List.mem_cons.1 hn with rfl | hn
    · cases hs.symm.trans ht
      have hown : Draw.ofNode n (⟨n, t.arrival, delay⟩ :: draws) = ⟨n, t.arrival, delay⟩ :: Draw.ofNode n draws := by
        simp [Draw.ofNode]
      rw [hown, hrest.ofNode_eq_nil hnew, hmore]
      rfl
    · have hne : k ≠ n := fun hk => hnew (hk ▸ hn)
      have hown : Draw.ofNode n (⟨k, s.arrival, delay⟩ :: draws) = Draw.ofNode n draws := by
        simp [Draw.ofNode, hne]
      rw [hown]
      exact ih hnd ((hsame n).trans ht) hn

/-- What is posted is due as soon as the delay has passed. -/
lemma pending {due : Due} (hp : net'.scheduler.Pending due (.produce n)) :
    net.scheduler.Pending due (.produce n) ∨
      ∃ d ∈ Draw.ofNode n draws, due.time = Clock.later 0 (Variate.ticks d.delay) := by
  induction h with
  | nil => exact .inl hp
  | idle _ _ ih => exact ih hp
  | @post net mid net' k s rest delay draws _ _ hzero hfirst _ _ ih =>
    have hlater : ∀ {d}, d ∈ Draw.ofNode n draws → d ∈ Draw.ofNode n (⟨k, s.arrival, delay⟩ :: draws) :=
      fun hd => (List.Sublist.filter _ (List.sublist_cons_self _ _)).subset hd
    rcases ih hp with hp | ⟨d, hd, htime⟩
    · rcases hfirst.pending hp with hp | ⟨rfl, htime⟩
      · exact .inl hp
      · rw [hzero] at htime
        exact .inr ⟨_, by simp [Draw.ofNode], htime⟩
    · exact .inr ⟨d, hlater hd, htime⟩

end Starts

/-- Whether a node has frames left is a matter of its traffic. -/
lemma hasMore_eq_traffic (net : Network) (n : NodeId) :
    net.hasMore n = (net.traffic? n.index).any fun t => !t.isExhausted := by
  unfold hasMore
  cases hx : net.endpoint n with
  | ok x =>
    have htraffic : net.traffic? n.index = x.traffic := by
      rw [traffic?, endpoint_eq_ok.1 hx]
      rfl
    rw [htraffic]
    rfl
  | error halt =>
    have hnone : net.traffic? n.index = none := Option.eq_none_iff_forall_ne_some.2 fun t ht => by
      obtain ⟨x, hx', -⟩ := traffic?_eq_some.1 ht
      rw [hx] at hx'
      cases hx'
    rw [hnone]
    rfl

/-- A reset leaves the traffic of a node as it is, but for the frames that it has produced. -/
lemma traffic?_reset (net : Network) (n : NodeId) :
    net.reset.traffic? n.index = (net.traffic? n.index).map fun t => { t with produced := 0 } := by
  obtain ⟨variates, hreset⟩ := reset_eq net
  rw [hreset]
  simp only [traffic?, Array.getElem?_map]
  cases net.endpoints[n.index]? <;> rfl

/-- When a run starts, the timetable of a source begins with the delay that was drawn for it. -/
lemma timetable_start {draws : List Draw}
    (hdrawn : draws.map Draw.variate = if t.maxMessages ≤ 0 then [] else [t.arrival]) : Timetable t draws [] := by
  refine ⟨Nat.zero_le _, ?_, rfl⟩
  rw [hdrawn]
  split
  · rename_i hnone
    rw [Nat.le_zero.1 hnone]
    rfl
  · rename_i hsome
    rw [List.length_nil, Nat.min_eq_right (by omega)]
    rfl

/-- A run starts on schedule. -/
lemma initRun_scheduled (hi : net.initRun = .ok (result, start)) : start.Scheduled net [] := by
  obtain ⟨rfl, hsupplied⟩ := initRun_supplied hi
  obtain ⟨-, -, hend⟩ := initRun_aside hi
  have hnow : net.reset.now = 0 := by
    unfold now
    rw [scheduler_reset]
    rfl
  have hstarts : Starts net.reset ((List.range net.endpoints.size).map NodeId.mk) (net.drawsOf []) start := by
    rw [drawsOf, List.flatMap_nil, List.append_nil]
    exact startAll_starts (coherent_reset net) (onTime_reset net) hnow hi
  have hnodup : ((List.range net.endpoints.size).map NodeId.mk).Nodup :=
    List.nodup_range.map fun a b hab => congrArg NodeId.index hab
  have htraffic : ∀ n : NodeId, start.traffic? n.index = (net.traffic? n.index).map fun t => { t with produced := 0 } :=
    fun n => (traffic?_congr hend n).trans (traffic?_reset net n)
  have hidle : ∀ {due n}, ¬ net.reset.scheduler.Pending due (.produce n) := fun {due n} => by
    rw [scheduler_reset]
    exact Scheduler.not_pending_reset
  refine ⟨fun {n t} ht => ?_, fun {n} hn => ?_, fun hd => ?_, fun {n v values} hv hlaw hne => ?_⟩
  · have hmem : n ∈ (List.range net.endpoints.size).map NodeId.mk := by
      obtain ⟨x, hx, -⟩ := Option.bind_eq_some_iff.1 ht
      exact List.mem_map.2 ⟨n.index, List.mem_range.2 (Array.getElem?_eq_some_iff.1 hx).1, rfl⟩
    have hreset : net.reset.traffic? n.index = some { t with produced := 0 } := by
      rw [traffic?_reset, ht]
      rfl
    have hdrawn := hstarts.drawn hnodup hreset hmem
    simp only [Traffic.isExhausted, decide_eq_true_eq] at hdrawn
    refine ⟨?_, timetable_start hdrawn, ?_, fun hp => ?_⟩
    · rw [htraffic, ht]
      rfl
    · rw [hsupplied.pending, hasMore_eq_traffic, htraffic, ht]
      simp [Traffic.isExhausted, productionTicks, Nat.pos_iff_ne_zero]
    · obtain ⟨d, hd, htime⟩ := (hstarts.pending hp).resolve_left hidle
      -- the one delay that was drawn
      have hone : Draw.ofNode n (net.drawsOf []) = [d] := by
        split at hdrawn
        · rw [List.map_eq_nil_iff.1 hdrawn] at hd
          cases hd
        · obtain ⟨e, hone, -⟩ := List.map_eq_singleton_iff.1 hdrawn
          rw [hone, List.mem_singleton] at hd
          rw [hone, hd]
      rw [hone, htime]
      rfl
  · rw [hsupplied.pending, hasMore_eq_traffic, htraffic, hn]
    rfl
  · obtain ⟨-, t, ht⟩ := hstarts.source hd
    rw [traffic?_reset] at ht
    obtain ⟨s, hs, -⟩ := Option.map_eq_some_iff.1 ht
    exact ⟨s, hs⟩
  · obtain ⟨t, ht, hv⟩ := hv
    have hplace : net.reset.Wound v values [] := by
      refine ⟨?_, fun hj => ?_⟩
      · rw [rewound net ht hv]
        obtain ⟨x, hx, hlaw⟩ := Option.map_eq_some_iff.1 hlaw
        rw [hx, Option.map_some, Variate.rewind, hlaw]
        rfl
      · cases hj
    exact hstarts.wound hne hplace

/-- A run is on schedule after each of its moments. -/
lemma scheduled_closed (first : Network) : Closed (fun log net => net.Sound ∧ ((∀ m ∈ log, m.Unrefused) →
    net.Scheduled first log ∧ ∀ past m future, log = past ++ m :: future → m.after.Scheduled first (past ++ [m])))
    fun _ => True where
  clock := fun {log net time} ⟨hs, h⟩ ha => by
    have hspares : net.Spares { net with scheduler := net.scheduler.advanceTo time } :=
      ⟨id, fun _ => Scheduler.waiting_advanceTo _ _ _, Scheduler.pending_advanceTo.1, id⟩
    exact ⟨hs.advanceTo ha, fun hmade => ⟨(h hmade).1.spared hspares, (h hmade).2⟩⟩
  event := fun {log net m result} ⟨hs, h⟩ hf _ => by
    refine ⟨hs.fires hf, fun hmade => ?_⟩
    obtain ⟨hnow, hpast⟩ := h fun m hm => hmade m (List.mem_append_left _ hm)
    have hnext := hnow.fires hs hf (hmade m (by simp))
    refine ⟨hnext, fun past m' future hlog => ?_⟩
    rcases cut_of_snoc hlog with ⟨rfl, rfl, -⟩ | ⟨future', -, hcut⟩
    · exact hnext
    · exact hpast _ _ _ hcut

/-- Whatever is called that leaves sources alone, they stay on schedule. -/
lemma scheduled_call {op : Op} {fuel : Nat}
    (h : net.Sound ∧ ((∀ m ∈ log, m.Unrefused) → net.Scheduled first log ∧
      ∀ past m future, log = past ++ m :: future → m.after.Scheduled first (past ++ [m])))
    (hop : op.firesEvents = false) (hleaves : op.leavesSources = true)
    (ha : op.apply fuel net = .ok (result, net')) :
    net'.Sound ∧ ((∀ m ∈ log ++ [⟨net, .call op, net'⟩], m.Unrefused) →
      net'.Scheduled first (log ++ [⟨net, .call op, net'⟩]) ∧
      ∀ past m future, log ++ [⟨net, .call op, net'⟩] = past ++ m :: future →
        m.after.Scheduled first (past ++ [m])) := by
  refine ⟨h.1.apply hop ha, fun hmade => ?_⟩
  obtain ⟨hnow, hpast⟩ := h.2 fun m hm => hmade m (List.mem_append_left _ hm)
  have hnext := hnow.pass (m := ⟨net, .call op, net'⟩) (h.1.apply_spares hop hleaves ha) (by simp)
  refine ⟨hnext, fun past m' future hlog => ?_⟩
  rcases cut_of_snoc hlog with ⟨rfl, rfl, -⟩ | ⟨future', -, hcut⟩
  · exact hnext
  · exact hpast _ _ _ hcut

/-- In a run that refuses no production, and in which sources are neither fired from outside nor set up anew, every
source produces its frames at the ticks that the delays drawn for it lead to, and has its next production pending
until it has produced them all. The values of a sequence are drawn in turn by all that share it. -/
theorem Run.production_schedule {last : Network} (hi : net.initRun = .ok (result, start))
    (hrun : Run (fun op _ => op.leavesSources) start log last) (hmade : ∀ m ∈ log, m.Unrefused) :
    (∀ (n : NodeId) (t : Traffic), net.traffic? n.index = some t →
      last.OnSchedule n t (net.drawsOf log) log ∧
        ∀ past m future, log = past ++ m :: future →
          m.after.OnSchedule n t (net.drawsOf (past ++ [m])) (past ++ [m])) ∧
    ∀ (v : VariateId) (values : Array Float), net.variates[v.index]?.map Variate.law = some (.sequence values) →
      0 < values.size → ∀ (j : Nat) (d : Draw), j < Variate.cursorLimit →
        (Draw.fromVariate v (net.drawsOf log))[j]? = some d → values[j % values.size]? = some d.delay := by
  have hsound : start.Sound := (reset_sound net).aside (initRun_aside hi).1
  have hstart := initRun_scheduled hi
  obtain ⟨-, h⟩ := (scheduled_closed net).run scheduled_call (fun _ _ => trivial)
    ⟨hsound, fun _ => ⟨hstart, by simp⟩⟩ hrun
  obtain ⟨hlast, hpast⟩ := h hmade
  refine ⟨fun n t ht => ⟨hlast.sources ht, fun past m future hlog => (hpast past m future hlog).sources ht⟩, ?_⟩
  intro v values hlaw hne j d hj hd
  -- whoever made the draw is a source that draws from the variate
  obtain ⟨hmem, hv⟩ := List.mem_filter.1 (List.mem_of_getElem? hd)
  obtain rfl : d.variate = v := of_decide_eq_true hv
  obtain ⟨t, ht⟩ := hlast.owned hmem
  have hown : d ∈ Draw.ofNode d.node (net.drawsOf log) := List.mem_filter.2 ⟨hmem, by simp⟩
  have hfrom : net.DrawsFrom d.node d.variate :=
    ⟨t, ht, (hlast.sources ht).timetable.mem hown⟩
  have hat := (hlast.wound hfrom hlaw hne).cycle hd
  rwa [Nat.mod_eq_of_lt hj] at hat

/-- No production is refused in a run in which all operations succeed. -/
lemma Run.unrefused {last : Network} (hrun : Run (fun _ result => result = .ok ()) start log last) :
    ∀ m ∈ log, m.Unrefused := by
  have hclosed : Closed (fun log _ => ∀ m ∈ log, m.Unrefused) fun _ => False := by
    refine ⟨fun h _ => h, fun {log net m result} h hf hres m' hm => ?_⟩
    rcases List.mem_append.1 hm with hm | hm
    · exact h m' hm
    · obtain rfl := List.mem_singleton.1 hm
      obtain ⟨id, e, scheduler, -, -, he, hfire⟩ := hf
      intro n hn
      rw [he] at hn
      cases hn
      cases result with
      | ok answer => exact hfire
      | error e => exact absurd rfl (hres e)
  refine hclosed.run (fun h _ _ _ m' hm => ?_) (fun _ he => by cases he) (by simp) hrun
  rcases List.mem_append.1 hm with hm | hm
  · exact h m' hm
  · obtain rfl := List.mem_singleton.1 hm
    rintro n ⟨⟩

/-- Two sources for each other that take their delays in turn from one sequence. -/
def Op.sharers : List Op :=
  [.addSource "a" ⟨0, 0⟩ ⟨0⟩ 2, .addSource "b" ⟨1, 0⟩ ⟨0⟩ 2, .addInterface ⟨0⟩ "ia" 2, .addInterface ⟨1⟩ "ib" 2,
    .addMember ⟨0⟩ ⟨1⟩, .addMember ⟨1⟩ ⟨0⟩, .addDestination ⟨0⟩ ⟨1⟩, .addDestination ⟨1⟩ ⟨0⟩]

/-- Of the delays 3, 5 and 7, the first source draws the first and the third, and the other one the second and, as the
sequence begins anew, the first. -/
theorem production_schedule_sharers : ∃ (net start last : Network) (log : List Moment)
    (result : Except NetworkError Unit), net.initRun = .ok (result, start) ∧
      Run (fun op _ => op.leavesSources) start log last ∧ (∀ m ∈ log, m.Unrefused) ∧
      (∃ t, last.OnSchedule ⟨0⟩ t (net.drawsOf log) log) ∧ productionTicks ⟨0⟩ log = [3, 10] ∧
      productionTicks ⟨1⟩ log = [5, 8] := by
  have hend : endsWith (Op.applyAll 100 Op.sharers [] (.new {} 7 [.sequence #[3, 5, 7]])) (fun _ net =>
      (net.traffic? 0).isSome && endsWith net.initRun fun _ start =>
        endsWith (Op.applyAll 100 [.runTo 20] [] start) fun log _ =>
          productionTicks ⟨0⟩ log = [3, 10] && productionTicks ⟨1⟩ log = [5, 8]) = true := by
    decide +kernel
  obtain ⟨-, net, -, hnet⟩ := endsWith_iff.1 hend
  obtain ⟨ht, hnet⟩ := (Bool.and_eq_true _ _).mp hnet
  obtain ⟨t, ht⟩ := Option.isSome_iff_exists.1 ht
  obtain ⟨answer, start, hi, hstart⟩ := endsWith_iff.1 hnet
  obtain ⟨log, last, hok, hticks⟩ := endsWith_iff.1 hstart
  obtain ⟨hfirst, hsecond⟩ := (Bool.and_eq_true _ _).mp hticks
  have hrun : Run (fun op _ => op.leavesSources) start log last := .of_applyAll .start hok (by simp [Op.leavesSources])
  have hmade : ∀ m ∈ log, m.Unrefused :=
    Run.unrefused (.of_applyAll .start hok fun _ _ => rfl)
  exact ⟨net, start, last, log, _, hi, hrun, hmade, ⟨t, ((hrun.production_schedule hi hmade).1 ⟨0⟩ t ht).1⟩,
    of_decide_eq_true hfirst, of_decide_eq_true hsecond⟩

end CarrierSense.Network
