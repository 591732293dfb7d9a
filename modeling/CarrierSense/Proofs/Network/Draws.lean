import CarrierSense.Proofs.Network.Changes
import CarrierSense.Proofs.Network.Course
import CarrierSense.Proofs.Network.Isolation
import CarrierSense.Proofs.Network.Sources

/-!
# The draws of sources

Which delays a run draws, and for whom: one when it starts for each source that has frames to produce, and one
whenever a source has produced a frame that is not its last. Radios take no part in this. A variate that goes through
a sequence is turned back before the first draw, and all of its owners move it on in turn (`Wound`); so the values
come in the order of the draws, whoever makes them.
-/

namespace CarrierSense

/-- A delay that was drawn for a source. -/
structure Draw where
  node : NodeId
  variate : VariateId
  delay : Float

/-- The draws that were made for the node `n`. -/
def Draw.ofNode (n : NodeId) (draws : List Draw) : List Draw := draws.filter (·.node = n)

/-- The draws that were made from the variate `v`, whoever owns it. -/
def Draw.fromVariate (v : VariateId) (draws : List Draw) : List Draw := draws.filter (·.variate = v)

/-- One more draw from a variate comes last among its draws. -/
lemma Draw.fromVariate_snoc_self (draws : List Draw) (n : NodeId) (v : VariateId) (delay : Float) :
    fromVariate v (draws ++ [⟨n, v, delay⟩]) = fromVariate v draws ++ [⟨n, v, delay⟩] := by
  simp [fromVariate]

/-- A draw from another variate is none of its draws. -/
lemma Draw.fromVariate_snoc_ne {u v : VariateId} (h : u ≠ v) (draws : List Draw) (n : NodeId) (delay : Float) :
    fromVariate v (draws ++ [⟨n, u, delay⟩]) = fromVariate v draws := by
  simp [fromVariate, h]

namespace Network

/-- The value that a variate yields next. -/
def sample (net : Network) (v : VariateId) : Option Float :=
  match net.variates[v.index]? with
  | none => none
  | some variate =>
    match variate.draw net.stream with
    | .ok (delay, _) => some delay
    | .error _ => none

/-- The draw from a variate for a node, if a value can be drawn. -/
def drawFor (net : Network) (n : NodeId) (v : VariateId) : List Draw :=
  ((net.sample v).map fun delay => ⟨n, v, delay⟩).toList

/-- The delay before the first frame of a node, if it has any. -/
def startDraws (net : Network) (n : NodeId) : List Draw :=
  match net.traffic? n.index with
  | some t => if t.isExhausted then [] else net.drawFor n t.arrival
  | none => []

/-- The delays before the first frames of nodes, in order. -/
def startAllDraws (net : Network) : List NodeId → List Draw
  | [] => []
  | n :: rest =>
    match net.start n with
    | .ok (_, next) => net.startDraws n ++ next.startAllDraws rest
    | .error _ => []

/-- The delays that are drawn when a run starts. -/
def initDraws (net : Network) : List Draw :=
  net.reset.startAllDraws ((List.range net.endpoints.size).map NodeId.mk)

/-- The delay that follows a frame which a source has produced, unless it is the last. The frame itself is drawn
before the delay. -/
def produceDraws (net : Network) (n : NodeId) : List Draw :=
  match net.traffic? n.index with
  | some t =>
    if t.produced + 1 < t.maxMessages then
      { net with stream := (net.drawFrame n t).2 }.drawFor n t.nextDelay
    else []
  | none => []

/-- The delays that are drawn in a moment. -/
def Moment.draws (m : Moment) : List Draw :=
  match m.cause with
  | .event (.produce n) => m.before.produceDraws n
  | _ => []

/-- The delays that a run of the network has drawn, from its start on and in the order of their draws. -/
def drawsOf (net : Network) (log : List Moment) : List Draw := net.initDraws ++ log.flatMap Moment.draws

variable {net mid net' : Network} {n : NodeId} {v : VariateId} {ticks : Nat} {t : Traffic} {draws : List Draw}
  {values : Array Float} {result : Except NetworkError Unit}

/-- The draws of a log are continued by its next moment. -/
lemma drawsOf_snoc (net : Network) (log : List Moment) (m : Moment) :
    net.drawsOf (log ++ [m]) = net.drawsOf log ++ m.draws := by
  simp [drawsOf]

/-- The traffic of a node is at its endpoint. -/
lemma traffic?_eq_some : net.traffic? n.index = some t ↔ ∃ x, net.endpoint n = .ok x ∧ x.traffic = some t := by
  simp only [traffic?, Option.bind_eq_some_iff, endpoint_eq_ok]

/-- A delay that is drawn is the next value of its variate, in ticks. -/
lemma drawDelay_sampled (hd : net.drawDelay v = .ok (ticks, net')) :
    ∃ variate delay next stream, net.variates[v.index]? = some variate ∧
      variate.draw net.stream = .ok (delay, next, stream) ∧ (∀ n, net.drawFor n v = [⟨n, v, delay⟩]) ∧
      ticks = Variate.ticks delay ∧
      net' = { net with variates := net.variates.setIfInBounds v.index next, stream } := by
  unfold drawDelay at hd
  split at hd
  · cases hd
  · rename_i variate hv
    simp only [bind_eq_ok] at hd
    obtain ⟨⟨delay, next, stream⟩, hdraw, hd⟩ := hd
    cases hd
    refine ⟨variate, delay, next, stream, hv, hdraw, fun n => ?_, rfl, rfl⟩
    simp only [drawFor, sample, hv, hdraw, Option.map_some, Option.toList_some]

/-- The variate `v` goes through a sequence of values, and has been moved on by each of its draws. -/
structure Wound (v : VariateId) (values : Array Float) (draws : List Draw) (net : Network) : Prop where
  place : net.variates[v.index]? =
    some { law := .sequence values, cursor := (Draw.fromVariate v draws).length % Variate.cursorLimit }
  cycle : ∀ {j d}, (Draw.fromVariate v draws)[j]? = some d →
    values[j % Variate.cursorLimit % values.size]? = some d.delay

namespace Wound

/-- How far a variate has been moved on is to be seen at the variate alone. -/
lemma congr (h : net.Wound v values draws) (hv : net'.variates[v.index]? = net.variates[v.index]?) :
    net'.Wound v values draws :=
  ⟨hv.trans h.place, h.cycle⟩

/-- A draw from another variate leaves the variate where it is, and a draw from itself moves it on. -/
lemma draw {u : VariateId} (h : net.Wound v values draws) (hne : 0 < values.size)
    (hd : net.drawDelay u = .ok (ticks, net')) (n : NodeId) :
    net'.Wound v values (draws ++ net.drawFor n u) := by
  obtain ⟨variate, delay, next, stream, hu, hdraw, hfor, -, rfl⟩ := drawDelay_sampled hd
  rw [hfor]
  by_cases huv : u = v
  · subst huv
    -- the value that is drawn stands at the place that the draws so far have led to
    have hplace := h.place
    rw [hu] at hplace
    cases hplace
    have hat := Array.getElem?_eq_getElem
      (Nat.mod_lt ((Draw.fromVariate u draws).length % Variate.cursorLimit) hne)
    simp only [Variate.draw, hat, Except.ok.injEq, Prod.mk.injEq] at hdraw
    obtain ⟨rfl, rfl, rfl⟩ := hdraw
    have hlt := (Array.getElem?_eq_some_iff.1 hu).1
    refine ⟨?_, fun {j d} hj => ?_⟩
    · rw [Draw.fromVariate_snoc_self, List.length_append, List.length_singleton]
      simp only [Nat.mod_add_mod]
      exact Array.getElem?_setIfInBounds_self_of_lt hlt
    · rw [Draw.fromVariate_snoc_self, List.getElem?_append] at hj
      split at hj
      · exact h.cycle hj
      · obtain ⟨hlast, rfl⟩ := List.getElem?_eq_some_iff.1 hj
        obtain rfl : j = (Draw.fromVariate u draws).length := by
          rw [List.length_singleton] at hlast
          omega
        simp
  · have hother : u.index ≠ v.index := fun heq => huv (by cases u; cases v; cases heq; rfl)
    have hsame := Draw.fromVariate_snoc_ne huv draws n delay
    exact ⟨(Array.getElem?_setIfInBounds_ne hother).trans (hsame.symm ▸ h.place), hsame.symm ▸ h.cycle⟩

end Wound

/-- Neither variates nor the ticks of pending productions have changed; productions may have been taken out. -/
structure Undrawn (net net' : Network) : Prop where
  variates : net'.variates = net.variates
  pending : ∀ {due n}, net'.scheduler.Pending due (.produce n) → net.scheduler.Pending due (.produce n)

namespace Undrawn

/-- Without a change of variates and scheduler nothing has been drawn. -/
lemma of_eq (hv : net'.variates = net.variates) (hs : net'.scheduler = net.scheduler) : net.Undrawn net' :=
  ⟨hv, fun hp => hs ▸ hp⟩

/-- Two changes that draw nothing draw nothing together. -/
lemma trans (h : net.Undrawn mid) (h' : mid.Undrawn net') : net.Undrawn net' :=
  ⟨h'.variates.trans h.variates, fun hp => h.pending (h'.pending hp)⟩

end Undrawn

/-- What radios do draws no delay. -/
lemma undrawn_turnClosed : TurnClosed Undrawn where
  refl _ := .of_eq rfl rfl
  trans := .trans
  radio _ _ _ := .of_eq rfl rfl
  count _ _ := .of_eq rfl rfl
  note _ _ := .of_eq rfl rfl
  put hp := by
    obtain ⟨x, -, rfl⟩ := put_eq_ok hp
    exact .of_eq rfl rfl
  drop _ _ := ⟨rfl, Scheduler.pending_of_drop⟩
  post he hp := ⟨rfl, fun hq => (Scheduler.pending_of_post hp hq).resolve_left fun hnew => he _ hnew.2.symm⟩

/-- The next production of a node is posted, as much later as the draw says. -/
structure Schedules (net : Network) (d : Draw) (net' : Network) : Prop where
  wound : ∀ {v values draws}, 0 < values.size → net.Wound v values draws → net'.Wound v values (draws ++ [d])
  pending : ∀ {due n}, net'.scheduler.Pending due (.produce n) → net.scheduler.Pending due (.produce n) ∨
    n = d.node ∧ due.time = Clock.later net.now (Variate.ticks d.delay)

/-- What draws nothing may go before the next production is posted. -/
lemma Undrawn.schedules {d : Draw} (h : net.Undrawn mid) (hn : mid.now = net.now) (hs : mid.Schedules d net') :
    net.Schedules d net' where
  wound hne hw := hs.wound hne (hw.congr (by rw [h.variates]))
  pending hp := hn ▸ (hs.pending hp).imp_left h.pending

/-- What a delay is drawn for. -/
lemma drawDelay_schedules (hd : net.drawDelay v = .ok (ticks, mid))
    (hp : mid.withPost (mid.scheduler.postAfter ticks (.produce n)) = .ok (.ok (), net')) :
    ∃ delay, net.drawFor n v = [⟨n, v, delay⟩] ∧ net.Schedules ⟨n, v, delay⟩ net' := by
  obtain ⟨variate, delay, next, stream, hv, hdraw, hfor, hticks, hmid⟩ := drawDelay_sampled hd
  refine ⟨delay, hfor n, ?_⟩
  have hsched : mid.scheduler = net.scheduler := by rw [hmid]
  unfold withPost at hp
  split at hp
  · cases hp
  · rename_i id scheduler hpost
    cases hp
    refine ⟨fun hne hw => ?_, fun hq => ?_⟩
    · rw [← hfor n]
      exact (hw.draw hne hd n).congr rfl
    · have hq := Scheduler.pending_of_post hpost hq
      rw [hsched] at hq
      rcases hq with ⟨rfl, he⟩ | hq
      · cases he
        exact .inr ⟨rfl, by rw [hticks]; rfl⟩
      · exact .inl hq

/-- At time zero the first production of a source is posted, after a delay that is drawn. -/
lemma start_schedules (hnow : net.now = 0) (hs : net.start n = .ok (.ok (), net')) :
    ((∀ {t}, net.traffic? n.index = some t → t.isExhausted = true) ∧ net.startDraws n = [] ∧ net' = net) ∨
      ∃ t delay, net.traffic? n.index = some t ∧ t.isExhausted = false ∧
        net.startDraws n = [⟨n, t.arrival, delay⟩] ∧ net.Schedules ⟨n, t.arrival, delay⟩ net' := by
  obtain ⟨x, hx, ⟨rfl, -, hdone⟩ | ⟨t, ticks, mid, ht, hmore, hd, hp⟩⟩ := start_eq_ok hs
  · have hexhausted : ∀ {t}, net'.traffic? n.index = some t → t.isExhausted = true := fun ht => by
      obtain ⟨y, hy, ht⟩ := traffic?_eq_some.1 ht
      cases hx.symm.trans hy
      exact hdone ht
    refine .inl ⟨hexhausted, ?_, rfl⟩
    unfold startDraws
    split
    · rename_i t ht
      rw [if_pos (hexhausted ht)]
    · rfl
  · have htraffic : net.traffic? n.index = some t := traffic?_eq_some.2 ⟨x, hx, ht⟩
    -- from zero on, a delay is a time
    have hmid : mid.scheduler.now = 0 := (congrArg Scheduler.now (drawDelay_scheduler hd)).trans hnow
    have hlater : Clock.later mid.scheduler.now ticks = ticks := by
      rw [hmid, Clock.later, Nat.zero_add]
      exact Nat.min_eq_left (drawDelay_eq_ok hd).1
    rw [← hlater] at hp
    obtain ⟨delay, hfor, hschedules⟩ := drawDelay_schedules hd hp
    refine .inr ⟨t, delay, htraffic, hmore, ?_, hschedules⟩
    simp only [startDraws, htraffic, hmore, Bool.false_eq_true, if_false, hfor]

/-- The first productions of nodes are posted, those of them that have frames left, with the draws for them. -/
inductive Starts : Network → List NodeId → List Draw → Network → Prop where
  | nil {net : Network} : Starts net [] [] net
  | idle {net net' : Network} {n : NodeId} {rest : List NodeId} {draws : List Draw}
      (done : ∀ {t}, net.traffic? n.index = some t → t.isExhausted = true) (others : Starts net rest draws net') :
      Starts net (n :: rest) draws net'
  | post {net mid net' : Network} {n : NodeId} {t : Traffic} {rest : List NodeId} {delay : Float}
      {draws : List Draw} (source : net.traffic? n.index = some t) (more : t.isExhausted = false)
      (zero : net.now = 0) (first : net.Schedules ⟨n, t.arrival, delay⟩ mid)
      (same : ∀ n : NodeId, mid.traffic? n.index = net.traffic? n.index) (others : Starts mid rest draws net') :
      Starts net (n :: rest) (⟨n, t.arrival, delay⟩ :: draws) net'

/-- The traffic of a node depends on its endpoint alone. -/
lemma traffic?_congr (h : net'.endpoint = net.endpoint) (n : NodeId) :
    net'.traffic? n.index = net.traffic? n.index :=
  Option.ext fun t => by rw [traffic?_eq_some, traffic?_eq_some, h]

/-- The first posts of a run draw the first delays in the order of the nodes. -/
lemma startAll_starts {nodes : List NodeId} (h : net.Coherent) (ho : net.scheduler.OnTime) (hnow : net.now = 0)
    (hs : net.startAll nodes = .ok (.ok (), net')) : Starts net nodes (net.startAllDraws nodes) net' := by
  induction nodes generalizing net with
  | nil =>
    cases hs
    exact .nil
  | cons n rest ih =>
    rcases andThen_eq_ok.1 hs with ⟨_, -, he⟩ | ⟨_, mid, hn, hs⟩
    · cases he
    · obtain ⟨ha, -, hend⟩ := start_aside h ho hn
      have hrest := ih ha.coherent ha.onTime (ha.now.trans hnow) hs
      simp only [startAllDraws, hn]
      rcases start_schedules hnow hn with ⟨hdone, hdraws, rfl⟩ | ⟨t, delay, ht, hmore, hdraws, hfirst⟩
      · rw [hdraws]
        exact .idle hdone hrest
      · rw [hdraws]
        exact .post ht hmore hnow hfirst (traffic?_congr hend) hrest

/-- A source that has produced a frame posts the next production, after a delay that is drawn, unless the frame was
its last one. -/
lemma produce_schedules (h : net.Sound) (ht : net.traffic? n.index = some t) (hmore : t.isExhausted = false)
    (hp : net.produce n = .ok (.ok (), net')) :
    (t.maxMessages ≤ t.produced + 1 ∧ net.produceDraws n = [] ∧ net.Undrawn net') ∨
      t.produced + 1 < t.maxMessages ∧ ∃ delay, net.produceDraws n = [⟨n, t.nextDelay, delay⟩] ∧
        net.Schedules ⟨n, t.nextDelay, delay⟩ net' := by
  obtain ⟨x, hx, htraffic⟩ := traffic?_eq_some.1 ht
  rcases produce_makes hp with ⟨-, ⟨_, he, -⟩ | ⟨-, hdone⟩⟩ |
    ⟨site, x', t', i, -, -, hx', htraffic', -, -, hp⟩
  · cases he
  · rw [hdone hx htraffic] at hmore
    cases hmore
  cases hx.symm.trans hx'
  cases htraffic.symm.trans htraffic'
  unfold produceDraws
  simp only [ht]
  generalize net.drawFrame n t = drawn at hp ⊢
  obtain ⟨frame, stream⟩ := drawn
  dsimp only at hp ⊢
  have h₀ := h.withStream stream
  have hdrawn : net.Undrawn { net with stream } := .of_eq rfl rfl
  rcases andThen_eq_ok.1 hp with ⟨_, -, he⟩ | ⟨_, mid, hs, hp⟩
  · cases he
  have hsent := hdrawn.trans (undrawn_turnClosed.send hs)
  have hnow : mid.now = Network.now { net with stream } := send_now h₀ hs
  unfold countOne at hp
  dsimp only at hp
  split at hp
  · rename_i hlast
    cases hp
    have hlast : t.maxMessages ≤ t.produced + 1 := by simpa [Traffic.isExhausted] using hlast
    exact .inl ⟨hlast, if_neg (by omega), hsent.trans (.of_eq rfl rfl)⟩
  · rename_i hlast
    have hlast : t.produced + 1 < t.maxMessages := by simpa [Traffic.isExhausted] using hlast
    simp only [bind_eq_ok] at hp
    obtain ⟨⟨ticks, next⟩, hd, hp⟩ := hp
    -- the count of frames is nothing that a draw depends on
    have hcounted : net.Undrawn (mid.setEndpoint n
        { x with traffic := some { t with produced := t.produced + 1 } }) := hsent.trans (.of_eq rfl rfl)
    obtain ⟨delay, hfor, hschedules⟩ := drawDelay_schedules (v := t.nextDelay) hd hp
    refine .inr ⟨hlast, delay, ?_, hcounted.schedules hnow hschedules⟩
    have hstream := stream_turnClosed.send hs
    rw [if_pos hlast, ← hfor]
    simp only [drawFor, sample]
    rw [hcounted.variates]
    simp only [setEndpoint, hstream]

end Network

end CarrierSense
