import CarrierSense.Proofs.Network.Draws
import CarrierSense.Proofs.Network.Reliable

/-!
# The timetable of sources

The delays that are drawn for a source fix the ticks of its productions, whatever else happens in the network: each
production is pending from the one before it on, and fires at its tick. A run that refuses no production keeps every
source on schedule (`OnSchedule`), from one moment to the next.
-/

namespace CarrierSense

/-- The ticks that delays lead to, one after the other. The clock stays at its last tick. -/
def dueTicks (now : Nat) : List Draw → List Nat
  | [] => []
  | d :: rest =>
    let due := Clock.later now (Variate.ticks d.delay)
    due :: dueTicks due rest

/-- There is one tick for each draw. -/
@[simp] lemma length_dueTicks (now : Nat) (draws : List Draw) : (dueTicks now draws).length = draws.length := by
  induction draws generalizing now with
  | nil => rfl
  | cons d rest ih => simp [dueTicks, ih]

/-- One more delay leads on from the last tick. -/
lemma dueTicks_snoc (now : Nat) (draws : List Draw) (d : Draw) :
    dueTicks now (draws ++ [d]) = dueTicks now draws ++
      [Clock.later ((dueTicks now draws).getLastD now) (Variate.ticks d.delay)] := by
  induction draws generalizing now with
  | nil => rfl
  | cons e rest ih =>
    simp only [List.cons_append, dueTicks, ih, List.getLastD_cons]

/-- The productions `fired` of a source that is set up as `t`, and the draws for it so far: as many delays are drawn as
there are productions, and one more unless all frames have been produced. -/
structure Timetable (t : Traffic) (draws : List Draw) (fired : List Nat) : Prop where
  bounded : fired.length ≤ t.maxMessages
  /-- The first delay is drawn from the one variate of the source, and all others from the other. -/
  drawn : draws.map Draw.variate =
    (t.arrival :: List.replicate t.maxMessages t.nextDelay).take (min t.maxMessages (fired.length + 1))
  /-- Each production happens at the tick that the delays lead to. -/
  fired : fired = (dueTicks 0 draws).take fired.length

namespace Timetable

variable {t : Traffic} {draws : List Draw} {fired : List Nat} {now : Nat} {d : Draw}

/-- A source draws a delay before each frame, and one more unless that was the last. -/
lemma length_dueTicks (h : Timetable t draws fired) :
    (dueTicks 0 draws).length = min t.maxMessages (fired.length + 1) := by
  have hlength := congrArg List.length h.drawn
  simp only [List.length_map, List.length_take, List.length_cons, List.length_replicate] at hlength
  rw [CarrierSense.length_dueTicks, hlength]
  omega

/-- A source draws from its own variates. -/
lemma mem (h : Timetable t draws fired) (hd : d ∈ draws) : d.variate = t.arrival ∨ t.period = some d.variate := by
  have hmem : d.variate ∈ t.arrival :: List.replicate t.maxMessages t.nextDelay :=
    List.mem_of_mem_take (h.drawn ▸ List.mem_map_of_mem hd)
  rcases List.mem_cons.1 hmem with harrival | hnext
  · exact .inl harrival
  · have hnext := (List.mem_replicate.1 hnext).2
    unfold Traffic.nextDelay at hnext
    cases hp : t.period with
    | none => exact .inl (by rw [hnext, hp]; rfl)
    | some period => exact .inr (by rw [hnext, hp]; rfl)

/-- The next production happens at the last of the ticks. -/
lemma fired_snoc (h : Timetable t draws fired) (hdue : (dueTicks 0 draws)[fired.length]? = some now) :
    fired ++ [now] = (dueTicks 0 draws).take (fired.length + 1) := by
  rw [List.take_add_one, ← h.fired, hdue]
  rfl

/-- After the last production no delay is drawn. -/
lemma last (h : Timetable t draws fired) (hlast : t.maxMessages = fired.length + 1)
    (hdue : (dueTicks 0 draws)[fired.length]? = some now) : Timetable t draws (fired ++ [now]) := by
  have hdrawn := h.drawn
  refine ⟨?_, ?_, ?_⟩ <;> rw [List.length_append, List.length_singleton]
  · omega
  · rw [hdrawn]
    congr 1
    omega
  · exact h.fired_snoc hdue

/-- After any other production the delay before the next one is drawn, and is added to the tick. -/
lemma next (h : Timetable t draws fired) (hmore : fired.length + 1 < t.maxMessages)
    (hdue : (dueTicks 0 draws)[fired.length]? = some now) (hd : d.variate = t.nextDelay) :
    Timetable t (draws ++ [d]) (fired ++ [now]) ∧
      (dueTicks 0 (draws ++ [d]))[fired.length + 1]? = some (Clock.later now (Variate.ticks d.delay)) := by
  have hlength := h.length_dueTicks
  have hdrawn := h.drawn
  rw [Nat.min_eq_right (by omega)] at hlength hdrawn
  have hlast : (dueTicks 0 draws).getLastD 0 = now := by
    rw [List.getLastD_eq_getLast?, List.getLast?_eq_getElem?, hlength]
    simp only [Nat.add_sub_cancel, hdue, Option.getD_some]
  refine ⟨⟨?_, ?_, ?_⟩, ?_⟩
  · rw [List.length_append, List.length_singleton]
    omega
  · have hnext : (t.arrival :: List.replicate t.maxMessages t.nextDelay)[fired.length + 1]? = some t.nextDelay := by
      rw [List.getElem?_cons_succ, List.getElem?_replicate, if_pos (by omega)]
    rw [List.length_append, List.length_singleton, Nat.min_eq_right (by omega), List.take_add_one, hnext,
      List.map_append, hdrawn, List.map_singleton, hd]
    rfl
  · rw [List.length_append, List.length_singleton, dueTicks_snoc, List.take_append_of_le_length (by omega)]
    exact h.fired_snoc hdue
  · rw [dueTicks_snoc, hlast, ← hlength, List.getElem?_concat_length]

end Timetable

namespace Network

/-- Whether a moment is a production of the node `n`. -/
def Moment.produces (n : NodeId) (m : Moment) : Bool :=
  match m.cause with
  | .event e => e.produces n
  | .call _ => false

/-- If the moment is a production that was pending, it was not refused. -/
def Moment.Unrefused (m : Moment) : Prop :=
  ∀ n, m.cause = .event (.produce n) → m.before.produce n = .ok (.ok (), m.after)

/-- The ticks at which a node has produced its frames. -/
def productionTicks (n : NodeId) (log : List Moment) : List Nat := (log.filter (·.produces n)).map (·.before.now)

/-- The source `n`, set up as `t`, is on schedule after the draws and the moments of a run so far. -/
structure OnSchedule (n : NodeId) (t : Traffic) (draws : List Draw) (log : List Moment) (net : Network) : Prop where
  /-- The source counts its productions, and is otherwise as it was set up. -/
  traffic : net.traffic? n.index = some { t with produced := (productionTicks n log).length }
  timetable : Timetable t (Draw.ofNode n draws) (productionTicks n log)
  /-- As long as there are frames left, one production is pending. -/
  pending : net.productions n = if (productionTicks n log).length < t.maxMessages then 1 else 0
  /-- The production that is pending is due at the next tick of the timetable. -/
  next : ∀ {due}, net.scheduler.Pending due (.produce n) →
    (dueTicks 0 (Draw.ofNode n draws))[(productionTicks n log).length]? = some due.time

variable {first net mid net' : Network} {n : NodeId} {t : Traffic} {draws : List Draw} {log : List Moment}
  {m : Moment} {result : Except NetworkError Unit}

/-- Sources, their pending productions and their variates are as they were. There may be new ones. -/
structure Spares (net net' : Network) : Prop where
  traffic : ∀ {n : NodeId} {t}, net.traffic? n.index = some t → net'.traffic? n.index = some t
  productions : ∀ n, net'.productions n = net.productions n
  pending : ∀ {due n}, net'.scheduler.Pending due (.produce n) → net.scheduler.Pending due (.produce n)
  variates : ∀ {v : VariateId} {x}, net.variates[v.index]? = some x → net'.variates[v.index]? = some x

namespace Spares

/-- The scheduler is the same, and what was there is there still. -/
lemma of_scheduler (hs : net'.scheduler = net.scheduler)
    (ht : ∀ {k : Nat} {x}, net.endpoints[k]? = some x → ∃ y, net'.endpoints[k]? = some y ∧ y.traffic = x.traffic)
    (hv : ∀ {k : Nat} {x}, net.variates[k]? = some x → net'.variates[k]? = some x) : net.Spares net' where
  traffic htraffic := by
    obtain ⟨x, hx, htraffic⟩ := Option.bind_eq_some_iff.1 htraffic
    obtain ⟨y, hy, hsame⟩ := ht hx
    exact Option.bind_eq_some_iff.2 ⟨y, hy, hsame.trans htraffic⟩
  productions n := by rw [Network.productions, hs]; rfl
  pending hp := hs ▸ hp
  variates hx := hv hx

end Spares

/-- Where sources stay the same and nothing is drawn, they are spared. -/
lemma SameSources.spares (h : net.SameSources net') (hu : net.Undrawn net') : net.Spares net' where
  traffic {n t} ht := by
    obtain ⟨x, hx, htraffic⟩ := traffic?_eq_some.1 ht
    have hsame := h.traffic n
    rw [hx] at hsame
    cases hy : net'.endpoint n with
    | error halt =>
      rw [hy] at hsame
      cases hsame
    | ok y =>
      rw [hy] at hsame
      exact traffic?_eq_some.2 ⟨y, hy, (Except.ok.inj hsame).trans htraffic⟩
  productions := h.productions
  pending := hu.pending
  variates hx := hu.variates ▸ hx

/-- The ticks of production are continued by the next moment. -/
lemma productionTicks_snoc (n : NodeId) (log : List Moment) (m : Moment) :
    productionTicks n (log ++ [m]) = productionTicks n log ++ if m.produces n then [m.before.now] else [] := by
  unfold productionTicks
  cases hm : m.produces n <;> simp [hm]

/-- A source stays on schedule in a moment that is no production of its own. -/
lemma OnSchedule.pass {later : List Draw} (h : net.OnSchedule n t draws log)
    (htraffic : ∀ {t}, net.traffic? n.index = some t → net'.traffic? n.index = some t)
    (hprod : net'.productions n = net.productions n)
    (hpend : ∀ {due}, net'.scheduler.Pending due (.produce n) → net.scheduler.Pending due (.produce n))
    (hm : m.produces n = false) (hlater : ∀ d ∈ later, d.node ≠ n) :
    net'.OnSchedule n t (draws ++ later) (log ++ [m]) := by
  have hticks : productionTicks n (log ++ [m]) = productionTicks n log := by simp [productionTicks_snoc, hm]
  have hown : Draw.ofNode n (draws ++ later) = Draw.ofNode n draws := by simpa [Draw.ofNode] using hlater
  refine ⟨?_, ?_, ?_, ?_⟩ <;> rw [hticks]
  · exact htraffic h.traffic
  · rw [hown]
    exact h.timetable
  · exact hprod.trans h.pending
  · rw [hown]
    exact fun hp => h.next (hpend hp)

/-- A source that is spared stays on schedule. -/
lemma OnSchedule.spared (h : net.OnSchedule n t draws log) (hs : net.Spares net') :
    net'.OnSchedule n t draws log :=
  ⟨hs.traffic h.traffic, h.timetable, (hs.productions n).trans h.pending, fun hp => h.next (hs.pending hp)⟩

/-- A node whose productions are all gone has none pending. -/
lemma not_pending_of_productions {due : Due} (h : net.productions n = 0) :
    ¬ net.scheduler.Pending due (.produce n) := by
  intro hp
  have hnone := List.countP_eq_zero.1 h _ (Scheduler.mem_toList.2 hp)
  simp [Event.produces] at hnone

section Produce

variable {id : EventId} {scheduler : Scheduler Event} (h : net.OnSchedule n t draws log) (hn : net.Sound)
  (hp : net.scheduler.popDue = some ((id, .produce n), scheduler))
  (hc : { net with scheduler }.clearTimer id (.produce n) = .ok mid)
include h hn hp hc

/-- The production that comes first is the only one of its source, and fires at its tick. -/
lemma OnSchedule.due : (productionTicks n log).length < t.maxMessages ∧ mid.productions n = 0 ∧
    mid.traffic? n.index = some { t with produced := (productionTicks n log).length } ∧
    (dueTicks 0 (Draw.ofNode n draws))[(productionTicks n log).length]? = some mid.now := by
  obtain ⟨hend, hpop⟩ := hn.pop_production hp hc
  obtain ⟨-, -, -, hnow, -, hpending, -⟩ := Network.pop_other hn.coherent hn.onTime hp hc (by simp)
  have hone := h.pending
  rw [hpop n, if_pos rfl] at hone
  split at hone
  · rename_i hlt
    refine ⟨hlt, by omega, (traffic?_congr hend n).trans h.traffic, ?_⟩
    rw [hnow]
    exact h.next hpending
  · omega

/-- A source goes on as scheduled when it has produced a frame. -/
lemma OnSchedule.produce (hf : mid.produce n = .ok (.ok (), net')) :
    net'.OnSchedule n t (draws ++ mid.produceDraws n) (log ++ [⟨mid, .event (.produce n), net'⟩]) := by
  have hmid := hn.pop_other hp hc (by simp)
  obtain ⟨hlt, hnone, htraffic, hdue⟩ := h.due hn hp hc
  have htable := h.timetable
  have hticks : productionTicks n (log ++ [⟨mid, .event (.produce n), net'⟩]) =
      productionTicks n log ++ [mid.now] := by
    simp [productionTicks_snoc, Moment.produces, Event.produces]
  generalize productionTicks n log = fired at *
  have hmore : ({ t with produced := fired.length } : Traffic).isExhausted = false := by
    simp [Traffic.isExhausted, hlt]
  obtain ⟨x, hx, hsource⟩ := traffic?_eq_some.1 htraffic
  obtain ⟨hcounted, hposted⟩ := produce_productions hmid hx hsource hmore hf
  have hafter : net'.traffic? n.index = some { t with produced := fired.length + 1 } := by
    refine traffic?_eq_some.2 ⟨x.madeOne, by rw [hcounted, if_pos rfl], ?_⟩
    simp [Endpoint.madeOne, hsource]
  have hpending : net'.productions n = if fired.length + 1 < t.maxMessages then 1 else 0 := by
    rw [hposted, hnone]
    simp [Endpoint.hasMore, Endpoint.madeOne, hsource, Traffic.isExhausted]
  rcases produce_schedules hmid htraffic hmore hf with ⟨hlast, hnil, hquiet⟩ | ⟨hgoes, delay, hdraw, hnext⟩
  · -- that was the last frame
    have hlast : t.maxMessages = fired.length + 1 := Nat.le_antisymm hlast hlt
    rw [hnil, List.append_nil]
    refine ⟨?_, ?_, ?_, ?_⟩ <;> rw [hticks]
    · rw [List.length_append, List.length_singleton]
      exact hafter
    · exact htable.last hlast hdue
    · rw [List.length_append, List.length_singleton]
      exact hpending
    · exact fun hq => absurd (hquiet.pending hq) (not_pending_of_productions hnone)
  · have hown : Draw.ofNode n (draws ++ mid.produceDraws n) =
        Draw.ofNode n draws ++ [⟨n, t.nextDelay, delay⟩] := by
      rw [hdraw]
      simp [Draw.ofNode]
      rfl
    obtain ⟨htable', hdue'⟩ := htable.next (d := ⟨n, t.nextDelay, delay⟩) hgoes hdue rfl
    refine ⟨?_, ?_, ?_, ?_⟩ <;> rw [hticks]
    · rw [List.length_append, List.length_singleton]
      exact hafter
    · rw [hown]
      exact htable'
    · rw [List.length_append, List.length_singleton]
      exact hpending
    · intro due hq
      rcases hnext.pending hq with hq | ⟨-, htime⟩
      · exact absurd hq (not_pending_of_productions hnone)
      · rw [List.length_append, List.length_singleton, hown, hdue', htime]

end Produce

end Network

end CarrierSense
