import CarrierSense.Experiment.Run
import CarrierSense.Proofs.Experiment.Setup
import CarrierSense.Proofs.Network.Failures
import CarrierSense.Proofs.Network.Sources
import CarrierSense.Proofs.Network.Standing

/-!
# Why a run of an experiment ends early

In a network whose sources are ready to produce (`Equipped`), only routing can fail: the first event that meets an
error is a frame, just produced or taken on for another node, that finds no next hop. A run leaves the set-up as it
was, so that this holds of all runs of an experiment, however those before them ended. Before it starts, it sets the
period of all sources (`Network.Paced`).
-/

namespace CarrierSense

namespace Network

variable {first net mid net' : Network} {n : NodeId} {e : NetworkError} {m : Moment} {fuel steps : Nat}
  {log log' : List Moment}

/-- Every source has destinations, and an interface to send with. -/
def Equipped (net : Network) : Prop :=
  ∀ {n x t}, net.endpoint n = .ok x → x.traffic = some t → t.destinations ≠ [] ∧
    ∃ site i, net.topology.node n = .ok site ∧ site.iface = some i

/-- Whether sources are equipped is part of the set-up. -/
lemma SameSetUp.equipped (h : net.SameSetUp net') (hn : net.Equipped) : net'.Equipped := by
  intro n x t hx ht
  obtain ⟨y, produced, hy, hs⟩ := h.traffic hx ht
  have hready := hn hy hs
  rw [h.topology]
  exact hready

/-- The sources are the nodes whose endpoints have traffic. -/
lemma mem_sources : n ∈ net.sources ↔ ∃ x t, net.endpoint n = .ok x ∧ x.traffic = some t := by
  simp only [sources, List.mem_map, List.mem_findIdxs_iff_exists_getElem_pos, endpoint_eq_ok,
    Array.getElem?_eq_some_iff, Option.isSome_iff_exists]
  constructor
  · rintro ⟨k, ⟨hk, t, ht⟩, rfl⟩
    exact ⟨_, t, ⟨by simpa using hk, rfl⟩, by simpa using ht⟩
  · rintro ⟨_, t, ⟨hk, rfl⟩, ht⟩
    exact ⟨n.index, ⟨by simpa using hk, t, by simpa using ht⟩, rfl⟩

/-- Networks of the same set-up have the same sources. -/
lemma SameSetUp.sources (h : net.SameSetUp net') : net'.sources = net.sources := by
  have htraffic : ∀ x : Endpoint, x.reset.traffic.isSome = x.traffic.isSome := fun _ => Option.isSome_map
  have hmap := congrArg (fun xs : Array Endpoint => xs.toList.map (·.traffic.isSome)) h.endpoints
  simp only [Array.toList_map, List.map_map, Function.comp_def, htraffic] at hmap
  exact congrArg (List.map NodeId.mk) (findIdxs_eq_of_map hmap)

/-- In the middle of a run: the network is sound, all sources are supplied, and the set-up is that of the start. -/
structure Underway (first net : Network) : Prop where
  sound : net.Sound
  supplied : net.Supplied
  sameSetUp : first.SameSetUp net

/-- Events keep a run under way, as long as it meets no error but those that stop it. -/
lemma underway_closed (first : Network) :
    Closed (fun _ net => first.Underway net) fun e => e.isQuiescent = true where
  clock := fun {log net time} h ha => by
    obtain ⟨hsound, hsupplied⟩ := @Closed.clock _ _ supplied_closed log _ _ ⟨h.sound, h.supplied⟩ ha
    exact ⟨hsound, hsupplied, h.sameSetUp.trans ⟨rfl, rfl, rfl, rfl, rfl, rfl⟩⟩
  event := fun {log net m result} h hf hres => by
    obtain ⟨hsound, hsupplied⟩ := @Closed.event _ _ supplied_closed log _ _ _ ⟨h.sound, h.supplied⟩ hf hres
    exact ⟨hsound, hsupplied, h.sameSetUp.trans (hf.sameSetUp.1.trans hf.sameSetUp.2)⟩

/-- The start of a run never fails. -/
lemma initRun_underway {result : Except NetworkError Unit} (hi : net.initRun = .ok (result, net')) :
    result = .ok () ∧ net.Underway net' := by
  obtain ⟨hres, hsupplied⟩ := initRun_supplied hi
  exact ⟨hres, (reset_sound net).aside (initRun_aside hi).1, hsupplied, initRun_keeps.left hi⟩

namespace Closed

variable {P : List Moment → Network → Prop} {may : NetworkError → Prop} (c : Closed P may)
include c

/-- What an event preserves is preserved by events in a row. -/
lemma firings (h : P log net) (hf : Firings net log' net') : P (log ++ log') net' := by
  induction hf generalizing log with
  | nil => simpa only [List.append_nil] using h
  | @cons net net' m rest first _ ih =>
    have hfirst := c.event h first (by simp)
    rw [← List.singleton_append, ← List.append_assoc]
    exact ih hfirst

/-- When steps end with an error, all that happened before has preserved what is preserved, and one event fails. -/
lemma stepWhile_fails {goesOn : Nat → Bool} (log : List Moment) (h : P log net)
    (hs : Network.stepWhile goesOn fuel steps net = .ok (.error e, net')) :
    ∃ log cur m, P log cur ∧ cur.Fires m (.error e) ∧ net' = m.after := by
  induction steps generalizing log net with
  | zero => cases hs
  | succ steps ih =>
    unfold Network.stepWhile at hs
    split at hs
    · cases hs
    rename_i time ht
    split at hs
    · rcases andThen_eq_ok.1 hs with ⟨e', hstep, he⟩ | ⟨_, mid, hstep, hs⟩
      · cases he
        rcases step_eq_ok hstep with ⟨hnone, -⟩ | ⟨time', result, ht', hd, hres⟩
        · cases hnone.symm.trans ht
        obtain ⟨⟨due, waiting, hp, hdue⟩, hmin⟩ := Scheduler.nextTime?_eq_some ht'
        have hmoved := c.clock h ⟨hmin, .inr ⟨due, waiting, hp, hdue⟩⟩
        rcases drain_firings hd with ⟨rfl, -⟩ | ⟨e', fired, cur, m, rfl, -, hfired, hfails, hleft⟩
        · cases hres
        · cases hres
          exact ⟨_, cur, m, c.firings hmoved hfired, hfails, hleft⟩
      · exact ih _ (c.step h hstep (by simp)) hs
    · cases hs

end Closed

/-- While a network with equipped sources runs, an event can only fail for want of a next hop. -/
lemma Underway.fires_fails (h : first.Underway net) (he : first.Equipped) (hf : net.Fires m (.error e)) :
    (∃ medium, e = .emptyMedium medium) ∨ ∃ iface destination, e = .noRoute iface destination := by
  have htimer : ∀ i k, m.cause ≠ .event (.timer i k) := by
    intro i k hm
    cases h.sound.timer_fires hf hm
  obtain ⟨id, event, scheduler, hp, hc, hcause, hfire⟩ := hf
  cases event with
  | timer i k => exact absurd hcause (htimer i k)
  | forward i f => exact ((h.sound.pop_other hp hc (by simp)).send_refused hfire).2
  | produce n =>
    -- the node that produces is a source, with destinations and an interface
    have hmid := h.sound.pop_other hp hc (by simp)
    obtain ⟨x, hx⟩ := exists_of_hasMore (h.supplied.hasMore_first h.sound hp hc)
    have hmore := h.supplied.hasMore_first h.sound hp hc
    rw [hasMore_eq hx] at hmore
    obtain ⟨t, ht, -⟩ := (Option.any_eq_true _ _).1 hmore
    have hpopped : net.SameSetUp m.before := by
      have hscheduler : net.SameSetUp { net with scheduler } := ⟨rfl, rfl, rfl, rfl, rfl, rfl⟩
      exact hscheduler.trans (clearTimer_sameSetUp hc)
    have hready : m.before.Equipped := (h.sameSetUp.trans hpopped).equipped he
    have hx' : m.before.endpoint n = .ok x := by
      rw [(h.sound.pop_production hp hc).1]
      exact hx
    obtain ⟨hdestinations, site, i, hsite, hi⟩ := hready hx' ht
    obtain ⟨site', x', hsite', hx'', hrefused⟩ := hmid.production_refused hfire
    cases hsite.symm.trans hsite'
    cases hx'.symm.trans hx''
    rcases hrefused with ⟨hnone, -⟩ | ⟨t', ht', hrefused⟩
    · cases hnone.symm.trans ht
    cases ht.symm.trans ht'
    rcases hrefused with ⟨hempty, -⟩ | ⟨hnone, -⟩ | ⟨-, hrouting⟩
    · exact absurd hempty hdestinations
    · cases hnone.symm.trans hi
    · exact hrouting

end Network

namespace Experiment

open Network

variable {e e' e'' : Experiment} {plan : PlannedRun} {tracing : Bool} {fuel : Nat}
  {outcome : Except RunError RunRecord}

/-- What earlier runs have made of an experiment, whether they came to their end or not. -/
inductive After (first : Experiment) : Experiment → Prop where
  | start : After first first
  | run {e e' : Experiment} {fuel : Nat} {plan : PlannedRun} {tracing : Bool}
      {outcome : Except RunError RunRecord} (before : After first e)
      (ran : e.run fuel plan tracing = .ok (outcome, e')) : After first e'

/-- Whatever run comes next, it finds the same set-up in both experiments. -/
structure Alike (e e' : Experiment) : Prop where
  sweep : e'.sweep = e.sweep
  prepared : ∀ plan tracing, (e.prepare plan tracing).network.SameSetUp (e'.prepare plan tracing).network

/-- An experiment is like itself. -/
lemma Alike.refl (e : Experiment) : e.Alike e := ⟨rfl, fun _ _ => .refl _⟩

/-- What is like an experiment that is like another one is like that other one. -/
lemma Alike.trans (h : e.Alike e') (h' : e'.Alike e'') : e.Alike e'' :=
  ⟨h'.sweep.trans h.sweep, fun plan tracing => (h.prepared plan tracing).trans (h'.prepared plan tracing)⟩

/-- What a run reports of the network that it leaves behind. -/
def outcomeOf (plan : PlannedRun) (result : Except NetworkError Nat) (net : Network) : Except RunError RunRecord :=
  match result with
  | .error error => .error { time := net.report.endTime, error }
  | .ok _ => .ok { plan, report := net.report }

/-- A run prepares the network, starts it, and fires its events up to the end of the run. -/
lemma run_eq (e : Experiment) (fuel : Nat) (plan : PlannedRun) (tracing : Bool) :
    e.run fuel plan tracing =
      (andThen (e.prepare plan tracing).network.initRun fun _ net => net.runTo fuel e.sweep.runLength) >>=
        fun reply => .ok (outcomeOf plan reply.1 reply.2, { e with network := reply.2.stopTrace }) := by
  simp only [run]
  have hsweep : (e.prepare plan tracing).sweep = e.sweep := rfl
  rw [hsweep]
  generalize andThen (e.prepare plan tracing).network.initRun _ = reply
  match reply with
  | .error halt => rfl
  | .ok (.error error, net) => rfl
  | .ok (.ok time, net) => rfl

/-- What happens in a run that comes to its end, step by step. -/
lemma run_eq_ok (h : e.run fuel plan tracing = .ok (outcome, e')) :
    ∃ started result net, (e.prepare plan tracing).network.initRun = .ok (.ok (), started) ∧
      started.runTo fuel e.sweep.runLength = .ok (result, net) ∧ outcome = outcomeOf plan result net ∧
      e' = { e with network := net.stopTrace } := by
  rw [run_eq] at h
  obtain ⟨⟨result, net⟩, hran, h⟩ := bind_eq_ok.1 h
  cases h
  rcases andThen_eq_ok.1 hran with ⟨error, hi, rfl⟩ | ⟨_, started, hi, hrun⟩
  · cases (initRun_underway hi).1
  · exact ⟨started, result, net, hi, hrun, rfl, rfl⟩

/-- Before a run, the period, the seed and the recorder are set. -/
lemma network_prepare (e : Experiment) (plan : PlannedRun) (tracing : Bool) :
    (e.prepare plan tracing).network = { e.network with
      variates := e.network.variates.setIfInBounds periodId.index { law := .delta plan.period }
      stream := Stream.ofSeed plan.seed.toUInt64
      recorder := if tracing then .start else e.network.recorder.stop } := by
  cases tracing <;> rfl

/-- A set-up that a run leaves as it was is the same for the next run. -/
lemma alike_of_sameSetUp {net : Network} (h : (e.prepare plan tracing).network.SameSetUp net) :
    e.Alike { e with network := net.stopTrace } := by
  rw [network_prepare] at h
  refine ⟨rfl, fun next tracing' => ?_⟩
  rw [network_prepare, network_prepare]
  -- the law of the period is overwritten, whatever it was
  have hlaws : (net.variates.setIfInBounds periodId.index { law := .delta next.period }).map Variate.law =
      (e.network.variates.setIfInBounds periodId.index { law := .delta next.period }).map Variate.law := by
    rw [Array.map_setIfInBounds, Array.map_setIfInBounds, h.laws, Array.map_setIfInBounds,
      Array.setIfInBounds_setIfInBounds]
  refine ⟨h.timing, h.topology, h.radios, h.endpoints, hlaws, ?_⟩
  cases tracing' <;> rfl

/-- However a run ends, the next one finds the set-up that it would have found before. -/
theorem run_alike (h : e.run fuel plan tracing = .ok (outcome, e')) : e.Alike e' := by
  obtain ⟨started, result, net, hi, hrun, -, rfl⟩ := run_eq_ok h
  exact alike_of_sameSetUp ((initRun_keeps.left hi).trans ((runTo_keeps _ _).left hrun))

/-- Whatever runs have been made, the next one finds the set-up of the first. -/
theorem After.alike (h : e.After e') : e.Alike e' := by
  induction h with
  | start => exact .refl e
  | run _ ran ih => exact ih.trans (run_alike ran)

/-- An experiment with equipped sources fails for want of a next hop only, whatever ran before. -/
lemma run_fails {error : RunError} (heq : e.network.Equipped) (hafter : e.After e')
    (h : e'.run fuel plan tracing = .ok (.error error, e'')) :
    (∃ medium, error.error = .emptyMedium medium) ∨
      ∃ iface destination, error.error = .noRoute iface destination := by
  obtain ⟨started, result, net, hi, hrun, hout, -⟩ := run_eq_ok h
  have hready : (e'.prepare plan tracing).network.Equipped := by
    apply (hafter.alike.prepared plan tracing).equipped
    rw [network_prepare]
    exact heq
  cases result with
  | ok time => cases hout
  | error fault =>
    cases hout
    rcases andThen_eq_ok.1 hrun with ⟨fault', hwhile, hfault⟩ | ⟨_, mid, -, hend⟩
    · cases hfault
      obtain ⟨log, cur, m, hcur, hfails, -⟩ :=
        (underway_closed (e'.prepare plan tracing).network).stepWhile_fails [] (initRun_underway hi).2 hwhile
      exact hcur.fires_fails hready hfails
    · cases hend

end Experiment

/-- A run has set the period of its sources: they take their delays from one variate, whose law is that period. To
set it for one of them once more changes nothing. -/
structure Network.Paced (net : Network) (ns : List NodeId) (period : Float) : Prop where
  sources : net.sources = ns
  law : net.variates[Experiment.periodId.index]? = some { law := .delta period }
  set : ∀ n ∈ net.sources, net.setPeriod n Experiment.periodId = .ok (.ok (), net)

namespace Scene

open Network Experiment

variable {scene : Scene} {sweep : Sweep} {net : Network}

/-- A source of the network of a scene is the one that the scene describes. -/
lemma Depicts.source_of {n : NodeId} {x : Endpoint} {t : Traffic} (h : scene.Depicts sweep net)
    (hx : net.endpoint n = .ok x) (ht : x.traffic = some t) :
    ∃ node traffic, scene.nodes[n.index]? = some node ∧ scene.DepictsSource sweep net n.index traffic t := by
  have hget := endpoint_eq_ok.1 hx
  have hlt := (Array.getElem?_eq_some_iff.1 hget).1
  rw [h.endpoints] at hlt
  have hk := List.getElem?_eq_getElem hlt
  cases htraffic : scene.nodes[n.index].traffic with
  | none =>
    cases (h.silent n.index _ hk htraffic).symm.trans hget
    cases ht
  | some traffic =>
    obtain ⟨u, hu⟩ := h.source n.index _ traffic hk htraffic
    cases hu.endpoint.symm.trans hget
    cases ht
    exact ⟨_, traffic, hk, hu⟩

/-- In the network of a scene all sources are equipped. -/
lemma Depicts.equipped (h : scene.Depicts sweep net) : net.Equipped := by
  intro n x t hx ht
  obtain ⟨node, traffic, hk, hsource⟩ := h.source_of hx ht
  exact ⟨hsource.some_destination, _, _, Topology.node_eq_ok.2 (h.site n.index _ hk), rfl⟩

/-- However many runs have been made, the next one sets the period of all sources of the scene, in order. -/
lemma Depicts.paced {e e' : Experiment} (h : scene.Depicts sweep e.network) (hafter : e.After e') (plan : PlannedRun)
    (tracing : Bool) : (e'.prepare plan tracing).network.Paced scene.sources plan.period := by
  have hsame := hafter.alike.prepared plan tracing
  have hdepicted : (e.prepare plan tracing).network.endpoints = e.network.endpoints := by rw [network_prepare]
  refine ⟨?_, ?_, ?_⟩
  · rw [hsame.sources, ← h.sources]
    unfold Network.sources
    rw [hdepicted]
  · -- the variate is there, and gets its law
    have hsize := congrArg Array.size hsame.laws
    have hsome := (Array.getElem?_eq_some_iff.1 h.delay).1
    rw [network_prepare, network_prepare] at hsize
    simp only [Array.size_map, Array.size_setIfInBounds] at hsize
    rw [network_prepare]
    exact Array.getElem?_setIfInBounds_self_of_lt (by omega)
  · intro n hn
    obtain ⟨⟨consumed, traffic?⟩, t, hx, rfl⟩ := mem_sources.1 hn
    obtain ⟨y, produced, hy, ht⟩ := hsame.traffic hx rfl
    unfold Network.endpoint at hy
    rw [hdepicted] at hy
    obtain ⟨node, traffic, hk, hsource⟩ := h.source_of hy ht
    have hsite : (e'.prepare plan tracing).network.topology.node n = .ok (node.site n.index) := by
      rw [hsame.topology, network_prepare]
      exact Topology.node_eq_ok.2 (h.site n.index node hk)
    have hperiod : t.period = some periodId := hsource.period
    have hkept : ({ t with period := some periodId } : Traffic) = t := by rw [← hperiod]
    rw [setPeriod, editTraffic_source hx hsite, hkept, setEndpoint_self hx]

/-- A scene that passes its check can be set up, and its sources are sound. The network has a node, an interface and a
medium for each node of the scene, and the sources are the nodes with traffic, each with the destinations that the scene
gives it. However many runs have been made, the next one sets the period of all these sources, and it ends early only
because a frame finds no member on a medium, or no route. -/
theorem checked_sets_up (scene : Scene) (sweep : Sweep) (h : scene.check = .ok ()) :
    ∃ e, ofScene scene sweep = .ok e ∧ e.sweep = sweep ∧ scene.Depicts sweep e.network ∧
      (∀ e' plan tracing, e.After e' → (e'.prepare plan tracing).network.Paced scene.sources plan.period) ∧
      ∀ e' fuel plan tracing error left, e.After e' → e'.run fuel plan tracing = .ok (.error error, left) →
        (∃ medium, error.error = .emptyMedium medium) ∨
          ∃ iface destination, error.error = .noRoute iface destination := by
  have hc := consistent_of_check h
  have hdepicts := depicts sweep hc
  refine ⟨_, ofScene_eq sweep hc, rfl, hdepicts, ?_, ?_⟩
  · intro e' plan tracing hafter
    exact hdepicts.paced hafter plan tracing
  · intro e' fuel plan tracing error left hafter hrun
    exact run_fails hdepicts.equipped hafter hrun

/-- Three nodes in a row with numbers out of order. The first sends to the last, which is named twice, and to the
one in the middle; the last brings its own law along. -/
def row : Scene where
  defaultArrival := some (.delta 5)
  nodes := [
    { id := 7, name := none, position := ⟨0, 0⟩, radius := 1.5,
      traffic := some { destinations := [2, 9, 2], arrival := none, maxMessages := some 3, messageLength := none } },
    { id := 9, name := some "middle", position := ⟨1, 0⟩, radius := 1.5, traffic := none },
    { id := 2, name := none, position := ⟨2, 0⟩, radius := 1.5,
      traffic := some
        { destinations := [7], arrival := some (.delta 1), maxMessages := none, messageLength := some 64 } }]

/-- The row passes its check, and the nodes at its ends are the sources whose period is set. -/
theorem row_sets_up : row.check = .ok () ∧
    ∃ e, ofScene row {} = .ok e ∧ e.sweep = {} ∧ row.Depicts {} e.network ∧
      (∀ e' plan tracing, e.After e' →
        (e'.prepare plan tracing).network.Paced [⟨0⟩, ⟨2⟩] plan.period) ∧
      ∀ e' fuel plan tracing error left, e.After e' → e'.run fuel plan tracing = .ok (.error error, left) →
        (∃ medium, error.error = .emptyMedium medium) ∨
          ∃ iface destination, error.error = .noRoute iface destination := by
  have hchecked : row.check = .ok () := by rfl
  exact ⟨hchecked, checked_sets_up row {} hchecked⟩

end Scene

end CarrierSense
