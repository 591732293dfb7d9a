import CarrierSense.Proofs.Network.BusyPeriods
import CarrierSense.Proofs.Network.Handles
import CarrierSense.Proofs.Network.Routing

/-!
# The addresses of frames

A frame is addressed anew for every hop. Whoever wants it sent, it is routed when it joins the queue of an interface,
and from then on bears this interface as its sender and the next hop as its receiver. An acknowledgement goes back
the way that a frame has come. Both hold of all that an interface has to send, at every moment of a run.
-/

namespace CarrierSense

namespace Topology

variable {topo topo' : Topology Float} {i : InterfaceId} {d : NodeId}

/-- No coordinate of a node is NaN. -/
def Numbered (topo : Topology Float) : Prop :=
  ∀ site ∈ topo.nodes.toList, site.position.x.isNaN = false ∧ site.position.y.isNaN = false

/-- Whether all coordinates are numbers can be decided. -/
instance : Decidable topo.Numbered :=
  inferInstanceAs (Decidable (∀ site ∈ _, _ ∧ _))

/-- Where all coordinates are numbers, those of each node are. -/
lemma Numbered.node {site : Site Float} (h : topo.Numbered) (hd : topo.node d = .ok site) :
    site.position.x.isNaN = false ∧ site.position.y.isNaN = false := by
  obtain ⟨hlt, hsite⟩ := Array.getElem?_eq_some_iff.1 (node_eq_ok.1 hd)
  exact h site (hsite ▸ Array.getElem_mem_toList hlt)

/-- Nodes keep their places. -/
lemma Extends.numbered (h : topo.Extends topo') (hn : topo'.Numbered) : topo.Numbered := by
  intro site hmem
  obtain ⟨k, hlt, rfl⟩ := List.getElem_of_mem hmem
  rw [Array.length_toList] at hlt
  have hk : topo.node ⟨k⟩ = .ok topo.nodes[k] := node_eq_ok.2 (Array.getElem?_eq_getElem hlt)
  obtain ⟨site', hsite', hplace⟩ := h.node hk
  have hnumbered := hn.node hsite'
  rw [hplace] at hnumbered
  exact hnumbered

/-- In a furnished topology with numbers for coordinates, routing finds all that it measures. -/
lemma Furnished.surveyed (h : topo.Furnished) (hn : topo.Numbered) (i : InterfaceId) : topo.Surveyed i := by
  intro m hm
  obtain ⟨iface, hiface⟩ := h.listener hm
  obtain ⟨site, hsite, hplace⟩ := h.positionOf hiface
  exact ⟨site.position, hplace, hn.node hsite⟩

/-- If all handles are valid and all coordinates are numbers, then routing does as it should. -/
lemma Furnished.routes {iface : Interface Float} {target : Site Float} (h : topo.Furnished) (hn : topo.Numbered)
    (hi : topo.interface i = .ok iface) (hd : topo.node d = .ok target) :
    ∃ medium, topo.medium iface.medium = .ok medium ∧ topo.Routes medium i d := by
  obtain ⟨home, hhome⟩ := h.home hi
  obtain ⟨medium, hmedium⟩ := h.medium hi
  exact ⟨medium, hmedium, Topology.routes hi hmedium hhome hd (h.surveyed hn i)⟩

end Topology

namespace Network

variable {net mid net' before : Network} {w : Setting} {i j : InterfaceId} {k : Timer} {r : Radio}
  {q : Sequel} {t : Turn} {f : Frame} {m : Moment} {log : List Moment} {result : Except NetworkError Unit}

/-- The frame `f` joins the queue of the interface `i`, on its way to `j`, where it has been routed. -/
structure Moment.Enqueues (m : Moment) (i : InterfaceId) (f : Frame) (j : InterfaceId) : Prop where
  sender : f.sender = some i
  receiver : f.receiver = some j
  route : m.before.topology.route i f.destination = .ok (.ok (some j))
  joined : m.before.Joined i f m.after

/-- What becomes of the frames that an interface has to send: they get fewer, a frame joins the queue, or a data frame
is taken, whose acknowledgement is owed from now on. -/
inductive Moment.Serves (m : Moment) (i : InterfaceId) : Prop where
  | keeps (queue : m.after.queue i <:+ m.before.queue i) (owes : m.after.owes i <:+ m.before.owes i)
  | enqueues {f : Frame} {j : InterfaceId} (enqueues : m.Enqueues i f j) (owes : m.after.owes i = m.before.owes i)
  | takes {f : Frame} (takes : m.Takes i f) (data : f.isAck = false) (queue : m.after.queue i = m.before.queue i)

/-- A moment serves an interface whose frames stay as they are. -/
lemma Moment.Serves.of_eq (hq : m.after.queue = m.before.queue) (ho : m.after.owes = m.before.owes)
    (i : InterfaceId) : m.Serves i :=
  .keeps (hq ▸ List.suffix_rfl) (ho ▸ List.suffix_rfl)

/-- A frame that is routed joins the queue of one interface. -/
lemma Moment.Serves.of_joined (hroute : m.before.topology.route j f.destination = .ok (.ok (some i)))
    (hq : m.before.Joined j (f.onHop j i) m.after) (ho : m.after.owes = m.before.owes) (i' : InterfaceId) :
    m.Serves i' := by
  by_cases hi : i' = j
  · subst hi
    have henqueues : m.Enqueues i' (f.onHop i' i) i := ⟨rfl, rfl, hroute, hq⟩
    exact .enqueues henqueues (congrFun ho i')
  · exact .keeps (hq.other hi ▸ List.suffix_rfl) (ho ▸ List.suffix_rfl)

/-- A frame that is sent serves all interfaces: it joins one queue. -/
lemma send_serves (h : m.before.Sound) (hs : m.before.send j f = .ok (result, m.after)) (i : InterfaceId) :
    m.Serves i := by
  rcases send_routed h.coherent h.onTime hs with ⟨-, hsame⟩ | ⟨-, next, hroute, hq⟩
  · exact .of_eq (by rw [hsame]) (by rw [hsame]) i
  · exact .of_joined hroute hq.joined (send_unanswered h hs).owes i

/-- A frame that is produced serves all interfaces: it joins one queue. -/
lemma produce_serves {n : NodeId} (h : m.before.Sound) (hp : m.before.produce n = .ok (result, m.after))
    (i : InterfaceId) : m.Serves i := by
  have howes := (produce_unanswered h hp).owes
  rcases produce_routed h.coherent h.onTime hp with ⟨ha, -, -⟩ | ⟨-, j, f, next, hroute, hmade⟩
  · exact .of_eq (views_of_radio ha.radio).1 howes i
  · obtain ⟨mid, hq, ha, -⟩ := hmade.queued
    have hqueue := (views_of_radio ha.radio).1
    have hjoined : m.before.Joined j (f.onHop j next) m.after := by
      refine ⟨?_, fun hj => ?_⟩
      · rw [hqueue]
        exact hq.joined.self
      · rw [hqueue]
        exact hq.joined.other hj
    exact .of_joined hroute hjoined howes i

/-- What becomes of the frames of an interface whose timer runs out. -/
lemma Fired.serves (hF : Fired net before i k r w q t mid) (hnext : before.Follows i q mid net') :
    Moment.Serves ⟨before, .event (.timer i k), net'⟩ i := by
  have hself := hF.self
  obtain ⟨hqueue, howes, -⟩ := hF.views_net
  obtain ⟨hqueue₀, howes₀, -⟩ := hF.views_before
  obtain ⟨hqueue', howes', -⟩ := hF.views_self
  have hun := hnext.undisturbed hF.after
  -- only the turn itself touches the frames that the interface holds
  have hbefore : before.queue i = r.outgoing ∧ before.owes i = r.acks := by
    rw [hqueue₀, howes₀, hqueue, howes]
    exact ⟨rfl, rfl⟩
  have hafter : net'.queue i = t.radio.outgoing ∧ net'.owes i = t.radio.acks := by
    rw [hun.queue, hun.owes, hqueue', howes']
    exact ⟨rfl, rfl⟩
  have hkeeps : t.radio.outgoing <:+ r.outgoing → t.radio.acks <:+ r.acks →
      Moment.Serves ⟨before, .event (.timer i k), net'⟩ i := by
    intro hq ha
    refine .keeps ?_ ?_
    · rw [hafter.1, hbefore.1]
      exact hq
    · rw [hafter.2, hbefore.2]
      exact ha
  cases hF.outcome with
  | launch _ _ hout hacks | answer _ _ _ hout hacks =>
    exact hkeeps (hout ▸ List.suffix_rfl) (hacks ▸ List.nil_suffix)
  | quiet _ hout hacks => exact hkeeps (hout ▸ List.suffix_rfl) (hacks ▸ List.suffix_rfl)
  | settle _ _ _ _ hout hacks =>
    obtain ⟨f, hout⟩ := hout
    exact hkeeps (hout ▸ List.suffix_cons _ _) (hacks ▸ List.nil_suffix)
  | @accept x hq hk hx hdata hrecv hout hacks _ _ _ hh =>
    subst hk
    rw [hself] at hacks hrecv
    obtain rfl := hnext.eq_of_silent hq
    have haccepts := hF.accepts (hF.ends_now rfl hx) hx hacks hh
    refine .takes ⟨rfl, hrecv, fun _ => haccepts, fun hack => ?_⟩ hdata ?_
    · rw [hdata] at hack
      cases hack
    · show net'.queue i = before.queue i
      rw [hafter.1, hbefore.1, hout]

/-- Whatever event fires, it finds the frames as they were, and serves each interface in one of these ways. -/
lemma Sound.fires_serves (h : net.Sound) (hf : net.Fires m result) (i : InterfaceId) :
    m.before.queue i = net.queue i ∧ m.before.owes i = net.owes i ∧ m.Serves i := by
  obtain ⟨before, cause, after⟩ := m
  obtain ⟨id, e, scheduler, hp, hc, rfl, hfire⟩ := hf
  have hother : (∀ j k, e ≠ .timer j k) → before.queue i = net.queue i ∧ before.owes i = net.owes i := by
    intro he
    obtain ⟨rfl, -⟩ := Network.pop_other h.coherent h.onTime hp hc he
    exact ⟨rfl, rfl⟩
  cases e with
  | timer j k =>
    obtain ⟨-, r, w, q, t, mid, hF, hnext⟩ := h.fired hp hc hfire
    obtain ⟨hqueue₀, howes₀, -⟩ := hF.views_before
    refine ⟨congrFun hqueue₀ i, congrFun howes₀ i, ?_⟩
    by_cases hj : i = j
    · subst hj
      exact hF.serves hnext
    · obtain ⟨hqueue, howes, -⟩ := hF.views_other hj
      have hun := hnext.undisturbed hF.after
      have hsame : after.queue i = before.queue i ∧ after.owes i = before.owes i := by
        rw [hun.queue, hun.owes, hqueue, howes, hqueue₀, howes₀]
        exact ⟨rfl, rfl⟩
      exact .keeps (hsame.1 ▸ List.suffix_rfl) (hsame.2 ▸ List.suffix_rfl)
  | produce n =>
    obtain ⟨hqueue, howes⟩ := hother (by simp)
    exact ⟨hqueue, howes, produce_serves (h.pop_other hp hc (by simp)) hfire i⟩
  | forward j f =>
    obtain ⟨hqueue, howes⟩ := hother (by simp)
    exact ⟨hqueue, howes, send_serves (h.pop_other hp hc (by simp)) hfire i⟩

/-- Whatever is called, it serves each interface in one of these ways. -/
lemma apply_serves {op : Op} {fuel : Nat} (h : net.Sound) (hop : op.firesEvents = false)
    (ha : op.apply fuel net = .ok (result, net')) (i : InterfaceId) : Moment.Serves ⟨net, .call op, net'⟩ i := by
  by_cases hk : op.keepsBooks = true
  · obtain ⟨hqueue, howes, -⟩ := views_of_radio (Op.apply_aside hk h.coherent h.onTime ha).radio
    exact .of_eq hqueue howes i
  cases op with
  | addInterface n name radius =>
    simp only [Op.apply, bind_eq_ok] at ha
    obtain ⟨⟨i', mid⟩, hi, ha⟩ := ha
    cases ha
    obtain ⟨hqueue, howes, -⟩ := addInterface_views h.coherent hi
    exact .of_eq hqueue howes i
  | initRun =>
    -- radios that are switched on hold nothing
    obtain ⟨hqueue, howes, -⟩ := views_of_radio (initRun_aside ha).1.radio
    have hnone : net.reset.queue i = [] ∧ net.reset.owes i = [] := by
      unfold queue owes
      split
      · rename_i r hr
        rw [radio_reset_eq hr]
        exact ⟨rfl, rfl⟩
      · exact ⟨rfl, rfl⟩
    refine .keeps ?_ ?_
    · show net'.queue i <:+ net.queue i
      rw [hqueue, hnone.1]
      exact List.nil_suffix
    · show net'.owes i <:+ net.owes i
      rw [howes, hnone.2]
      exact List.nil_suffix
  | produce n => exact produce_serves (m := ⟨net, .call (.produce n), net'⟩) h ha i
  | send j f => exact send_serves (m := ⟨net, .call (.send j f), net'⟩) h ha i
  | receive j f =>
    obtain ⟨-, r, w, hr, hw, hs⟩ := receive_settled h.coherent h.onTime ha
    have hun := h.receive_undisturbed hr hw hs
    exact .of_eq hun.queue hun.owes i
  | broadcast j f =>
    obtain ⟨-, medium, -, hh⟩ := broadcast_hears h.coherent h.onTime ha
    have hun := hh.undisturbed h
    exact .of_eq hun.queue hun.owes i
  | step | runTo | runUntilIdle => cases hop
  | _ => exact absurd rfl hk

/-- The interface `i` has to send what it has been given to send: every frame of its queue has been routed to a member
of its medium when it joined the queue, and every acknowledgement it owes answers a data frame that it has taken. -/
structure Addressed (log : List Moment) (net : Network) (i : InterfaceId) : Prop where
  queue : ∀ f ∈ net.queue i, f.sender = some i ∧ ∃ j, f.receiver = some j ∧ j ∈ net.topology.listeners i ∧
    ∃ m ∈ log, m.Enqueues i f j
  acks : ∀ a ∈ net.owes i, a.isAck = true ∧ a.sender = some i ∧ a.airtime = net.timing.ackDuration ∧
    ∃ m ∈ log, ∃ f, m.Takes i f ∧ f.isAck = false ∧ a.id = f.id ∧ a.source = f.destination ∧ a.destination = f.source

/-- An interface with nothing to send is addressed. -/
lemma Addressed.of_silent (hq : net.queue i = []) (ho : net.owes i = []) : Addressed log net i := by
  refine ⟨fun f hf => ?_, fun a ha => ?_⟩
  · rw [hq] at hf
    cases hf
  · rw [ho] at ha
    cases ha

/-- Whatever becomes of the frames of an interface, they stay addressed. -/
lemma Addressed.serves (h : Addressed log net i) (hs : m.Serves i)
    (hqueue : m.before.queue i = net.queue i) (howes : m.before.owes i = net.owes i)
    (hbefore : net.topology.Extends m.before.topology) (hafter : m.before.topology.Extends m.after.topology)
    (htiming : m.after.timing = net.timing) (htiming₀ : m.before.timing = net.timing) :
    Addressed (log ++ [m]) m.after i := by
  have hmem : ∀ {m'}, m' ∈ log → m' ∈ log ++ [m] := fun hm => List.mem_append_left _ hm
  have hlast : m ∈ log ++ [m] := List.mem_append_right _ (List.mem_singleton_self m)
  have hlisteners := hafter.listeners i
  -- what was there before is addressed as before
  have hold : ∀ f ∈ net.queue i, f.sender = some i ∧ ∃ j, f.receiver = some j ∧
      j ∈ m.after.topology.listeners i ∧ ∃ m' ∈ log ++ [m], m'.Enqueues i f j := by
    intro f hf
    obtain ⟨hsender, j, hreceiver, hj, m', hm', henqueues⟩ := h.queue f hf
    exact ⟨hsender, j, hreceiver, hlisteners.subset ((hbefore.listeners i).subset hj), m', hmem hm', henqueues⟩
  have hack : ∀ a ∈ net.owes i, a.isAck = true ∧ a.sender = some i ∧ a.airtime = m.after.timing.ackDuration ∧
      ∃ m' ∈ log ++ [m], ∃ f, m'.Takes i f ∧ f.isAck = false ∧ a.id = f.id ∧ a.source = f.destination ∧
        a.destination = f.source := by
    intro a ha
    obtain ⟨hack, hsender, hairtime, m', hm', hrest⟩ := h.acks a ha
    exact ⟨hack, hsender, htiming ▸ hairtime, m', hmem hm', hrest⟩
  cases hs with
  | keeps hq ho =>
    refine ⟨fun f hf => hold f ?_, fun a ha => hack a ?_⟩
    · rw [← hqueue]
      exact hq.subset hf
    · rw [← howes]
      exact ho.subset ha
  | @enqueues f j he ho =>
    refine ⟨fun f' hf => ?_, fun a ha => hack a ?_⟩
    · rw [he.joined.self, List.mem_append, List.mem_singleton] at hf
      rcases hf with hf | rfl
      · exact hold f' (hqueue ▸ hf)
      · exact ⟨he.sender, j, he.receiver, hlisteners.subset (Topology.mem_of_route he.route), m, hlast, he⟩
    · rw [← howes, ← ho]
      exact ha
  | @takes f ht hdata hq =>
    refine ⟨fun f' hf => hold f' ?_, fun a ha => ?_⟩
    · rw [← hqueue, ← hq]
      exact hf
    · rw [(ht.data hdata).acks, List.mem_append, List.mem_singleton] at ha
      rcases ha with ha | rfl
      · exact hack a (howes ▸ ha)
      · refine ⟨rfl, rfl, ?_, m, hlast, f, ht, hdata, rfl, rfl, rfl⟩
        rw [htiming, ← htiming₀]
        rfl

/-- No handle dangles, the topology has only grown, and whatever an interface had to send at any moment was
addressed. -/
structure Charted (log : List Moment) (net : Network) : Prop where
  sound : net.Sound
  furnished : net.topology.Furnished
  addressed : ∀ i, Addressed log net i
  moments : ∀ {past m future}, log = past ++ m :: future → m.before.topology.Furnished ∧
    m.before.topology.Extends net.topology ∧ m.after.topology.Extends net.topology ∧
      ∀ i, Addressed (past ++ [m]) m.after i

/-- A moment is added to the log, in which the topology may have grown. -/
lemma Charted.advance (h : Charted log net) (hsound : m.after.Sound) (hfurnished : m.after.topology.Furnished)
    (hbefore : m.before.topology = net.topology) (hgrown : net.topology.Extends m.after.topology)
    (hserves : ∀ i, m.before.queue i = net.queue i ∧ m.before.owes i = net.owes i ∧ m.Serves i)
    (htiming : m.before.timing = net.timing ∧ m.after.timing = net.timing) : Charted (log ++ [m]) m.after := by
  have hbefore' : net.topology.Extends m.before.topology := hbefore ▸ .refl _
  have haddressed : ∀ i, Addressed (log ++ [m]) m.after i := by
    intro i
    obtain ⟨hqueue, howes, hm⟩ := hserves i
    exact (h.addressed i).serves hm hqueue howes hbefore' (hbefore ▸ hgrown) htiming.2 htiming.1
  refine ⟨hsound, hfurnished, haddressed, fun {past m' future} hlog => ?_⟩
  rcases cut_of_snoc hlog with ⟨rfl, rfl, -⟩ | ⟨future', -, hcut⟩
  · exact ⟨hbefore ▸ h.furnished, hbefore ▸ hgrown, .refl _, haddressed⟩
  · obtain ⟨hfurnished', hext, hext', haddressed'⟩ := h.moments hcut
    exact ⟨hfurnished', hext.trans hgrown, hext'.trans hgrown, haddressed'⟩

/-- Operations with valid handles keep all frames addressed. -/
lemma charted_closed : Closed (fun log net => (∀ m ∈ log, m.Valid) → Charted log net) fun _ => True where
  clock := fun h ha hvalid => by
    have hc := h hvalid
    exact ⟨hc.sound.advanceTo ha, hc.furnished, fun i => ⟨(hc.addressed i).queue, (hc.addressed i).acks⟩, hc.moments⟩
  event := fun h hf _ hvalid => by
    have hc := h fun m hm => hvalid m (List.mem_append_left _ hm)
    obtain ⟨hpop, hfire⟩ := hc.sound.fires_sameShape hf
    have hsame := (hpop.trans hfire).topology
    exact hc.advance (hc.sound.fires hf) (hsame ▸ hc.furnished) hpop.topology (hsame ▸ .refl _)
      (hc.sound.fires_serves hf) (hc.sound.fires_timing hf)

/-- At each moment of a run of valid operations all frames are addressed. -/
lemma Run.charted {allowed : Op → Except NetworkError Unit → Prop} {timing : Timing} {seed : UInt64}
    {laws : List Law} (hrun : Run allowed (Network.new timing seed laws) log net) (hvalid : ∀ m ∈ log, m.Valid) :
    Charted log net := by
  refine charted_closed.run (fun {log net op fuel result net'} h hop _ ha hvalid => ?_) (fun _ _ => trivial) ?_ hrun
    hvalid
  · have hc := h fun m hm => hvalid m (List.mem_append_left _ hm)
    have hop' : op.Valid net := hvalid ⟨net, .call op, net'⟩ (by simp)
    obtain ⟨hfurnished, hgrown⟩ := apply_furnished hc.furnished hc.sound hop hop' ha
    exact hc.advance (m := ⟨net, .call op, net'⟩) (hc.sound.apply hop ha) hfurnished rfl hgrown
      (fun i => ⟨rfl, rfl, apply_serves hc.sound hop ha i⟩) ⟨rfl, hc.sound.apply_timing hop ha⟩
  · refine fun _ => ⟨new_sound timing seed laws, new_furnished timing seed laws, fun i => ?_, fun hlog => ?_⟩
    · exact .of_silent (by simp [queue, radio, new]) (by simp [owes, radio, new])
    · simp at hlog

/-- If all handles are valid, then every frame in the queue of an interface has this interface as its sender and a
member of its medium as its receiver, the one it was routed to when it joined the queue, which stays a member for good.
Every acknowledgement that the interface owes answers a data frame that it has taken. If moreover no coordinate is NaN,
then a frame is routed to the node it is meant for if that is in reach, otherwise along the row and otherwise along the
column that it shares with it, to the first of the farthest members; routing fails where there are no members, and finds
no hop in no other case but that the node is out of reach and off both lines. -/
theorem Run.hop_addressing {timing : Timing} {seed : UInt64} {laws : List Law}
    (hrun : Run (fun _ _ => True) (Network.new timing seed laws) log net) (hvalid : ∀ m ∈ log, m.Valid) :
    (∀ i, Addressed log net i) ∧
      (∀ past m future, log = past ++ m :: future → ∀ i, Addressed (past ++ [m]) m.after i ∧
        ∀ f ∈ m.after.queue i, ∀ j, f.receiver = some j → j ∈ net.topology.listeners i) ∧
      (net.topology.Numbered →
        (∀ m ∈ log, ∀ i f j, m.Enqueues i f j → m.before.topology.NextHop i f.destination j) ∧
          ∀ i iface d target, net.topology.interface i = .ok iface → net.topology.node d = .ok target →
            ∃ medium, net.topology.medium iface.medium = .ok medium ∧ net.topology.Routes medium i d) := by
  have hc := hrun.charted hvalid
  refine ⟨hc.addressed, fun past m future hlog i => ?_, fun hnumbered => ⟨fun m hm i f j henqueues => ?_, ?_⟩⟩
  · obtain ⟨-, -, hext, haddressed⟩ := hc.moments hlog
    refine ⟨haddressed i, fun f hf j hj => ?_⟩
    obtain ⟨-, j', hj', hmem, -⟩ := (haddressed i).queue f hf
    cases hj.symm.trans hj'
    exact (hext.listeners i).subset hmem
  · obtain ⟨past, future, rfl⟩ := List.append_of_mem hm
    obtain ⟨hfurnished, hext, -, -⟩ := hc.moments rfl
    obtain ⟨⟨iface, hiface⟩, site, hsite⟩ := route_ends henqueues.route
    obtain ⟨medium, -, hroutes⟩ := hfurnished.routes (hext.numbered hnumbered) hiface hsite
    exact (hroutes.finds j).1 henqueues.route
  · exact fun i iface d target hi hd => hc.furnished.routes hnumbered hi hd

/-- Three nodes in a row, where the outer ones hear only the one in the middle. While this one still owes an
acknowledgement to the first, it has taken the frame on for the last. -/
theorem hop_addressing_row : ∃ log net,
    Run (fun _ _ => True) (Network.new {} 7 [.delta 5]) log net ∧ (∀ m ∈ log, m.Valid) ∧ net.topology.Numbered ∧
      (net.queue ⟨0⟩).map Frame.receiver = [some ⟨1⟩] ∧ (net.queue ⟨1⟩).map Frame.receiver = [some ⟨2⟩] ∧
      (net.owes ⟨1⟩).map Frame.receiver = [some ⟨0⟩] ∧ (∀ i, Addressed log net i) ∧
      ∀ m ∈ log, ∀ i f j, m.Enqueues i f j → m.before.topology.NextHop i f.destination j := by
  have hend : endsWith (Op.applyAll 100 [.addSource "a" ⟨0, 0⟩ ⟨0⟩ 1, .addNode "b" ⟨1, 0⟩, .addNode "c" ⟨2, 0⟩,
      .addInterface ⟨0⟩ "ia" 2, .addInterface ⟨1⟩ "ib" 2, .addInterface ⟨2⟩ "ic" 2, .addMember ⟨0⟩ ⟨1⟩,
      .addMember ⟨1⟩ ⟨0⟩, .addMember ⟨1⟩ ⟨2⟩, .addMember ⟨2⟩ ⟨1⟩, .addDestination ⟨0⟩ ⟨2⟩, .initRun, .runTo 550] []
      (.new {} 7 [.delta 5])) (fun log net => decide (∀ m ∈ log, m.Valid) && (decide net.topology.Numbered &&
        ((net.queue ⟨0⟩).map Frame.receiver = [some ⟨1⟩] && ((net.queue ⟨1⟩).map Frame.receiver = [some ⟨2⟩] &&
          (net.owes ⟨1⟩).map Frame.receiver = [some ⟨0⟩])))) = true := by
    decide +kernel
  obtain ⟨log, net, hok, htest⟩ := endsWith_iff.1 hend
  have hrun : Run (fun _ _ => True) (Network.new {} 7 [.delta 5]) log net :=
    .of_applyAll .start hok fun _ _ => trivial
  simp only [Bool.and_eq_true, decide_eq_true_eq] at htest
  obtain ⟨hvalid, hnumbered, hfirst, hmiddle, howed⟩ := htest
  obtain ⟨haddressed, -, hrouted⟩ := hrun.hop_addressing hvalid
  exact ⟨log, net, hrun, hvalid, hnumbered, hfirst, hmiddle, howed, haddressed, (hrouted hnumbered).1⟩

end Network

end CarrierSense
