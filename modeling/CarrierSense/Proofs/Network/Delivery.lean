import CarrierSense.Network.Report
import CarrierSense.Proofs.Network.Traffic
import Mathlib.Algebra.BigOperators.Group.Finset.Piecewise
import Mathlib.Algebra.Order.BigOperators.Group.Finset

/-!
# End-to-end delivery

A run keeps an account of every frame for a node: it has reached the node, it waits to be forwarded, or
it waits in a queue and was not accepted yet by the receiver of its hop. No event takes anything from
this account, and in a network that has come to rest all of it has reached the node.
-/

namespace CarrierSense

/-- Whether an event forwards a frame for the node `d`. -/
def Event.forwardsTo (d : NodeId) : Event → Bool
  | .forward _ f => f.destination = d
  | _ => false

namespace Network

/-- The frames that a source makes when it fires: they join the queue of the interface that its node
sends with. -/
def Moment.made (m : Moment) : List Frame :=
  match m.cause with
  | .event (.produce n) =>
    match m.before.topology.node n with
    | .ok site => (site.iface.map m.joined).getD []
    | .error _ => []
  | _ => []

/-- How many frames have reached a node. -/
def consumed (net : Network) (n : NodeId) : Nat :=
  match net.endpoint n with
  | .ok x => x.consumed
  | .error _ => 0

/-- How many frames a node has produced. -/
def produced (net : Network) (n : NodeId) : Nat :=
  match net.endpoint n with
  | .ok x => x.produced
  | .error _ => 0

/-- The frames in a queue that were not accepted since they were sent last. -/
def unaccepted (net : Network) (g : Flights) (i : InterfaceId) : List Frame :=
  if (g i).any (·.stage = .accepted) then (net.queue i).tail else net.queue i

/-- How many frames for the node `d` the queues of a network hold. -/
def held (net : Network) (g : Flights) (d : NodeId) : Nat :=
  ∑ i ∈ Finset.range net.topology.interfaces.size,
    (net.unaccepted g ⟨i⟩).countP (·.destination = d)

/-- How many frames for the node `d` there are in a network, or have reached it. -/
def account (net : Network) (g : Flights) (d : NodeId) : Nat :=
  net.consumed d + net.scheduler.waiting (Event.forwardsTo d) + net.held g d

variable {net mid net' : Network} {i s : InterfaceId} {k : Timer} {f : Frame} {g g' : Flights}
  {d : NodeId} {m : Moment} {log : List Moment} {result : Except NetworkError Unit}

/-- What a node has consumed is kept by its endpoint alone. -/
lemma consumed_congr (he : net'.endpoint = net.endpoint) : net'.consumed d = net.consumed d := by
  unfold consumed
  rw [he]

/-- What a node has produced is kept by its endpoint alone. -/
lemma produced_congr {n : NodeId} (he : net'.endpoint n = net.endpoint n) :
    net'.produced n = net.produced n := by
  unfold produced
  rw [he]

/-- Sums that differ in one place differ by that place. -/
lemma sum_change {N j : Nat} {a b : Nat → Nat} (hj : j < N) (h : ∀ i, i ≠ j → b i = a i) :
    (∑ i ∈ Finset.range N, b i) + a j = (∑ i ∈ Finset.range N, a i) + b j := by
  have hmem := Finset.mem_range.2 hj
  calc (∑ i ∈ Finset.range N, b i) + a j
      = (∑ i ∈ (Finset.range N).erase j, b i) + b j + a j := by rw [Finset.sum_erase_add _ _ hmem]
    _ = (∑ i ∈ (Finset.range N).erase j, a i) + a j + b j := by
        rw [Finset.sum_congr rfl fun i hi => h i (Finset.mem_erase.1 hi).1, Nat.add_right_comm]
    _ = (∑ i ∈ Finset.range N, a i) + b j := by rw [Finset.sum_erase_add _ _ hmem]

/-- More frames in each queue are more frames in all of them. -/
lemma held_le (ht : net'.topology = net.topology)
    (h : ∀ i, (net.unaccepted g i).countP (·.destination = d) ≤
      (net'.unaccepted g' i).countP (·.destination = d)) : net.held g d ≤ net'.held g' d := by
  unfold held
  rw [ht]
  exact Finset.sum_le_sum fun i _ => h ⟨i⟩

/-- If one queue changes, then the sum changes by that queue. -/
lemma held_change (ht : net'.topology = net.topology)
    (hi : i.index < net.topology.interfaces.size)
    (h : ∀ {j}, j ≠ i → net'.unaccepted g' j = net.unaccepted g j) :
    net'.held g' d + (net.unaccepted g i).countP (·.destination = d) =
      net.held g d + (net'.unaccepted g' i).countP (·.destination = d) := by
  unfold held
  rw [ht]
  refine sum_change (a := fun i => (net.unaccepted g ⟨i⟩).countP (·.destination = d))
    (b := fun i => (net'.unaccepted g' ⟨i⟩).countP (·.destination = d)) hi fun j hj => ?_
  rw [h (fun he => hj (congrArg InterfaceId.index he))]

/-- Once its head has been accepted, the rest of a queue is what is left. -/
lemma unaccepted_of_accepted {fl : Flight} (hg : g i = some fl) (hst : fl.stage = .accepted) :
    net.unaccepted g i = (net.queue i).tail := by
  simp [unaccepted, hg, hst]

/-- Until its head has been accepted, all of a queue is left. -/
lemma unaccepted_of_ne {fl : Flight} (hg : g i = some fl) (hst : fl.stage ≠ .accepted) :
    net.unaccepted g i = net.queue i := by
  simp [unaccepted, hg, hst]

/-- What is left in a queue depends on this queue and on its own flight. -/
lemma unaccepted_congr (hq : net'.queue i = net.queue i) (hg : g' i = g i) :
    net'.unaccepted g' i = net.unaccepted g i := by
  simp only [unaccepted, hq, hg]

/-- With nodes and scheduler as they were, an account is no smaller if no queue holds less. -/
lemma Kept.account_le (h : net.Kept net') (ht : net'.topology = net.topology)
    (hq : ∀ i, (net.unaccepted g i).countP (·.destination = d) ≤
      (net'.unaccepted g' i).countP (·.destination = d)) : net.account g d ≤ net'.account g' d := by
  unfold account
  rw [consumed_congr h.endpoint, h.waiting fun _ _ => rfl]
  exact Nat.add_le_add_left (held_le ht hq) _

/-- A frame that is accepted moves from the queue of its sender to its node, or waits to be forwarded. -/
lemma Accepts.account_eq (h : net.Accepts i f net') (hq : net'.queue = net.queue)
    (ht : net'.topology = net.topology) (hflight : g s = some ⟨f, net.now, .aloft⟩)
    (hhead : (net.queue s).head? = some f) (hs : s.index < net.topology.interfaces.size)
    (hd : ∃ x, net.endpoint d = .ok x) :
    net'.account (g.put s ⟨f, net.now, .accepted⟩) d = net.account g d := by
  obtain ⟨rest, hqueue⟩ := List.head?_eq_some_iff.1 hhead
  have hother : ∀ {j}, j ≠ s →
      net'.unaccepted (g.put s ⟨f, net.now, .accepted⟩) j = net.unaccepted g j :=
    fun hj => unaccepted_congr (congrFun hq _) (Flights.put_ne hj)
  have hheld := held_change (d := d) ht hs hother
  rw [unaccepted_of_ne hflight (by simp), unaccepted_of_accepted (Flights.put_self ..) rfl, hq, hqueue,
    List.tail_cons, List.countP_cons] at hheld
  obtain ⟨iface, -, hend, hwait⟩ := h.handed
  obtain ⟨x, hx⟩ := hd
  have hcons : net'.consumed d =
      net.consumed d + if d = f.destination ∧ f.destination = iface.node then 1 else 0 := by
    unfold Network.consumed
    rw [hend, hx]
    rfl
  unfold account
  rw [hcons, hwait fun _ _ => rfl]
  simp only [Event.forwardsTo]
  by_cases hdest : f.destination = d
  · subst hdest
    by_cases hhome : f.destination = iface.node <;> simp [hhome] at hheld ⊢ <;> omega
  · simp [hdest, Ne.symm hdest] at hheld ⊢
    omega

/-- Whatever timer runs out, nothing is taken from the account of a node. -/
lemma Progress.account_le (h : net.Progress i k net' g g') (ht : net'.topology = net.topology)
    (hhead : ∀ {i fl}, g i = some fl → fl.stage ≠ .settled → (net.queue i).head? = some fl.frame)
    (hrange : ∀ {i}, net.queue i ≠ [] → i.index < net.topology.interfaces.size)
    (hd : ∃ x, net.endpoint d = .ok x) : net.account g d ≤ net'.account g' d := by
  cases h with
  | @launch f _ _ _ hq hkept =>
    refine hkept.account_le ht fun j => ?_
    by_cases hj : j = i
    · -- a frame that is sent again counts again, whether it was accepted or not
      subst hj
      rw [unaccepted_of_ne (Flights.put_self ..) (by simp), hq]
      unfold unaccepted
      split
      · exact (List.tail_sublist _).countP_le
      · exact Nat.le_refl _
    · rw [unaccepted_congr (congrFun hq j) (Flights.put_ne hj)]
  | @accept s f _ _ hflight _ haccepts hq =>
    have hf := hhead hflight (by simp)
    have hne : net.queue s ≠ [] := fun hnil => by
      rw [hnil] at hf
      cases hf
    exact Nat.le_of_eq (haccepts.account_eq hq ht hflight hf (hrange hne) hd).symm
  | @settle fl _ hflight hacc hqueue hother hkept =>
    refine hkept.account_le ht fun j => ?_
    by_cases hj : j = i
    · subst hj
      rw [unaccepted_of_accepted hflight hacc, hqueue, List.tail_cons,
        unaccepted_of_ne (Flights.put_self ..) (by simp)]
    · rw [unaccepted_congr (hother hj) (Flights.put_ne hj)]
  | quiet _ hq hkept =>
    exact hkept.account_le ht fun j => by rw [unaccepted_congr (congrFun hq j) rfl]

/-- With the same frames in queues and nodes, accounts differ in what waits to be forwarded. -/
lemma account_congr (hq : net'.queue = net.queue) (hc : net'.consumed d = net.consumed d)
    (ht : net'.topology = net.topology) :
    net'.account g d + net.scheduler.waiting (Event.forwardsTo d) =
      net.account g d + net'.scheduler.waiting (Event.forwardsTo d) := by
  have hheld : net'.held g d = net.held g d := by
    unfold held unaccepted
    rw [ht, hq]
  unfold account
  omega

/-- The clock moves on without changing any account. -/
lemma account_advanceTo (net : Network) (time : Nat) (g : Flights) (d : NodeId) :
    account { net with scheduler := net.scheduler.advanceTo time } g d = net.account g d := by
  unfold account
  rw [Scheduler.waiting_advanceTo]
  rfl

/-- A frame that joins a queue is added to the account of its destination. -/
lemma Joined.account_eq (h : net.Joined i f net') (ht : net'.topology = net.topology)
    (hc : net'.consumed d = net.consumed d)
    (hw : net'.scheduler.waiting (Event.forwardsTo d) = net.scheduler.waiting (Event.forwardsTo d))
    (hi : i.index < net.topology.interfaces.size)
    (hhead : ∀ {fl}, g i = some fl → fl.stage = .accepted → net.queue i ≠ []) :
    net'.account g d = net.account g d + if f.destination = d then 1 else 0 := by
  have hself : net'.unaccepted g i = net.unaccepted g i ++ [f] := by
    unfold unaccepted
    rw [h.self]
    cases hg : g i with
    | none => rfl
    | some fl =>
      by_cases hst : fl.stage = .accepted
      · simp [hst, List.tail_append_of_ne_nil (hhead hg hst)]
      · simp [hst]
  have hother : ∀ {j}, j ≠ i → net'.unaccepted g j = net.unaccepted g j :=
    fun hj => unaccepted_congr (h.other hj) rfl
  have hheld := held_change (d := d) ht hi hother
  rw [hself, List.countP_append, List.countP_singleton] at hheld
  unfold account
  simp only [decide_eq_true_eq] at hheld
  omega

/-- What an event that makes the frames `made` does to the books of a network. -/
structure Ledger (net : Network) (g : Flights) (made : List Frame) (net' : Network) (g' : Flights) :
    Prop where
  shape : net.SameShape net'
  tracked : net'.Tracked g'
  placed : ∀ {i}, net'.queue i ≠ [] → net.queue i ≠ [] ∨ i.index < net.topology.interfaces.size
  account : ∀ {d}, (∃ x, net.endpoint d = .ok x) →
    net.account g d + made.countP (·.destination = d) ≤ net'.account g' d
  produced : ∑ n ∈ Finset.range net.topology.nodes.size, net'.produced ⟨n⟩ =
    (∑ n ∈ Finset.range net.topology.nodes.size, net.produced ⟨n⟩) + made.length
  target : ∀ f ∈ made, f.destination.index < net.topology.nodes.size

/-- The frames made so far are on the accounts of the nodes that they are for, and were counted by the
nodes that made them. -/
structure Balanced (log : List Moment) (net : Network) (g : Flights) : Prop where
  matched : net.Matched
  tracked : net.Tracked g
  placed : ∀ {i}, net.queue i ≠ [] → i.index < net.topology.interfaces.size
  account : ∀ {d}, (∃ x, net.endpoint d = .ok x) →
    (log.flatMap Moment.made).countP (·.destination = d) ≤ net.account g d
  produced : ∑ n ∈ Finset.range net.topology.nodes.size, net.produced ⟨n⟩ =
    (log.flatMap Moment.made).length
  target : ∀ f ∈ log.flatMap Moment.made, f.destination.index < net.topology.nodes.size

/-- What an event does to the accounts keeps them balanced. -/
lemma Balanced.advance (h : Balanced log net g) (hl : Ledger net g m.made m.after g') :
    Balanced (log ++ [m]) m.after g' := by
  have hmade : (log ++ [m]).flatMap Moment.made = log.flatMap Moment.made ++ m.made := by simp
  refine ⟨hl.shape.matched h.matched, hl.tracked, fun hne => ?_, fun {d} hd => ?_, ?_, fun f hf => ?_⟩
  · rw [hl.shape.topology]
    exact (hl.placed hne).elim h.placed id
  · have hd := (hl.shape.endpoint d).1 hd
    rw [hmade, List.countP_append]
    exact (Nat.add_le_add_right (h.account hd) _).trans (hl.account hd)
  · rw [hl.shape.topology, hl.produced, h.produced, hmade, List.length_append]
  · rw [hl.shape.topology]
    rw [hmade, List.mem_append] at hf
    exact hf.elim (h.target f) (hl.target f)

/-- A frame on its flight is the head of the queue until its flight is settled. -/
lemma Tracked.head (h : net.Tracked g) {fl : Flight} (hg : g i = some fl) (hst : fl.stage ≠ .settled) :
    (net.queue i).head? = some fl.frame := by
  obtain ⟨r, hr⟩ := h.known (i := i) (by simp [hg])
  rw [queue_eq hr]
  exact (h.faithful hr).head hg hst

/-- A queue is not empty while an acknowledgement is due for its head. -/
lemma Tracked.queue_ne_nil (h : net.Tracked g) {fl : Flight} (hg : g i = some fl)
    (hst : fl.stage = .accepted) : net.queue i ≠ [] := by
  have hhead := h.head hg (by simp [hst])
  intro hnil
  rw [hnil] at hhead
  cases hhead

/-- An endpoint that takes frames has produced no more than before. -/
lemma produced_of_endpoint {n : NodeId} {count : Nat}
    (h : net'.endpoint n = (net.endpoint n).map (Endpoint.took · count)) :
    net'.produced n = net.produced n := by
  unfold produced
  rw [h]
  cases net.endpoint n <;> rfl

/-- When a timer runs out, no frame is made, and no account gets smaller. -/
lemma Balanced.expire {id : EventId} {scheduler : Scheduler Event} (h : Balanced log net g)
    (hp : net.scheduler.popDue = some ((id, .timer i k), scheduler))
    (hc : { net with scheduler }.clearTimer id (.timer i k) = .ok mid)
    (hshape : net.SameShape mid ∧ mid.SameShape net')
    (he : mid.expire i k = .ok (result, net')) : ∃ g', Ledger net g [] net' g' := by
  obtain ⟨-, hun, g', htracked, hprogress⟩ := h.tracked.expire hp hc he
  have hsame : ∀ {d}, mid.account g d = net.account g d := by
    intro d
    have hacc := account_congr (g := g) (d := d) hun.queue (consumed_congr hun.endpoint) hshape.1.topology
    rw [hun.waiting fun _ _ => rfl] at hacc
    omega
  refine ⟨g', hshape.1.trans hshape.2, htracked, fun {j} hne => .inl ?_, fun {d} hd => ?_, ?_, by simp⟩
  · rw [← hun.queue]
    cases hprogress with
    | launch _ _ _ hq _ => rwa [hq] at hne
    | accept _ _ _ _ _ hq => rwa [hq] at hne
    | quiet _ hq _ => rwa [hq] at hne
    | settle _ _ _ hq hother _ =>
      by_cases hj : j = i
      · subst hj
        simp [hq]
      · rwa [hother hj] at hne
  · rw [List.countP_nil, Nat.add_zero, ← hsame]
    refine hprogress.account_le hshape.2.topology (fun hg hst => ?_) (fun hne => ?_) ?_
    · rw [hun.queue]
      exact h.tracked.head hg hst
    · rw [hun.queue] at hne
      rw [hshape.1.topology]
      exact h.placed hne
    · rw [hun.endpoint]
      exact hd
  · refine Finset.sum_congr rfl fun n _ => ?_
    have hmid : mid.produced ⟨n⟩ = net.produced ⟨n⟩ := produced_congr (congrFun hun.endpoint _)
    rw [← hmid]
    cases hprogress with
    | accept _ _ _ _ haccepts _ =>
      obtain ⟨iface, -, hend, -⟩ := haccepts.handed
      exact produced_of_endpoint (hend _)
    | launch _ _ _ _ hkept | quiet _ _ hkept | settle _ _ _ _ _ hkept =>
      exact produced_congr (congrFun hkept.endpoint _)

/-- A frame joins the queue of an interface that is there. -/
lemma Queued.placed (h : net.Queued i f net') : i.index < net.topology.interfaces.size := by
  obtain ⟨r, w, -, hw, -⟩ := h
  obtain ⟨iface, hiface, -⟩ := setting_eq_ok.1 hw
  exact (Array.getElem?_eq_some_iff.1 (Topology.interface_eq_ok.1 hiface)).1

/-- A frame that joins a queue goes on the account of the node it is for. -/
lemma Queued.account_eq (h : net.Queued i f net') (ht : net.Tracked g) :
    net'.account g d = net.account g d + if f.destination = d then 1 else 0 := by
  refine h.joined.account_eq h.sameShape.topology ?_ (h.waiting fun _ _ => rfl) h.placed
    fun hg hst => ht.queue_ne_nil hg hst
  exact consumed_congr h.endpoint

/-- Queues that have frames belong to interfaces that are there. -/
lemma Queued.placed_after (h : net.Queued i f net') {j : InterfaceId} (hne : net'.queue j ≠ []) :
    net.queue j ≠ [] ∨ j.index < net.topology.interfaces.size := by
  by_cases hj : j = i
  · exact .inr (hj ▸ h.placed)
  · exact .inl (h.joined.other hj ▸ hne)

/-- A frame that is about to be forwarded is no longer counted as waiting. -/
lemma Tracked.account_pop {id : EventId} {e : Event} {scheduler : Scheduler Event} (h : net.Tracked g)
    (hp : net.scheduler.popDue = some ((id, e), scheduler))
    (hc : { net with scheduler }.clearTimer id e = .ok mid) (he : ∀ i k, e ≠ .timer i k) :
    mid.endpoint = net.endpoint ∧ mid.topology = net.topology ∧
      ∀ d, net.account g d = mid.account g d + if e.forwardsTo d then 1 else 0 := by
  obtain ⟨-, hqueue, -⟩ := h.pop_other hp hc he
  obtain ⟨hmid, -, -, -, -, -, hwait⟩ := Network.pop_other h.sound.coherent h.sound.onTime hp hc he
  have hend : mid.endpoint = net.endpoint := by
    rw [hmid]
    rfl
  have htop : mid.topology = net.topology := by rw [hmid]
  refine ⟨hend, htop, fun d => ?_⟩
  have hacc := account_congr (g := g) hqueue (consumed_congr (d := d) hend) htop
  have hd := hwait (Event.forwardsTo d)
  omega

/-- A frame that was forwarded moves from the scheduler to a queue. -/
lemma Balanced.forward {id : EventId} {scheduler : Scheduler Event} (h : Balanced log net g)
    (hp : net.scheduler.popDue = some ((id, .forward i f), scheduler))
    (hc : { net with scheduler }.clearTimer id (.forward i f) = .ok mid)
    (hs : mid.send i f = .ok (result, net')) (hres : ∀ e, result = .error e → e.isQuiescent) :
    Ledger net g [] net' g := by
  obtain ⟨htracked, hqueue, hack⟩ := h.tracked.pop_other hp hc (by simp)
  obtain ⟨hend, htop, hpop⟩ := h.tracked.account_pop hp hc (by simp)
  rcases send_queued htracked.sound.coherent htracked.sound.onTime hs with
    ⟨⟨e, he, hquiet⟩, -⟩ | ⟨-, -, next, hq⟩
  · -- a frame that is refused would be lost, but the operation would say so
    rw [hres e he] at hquiet
    cases hquiet
  have hshape := (SameShape.of_eq htop hend).trans hq.sameShape
  refine ⟨hshape, htracked.join hq hack rfl, fun {j} hne => ?_, fun {d} _ => ?_, ?_, by simp⟩
  · rw [← hqueue, ← htop]
    exact hq.placed_after hne
  · have hjoin := hq.account_eq (d := d) htracked
    have hpop := hpop d
    rw [hjoin, List.countP_nil, hpop]
    by_cases hdest : f.destination = d <;> simp [Event.forwardsTo, Frame.onHop, hdest]
  · exact Finset.sum_congr rfl fun n _ => produced_congr (by rw [hq.endpoint, hend])

/-- The books do not change if nothing happens that concerns frames. -/
lemma Tracked.ledger_same (h : net'.Tracked g) (hq : net'.queue = net.queue)
    (he : net'.endpoint = net.endpoint) (ht : net'.topology = net.topology)
    (hacc : ∀ d, net'.account g d = net.account g d) : Ledger net g [] net' g := by
  refine ⟨.of_eq ht he, h, fun hne => .inl ?_, fun {d} _ => ?_, ?_, by simp⟩
  · rwa [hq] at hne
  · rw [List.countP_nil, hacc]
    exact Nat.le_refl _
  · exact Finset.sum_congr rfl fun n _ => produced_congr (congrFun he _)

/-- The books of two events in a row are those of both. -/
lemma Ledger.trans {made made' : List Frame} {g₁ : Flights} (h : Ledger net g made mid g₁)
    (h' : Ledger mid g₁ made' net' g') : Ledger net g (made ++ made') net' g' := by
  refine ⟨h.shape.trans h'.shape, h'.tracked, fun hne => ?_, fun {d} hd => ?_, ?_, fun f hf => ?_⟩
  · rcases h'.placed hne with hne | hlt
    · exact h.placed hne
    · exact .inr (h.shape.topology ▸ hlt)
  · have hfirst := h.account hd
    have hnext := h'.account ((h.shape.endpoint d).2 hd)
    rw [List.countP_append]
    omega
  · have hnext := h'.produced
    rw [h.shape.topology] at hnext
    rw [hnext, h.produced, List.length_append, Nat.add_assoc]
  · rw [List.mem_append] at hf
    exact hf.elim (h.target f) fun hf => h.shape.topology ▸ h'.target f hf

/-- A frame that a source makes is counted there, and is added to the account of its destination. -/
lemma Produced.ledger {n : NodeId} (hp : net.Produced n i f net') (hm : net.Matched)
    (ht : net.Tracked g) (ht' : net'.Tracked g) (hs : net.SameShape net') :
    Ledger net g [f] net' g := by
  obtain ⟨mid, hq, ha, htop⟩ := hp.queued
  have hq' := (views_of_radio ha.radio).1
  obtain ⟨x, traffic, hx, htraffic⟩ := hp.source
  refine ⟨hs, ht', fun {j} hne => ?_, fun {d} _ => ?_, ?_, fun f' hf' => ?_⟩
  · rw [hq'] at hne
    exact hq.placed_after hne
  · -- counting the frame at its source changes nothing of what was consumed
    have hcons : net'.consumed d = mid.consumed d := by
      unfold Network.consumed
      rw [hp.endpoint, hq.endpoint]
      by_cases hn : d = n
      · rw [if_pos hn]
        cases net.endpoint d <;> rfl
      · rw [if_neg hn]
    have hlast := account_congr (g := g) hq' hcons htop
    rw [ha.waiting fun _ => rfl] at hlast
    have hjoin := hq.account_eq (d := d) ht
    rw [List.countP_singleton]
    simp only [decide_eq_true_eq]
    omega
  · have hlt : n.index < net.topology.nodes.size := by
      rw [← hm.endpoints, ← endpoint_exists]
      exact ⟨x, hx⟩
    have hother : ∀ k, k ≠ n.index → net'.produced ⟨k⟩ = net.produced ⟨k⟩ := by
      intro k hk
      exact produced_congr (by rw [hp.endpoint, if_neg fun he => hk (congrArg NodeId.index he)])
    have hself : net'.produced ⟨n.index⟩ = net.produced ⟨n.index⟩ + 1 := by
      unfold Network.produced
      rw [hp.endpoint, if_pos rfl, hx]
      simp [Except.map, Endpoint.madeOne, Endpoint.produced, htraffic]
    have hchange := sum_change hlt hother
    rw [hself] at hchange
    rw [List.length_singleton]
    omega
  · obtain ⟨target, htarget⟩ := hp.target
    rw [List.mem_singleton.1 hf']
    exact (Array.getElem?_eq_some_iff.1 (Topology.node_eq_ok.1 htarget)).1

/-- A source that fires makes one frame, which joins the queue of its interface, or none. -/
lemma Balanced.produce {id : EventId} {n : NodeId} {scheduler : Scheduler Event}
    (h : Balanced log net g) (hp : net.scheduler.popDue = some ((id, .produce n), scheduler))
    (hc : { net with scheduler }.clearTimer id (.produce n) = .ok mid)
    (hf : mid.produce n = .ok (result, net')) :
    Ledger net g (Moment.made ⟨mid, .event (.produce n), net'⟩) net' g := by
  obtain ⟨htracked, hqueue, -⟩ := h.tracked.pop_other hp hc (by simp)
  obtain ⟨hend, htop, hpop⟩ := h.tracked.account_pop hp hc (by simp)
  have hfirst : Ledger net g [] mid g := htracked.ledger_same hqueue hend htop fun d => (hpop d).symm
  have htracked' := (htracked.produce hf).1
  suffices hmade : Ledger mid g (Moment.made ⟨mid, .event (.produce n), net'⟩) net' g from
    hfirst.trans hmade
  rcases produce_cases htracked.sound.coherent htracked.sound.onTime hf with
    ⟨ha, ht, he⟩ | ⟨-, i, f, next, hmade⟩
  · have hq := (views_of_radio ha.radio).1
    have hnone : Moment.made ⟨mid, .event (.produce n), net'⟩ = [] := by
      unfold Moment.made
      dsimp only
      split
      · rename_i site _
        cases site.iface <;> simp [Moment.joined, hq]
      · rfl
    rw [hnone]
    refine htracked'.ledger_same hq he ht fun d => ?_
    have hacc := account_congr (g := g) hq (consumed_congr (d := d) he) ht
    rw [ha.waiting fun _ => rfl] at hacc
    omega
  · obtain ⟨mid', hq, ha, -⟩ := hmade.queued
    obtain ⟨site, hsite, hiface⟩ := hmade.iface
    have hone : Moment.made ⟨mid, .event (.produce n), net'⟩ = [f.onHop i next] := by
      simp [Moment.made, Moment.joined, hsite, hiface, (views_of_radio ha.radio).1, hq.joined.self]
    rw [hone]
    exact hmade.ledger (hfirst.shape.matched h.matched) htracked htracked'
      (produce_sameShape htracked.sound.coherent htracked.sound.onTime hf)

/-- Whatever event fires without an error, the books stay balanced. -/
theorem Balanced.fires (h : Balanced log net g) (hf : net.Fires m result)
    (hres : ∀ e, result = .error e → e.isQuiescent) : ∃ g', Balanced (log ++ [m]) m.after g' := by
  have hshape := h.tracked.sound.fires_sameShape hf
  obtain ⟨id, e, scheduler, hp, hc, hcause, hfire⟩ := hf
  obtain ⟨before, cause, after⟩ := m
  obtain rfl : cause = .event e := hcause
  cases e with
  | timer i k =>
    obtain ⟨g', hl⟩ := h.expire hp hc hshape hfire
    exact ⟨g', h.advance hl⟩
  | forward i f => exact ⟨g, h.advance (h.forward hp hc hfire hres)⟩
  | produce n => exact ⟨g, h.advance (h.produce hp hc hfire)⟩

/-- If no event waits, then none is pending. -/
lemma not_pending_of_isEmpty {scheduler : Scheduler Event} (h : scheduler.isEmpty = true) {due : Due}
    {e : Event} : ¬ scheduler.Pending due e := by
  intro hp
  unfold Scheduler.Pending at hp
  rw [Std.TreeMap.getElem?_of_isEmpty h] at hp
  cases hp

/-- If no event waits, then none does that passes a test. -/
lemma waiting_of_isEmpty {scheduler : Scheduler Event} (h : scheduler.isEmpty = true)
    (p : Event → Bool) : scheduler.waiting p = 0 := by
  have hnil : scheduler.queue.toList = [] := by
    rw [← List.isEmpty_iff, Std.TreeMap.isEmpty_toList]
    exact h
  unfold Scheduler.waiting
  rw [hnil, List.countP_nil]

/-- In a sound network that has come to rest all radios are idle, with nothing left to send. -/
lemma Sound.queue_of_rest (h : net.Sound) (hrest : net.scheduler.isEmpty = true) (i : InterfaceId) :
    net.queue i = [] := by
  cases hr : net.radio i with
  | error halt => simp only [queue, hr]
  | ok r =>
    have hs := h.radio hr
    have hnone : ∀ k, k ∉ r.dictated := by
      intro k hk
      obtain ⟨time, ht⟩ := Option.isSome_iff_exists.1 ((hs.dictated k).2 hk)
      obtain ⟨n, hp⟩ := h.coherent.alarms_eq_some.1 ht
      exact not_pending_of_isEmpty hrest hp
    have hidle : r.status = .idle := by
      cases hst : r.status with
      | idle => rfl
      | waitingForBackoff =>
        cases hin : r.isReceiving with
        | false => exact absurd (by simp [Radio.dictated, hst, hin]) (hnone .backoff)
        | true => exact absurd (by simp [Radio.dictated, hst, hin]) (hnone .reception)
      | waitingForDifs => exact absurd (by simp [Radio.dictated, hst]) (hnone .difs)
      | sendingMessage => exact absurd (by simp [Radio.dictated, hst]) (hnone .transmission)
      | waitingForAck => exact absurd (by simp [Radio.dictated, hst]) (hnone .ackTimeout)
      | receivingMessage => exact absurd (by simp [Radio.dictated, hst]) (hnone .reception)
      | waitingForSifs => exact absurd (by simp [Radio.dictated, hst]) (hnone .sifs)
      | sendingAck => exact absurd (by simp [Radio.dictated, hst]) (hnone .ackTransmission)
    have ho := hs.orderly
    simp only [Radio.Orderly, hidle] at ho
    rw [queue_eq hr, ho.2.1]

/-- What is on an account when the network has come to rest has reached the node. -/
lemma account_of_rest (h : net.Sound) (hrest : net.scheduler.isEmpty = true) :
    net.account g d = net.consumed d := by
  have hheld : net.held g d = 0 := by
    refine Finset.sum_eq_zero fun i _ => ?_
    have hq := h.queue_of_rest hrest ⟨i⟩
    unfold unaccepted
    rw [hq]
    split <;> rfl
  unfold account
  rw [waiting_of_isEmpty hrest, hheld, Nat.add_zero]

/-- Frames are as many as they are for all the nodes together, if each is for one of these. -/
lemma sum_countP {N : Nat} {fs : List Frame} (h : ∀ f ∈ fs, f.destination.index < N) :
    ∑ k ∈ Finset.range N, fs.countP (·.destination = ⟨k⟩) = fs.length := by
  induction fs with
  | nil => simp
  | cons f rest ih =>
    have hone : ∑ k ∈ Finset.range N, (if f.destination = ⟨k⟩ then 1 else 0) = 1 := by
      rw [Finset.sum_eq_single_of_mem f.destination.index
        (Finset.mem_range.2 (h f List.mem_cons_self)) fun k _ hk => ?_]
      · exact if_pos rfl
      · exact if_neg fun he => hk (congrArg NodeId.index he).symm
    simp only [List.countP_cons, decide_eq_true_eq, Finset.sum_add_distrib]
    rw [ih fun f' hf' => h f' (List.mem_cons_of_mem _ hf'), hone, List.length_cons]

/-- A total over what is reported of the nodes. -/
lemma sum_reports (count : NodeReport → Nat) (value : Endpoint → Nat) {sites : List (Site Float)}
    {xs : List Endpoint} (hlen : sites.length = xs.length)
    (hcount : ∀ (site : Site Float) x, count ⟨site.name, x.produced, x.consumed⟩ = value x) :
    (List.zipWith (fun site x => NodeReport.mk site.name x.produced x.consumed) sites xs).foldr
      (fun n total => count n + total) 0 =
      ∑ k ∈ Finset.range xs.length, (xs[k]?.map value).getD 0 := by
  induction xs generalizing sites with
  | nil => simp
  | cons x rest ih =>
    cases sites with
    | nil => cases hlen
    | cons site sites =>
      have hlen : sites.length = rest.length := by simpa using hlen
      rw [List.length_cons, Finset.sum_range_succ', List.zipWith_cons_cons, List.foldr_cons, ih hlen, hcount]
      simp [Nat.add_comm]

/-- The totals of the report are the sums over all nodes. -/
lemma Matched.totals (h : net.Matched) :
    net.report.totalProduced = ∑ k ∈ Finset.range net.topology.nodes.size, net.produced ⟨k⟩ ∧
      net.report.totalConsumed = ∑ k ∈ Finset.range net.topology.nodes.size, net.consumed ⟨k⟩ := by
  have hlen : net.topology.nodes.toList.length = net.endpoints.toList.length := by
    simp [h.endpoints]
  have hget : ∀ (value : Endpoint → Nat) (k : Nat), (net.endpoints.toList[k]?.map value).getD 0 =
      match net.endpoint ⟨k⟩ with
      | .ok x => value x
      | .error _ => 0 := by
    intro value k
    unfold Network.endpoint
    rw [Array.getElem?_toList]
    cases net.endpoints[k]? <;> rfl
  have hsize : net.endpoints.toList.length = net.topology.nodes.size := by simp [h.endpoints]
  constructor
  · have htotal : net.report.totalProduced = _ :=
      sum_reports NodeReport.produced Endpoint.produced hlen fun _ _ => rfl
    rw [htotal, hsize]
    exact Finset.sum_congr rfl fun k _ => hget Endpoint.produced k
  · have htotal : net.report.totalConsumed = _ :=
      sum_reports NodeReport.consumed Endpoint.consumed hlen fun _ _ => rfl
    rw [htotal, hsize]
    exact Finset.sum_congr rfl fun k _ => hget Endpoint.consumed k

/-- A run begins with balanced books. -/
lemma Begins.balanced {start : Network} (h : start.Begins) : Balanced [] start fun _ => none := by
  obtain ⟨htracked, hempty⟩ := h.tracked
  have hnone : ∀ n, start.produced n = 0 := by
    intro n
    obtain ⟨net, stream, result, -, hi⟩ := h
    unfold produced
    rw [(initRun_aside hi).2.2, endpoint_reset]
    cases hx : ({ net with stream } : Network).endpoint n with
    | error halt => rfl
    | ok x => cases ht : x.traffic <;> simp [Except.map, Endpoint.reset, Endpoint.produced, ht]
  refine ⟨h.matched, htracked, fun hne => absurd (hempty _) hne, fun _ => Nat.zero_le _, ?_, by simp⟩
  exact Finset.sum_eq_zero fun k _ => hnone ⟨k⟩

/-- Whether an operation drives a run, and does so without an error, unless nothing is pending. -/
def Op.Drives (op : Op) (result : Except NetworkError Unit) : Prop :=
  op.firesEvents = true ∧ ∀ e, result = .error e → e.isQuiescent = true

/-- Events keep the books balanced, as long as no run goes wrong in between. -/
lemma balanced_closed : Closed (fun log net => ∃ g, Balanced log net g) fun e => e.isQuiescent = true where
  clock := fun ⟨_, h⟩ hw =>
    ⟨_, ⟨h.matched.endpoints, h.matched.home⟩, h.tracked.advanceTo hw, h.placed,
      fun hd => (h.account hd).trans (Nat.le_of_eq (account_advanceTo ..).symm), h.produced, h.target⟩
  event := fun ⟨_, h⟩ hf hres => h.fires hf hres

/-- In a run that is driven to its end without an error, every node consumes at least as many frames as
were produced for it; and no frame at all is lost. -/
theorem Run.all_delivered {start : Network} (hstart : start.Begins) (hrun : Run Op.Drives start log net)
    (hrest : net.scheduler.isEmpty = true) :
    (∀ d x, net.endpoint d = .ok x →
      (log.flatMap Moment.made).countP (·.destination = d) ≤ x.consumed) ∧
      net.report.totalProduced = (log.flatMap Moment.made).length ∧
      net.report.totalProduced ≤ net.report.totalConsumed := by
  obtain ⟨_, h⟩ := balanced_closed.run (fun _ hop hmay _ => by rw [hmay.1] at hop; cases hop)
    (fun _ hmay => hmay.2 _ rfl) ⟨_, hstart.balanced⟩ hrun
  have hdelivered : ∀ d, (∃ x, net.endpoint d = .ok x) →
      (log.flatMap Moment.made).countP (·.destination = d) ≤ net.consumed d := by
    intro d hd
    rw [← account_of_rest h.tracked.sound hrest]
    exact h.account hd
  obtain ⟨hproduced, hconsumed⟩ := h.matched.totals
  have hmade := hproduced.trans h.produced
  refine ⟨fun d x hx => ?_, hmade, ?_⟩
  · have hle := hdelivered d ⟨x, hx⟩
    simpa only [consumed, hx] using hle
  · rw [hmade, hconsumed, ← sum_countP h.target]
    refine Finset.sum_le_sum fun k hk => hdelivered ⟨k⟩ (endpoint_exists.2 ?_)
    rw [h.matched.endpoints]
    exact Finset.mem_range.1 hk

/-- In a run of two nodes, the frame that the first one produces is delivered. -/
theorem delivered_in_pair : ∃ (start : Network) (log : List Moment) (net : Network) (x : Endpoint),
    start.Begins ∧ Run Op.Drives start log net ∧ net.scheduler.isEmpty = true ∧
      net.endpoint ⟨1⟩ = .ok x ∧ 1 ≤ x.consumed ∧ 1 ≤ net.report.totalConsumed := by
  have hend : endsWith (Op.runAfter 100 Op.pair [.runUntilIdle] (.new {} 7 [.delta 5]))
      (fun log net => net.scheduler.isEmpty = true ∧ net.endpoints.size = 2 ∧
        (log.flatMap Moment.made).countP (·.destination = ⟨1⟩) = 1 ∧
          net.report.totalProduced = 1) = true := by
    decide +kernel
  obtain ⟨log, net, hok, htest⟩ := endsWith_iff.1 hend
  obtain ⟨hrest, hsize, hmade, htotal⟩ := of_decide_eq_true htest
  obtain ⟨start, hstart, hrun⟩ := Run.of_runAfter Op.Drives hok (by simp [Op.Drives, Op.firesEvents])
  obtain ⟨hdelivered, -, hsum⟩ := hrun.all_delivered hstart hrest
  obtain ⟨x, hx⟩ : ∃ x, net.endpoint ⟨1⟩ = .ok x := endpoint_exists.2 (by rw [hsize]; decide)
  exact ⟨start, log, net, x, hstart, hrun, hrest, hx, hmade ▸ hdelivered _ x hx, htotal ▸ hsum⟩

end Network

end CarrierSense
