import CarrierSense.Proofs.Network.Ticks

/-!
# Fuel

The loops of a run take fuel, one unit for each event, and what an event does takes none: whatever may halt it, it
is not for want of fuel. So the loop over the events of a tick ends in the same way with any two amounts of fuel
that it does not use up.
-/

namespace CarrierSense

variable {α β : Type}

/-- A computation that may halt, but not for want of fuel. -/
def Fuelless (x : Except Halt α) : Prop := x ≠ .error .outOfFuel

namespace Fuelless

/-- A computation that ends has not wanted fuel. -/
lemma ok (a : α) : Fuelless (.ok a : Except Halt α) := nofun

/-- A computation that is known to end has not wanted fuel. -/
lemma of_eq_ok {x : Except Halt α} {a : α} (h : x = .ok a) : Fuelless x := h ▸ ok a

/-- Two computations in a row do not want fuel if neither does. -/
lemma bind {x : Except Halt α} {next : α → Except Halt β} (h : Fuelless x)
    (hn : ∀ a, x = .ok a → Fuelless (next a)) : Fuelless (x >>= next) := by
  cases x with
  | error halt =>
    intro he
    cases he
    exact h rfl
  | ok a => exact hn a rfl

/-- Two operations in a row do not want fuel if neither does. -/
lemma andThen {reply : Except Halt (Reply α)} {next : α → Network → Except Halt (Reply β)}
    (h : Fuelless reply) (hn : ∀ a net, reply = .ok (.ok a, net) → Fuelless (next a net)) :
    Fuelless (andThen reply next) := by
  match reply with
  | .error halt =>
    intro he
    cases he
    exact h rfl
  | .ok (.error e, net) => exact ok _
  | .ok (.ok a, net) => exact hn a net rfl

/-- A computation goes on only where there is fuel left. -/
lemma of_andThen {reply : Except Halt (Reply α)} {next : α → Network → Except Halt (Reply β)}
    (h : Fuelless (CarrierSense.andThen reply next)) :
    Fuelless reply ∧ ∀ a net, reply = .ok (.ok a, net) → Fuelless (next a net) := by
  refine ⟨?_, ?_⟩
  · rintro rfl
    exact h rfl
  · rintro a net rfl
    exact h

/-- A fold does not want fuel if none of its steps does. -/
lemma foldlM {f : β → α → Except Halt β} (h : ∀ b a, Fuelless (f b a)) (xs : List α) (b : β) :
    Fuelless (xs.foldlM f b) := by
  induction xs generalizing b with
  | nil => exact ok b
  | cons a rest ih => exact bind (h b a) fun b' _ => ih b'

end Fuelless

/-- To check a time takes no fuel. -/
lemma Clock.check_fuelless (time : Nat) : Fuelless (check time) := by
  unfold check
  split
  · exact .ok _
  · nofun

section Topology

variable {κ : Type} (topo : Topology κ)

/-- To look up a node takes no fuel. -/
lemma Topology.node_fuelless (n : NodeId) : Fuelless (topo.node n) := by
  unfold Topology.node
  split
  · exact .ok _
  · nofun

/-- To look up an interface takes no fuel. -/
lemma Topology.interface_fuelless (i : InterfaceId) : Fuelless (topo.interface i) := by
  unfold Topology.interface
  split
  · exact .ok _
  · nofun

/-- To look up a medium takes no fuel. -/
lemma Topology.medium_fuelless (m : MediumId) : Fuelless (topo.medium m) := by
  unfold Topology.medium
  split
  · exact .ok _
  · nofun

/-- To look up the medium of an interface takes no fuel. -/
lemma Topology.mediumOf_fuelless (i : InterfaceId) : Fuelless (topo.mediumOf i) :=
  .bind (topo.interface_fuelless i) fun iface _ => topo.medium_fuelless iface.medium

/-- To look up where an interface is takes no fuel. -/
lemma Topology.positionOf_fuelless (i : InterfaceId) : Fuelless (topo.positionOf i) :=
  .bind (topo.interface_fuelless i) fun iface _ => .bind (topo.node_fuelless iface.node) fun _ _ => .ok _

/-- To find the farthest member of a medium takes no fuel, if to measure one takes none. -/
lemma Medium.extreme?_fuelless [Scalar κ] (medium : Medium) {key : InterfaceId → Except Halt κ}
    (h : ∀ i, Fuelless (key i)) : Fuelless (medium.extreme? key) := by
  refine .bind (.foldlM (fun best next => ?_) _ _) fun _ _ => .ok _
  refine .bind (h next) fun _ _ => ?_
  split <;> exact .ok _

/-- Routing takes no fuel. -/
lemma Topology.route_fuelless [Scalar κ] (i : InterfaceId) (destination : NodeId) :
    Fuelless (topo.route i destination) := by
  unfold Topology.route
  refine .bind (topo.interface_fuelless i) fun iface _ => ?_
  refine .bind (topo.medium_fuelless iface.medium) fun medium _ => ?_
  split
  · exact .ok _
  refine .bind (topo.node_fuelless destination) fun target _ => ?_
  split
  · exact .ok _
  refine .bind (topo.node_fuelless iface.node) fun here _ => ?_
  have hextreme : ∀ axis : Point κ → κ,
      Fuelless (medium.extreme? fun m => do return axis (← topo.positionOf m)) :=
    fun axis => medium.extreme?_fuelless fun m => .bind (topo.positionOf_fuelless m) fun _ _ => .ok _
  dsimp only
  split
  · exact .bind (hextreme Point.x) fun _ _ => .ok _
  split
  · exact .bind (hextreme Point.y) fun _ _ => .ok _
  · exact .ok _

end Topology

/-- To draw from a variate takes no fuel. -/
lemma Variate.draw_fuelless (v : Variate) (stream : Stream) : Fuelless (v.draw stream) := by
  unfold draw
  split
  · refine .bind ?_ fun _ _ => .ok _
    unfold Stream.uniform
    split
    · exact .ok _
    split
    · exact .ok _
    · nofun
  · exact .ok _
  · split <;> exact .ok _
  · exact .ok _

namespace Network

variable (net : Network) (i : InterfaceId) (n : NodeId) (w : Setting)

/-- To look up an endpoint takes no fuel. -/
lemma endpoint_fuelless : Fuelless (net.endpoint n) := by
  unfold endpoint
  split
  · exact .ok _
  · nofun

/-- To look up a radio takes no fuel. -/
lemma radio_fuelless : Fuelless (net.radio i) := by
  unfold radio
  split
  · exact .ok _
  · nofun

/-- To look up the setting of an interface takes no fuel. -/
lemma setting_fuelless : Fuelless (net.setting i) :=
  .bind (net.topology.interface_fuelless i) fun _ _ => .ok _

/-- To draw a delay takes no fuel. -/
lemma drawDelay_fuelless (v : VariateId) : Fuelless (net.drawDelay v) := by
  unfold drawDelay
  split
  · nofun
  · exact .bind (Variate.draw_fuelless _ _) fun _ _ => .ok _

/-- To keep what the scheduler says to a post takes no fuel. -/
lemma withPost_fuelless (post : Except SchedulerError (EventId × Scheduler Event)) :
    Fuelless (net.withPost post) := by
  unfold withPost
  split <;> exact .ok _

/-- To disarm a timer takes no fuel. -/
lemma disarm_fuelless (timer : Timer) : Fuelless (net.disarm i timer) := by
  refine .bind (net.radio_fuelless i) fun radio _ => ?_
  split <;> exact .ok _

/-- To arm a timer takes no fuel. -/
lemma arm_fuelless (timer : Timer) (time : Nat) : Fuelless (net.arm i timer time) := by
  refine .bind (Clock.check_fuelless time) fun time _ => ?_
  refine .bind (net.disarm_fuelless i timer) fun mid _ => ?_
  split
  · exact .ok _
  · exact .bind (radio_fuelless _ i) fun _ _ => .ok _

/-- To hand a frame to its node takes no fuel. -/
lemma put_fuelless : Fuelless (net.put n) := .bind (net.endpoint_fuelless n) fun _ _ => .ok _

/-- No effect takes fuel. -/
lemma perform_fuelless (e : Effect) : Fuelless (net.perform w e) := by
  cases e with
  | report status => exact .bind (net.topology.interface_fuelless w.self) fun _ _ => .ok _
  | count counter => exact .ok _
  | arm timer time => exact net.arm_fuelless w.self timer time
  | disarm timer => exact .bind (net.disarm_fuelless w.self timer) fun _ _ => .ok _
  | deliver frame => exact .bind (net.put_fuelless w.home) fun _ _ => .ok _
  | relay frame => exact withPost_fuelless _ _

/-- Effects in a row take no fuel, by induction over them. -/
lemma performAll_fuelless (es : List Effect) : Fuelless (net.performAll w es) := by
  induction es generalizing net with
  | nil => exact .ok _
  | cons e rest ih => exact .andThen (net.perform_fuelless w e) fun _ mid _ => ih mid

/-- What a radio does takes no fuel. -/
lemma act_fuelless (move : Setting → Turn → Turn) : Fuelless (net.act i move) :=
  .bind (net.radio_fuelless i) fun _ _ => .bind (net.setting_fuelless i) fun w _ => performAll_fuelless _ w _

/-- A frame reaches the members of a medium without fuel, by induction over them. -/
lemma receiveAll_fuelless (frame : Frame) (members : List InterfaceId) :
    Fuelless (net.receiveAll frame members) := by
  induction members generalizing net with
  | nil => exact .ok _
  | cons i rest ih => exact .andThen (net.act_fuelless i _) fun _ mid _ => ih mid

/-- What follows a turn takes no fuel. -/
lemma follow_fuelless (s : Sequel) : Fuelless (net.follow i s) := by
  cases s with
  | none => exact .ok _
  | contend =>
    show Fuelless (net.contend i)
    unfold contend
    refine .bind (net.radio_fuelless i) fun radio _ => ?_
    generalize net.stream.between32 1 (max radio.window 1) = drawn
    exact act_fuelless _ i _
  | transmit frame =>
    exact .bind (net.topology.mediumOf_fuelless i) fun medium _ => net.receiveAll_fuelless frame medium.members

/-- A timer that runs out takes no fuel. -/
lemma expire_fuelless (timer : Timer) : Fuelless (net.expire i timer) := by
  have hmove : ∀ (r : Radio) (w : Setting), Fuelless (andThen (net.settle w (Radio.expire w { radio := r } timer).1)
      fun _ mid => mid.follow i (Radio.expire w { radio := r } timer).2) := fun r w =>
    .andThen (performAll_fuelless _ w _) fun _ mid _ => mid.follow_fuelless i _
  unfold expire
  split
  · exact .bind (Clock.check_fuelless _) fun _ _ =>
      .bind (net.radio_fuelless i) fun r _ => .bind (net.setting_fuelless i) fun w _ => hmove r w
  · exact .bind (net.radio_fuelless i) fun r _ => .bind (net.setting_fuelless i) fun w _ => hmove r w

/-- To queue a frame takes no fuel. -/
lemma send_fuelless (frame : Frame) : Fuelless (net.send i frame) := by
  refine .bind (net.topology.route_fuelless i frame.destination) fun route _ => ?_
  split
  · exact .ok _
  · exact .bind (net.topology.interface_fuelless i) fun _ _ =>
      .bind (net.topology.node_fuelless frame.destination) fun _ _ => .ok _
  · refine .bind (net.radio_fuelless i) fun radio _ => ?_
    dsimp only
    split
    · exact act_fuelless _ i _
    · exact .ok _

/-- To produce a frame takes no fuel. -/
lemma produce_fuelless : Fuelless (net.produce n) := by
  unfold produce
  refine .bind (net.topology.node_fuelless n) fun site _ => .bind (net.endpoint_fuelless n) fun x _ => ?_
  split
  · exact .ok _
  dsimp only
  split
  · exact .ok _
  split
  · exact .ok _
  split
  · exact .ok _
  rename_i traffic _ _ _ _ _ _
  generalize net.stream.between64 0 (traffic.destinations.length - 1) = place
  generalize place.2.between32 0 32767 = id
  refine .andThen (send_fuelless _ _ _) fun _ mid _ => ?_
  split
  · exact .ok _
  · exact .bind (drawDelay_fuelless _ _) fun _ _ => withPost_fuelless _ _

/-- No event takes fuel when it fires. -/
lemma fire_fuelless (e : Event) : Fuelless (net.fire e) := by
  cases e with
  | produce n => exact net.produce_fuelless n
  | timer i timer => exact net.expire_fuelless i timer
  | forward i frame => exact net.send_fuelless i frame

/-- To clear the timer of an event takes no fuel. -/
lemma clearTimer_fuelless (id : EventId) (e : Event) : Fuelless (net.clearTimer id e) := by
  unfold clearTimer
  split
  · refine .bind (net.radio_fuelless _) fun radio _ => ?_
    split <;> exact .ok _
  · exact .ok _

/-- Fuel that is left over makes no difference. -/
lemma drain_more {fuel : Nat} (h : Fuelless (drain fuel net)) (more : Nat) :
    drain (fuel + more) net = drain fuel net := by
  induction fuel generalizing net with
  | zero => exact absurd rfl h
  | succ fuel ih =>
    rw [Nat.add_right_comm]
    unfold drain at h ⊢
    cases hpop : net.scheduler.popDue with
    | none => rfl
    | some entry =>
      obtain ⟨⟨id, event⟩, scheduler⟩ := entry
      simp only [hpop] at h ⊢
      cases hclear : { net with scheduler }.clearTimer id event with
      | error halt => rfl
      | ok mid =>
        rw [hclear, ok_bind] at h
        rw [ok_bind, ok_bind]
        rcases hfire : mid.fire event with halt | ⟨e | _, after⟩
        · rfl
        · rfl
        · rw [hfire] at h
          exact ih after h

/-- A step fires the events of the first tick that waits. -/
lemma step_of_nextTime {net : Network} {fuel time : Nat} (ht : net.scheduler.nextTime? = some time) :
    net.step fuel = andThen (drain fuel { net with scheduler := net.scheduler.advanceTo time })
      fun _ net => .ok (.ok time, net) := by
  simp only [step, Scheduler.nextTime, ht]

/-- A step that has had enough fuel does the same with more. -/
lemma step_more {fuel : Nat} (h : Fuelless (net.step fuel)) (more : Nat) :
    net.step (fuel + more) = net.step fuel := by
  cases ht : net.scheduler.nextTime? with
  | none => simp only [step, Scheduler.nextTime, ht]
  | some time =>
    rw [step_of_nextTime ht] at h
    rw [step_of_nextTime ht, step_of_nextTime ht, drain_more _ h.of_andThen.1]

/-- The loop of steps ends where no event waits for which it goes on. -/
lemma stepWhile_of_stop {goesOn : Nat → Bool} (fuel steps : Nat)
    (h : ∀ time, net.scheduler.nextTime? = some time → goesOn time = false) :
    stepWhile goesOn fuel (steps + 1) net = .ok (.ok (), net) := by
  unfold stepWhile
  cases ht : net.scheduler.nextTime? with
  | none => rfl
  | some time => simp [h time ht]

/-- Steps that go on begin with one step. -/
lemma stepWhile_of_next {net : Network} {goesOn : Nat → Bool} {time : Nat} (fuel steps : Nat)
    (ht : net.scheduler.nextTime? = some time) (h : goesOn time = true) :
    stepWhile goesOn fuel (steps + 1) net =
      andThen (net.step fuel) fun _ mid => stepWhile goesOn fuel steps mid := by
  rw [stepWhile]
  simp only [ht, h, if_true]

/-- Either the loop of steps ends, or it goes on with a step. -/
lemma stop_or_next (goesOn : Nat → Bool) :
    (∀ time, net.scheduler.nextTime? = some time → goesOn time = false) ∨
      ∃ time, net.scheduler.nextTime? = some time ∧ goesOn time = true := by
  cases ht : net.scheduler.nextTime? with
  | none => exact .inl nofun
  | some time =>
    cases hgo : goesOn time with
    | false =>
      refine .inl ?_
      rintro _ ⟨⟩
      exact hgo
    | true => exact .inr ⟨time, rfl, hgo⟩

/-- Fuel that is left over makes no difference to a loop of steps, neither within them nor between them. -/
lemma stepWhile_more {goesOn : Nat → Bool} {fuel steps : Nat} (h : Fuelless (stepWhile goesOn fuel steps net))
    (more further : Nat) :
    stepWhile goesOn (fuel + more) (steps + further) net = stepWhile goesOn fuel steps net := by
  induction steps generalizing net with
  | zero => exact absurd rfl h
  | succ steps ih =>
    rw [Nat.add_right_comm]
    rcases net.stop_or_next goesOn with hstop | ⟨time, ht, hgo⟩
    · rw [stepWhile_of_stop net _ _ hstop, stepWhile_of_stop net _ _ hstop]
    · rw [stepWhile_of_next _ _ ht hgo] at h
      obtain ⟨hstep, hrest⟩ := h.of_andThen
      rw [stepWhile_of_next _ _ ht hgo, stepWhile_of_next _ _ ht hgo, step_more net hstep]
      rcases hs : net.step fuel with halt | ⟨e | answer, mid⟩
      · rfl
      · rfl
      · exact ih mid (hrest _ _ hs)

end Network

end CarrierSense
