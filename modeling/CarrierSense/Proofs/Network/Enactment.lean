import CarrierSense.Proofs.Network.Firing
import CarrierSense.Proofs.Scheduler.Agenda

/-!
# Effects carried out in full

What it takes for the effects of a turn to be carried out to the end, and what they then make of the
agenda and of the counters. Where `Carried` says what a turn has done if it has come to an end, this says
that it does: the interface has to exist, its node too, and no timer may be set beyond the last tick.
-/

namespace CarrierSense

/-- What an effect makes of the agenda. -/
def Effect.reschedule (w : Setting) (agenda : List (Nat × Event)) : Effect → List (Nat × Event)
  | .arm k time => Agenda.post time (.timer w.self k) (Agenda.drop (.timer w.self k) agenda)
  | .disarm k => Agenda.drop (.timer w.self k) agenda
  | .relay frame => Agenda.post w.now (.forward w.self frame) agenda
  | _ => agenda

/-- Whether an effect counts for a counter. -/
def Effect.counts (c : Counter) : Effect → Bool
  | .count c' => c' = c
  | .deliver _ => Counter.delivered = c
  | .relay _ => Counter.forwarded = c
  | _ => false

/-- A counter that one effect counts for. -/
lemma Counters.get_increment_counts {e : Effect} (counters : Counters) {c' : Counter}
    (he : ∀ c, e.counts c = decide (c' = c)) (c : Counter) :
    (counters.increment c').get c = counters.get c + [e].countP (Effect.counts c) := by
  rw [get_increment, List.countP_singleton, he]
  simp

namespace Network

variable {net mid net' : Network} {w : Setting} {i : InterfaceId} {k : Timer} {r : Radio}
  {e : Effect} {es es' : List Effect} {t : Turn}

/-- Effects of an interface are carried out, and entered into the agenda and the counters. -/
structure Enacted (net : Network) (w : Setting) (es : List Effect) (net' : Network) : Prop
    extends net.Carried w es net' where
  agenda : net'.scheduler.agenda = es.foldl (Effect.reschedule w) net.scheduler.agenda
  counters : ∀ c, net'.counters.get c = net.counters.get c + es.countP (Effect.counts c)

/-- The interface `w.self` can have effects. -/
structure Able (net : Network) (w : Setting) : Prop where
  coherent : net.Coherent
  onTime : net.scheduler.OnTime
  now : w.now = net.now
  radio : ∃ r, net.radio w.self = .ok r
  iface : ∃ iface, net.topology.interface w.self = .ok iface
  home : ∃ x, net.endpoint w.home = .ok x

/-- Effects that are carried out leave an interface able to carry out more. -/
lemma Able.carried (h : net.Able w) (hc : net.Carried w es net') : net'.Able w := by
  obtain ⟨r, hr⟩ := h.radio
  obtain ⟨timers, hr'⟩ := hc.radio_self hr
  obtain ⟨x, hx⟩ := h.home
  refine ⟨hc.coherent, hc.onTime, h.now.trans hc.now.symm, ⟨_, hr'⟩, hc.topology ▸ h.iface, ?_⟩
  rw [hc.endpoint, hx]
  exact ⟨_, rfl⟩

/-- Effects that are enacted one after the other are enacted together. -/
lemma Enacted.trans (h : net.Enacted w es mid) (h' : mid.Enacted w es' net') :
    net.Enacted w (es ++ es') net' where
  toCarried := h.toCarried.trans h'.toCarried
  agenda := by rw [h'.agenda, h.agenda, List.foldl_append]
  counters := fun c => by rw [h'.counters, h.counters, List.countP_append, Nat.add_assoc]

/-- The handle that a radio keeps of a timer names this timer and nothing else. -/
lemma Coherent.number_eq_iff {id : EventId} {due : Due} {event : Event} (h : net.Coherent)
    (hr : net.radio i = .ok r) (hk : r.timers.get k = some id) (hp : net.scheduler.Pending due event) :
    due.number = id.number ↔ event = .timer i k := by
  obtain ⟨time, hslot⟩ := h.slot hr hk
  constructor
  · intro hn
    obtain rfl := h.filed.place_unique hp hslot hn
    exact hp.unique hslot
  · rintro rfl
    exact congrArg Due.number (h.timer_unique hp hslot)

/-- A timer of an interface can always be cancelled. -/
lemma disarm_agenda (h : net.Coherent) (hr : net.radio i = .ok r) :
    ∃ net', net.disarm i k = .ok net' ∧ net'.counters = net.counters ∧
      net'.scheduler.agenda = Agenda.drop (.timer i k) net.scheduler.agenda := by
  simp only [disarm, hr, ok_bind]
  split
  · rename_i hnone
    refine ⟨net, rfl, rfl, (List.filter_eq_self.2 fun entry hentry => ?_).symm⟩
    -- no event is pending for a timer whose radio keeps no handle
    obtain ⟨⟨due, event⟩, hmem, rfl⟩ := List.mem_map.1 hentry
    have hne : event ≠ .timer i k := by
      rintro rfl
      obtain ⟨r', hr', hk⟩ := h.kept (Scheduler.mem_toList.1 hmem)
      rw [hr] at hr'
      cases hr'
      rw [hnone] at hk
      cases hk
    simpa using hne
  · rename_i id hsome
    exact ⟨_, rfl, rfl, Scheduler.agenda_drop h.filed fun hp => h.number_eq_iff hr hsome hp⟩

/-- A timer can be set to any tick from now to the last one. -/
lemma arm_enacted {time : Nat} (h : net.Able w) (hnow : net.now ≤ time) (hlast : time ≤ Clock.last) :
    ∃ net', net.arm w.self k time = .ok (.ok (), net') ∧ net.Enacted w [.arm k time] net' := by
  obtain ⟨r, hr⟩ := h.radio
  obtain ⟨mid, hd, hcount, hdrop⟩ := disarm_agenda (k := k) h.coherent hr
  obtain ⟨hc, r', hr', -⟩ := disarm_carried h.coherent h.onTime hd
  have hnow' : ¬ time < mid.scheduler.now := by
    have hmid : mid.scheduler.now = net.now := hc.now
    omega
  obtain ⟨⟨id, scheduler⟩, hpost⟩ : ∃ posted, mid.scheduler.post time (.timer w.self k) = .ok posted := by
    simp only [Scheduler.post, if_neg hnow']
    exact ⟨_, rfl⟩
  have harm : net.arm w.self k time = .ok (.ok (),
      setRadio { mid with scheduler } w.self { r' with timers := r'.timers.set k (some id) }) := by
    have hcheck : Clock.check time = .ok time := Clock.check_eq_ok_iff.2 ⟨hlast, rfl⟩
    simp only [arm, hcheck, hd, hpost, hr', ok_bind, pure_eq_ok]
  obtain ⟨-, hcarried⟩ := arm_carried h.coherent h.onTime hnow harm
  refine ⟨_, harm, hcarried, ?_, fun c => congrArg (·.get c) hcount⟩
  have hagenda := Scheduler.agenda_post hc.coherent.filed hpost
  rw [hdrop] at hagenda
  exact hagenda

/-- A frame can be posted to be forwarded at any time. -/
lemma relay_enacted (h : net.Able w) (frame : Frame) :
    ∃ net', net.perform w (.relay frame) = .ok (.ok (), net') ∧ net.Enacted w [.relay frame] net' := by
  have hnow : Clock.later net.scheduler.now 0 = net.scheduler.now := by
    have hle := h.onTime.now_le
    unfold Clock.later
    omega
  obtain ⟨⟨id, scheduler⟩, hpost⟩ :
      ∃ posted, net.scheduler.post net.scheduler.now (.forward w.self frame) = .ok posted := by
    simp only [Scheduler.post, Nat.lt_irrefl, if_false]
    exact ⟨_, rfl⟩
  have hp : net.perform w (.relay frame) = .ok (.ok (),
      { net with counters := net.counters.increment .forwarded, scheduler }) := by
    simp only [perform, relay, withPost, Scheduler.postAfter, hnow, hpost]
  obtain ⟨-, hcarried⟩ := perform_carried h.coherent h.onTime (by simp) hp
  refine ⟨_, hp, hcarried, ?_, Counters.get_increment_counts _ fun _ => rfl⟩
  have hagenda := Scheduler.agenda_post h.coherent.filed hpost
  have hw : w.now = net.scheduler.now := h.now
  rw [← hw] at hagenda
  exact hagenda

/-- An interface that can have effects has them. -/
lemma perform_enacted (h : net.Able w)
    (he : ∀ {k time}, e = .arm k time → net.now ≤ time ∧ time ≤ Clock.last) :
    ∃ net', net.perform w e = .ok (.ok (), net') ∧ net.Enacted w [e] net' := by
  have hcarried : ∀ {net'}, net.perform w e = .ok (.ok (), net') → net.Carried w [e] net' := fun hp =>
    (perform_carried h.coherent h.onTime (fun heq => (he heq).1) hp).2
  cases e with
  | report status =>
    obtain ⟨iface, hiface⟩ := h.iface
    have hp : ∃ net', net.perform w (.report status) = .ok (.ok (), net') ∧
        net'.scheduler = net.scheduler ∧ net'.counters = net.counters := by
      simp only [perform, hiface, ok_bind]
      exact ⟨_, rfl, rfl, rfl⟩
    obtain ⟨net', hp, hs, hc⟩ := hp
    exact ⟨net', hp, hcarried hp, congrArg Scheduler.agenda hs, fun c => congrArg (·.get c) hc⟩
  | count counter => exact ⟨_, rfl, hcarried rfl, rfl, Counters.get_increment_counts _ fun _ => rfl⟩
  | arm timer time =>
    obtain ⟨hnow, hlast⟩ := he rfl
    exact arm_enacted h hnow hlast
  | disarm timer =>
    obtain ⟨r, hr⟩ := h.radio
    obtain ⟨net', hd, hcount, hdrop⟩ := disarm_agenda (k := timer) h.coherent hr
    have hp : net.perform w (.disarm timer) = .ok (.ok (), net') := by
      simp only [perform, hd, ok_bind, pure_eq_ok]
    exact ⟨net', hp, hcarried hp, hdrop, fun c => congrArg (·.get c) hcount⟩
  | deliver frame =>
    obtain ⟨x, hx⟩ := h.home
    have hp : ∃ net', net.perform w (.deliver frame) = .ok (.ok (), net') ∧
        net'.scheduler = net.scheduler ∧ net'.counters = net.counters.increment .delivered := by
      simp only [perform, put, hx, ok_bind, pure_eq_ok]
      exact ⟨_, rfl, rfl, rfl⟩
    obtain ⟨net', hp, hs, hc⟩ := hp
    refine ⟨net', hp, hcarried hp, congrArg Scheduler.agenda hs, ?_⟩
    rw [hc]
    exact Counters.get_increment_counts _ fun _ => rfl
  | relay frame => exact relay_enacted h frame

/-- No effect sets a timer to a tick that is over, or beyond the last one. -/
def Timely (now : Nat) (es : List Effect) : Prop :=
  ∀ {k time}, .arm k time ∈ es → now ≤ time ∧ time ≤ Clock.last

/-- No effects at all are timely. -/
@[simp] lemma timely_nil (now : Nat) : Timely now [] := fun hmem => by cases hmem

/-- Effects are timely if the first one is, and the rest are. -/
@[simp] lemma timely_cons {now : Nat} : Timely now (e :: es) ↔
    (∀ k time, e = .arm k time → now ≤ time ∧ time ≤ Clock.last) ∧ Timely now es := by
  constructor
  · intro h
    exact ⟨fun k time he => h (List.mem_cons.2 (.inl he.symm)), fun hmem => h (List.mem_cons_of_mem _ hmem)⟩
  · rintro ⟨he, hes⟩ k time hmem
    rcases List.mem_cons.1 hmem with heq | hmem
    · exact he k time heq.symm
    · exact hes hmem

/-- Timely effects are enacted without an error or a halt. -/
lemma performAll_enacted (h : net.Able w) (he : Timely net.now es) :
    ∃ net', net.performAll w es = .ok (.ok (), net') ∧ net.Enacted w es net' := by
  induction es generalizing net with
  | nil => exact ⟨net, rfl, .nil h.coherent h.onTime w, rfl, fun _ => rfl⟩
  | cons e es ih =>
    obtain ⟨mid, hm, hc⟩ := perform_enacted h fun heq => he (List.mem_cons.2 (.inl heq.symm))
    obtain ⟨net', hn, hc'⟩ := ih (h.carried hc.toCarried) fun hmem =>
      hc.now ▸ he (List.mem_cons_of_mem _ hmem)
    refine ⟨net', ?_, hc.trans hc'⟩
    simp only [performAll, hm, andThen]
    exact hn

end Network

end CarrierSense
