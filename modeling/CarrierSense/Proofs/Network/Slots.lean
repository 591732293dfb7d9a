import CarrierSense.Proofs.Network.Changes
import CarrierSense.Proofs.Network.Setup
import CarrierSense.Proofs.Scheduler.Ledger

/-!
# Timer slots

A radio keeps the handle of the pending event of each timer that is set, and the scheduler keeps the
events. Both change in many places, and not only between operations: a timer is cancelled in the middle of
a turn, and an event is taken out in the middle of a tick. So what is shown here holds of every network
that operations pass through (`ComesTo`), and not only of those that they leave behind.

That no handle comes back, once it has left its slot, rests on the numbers of the posts: a scheduler that
has moved on (`Scheduler.Later`) holds under an old number only what it has held before.
-/

namespace CarrierSense

namespace Scheduler

variable {ε : Type} {s s' s'' : Scheduler ε} {due : Due} {e : ε} {id : EventId}

/-- The scheduler `s` has become `s'`: what is pending under an old number was pending before. -/
structure Later (s s' : Scheduler ε) : Prop where
  nextNumber : s.nextNumber ≤ s'.nextNumber
  old : ∀ {due e}, s'.Pending due e → due.number < s.nextNumber → s.Pending due e

namespace Later

/-- A scheduler that has not changed is later than itself. -/
lemma refl (s : Scheduler ε) : s.Later s := ⟨Nat.le_refl _, fun hp _ => hp⟩

/-- What is later than a later scheduler is later. -/
lemma trans (h : s.Later s') (h' : s'.Later s'') : s.Later s'' :=
  ⟨h.nextNumber.trans h'.nextNumber,
    fun hp hn => h.old (h'.old hp (Nat.lt_of_lt_of_le hn h.nextNumber)) hn⟩

/-- An event that is posted has a new number. -/
lemma post {time : Nat} (hp : s.post time e = .ok (id, s')) : s.Later s' := by
  obtain ⟨-, -, rfl⟩ := post_eq_ok.1 hp
  refine ⟨Nat.le_succ _, fun {due e'} hq hn => ?_⟩
  simp only [Pending, Std.TreeMap.getElem?_insert, Std.compare_eq_iff_eq] at hq
  split at hq
  · -- the new event has a new number
    rename_i hd
    subst hd
    exact absurd hn (Nat.lt_irrefl _)
  · exact hq

/-- An event less in the queue brings back no old one. -/
lemma erase {place : Due} {pending : Std.TreeMap Nat Nat} :
    s.Later { s with queue := s.queue.erase place, pending } := by
  refine ⟨Nat.le_refl _, fun {due e'} hq _ => ?_⟩
  simp only [Pending, Std.TreeMap.getElem?_erase] at hq
  split at hq
  · cases hq
  · exact hq

/-- To drop an event brings back no old one. -/
lemma drop (s : Scheduler ε) (id : EventId) : s.Later (s.drop id).2 := by
  unfold Scheduler.drop
  split
  · exact .refl s
  · exact .erase

/-- To take out the event that is due brings back no old one. -/
lemma popDue (hp : s.popDue = some ((id, e), s')) : s.Later s' := by
  obtain ⟨time, -, -, rfl⟩ := popDue_eq_some hp
  exact .erase

/-- The clock moves on and brings back no old event. -/
lemma advanceTo (s : Scheduler ε) (time : Nat) : s.Later (s.advanceTo time) :=
  ⟨Nat.le_of_eq (nextNumber_advanceTo s time).symm, fun hp _ => pending_advanceTo.1 hp⟩

/-- A reset brings back no old event. -/
lemma reset (s : Scheduler ε) : s.Later s.reset :=
  ⟨Nat.le_refl _, fun hp => absurd hp not_pending_reset⟩

end Later

/-- The size of a scheduler is the number of all its events. -/
lemma size_eq_waiting (s : Scheduler ε) : s.size = s.waiting fun _ => true := by
  rw [waiting, List.countP_true, size, Std.TreeMap.length_toList]

end Scheduler

open Scheduler (Later)

namespace Network

variable {net mid net' : Network} {w : Setting} {i : InterfaceId} {k : Timer} {r : Radio} {f : Frame}
  {n : NodeId} {id : EventId} {e : Event} {scheduler : Scheduler Event} {fuel : Nat}
  {result : Except NetworkError Unit}

/-- Whatever radios do, nothing comes to wait under an old number. -/
lemma later_turnClosed : TurnClosed fun net net' => net.scheduler.Later net'.scheduler where
  refl _ := .refl _
  trans := .trans
  radio _ _ _ := .refl _
  count _ _ := .refl _
  note _ _ := .refl _
  put hp := by
    obtain ⟨x, -, rfl⟩ := put_eq_ok hp
    exact .refl _
  drop _ _ := .drop _ _
  post _ hp := .post hp

/-- A post that a network keeps brings back no old event. -/
lemma withPost_later {time : Nat}
    (hp : net.withPost (net.scheduler.post time e) = .ok (result, net')) :
    net.scheduler.Later net'.scheduler := by
  unfold withPost at hp
  split at hp <;> cases hp
  · exact .refl _
  · exact .post ‹_›

/-- To draw a delay leaves the scheduler alone. -/
lemma drawDelay_later {v : VariateId} {delay : Nat} (hd : net.drawDelay v = .ok (delay, net')) :
    net.scheduler.Later net'.scheduler := by
  obtain ⟨-, variates, stream, rfl⟩ := drawDelay_eq_ok hd
  exact .refl _

/-- To produce a frame brings back no old event. -/
lemma produce_later (hp : net.produce n = .ok (result, net')) : net.scheduler.Later net'.scheduler := by
  rcases produce_eq_ok hp with ⟨rfl, -⟩ | ⟨site, x, traffic, i, stream, f, -, -, -, -, -, -, hp⟩
  · exact .refl _
  rcases andThen_eq_ok.1 hp with ⟨_, hs, -⟩ | ⟨_, mid, hs, hp⟩
  · exact (later_turnClosed.send hs :)
  have hmid : net.scheduler.Later mid.scheduler := (later_turnClosed.send hs :)
  unfold countOne at hp
  dsimp only at hp
  split at hp
  · cases hp
    exact hmid
  · simp only [bind_eq_ok] at hp
    obtain ⟨⟨delay, next⟩, hd, hp⟩ := hp
    have hdraw : mid.scheduler.Later next.scheduler := (drawDelay_later hd :)
    exact hmid.trans (hdraw.trans (withPost_later hp))

/-- The first posts of a run bring back no old event. -/
lemma startAll_later {nodes : List NodeId} (hs : net.startAll nodes = .ok (result, net')) :
    net.scheduler.Later net'.scheduler :=
  startAll_closed (R := fun net net' => net.scheduler.Later net'.scheduler) (fun _ => .refl _) .trans drawDelay_later
    withPost_later hs

/-- An event that is taken out, and its timer with it, is old no more. -/
lemma clearTimer_later (hp : net.scheduler.popDue = some ((id, e), scheduler))
    (hc : { net with scheduler }.clearTimer id e = .ok mid) : net.scheduler.Later mid.scheduler := by
  rcases clearTimer_eq_ok hc with rfl | ⟨i, k, r, -, rfl⟩ <;> exact .popDue hp

/-- Whatever event fires, no old one comes back. -/
lemma fire_later (hf : net.fire e = .ok (result, net')) : net.scheduler.Later net'.scheduler := by
  cases e with
  | produce n => exact produce_later hf
  | timer i k => exact later_turnClosed.expire (fun _ _ => .refl _) hf
  | forward i f => exact later_turnClosed.send hf

/-- To edit the traffic of a node leaves the scheduler alone. -/
lemma editTraffic_later {edit : Traffic → Traffic} (he : net.editTraffic n edit = .ok (result, net')) :
    net.scheduler.Later net'.scheduler := by
  rcases editTraffic_eq_ok he with rfl | ⟨x, traffic, -, -, rfl⟩ <;> exact .refl _

/-- Whatever is called, nothing comes to wait under an old number. -/
lemma Op.apply_later {op : Op} (ha : op.apply fuel net = .ok (result, net')) :
    net.scheduler.Later net'.scheduler := by
  have hclosed : Closed (fun _ mid => net.scheduler.Later mid.scheduler) fun _ => True := by
    refine ⟨fun h _ => h.trans (.advanceTo _ _), fun h hf _ => ?_⟩
    obtain ⟨id, e, scheduler, hp, hc, -, hfire⟩ := hf
    exact h.trans ((clearTimer_later hp hc).trans (fire_later hfire))
  have hrun : Run (fun _ _ => True) net ([] ++ op.moments fuel net) net' := Run.start.op ha trivial
  refine hclosed.run (fun {_ mid op fuel result next} h hop _ ha => h.trans ?_) (fun _ _ => trivial)
    (.refl _) hrun
  cases op with
  | addVariate | setVariate | addNode | addSource | connectInRange | startTrace | stopTrace | reseed =>
    cases ha
    exact .refl _
  | setPeriod | setMessageLength | addDestination => exact editTraffic_later ha
  | addInterface | addMember =>
    simp only [apply, Network.addInterface, Network.addMember, bind_eq_ok] at ha
    obtain ⟨_, ⟨_, -, hm⟩, ha⟩ := ha
    cases hm
    cases ha
    exact .refl _
  | initRun =>
    have hreset : mid.scheduler.Later mid.reset.scheduler := scheduler_reset mid ▸ .reset _
    exact hreset.trans (startAll_later ha)
  | produce n => exact produce_later ha
  | put n =>
    simp only [apply, bind_eq_ok] at ha
    obtain ⟨_, hp, ha⟩ := ha
    cases ha
    obtain ⟨x, -, rfl⟩ := put_eq_ok hp
    exact .refl _
  | send i f => exact later_turnClosed.send ha
  | receive i f => exact later_turnClosed.act ha
  | broadcast i f => exact later_turnClosed.broadcast ha
  | step | runTo | runUntilIdle => cases hop

/-- Radios and scheduler agree on the timers that are set, and no event is late. -/
structure Clocked (net : Network) : Prop where
  coherent : net.Coherent
  onTime : net.scheduler.OnTime

namespace Clocked

variable (h : net.Clocked)
include h

/-- Those who hear a frame set their timers on the clock, by induction over them. -/
lemma hears {members : List InterfaceId} (hh : Hears net f members net') : net'.Clocked := by
  induction hh with
  | nil => exact h
  | cons _ _ hs _ ih => exact ih ⟨hs.coherent, hs.onTime⟩

/-- What a timer sets off keeps radios and scheduler in agreement. -/
lemma expire (he : net.expire i k = .ok (result, net')) : net'.Clocked := by
  obtain ⟨-, r, w, -, -, hm⟩ := expire_moved h.coherent h.onTime he
  cases hm with
  | rest _ hs => exact ⟨hs.coherent, hs.onTime⟩
  | contend _ _ hs => exact ⟨hs.coherent, hs.onTime⟩
  | transmit _ hs _ hh => exact hears ⟨hs.coherent, hs.onTime⟩ hh

/-- A frame that is sent keeps radios and scheduler in agreement. -/
lemma send (hs : net.send i f = .ok (result, net')) : net'.Clocked := by
  rcases send_queued h.coherent h.onTime hs with ⟨-, rfl⟩ | ⟨-, -, next, r, w, -, -, hset⟩
  · exact h
  · exact ⟨hset.coherent, hset.onTime⟩

/-- A frame that is produced keeps radios and scheduler in agreement. -/
lemma produce (hp : net.produce n = .ok (result, net')) : net'.Clocked := by
  rcases produce_cases h.coherent h.onTime hp with ⟨ha, -⟩ | ⟨-, i, f, next, hmade⟩
  · exact ⟨ha.coherent, ha.onTime⟩
  · obtain ⟨mid, -, ha, -⟩ := hmade.queued
    exact ⟨ha.coherent, ha.onTime⟩

/-- An event that is taken out leaves no timer behind. -/
lemma taken (hp : net.scheduler.popDue = some ((id, e), scheduler))
    (hc : { net with scheduler }.clearTimer id e = .ok mid) : mid.Clocked := by
  cases e with
  | timer i k =>
    obtain ⟨-, hcar⟩ := pop_timer h.coherent h.onTime hp hc rfl
    have hcar := hcar (w := ⟨i, ⟨0⟩, net.timing, net.now⟩) rfl
    exact ⟨hcar.coherent, hcar.onTime⟩
  | produce n | forward i f =>
    obtain ⟨-, hcoh, hon, -⟩ := pop_other h.coherent h.onTime hp hc (by simp)
    exact ⟨hcoh, hon⟩

/-- Whatever event fires, radios and scheduler stay in agreement. -/
lemma fire (hf : net.fire e = .ok (result, net')) : net'.Clocked := by
  cases e with
  | timer i k => exact h.expire hf
  | produce n => exact h.produce hf
  | forward i f => exact h.send hf

/-- The clock may move on to a tick that is awaited. -/
lemma advanceTo {time : Nat} (ha : net.Awaits time) :
    Clocked { net with scheduler := net.scheduler.advanceTo time } :=
  ⟨(h.coherent.advanceTo time).1, ha.onTime h.onTime⟩

/-- Whatever is called, radios and scheduler agree afterwards. -/
lemma apply {op : Op} (ha : op.apply fuel net = .ok (result, net')) : net'.Clocked := by
  have hclosed : Closed (fun _ net => net.Clocked) fun _ => True :=
    ⟨fun h ha => h.advanceTo ha, fun h ⟨id, e, scheduler, hp, hc, _, hf⟩ _ => (h.taken hp hc).fire hf⟩
  have hrun : Run (fun _ _ => True) net ([] ++ op.moments fuel net) net' := Run.start.op ha trivial
  refine hclosed.run (fun {_ mid op fuel result next} h hop _ ha => ?_) (fun _ _ => trivial) h hrun
  by_cases hk : op.keepsBooks = true
  · have haside := Op.apply_aside hk h.coherent h.onTime ha
    exact ⟨haside.coherent, haside.onTime⟩
  cases op with
  | addInterface =>
    simp only [Op.apply, bind_eq_ok] at ha
    obtain ⟨_, hi, ha⟩ := ha
    cases ha
    obtain ⟨hcoh, hs, -⟩ := addInterface_radio h.coherent hi
    exact ⟨hcoh, hs ▸ h.onTime⟩
  | initRun =>
    obtain ⟨haside, -⟩ := initRun_aside ha
    exact ⟨haside.coherent, haside.onTime⟩
  | produce => exact h.produce ha
  | send => exact h.send ha
  | receive =>
    obtain ⟨-, r, w, -, -, hs⟩ := receive_settled h.coherent h.onTime ha
    exact ⟨hs.coherent, hs.onTime⟩
  | broadcast =>
    obtain ⟨-, medium, -, hh⟩ := broadcast_hears h.coherent h.onTime ha
    exact h.hears hh
  | step | runTo | runUntilIdle => cases hop
  | _ => exact absurd rfl hk

end Clocked

end Network

/-- The turns of a radio: it hears a frame, a timer runs out, it takes up a countdown, or it is given a frame
to send. -/
inductive Radio.Takes (w : Setting) (r : Radio) : Turn → Prop where
  | hear (f : Frame) : Takes w r (receive w f { radio := r })
  | expire (k : Timer) : Takes w r (expire w { radio := r } k).1
  | countdown (length : Nat) : Takes w r (beginCountdown w length { radio := r })
  | queue (f : Frame) : Takes w r (enqueue w f r)

/-- A radio that takes its turn keeps its handles, and sets its timers for times to come. -/
lemma Radio.Takes.proper {w : Setting} {r : Radio} {t : Turn} (h : r.Takes w t) : t.Proper w r.timers := by
  cases h with
  | hear f => exact receive_proper f (Turn.proper_start w r)
  | expire k => exact expire_proper k (Turn.proper_start w r)
  | countdown length => exact beginCountdown_proper length (Turn.proper_start w r)
  | queue f =>
    have hstart := Turn.proper_start w { r with outgoing := r.outgoing ++ [f] }
    unfold enqueue
    dsimp only
    split
    · exact trySend_proper hstart
    · exact hstart

namespace Network

variable {net mid net' : Network} {w : Setting} {i : InterfaceId} {k : Timer} {r : Radio} {f : Frame}
  {n : NodeId} {id : EventId} {e : Event} {scheduler : Scheduler Event} {fuel : Nat}
  {result : Except NetworkError Unit}

/-- The networks that operations pass through, starting from `first`: between operations, between the events
of a loop and the moves of its clock, when an event has been taken out but not fired, and between the effects
of a turn. -/
inductive ComesTo (first : Network) : Network → Prop where
  | start : ComesTo first first
  | call {net net' : Network} {op : Op} {fuel : Nat} {result : Except NetworkError Unit}
      (before : ComesTo first net) (ok : op.apply fuel net = .ok (result, net')) : ComesTo first net'
  | clock {net : Network} {time : Nat} (before : ComesTo first net) (awaits : net.Awaits time) :
      ComesTo first { net with scheduler := net.scheduler.advanceTo time }
  | taken {net mid : Network} {id : EventId} {e : Event} {scheduler : Scheduler Event}
      (before : ComesTo first net) (pop : net.scheduler.popDue = some ((id, e), scheduler))
      (clear : { net with scheduler }.clearTimer id e = .ok mid) : ComesTo first mid
  | fired {net net' : Network} {e : Event} {result : Except NetworkError Unit}
      (before : ComesTo first net) (fire : net.fire e = .ok (result, net')) : ComesTo first net'
  | acting {net net' : Network} {w : Setting} {r : Radio} {t : Turn} {es : List Effect}
      {result : Except NetworkError Unit} (before : ComesTo first net) (radio : net.radio w.self = .ok r)
      (setting : net.setting w.self = .ok w) (takes : r.Takes w t) (begins : es <+: t.effects)
      (ok : (net.setRadio w.self t.radio).performAll w es = .ok (result, net')) : ComesTo first net'

namespace ComesTo

variable {first : Network}

/-- Radios and scheduler agree at any time, even in the middle of a turn. -/
lemma clocked (h : first.ComesTo net) (hf : first.Clocked) : net.Clocked := by
  induction h with
  | start => exact hf
  | call _ ok ih => exact ih.apply ok
  | clock _ ha ih => exact ih.advanceTo ha
  | taken _ hp hc ih => exact ih.taken hp hc
  | fired _ hfire ih => exact ih.fire hfire
  | acting _ hr hw ht hes ok ih =>
    have hproper := ht.proper
    obtain ⟨hcoh, hal⟩ := ih.coherent.setRadio hr hproper.timers
    obtain ⟨-, hc⟩ := performAll_carried hcoh ih.onTime
      (fun hmem => setting_now hw ▸ hproper.punctual (hes.subset hmem)) ok
    exact ⟨hc.coherent, hc.onTime⟩

/-- Whatever a network comes to, no old event is pending again. -/
lemma later (h : first.ComesTo net) : first.scheduler.Later net.scheduler := by
  induction h with
  | start => exact .refl _
  | call _ ok ih => exact ih.trans (Op.apply_later ok)
  | clock _ _ ih => exact ih.trans (.advanceTo _ _)
  | taken _ hp hc ih => exact ih.trans (clearTimer_later hp hc)
  | fired _ hfire ih => exact ih.trans (fire_later hfire)
  | acting _ _ _ _ _ ok ih => exact ih.trans (later_turnClosed.performAll ok :)

end ComesTo

/-- A run passes through the network that it leads to, and through those in which its events were found. -/
theorem Run.comesTo {allowed : Op → Except NetworkError Unit → Prop} {first : Network} {log : List Moment}
    (hrun : Run allowed first log net) : first.ComesTo net ∧
      ∀ m ∈ log, first.ComesTo m.before ∧ first.ComesTo m.after ∧
        ∀ e, m.cause = .event e → ∃ found result, first.ComesTo found ∧ found.Fires m result := by
  have hclosed : Closed (fun log net => first.ComesTo net ∧ ∀ m ∈ log, first.ComesTo m.before ∧
      first.ComesTo m.after ∧ ∀ e, m.cause = .event e →
        ∃ found result, first.ComesTo found ∧ found.Fires m result) fun _ => True := by
    refine ⟨fun h ha => ⟨h.1.clock ha, h.2⟩, fun {log net m result} h hf _ => ?_⟩
    obtain ⟨id, e, scheduler, hp, hc, hcause, hfire⟩ := id hf
    have hbefore := h.1.taken hp hc
    refine ⟨hbefore.fired hfire, fun m' hm => ?_⟩
    rcases List.mem_append.1 hm with hm | hm
    · exact h.2 m' hm
    · cases List.mem_singleton.1 hm
      exact ⟨hbefore, hbefore.fired hfire, fun _ _ => ⟨net, result, h.1, hf⟩⟩
  refine hclosed.run (fun h _ _ ha => ⟨h.1.call ha, fun m hm => ?_⟩) (fun _ _ => trivial)
    ⟨.start, by simp⟩ hrun
  rcases List.mem_append.1 hm with hm | hm
  · exact h.2 m hm
  · cases List.mem_singleton.1 hm
    exact ⟨h.1, h.1.call ha, fun e hcause => by cases hcause⟩

/-- In a new network no timer is set and nothing waits. -/
lemma new_clocked (timing : Timing) (seed : UInt64) (laws : List Law) :
    (Network.new timing seed laws).Clocked :=
  ⟨(new_sound timing seed laws).coherent, (new_sound timing seed laws).onTime⟩

/-- Cancelling a timer that is set takes its event out of the scheduler, and no other. -/
lemma Coherent.disarm_slot (h : net.Coherent) (hr : net.radio i = .ok r) (hid : r.timers.get k = some id) :
    ∃ net', net.disarm i k = .ok net' ∧ net'.radio i = .ok { r with timers := r.timers.set k none } ∧
      (net.scheduler.drop id).1 = true ∧ net'.scheduler.size + 1 = net.scheduler.size ∧
      ∀ due e, net'.scheduler.Pending due e ↔ net.scheduler.Pending due e ∧ due.number ≠ id.number := by
  obtain ⟨time, hp⟩ := h.slot hr hid
  refine ⟨{ net.setRadio i { r with timers := r.timers.set k none } with
      scheduler := (net.scheduler.drop id).2 }, ?_, radio_setRadio_self hr _, ?_, ?_, fun due e => ?_⟩
  · simp only [disarm, hr, ok_bind, hid, pure_eq_ok]
    rfl
  · rw [Scheduler.drop_eq_isPending h.filed]
    exact (Scheduler.isPending_iff h.filed).2 ⟨_, _, hp, rfl⟩
  · have hwait := Scheduler.waiting_drop h.filed hp rfl fun _ => true
    rw [Scheduler.size_eq_waiting, Scheduler.size_eq_waiting, hwait, if_pos rfl]
  · exact Scheduler.pending_drop h.filed

/-- A handle that has left its slot is not that of a pending event, now or at any later time. -/
lemma ComesTo.handle_gone {later last : Network} (hnet : net.Clocked) (hr : net.radio i = .ok r)
    (hid : r.timers.get k = some id) (hlater : net.ComesTo later)
    (hgone : ∀ r', later.radio i = .ok r' → r'.timers.get k ≠ some id) (hlast : later.ComesTo last)
    {due : Due} (hn : due.number = id.number) : ¬ last.scheduler.Pending due e := by
  intro hp
  obtain ⟨time, hset⟩ := hnet.coherent.slot hr hid
  have hnew := hnet.coherent.filed.fresh hset
  -- what is pending under the number of the handle was so all the time
  have hp₁ : later.scheduler.Pending due e :=
    hlast.later.old hp (hn ▸ Nat.lt_of_lt_of_le hnew hlater.later.nextNumber)
  have hp₀ : net.scheduler.Pending due e := hlater.later.old hp₁ (hn ▸ hnew)
  obtain rfl : due = ⟨time, id.number⟩ := hnet.coherent.filed.place_unique hp₀ hset hn
  obtain rfl := hp₀.unique hset
  obtain ⟨r', hr', hkept⟩ := (hlater.clocked hnet).coherent.kept hp₁
  exact hgone r' hr' hkept

/-- Wherever operations on a new network pass, the slot of a timer holds a handle exactly if the event of this
handle is pending for this timer, and no two events are pending for one timer. So an event of a timer that is
taken out is the one that the slot holds; to cancel a timer that is set removes its event and no other; and an
event whose handle has left its slot, since the timer was cancelled, set anew or forgotten, never fires. -/
theorem ComesTo.slots_filed {timing : Timing} {seed : UInt64} {laws : List Law}
    (h : (Network.new timing seed laws).ComesTo net) :
    (∀ i k id, (∃ r, net.radio i = .ok r ∧ r.timers.get k = some id) ↔
        ∃ time, net.scheduler.Pending ⟨time, id.number⟩ (.timer i k)) ∧
      (∀ i k due due', net.scheduler.Pending due (.timer i k) → net.scheduler.Pending due' (.timer i k) →
        due = due') ∧
      (∀ i k id scheduler, net.scheduler.popDue = some ((id, .timer i k), scheduler) →
        ∃ r, net.radio i = .ok r ∧ r.timers.get k = some id) ∧
      (∀ i k r id, net.radio i = .ok r → r.timers.get k = some id →
        ∃ net', net.disarm i k = .ok net' ∧ net'.radio i = .ok { r with timers := r.timers.set k none } ∧
          (net.scheduler.drop id).1 = true ∧ net'.scheduler.size + 1 = net.scheduler.size ∧
          ∀ due e, net'.scheduler.Pending due e ↔ net.scheduler.Pending due e ∧ due.number ≠ id.number) ∧
      ∀ i k r id later last, net.radio i = .ok r → r.timers.get k = some id → net.ComesTo later →
        (∀ r', later.radio i = .ok r' → r'.timers.get k ≠ some id) → later.ComesTo last →
        ∀ e scheduler, last.scheduler.popDue ≠ some ((id, e), scheduler) := by
  have hnet := h.clocked (new_clocked timing seed laws)
  have hc := hnet.coherent
  refine ⟨fun i k id => ⟨?_, ?_⟩, fun i k due due' => hc.timer_unique, fun i k id scheduler hp => ?_,
    fun i k r id hr hid => hc.disarm_slot hr hid,
    fun i k r id later last hr hid hlater hgone hlast e scheduler hp => ?_⟩
  · rintro ⟨r, hr, hid⟩
    exact hc.slot hr hid
  · rintro ⟨time, hp⟩
    exact hc.kept hp
  · exact hc.kept (hnet.onTime.pending_now hp)
  · obtain ⟨time, hpend, -⟩ := Scheduler.popDue_eq_some hp
    exact ComesTo.handle_gone hnet hr hid hlater hgone hlast rfl hpend

/-- The first of two nodes has set a timer for the acknowledgement of its frame. When the acknowledgement has
come, the timer is cancelled, and its event never fires. -/
theorem cancelled_timer_of_pair : ∃ (net later : Network) (r r' : Radio) (id : EventId),
    (Network.new {} 7 [.delta 5]).ComesTo net ∧ net.radio ⟨0⟩ = .ok r ∧
      r.timers.get .ackTimeout = some id ∧ net.ComesTo later ∧ later.radio ⟨0⟩ = .ok r' ∧
      r'.timers.get .ackTimeout = none ∧
      ∀ last, later.ComesTo last → ∀ e scheduler, last.scheduler.popDue ≠ some ((id, e), scheduler) := by
  have hend : endsWith (andThen
        (Op.applyAll 100 (Op.pair ++ [.initRun, .runTo 550]) [] (.new {} 7 [.delta 5])) fun log net =>
        andThen (Op.applyAll 100 [.runUntilIdle] log net) fun _ later => .ok (.ok net, later))
      (fun net later => (net.radios[0]?.bind (·.timers.ackTimeout)).isSome ∧
        later.radios[0]?.map (·.timers.ackTimeout) = some none) = true := by
    decide +kernel
  obtain ⟨net, later, hok, htest⟩ := endsWith_iff.1 hend
  obtain ⟨hset, hgone⟩ := of_decide_eq_true htest
  rcases andThen_eq_ok.1 hok with ⟨_, -, he⟩ | ⟨log, net₀, hfirst, hok⟩
  · cases he
  rcases andThen_eq_ok.1 hok with ⟨_, -, he⟩ | ⟨log', later₀, hsecond, hok⟩
  · cases he
  cases hok
  have hrun : Run (fun _ _ => True) (.new {} 7 [.delta 5]) log net :=
    .of_applyAll .start hfirst fun _ _ => trivial
  have hrest : net.ComesTo later := by
    rcases andThen_eq_ok.1 hsecond with ⟨_, -, he⟩ | ⟨_, mid, hop, hn⟩
    · cases he
    · cases hn
      exact .call .start hop
  obtain ⟨id, hid⟩ := Option.isSome_iff_exists.1 hset
  obtain ⟨r, hr, hid⟩ := Option.bind_eq_some_iff.1 hid
  obtain ⟨r', hr', hnone⟩ := Option.map_eq_some_iff.1 hgone
  have hnet := hrun.comesTo.1
  have hr : net.radio ⟨0⟩ = .ok r := radio_eq_ok.2 hr
  have hr' : later.radio ⟨0⟩ = .ok r' := radio_eq_ok.2 hr'
  refine ⟨net, later, r, r', id, hnet, hr, hid, hrest, hr', hnone, fun last hlast => ?_⟩
  obtain ⟨-, -, -, -, hnever⟩ := hnet.slots_filed
  refine hnever ⟨0⟩ .ackTimeout r id later last hr hid hrest (fun s hs => ?_) hlast
  rw [hr'] at hs
  cases hs
  simp [Timers.get, hnone]

end Network

end CarrierSense
