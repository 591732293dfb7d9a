import CarrierSense.Proofs.Network.Exchange
import CarrierSense.Proofs.Network.Sources

/-!
# Rest

Nothing gets stuck: a radio that has anything to do has a timer set that will make it go on, and a source that
has frames left has its next production pending. So once nothing is pending, all work has been done.
-/

namespace CarrierSense

/-- A radio that keeps no handle of a timer has fresh timers. -/
lemma Timers.eq_default {t : Timers} (h : ∀ k, t.get k = none) : t = {} := by
  obtain ⟨h₁, h₂, h₃, h₄, h₅, h₆, h₇⟩ := Timer.forall_iff.1 h
  cases t
  simp_all [get]

namespace Radio

variable {r : Radio} {d : Alarms}

/-- Only an idle radio needs no timer to go on. -/
lemma dictated_eq_nil : r.dictated = [] ↔ r.status = .idle := by
  unfold dictated
  cases r.status <;> simp
  split <;> simp

/-- A sound radio that is idle has nothing to send. -/
lemma Sound.queues_of_idle (h : r.Sound d) (hs : r.status = .idle) : r.outgoing = [] ∧ r.acks = [] := by
  have ho := h.orderly
  simp only [Orderly, hs] at ho
  exact ⟨ho.2.1, ho.1.acks⟩

end Radio

namespace Network

variable {net start : Network} {i : InterfaceId} {r : Radio} {log : List Moment}

/-- A radio that is not idle has a timer pending. -/
lemma Sound.timer_pending (h : net.Sound) (hr : net.radio i = .ok r) (hs : r.status ≠ .idle) :
    ∃ k due, net.scheduler.Pending due (.timer i k) := by
  obtain ⟨k, hk⟩ := List.exists_mem_of_ne_nil _ (mt Radio.dictated_eq_nil.1 hs)
  exact ⟨k, (h.pending_iff hr k).2 hk⟩

/-- When nothing is pending, all radios are at rest. -/
lemma Reachable.eq_atRest (h : net.Reachable) (hrest : net.scheduler.isEmpty = true)
    (hr : net.radio i = .ok r) : r = r.atRest := by
  have hidle : r.status = .idle := by
    by_contra hs
    obtain ⟨k, due, hp⟩ := h.sound.timer_pending hr hs
    exact not_pending_of_isEmpty hrest hp
  have hnone : r.timers = {} := by
    refine Timers.eq_default fun k => Option.eq_none_iff_forall_ne_some.2 fun id hid => ?_
    obtain ⟨time, hp⟩ := h.sound.coherent.slot hr hid
    exact not_pending_of_isEmpty hrest hp
  have heq := h.atRest hr hidle
  rw [hnone] at heq
  exact heq

/-- A run that is driven without an error keeps its sources supplied. -/
lemma Begins.supplied (hstart : start.Begins) (hrun : Run Op.Drives start log net) : net.Supplied := by
  obtain ⟨net₀, stream, result, -, hi⟩ := hstart
  have hsound : start.Sound := (reset_sound _).aside (initRun_aside hi).1
  refine (supplied_closed.run (fun _ hop hmay _ => ?_) (fun _ hmay => hmay.2 _ rfl)
    ⟨hsound, (initRun_supplied hi).2⟩ hrun).2
  rw [hmay.1] at hop
  cases hop

/-- In a supplied network in which nothing is pending, every source has produced all its frames. -/
lemma Supplied.all_produced {n : NodeId} {x : Endpoint} {t : Traffic} (h : net.Supplied)
    (hrest : net.scheduler.isEmpty = true) (hx : net.endpoint n = .ok x) (ht : x.traffic = some t) :
    t.produced = t.maxMessages := by
  have hnone : net.hasMore n = false := by
    have hn := h.pending n
    rw [productions, waiting_of_isEmpty hrest] at hn
    by_contra hmore
    simp [hmore] at hn
  have hdone : t.maxMessages ≤ t.produced := by
    rw [hasMore_eq hx] at hnone
    simpa [Endpoint.hasMore, ht, Traffic.isExhausted] using hnone
  exact Nat.le_antisymm (h.bounded hx ht) hdone

/-- In a reachable network an interface that is not idle, or has anything to send, has one of its timers
pending; when nothing is pending any more, all interfaces are at rest: idle, with empty queues and no flag
set. If the network was led there from the start of a run without an error, every source has produced all its
frames. -/
theorem Reachable.never_stuck (h : net.Reachable) :
    (∀ i r, net.radio i = .ok r → r.status ≠ .idle ∨ r.outgoing ≠ [] ∨ r.acks ≠ [] →
        ∃ k due, net.scheduler.Pending due (.timer i k)) ∧
      (net.scheduler.isEmpty = true → ∀ i r, net.radio i = .ok r → r = r.atRest) ∧
      ∀ start log, start.Begins → Run Op.Drives start log net → net.scheduler.isEmpty = true →
        ∀ n x t, net.endpoint n = .ok x → x.traffic = some t → t.produced = t.maxMessages := by
  refine ⟨fun i r hr hbusy => h.sound.timer_pending hr fun hs => ?_, fun hrest i r => h.eq_atRest hrest,
    fun start log hstart hrun hrest n x t => (hstart.supplied hrun).all_produced hrest⟩
  obtain ⟨hq, ha⟩ := (h.sound.radio hr).queues_of_idle hs
  rcases hbusy with hn | hn | hn
  · exact hn hs
  · exact hn hq
  · exact hn ha

/-- What a run leads to from a reachable network is reachable. -/
lemma Reachable.run {allowed : Op → Except NetworkError Unit → Prop} (h : start.Reachable)
    (hrun : Run allowed start log net) : net.Reachable := by
  induction hrun with
  | start => exact h
  | op _ ok _ ih =>
    obtain ⟨timing, seed, laws, before, hbefore⟩ := ih
    exact ⟨timing, seed, laws, _, hbefore.op ok trivial⟩

/-- A run of two nodes ends with both interfaces at rest, and with the one frame of the source produced. -/
theorem rest_of_pair : ∃ (start : Network) (log : List Moment) (net : Network) (r r' : Radio) (x : Endpoint)
    (t : Traffic), net.Reachable ∧ start.Begins ∧ Run Op.Drives start log net ∧
      net.scheduler.isEmpty = true ∧ net.radio ⟨0⟩ = .ok r ∧ r = r.atRest ∧ net.radio ⟨1⟩ = .ok r' ∧
      r' = r'.atRest ∧ net.endpoint ⟨0⟩ = .ok x ∧ x.traffic = some t ∧ t.maxMessages = 1 ∧
      t.produced = 1 := by
  have hend : endsWith (Op.runAfter 100 Op.pair [.runUntilIdle] (.new {} 7 [.delta 5]))
      (fun _ net => net.scheduler.isEmpty = true ∧ net.radios.size = 2 ∧
        net.endpoints[0]?.map (fun x => x.traffic.map (·.maxMessages)) = some (some 1)) = true := by
    decide +kernel
  obtain ⟨log, net, hok, htest⟩ := endsWith_iff.1 hend
  obtain ⟨hrest, hsize, htraffic⟩ := of_decide_eq_true htest
  obtain ⟨x, hx, htraffic⟩ := Option.map_eq_some_iff.1 htraffic
  obtain ⟨t, ht, hmax⟩ := Option.map_eq_some_iff.1 htraffic
  rcases andThen_eq_ok.1 hok with ⟨_, -, he⟩ | ⟨built, mid, hbuild, hok⟩
  · cases he
  rcases andThen_eq_ok.1 hok with ⟨_, -, he⟩ | ⟨_, start, hi, hok⟩
  · cases he
  have hmid : Run (fun _ _ => True) (Network.new {} 7 [.delta 5]) built mid :=
    .of_applyAll .start hbuild fun _ _ => trivial
  have hinit : Op.initRun.apply 0 mid = .ok (.ok (), start) := hi
  have hreach : start.Reachable := ⟨_, _, _, _, hmid.op hinit trivial⟩
  have hstart : start.Begins := ⟨mid, mid.stream, .ok (), ⟨_, _, _, _, hmid⟩, hi⟩
  have hrun : Run Op.Drives start log net :=
    .of_applyAll .start hok (by simp [Op.Drives, Op.firesEvents])
  obtain ⟨-, hidle, hdone⟩ := (hreach.run hrun).never_stuck
  have hr : net.radio ⟨0⟩ = .ok net.radios[0] := radio_eq_ok.2 (by simp)
  have hr' : net.radio ⟨1⟩ = .ok net.radios[1] := radio_eq_ok.2 (by simp)
  have hx : net.endpoint ⟨0⟩ = .ok x := endpoint_eq_ok.2 hx
  refine ⟨start, log, net, _, _, x, t, hreach.run hrun, hstart, hrun, hrest, hr, hidle hrest _ _ hr, hr',
    hidle hrest _ _ hr', hx, ht, hmax, ?_⟩
  exact (hdone start log hstart hrun hrest _ x t hx ht).trans hmax

end Network

end CarrierSense
