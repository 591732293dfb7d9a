import CarrierSense.Proofs.Network.Traffic

/-!
# Reliable hops

In a run whose frames come in by production, forwarding and sending only, a frame leaves the queue of an
interface after the receiver of its hop has accepted what the interface sent last. The numbers of frames
do not enter into this: what excludes an acknowledgement of another frame is that a flight is over
before the next one begins.
-/

namespace CarrierSense.Network

/-- A moment of a log that has grown is the new one, or one of those before. -/
lemma cut_of_snoc {log past since : List Moment} {m m' : Moment}
    (h : log ++ [m] = past ++ m' :: since) :
    (past = log ∧ m' = m ∧ since = []) ∨
      ∃ since', since = since' ++ [m] ∧ log = past ++ m' :: since' := by
  rcases List.append_eq_append_iff.1 h with ⟨rest, hpast, hm⟩ | ⟨rest, hlog, hm⟩
  · cases rest with
    | nil =>
      cases hm
      exact .inl ⟨by rw [hpast, List.append_nil], rfl, rfl⟩
    | cons x rest => simp at hm
  · cases rest with
    | nil =>
      cases hm
      exact .inl ⟨by rw [hlog, List.append_nil], rfl, rfl⟩
    | cons x rest =>
      cases hm
      exact .inr ⟨rest, rfl, hlog⟩

namespace Moment

/-- The frames that leave the queue of an interface. -/
def left (m : Moment) (i : InterfaceId) : List Frame :=
  (m.before.queue i).take ((m.before.queue i).length - (m.after.queue i).length)

/-- The interface `i` puts the data frame `f` on the air. -/
structure Sends (m : Moment) (i : InterfaceId) (f : Frame) : Prop where
  data : f.isAck = false
  starts : m.cause = .call (.broadcast i f) ∨
    ∃ k, m.cause = .event (.timer i k) ∧ m.before.Transmits i k f

/-- The interface `j` accepts the data frame `f`. -/
structure Accepts (m : Moment) (j : InterfaceId) (f : Frame) : Prop where
  cause : m.cause = .event (.timer j .reception)
  accepts : m.before.Accepts j f m.after
  node : ∃ iface x, m.before.topology.interface j = .ok iface ∧ m.before.endpoint iface.node = .ok x

/-- What becomes of frames and flights in a moment: a timer runs out, or frames join the queues. -/
inductive Advance (m : Moment) (g : Flights) : Flights → Prop where
  | timer {i : InterfaceId} {k : Timer} {g' : Flights} (cause : m.cause = .event (.timer i k))
      (progress : m.before.Progress i k m.after g g') : Advance m g g'
  | joins (silent : ∀ i f, ¬ m.Sends i f) (grown : m.before.Grown m.after) : Advance m g g

end Moment

variable {net net' : Network} {i j : InterfaceId} {k : Timer} {f f' : Frame} {fl fl' : Flight}
  {g g' : Flights} {m : Moment} {log : List Moment} {result : Except NetworkError Unit}

/-- Whatever event fires in a tracked network, the network stays tracked. -/
theorem Tracked.fires (h : net.Tracked g) (hf : net.Fires m result) :
    m.before.queue = net.queue ∧ ∃ g', m.after.Tracked g' ∧ m.Advance g g' := by
  obtain ⟨id, e, scheduler, hp, hc, hcause, hfire⟩ := hf
  have hother : (∀ i k, e ≠ .timer i k) →
      (m.before.Tracked g → e.forwardsAck = false → m.after.Tracked g ∧ m.before.Grown m.after) →
      m.before.queue = net.queue ∧ ∃ g', m.after.Tracked g' ∧ m.Advance g g' := by
    intro he hstep
    -- apart from timers, events let frames into the queues, and send nothing
    obtain ⟨hmid, hqueue, hack⟩ := h.pop_other hp hc he
    obtain ⟨htracked, hgrown⟩ := hstep hmid hack
    refine ⟨hqueue, g, htracked, .joins (fun i f hs => ?_) hgrown⟩
    rcases hs.starts with hm | ⟨k, hm, -⟩ <;> rw [hcause] at hm <;> cases hm
    exact he i k rfl
  cases e with
  | timer i k =>
    obtain ⟨-, hun, g', htracked, hprogress⟩ := h.expire hp hc hfire
    exact ⟨hun.queue, g', htracked, .timer hcause hprogress⟩
  | produce n => exact hother (by simp) fun hmid _ => hmid.produce hfire
  | forward i f => exact hother (by simp) fun hmid hack => hmid.send hack hfire

/-- A timer transmits one frame at most. -/
lemma Transmits.unique (h : net.Transmits i k f) (h' : net.Transmits i k f') : f = f' := by
  obtain ⟨r, w, hr, hw, hq⟩ := h
  obtain ⟨r', w', hr', hw', hq'⟩ := h'
  rw [hr] at hr'
  rw [hw] at hw'
  cases hr'
  cases hw'
  rw [hq] at hq'
  exact Sequel.transmit.inj hq'

namespace Moment

/-- What is sent when a timer runs out is what the radio of that timer puts on the air. -/
lemma Sends.of_timer (h : m.Sends j f) (hm : m.cause = .event (.timer i k)) :
    j = i ∧ m.before.Transmits i k f := by
  rcases h.starts with hcall | ⟨k', hev, ht⟩
  · rw [hm] at hcall
    cases hcall
  · rw [hm] at hev
    cases hev
    exact ⟨rfl, ht⟩

/-- If frames have been appended to a queue, then these have joined and none has left. -/
lemma queue_of_append {fs : List Frame} (h : m.after.queue i = m.before.queue i ++ fs) :
    m.left i = [] ∧ m.joined i = fs := by
  simp [left, joined, h]

/-- If the head of a queue is gone, then it has left and none has joined. -/
lemma queue_of_cons (h : m.before.queue i = f :: m.after.queue i) :
    m.left i = [f] ∧ m.joined i = [] := by
  simp [left, joined, h]

namespace Advance

variable (h : m.Advance g g')
include h

/-- A queue changes at its ends only; and a frame that leaves it is the frame of a flight that was
accepted. -/
lemma queue (i : InterfaceId) :
    (m.left i = [] ∧ m.after.queue i = m.before.queue i ++ m.joined i) ∨
      ∃ fl, g i = some fl ∧ fl.stage = .accepted ∧ m.left i = [fl.frame] ∧ m.joined i = [] ∧
        m.before.queue i = fl.frame :: m.after.queue i := by
  have hgrow : ∀ {fs}, m.after.queue i = m.before.queue i ++ fs →
      m.left i = [] ∧ m.after.queue i = m.before.queue i ++ m.joined i := by
    intro fs hq
    obtain ⟨hleft, hjoined⟩ := queue_of_append hq
    exact ⟨hleft, by rw [hjoined, hq]⟩
  have hsame : m.after.queue i = m.before.queue i →
      m.left i = [] ∧ m.after.queue i = m.before.queue i ++ m.joined i := fun hq =>
    hgrow (hq.trans (List.append_nil _).symm)
  cases h with
  | joins _ hgrown =>
    obtain ⟨fs, hq⟩ := hgrown i
    exact .inl (hgrow hq)
  | @timer i₀ k₀ _ hm hprogress =>
    cases hprogress with
    | launch _ _ _ hq _ => exact .inl (hsame (congrFun hq i))
    | accept _ _ _ _ _ hq => exact .inl (hsame (congrFun hq i))
    | quiet _ hq _ => exact .inl (hsame (congrFun hq i))
    | @settle fl hsilent hg hacc hhead hother _ =>
      by_cases hi : i = i₀
      · subst hi
        obtain ⟨hleft, hjoined⟩ := queue_of_cons hhead
        exact .inr ⟨fl, hg, hacc, hleft, hjoined, hhead⟩
      · exact .inl (hsame (hother hi))

/-- A data frame that is sent is the head of the queue, and begins a flight. -/
lemma sends (hs : m.Sends i f) : (m.before.queue i).head? = some f ∧
    m.after.queue i = m.before.queue i ∧ g' i = some ⟨f, m.before.now + f.airtime, .aloft⟩ := by
  cases h with
  | joins hsilent _ => exact absurd hs (hsilent i f)
  | timer hm hprogress =>
    obtain ⟨rfl, ht⟩ := hs.of_timer hm
    cases hprogress with
    | @launch f' ht' hdata hhead hq _ =>
      obtain rfl := ht.unique ht'
      exact ⟨hhead, congrFun hq i, Flights.put_self ..⟩
    | accept hsilent => exact absurd ht (hsilent f)
    | settle hsilent => exact absurd ht (hsilent f)
    | quiet hsilent =>
      have hack := hsilent f ht
      rw [hs.data] at hack
      cases hack

/-- A flight begins when its frame is sent; later on, its frame may be accepted. -/
lemma flight (hm : m.before.Matched) (hg : g' i = some fl') :
    (m.Sends i fl'.frame ∧ fl' = ⟨fl'.frame, m.before.now + fl'.frame.airtime, .aloft⟩) ∨
      (∀ f, ¬ m.Sends i f) ∧ ∃ fl, g i = some fl ∧ fl.frame = fl'.frame ∧ fl.endsAt = fl'.endsAt ∧
        (fl'.stage ≠ .aloft → fl.stage ≠ .aloft ∨
          ∃ j, fl.frame.receiver = some j ∧ m.Accepts j fl.frame ∧ m.before.now = fl.endsAt) := by
  -- a flight that stays as it is
  have hkeep : (∀ f, ¬ m.Sends i f) → g i = some fl' → (∀ f, ¬ m.Sends i f) ∧ ∃ fl, g i = some fl ∧
      fl.frame = fl'.frame ∧ fl.endsAt = fl'.endsAt ∧ (fl'.stage ≠ .aloft → fl.stage ≠ .aloft ∨
        ∃ j, fl.frame.receiver = some j ∧ m.Accepts j fl.frame ∧ m.before.now = fl.endsAt) :=
    fun hsilent hg => ⟨hsilent, fl', hg, rfl, rfl, .inl⟩
  cases h with
  | joins hsilent _ => exact .inr (hkeep (hsilent i) hg)
  | @timer i₀ k₀ _ hcause hprogress =>
    have hnone : (∀ f, ¬ m.before.Transmits i₀ k₀ f) → ∀ f, ¬ m.Sends i f := fun hsilent f hs =>
      hsilent f (hs.of_timer hcause).2
    cases hprogress with
    | @launch f ht hdata hhead hq _ =>
      by_cases hi : i = i₀
      · subst hi
        rw [Flights.put_self] at hg
        cases hg
        exact .inl ⟨⟨hdata, .inr ⟨k₀, hcause, ht⟩⟩, rfl⟩
      · rw [Flights.put_ne hi] at hg
        exact .inr (hkeep (fun f hs => hi (hs.of_timer hcause).1) hg)
    | @accept s f hsilent htimer hflight hrecv haccepts hq =>
      by_cases hi : i = s
      · subst hi
        rw [Flights.put_self] at hg
        cases hg
        subst htimer
        obtain ⟨iface, hiface, -⟩ := haccepts.handed
        obtain ⟨x, hx⟩ := hm.endpoint hiface
        exact .inr ⟨hnone hsilent, _, hflight, rfl, rfl, fun _ =>
          .inr ⟨i₀, hrecv, ⟨hcause, haccepts, iface, x, hiface, hx⟩, rfl⟩⟩
      · rw [Flights.put_ne hi] at hg
        exact .inr (hkeep (hnone hsilent) hg)
    | @settle fl hsilent hflight hacc _ _ _ =>
      by_cases hi : i = i₀
      · subst hi
        rw [Flights.put_self] at hg
        cases hg
        exact .inr ⟨hnone hsilent, fl, hflight, rfl, rfl, fun _ => .inl (by simp [hacc])⟩
      · rw [Flights.put_ne hi] at hg
        exact .inr (hkeep (hnone hsilent) hg)
    | quiet hsilent =>
      refine .inr (hkeep (fun f hs => ?_) hg)
      have hack := hsilent f (hs.of_timer hcause).2
      rw [hs.data] at hack
      cases hack

end Advance

end Moment

/-- The interface has sent the frame of a flight, and no data frame since. If the flight is no longer
aloft, the receiver of the hop has accepted the frame since, in the tick in which it ended. -/
def Tells (log : List Moment) (i : InterfaceId) (fl : Flight) : Prop :=
  ∃ past sent since, log = past ++ sent :: since ∧ sent.Sends i fl.frame ∧
    fl.endsAt = sent.before.now + fl.frame.airtime ∧ (∀ m ∈ since, ∀ f, ¬ m.Sends i f) ∧
    (fl.stage ≠ .aloft → ∃ j, fl.frame.receiver = some j ∧
      ∃ m ∈ since, m.Accepts j fl.frame ∧ m.before.now = fl.endsAt)

/-- The receiver of the hop has accepted the data frame that the interface has sent last. -/
def Vouched (log : List Moment) (i : InterfaceId) (f : Frame) : Prop :=
  ∃ past sent since, log = past ++ sent :: since ∧ sent.Sends i f ∧
    (∀ m ∈ since, ∀ f', ¬ m.Sends i f') ∧ ∃ j, f.receiver = some j ∧
      ∃ m ∈ since, m.Accepts j f ∧ m.before.now = sent.before.now + f.airtime

/-- A flight that has ended is vouched for by the log. -/
lemma Tells.vouched (h : Tells log i fl) (hst : fl.stage ≠ .aloft) : Vouched log i fl.frame := by
  obtain ⟨past, sent, since, hlog, hsent, hend, hsilent, hacc⟩ := h
  obtain ⟨j, hrecv, m, hm, haccepts, hnow⟩ := hacc hst
  exact ⟨past, sent, since, hlog, hsent, hsilent, j, hrecv, m, hm, haccepts, by rw [hnow, hend]⟩

/-- After another moment the log tells about the flights that are left by it. -/
lemma Tells.advance (h : ∀ {fl}, g i = some fl → Tells log i fl) (ha : m.Advance g g')
    (hm : m.before.Matched) (hg : g' i = some fl') : Tells (log ++ [m]) i fl' := by
  rcases ha.flight hm hg with ⟨hs, hfl⟩ | ⟨hsilent, fl, hfl, hframe, hends, hstage⟩
  · refine ⟨log, m, [], rfl, hs, by rw [hfl], by simp, fun hst => ?_⟩
    rw [hfl] at hst
    exact absurd rfl hst
  · -- the flight is an old one, and the log goes on telling about it
    obtain ⟨past, sent, since, hlog, hsent, hend, hquiet, hacc⟩ := h hfl
    refine ⟨past, sent, since ++ [m], by rw [hlog, List.append_assoc, List.cons_append], hframe ▸ hsent,
      by rw [← hends, hend, hframe], fun m' hm' => ?_, fun hst => ?_⟩
    · rcases List.mem_append.1 hm' with hm' | hm'
      · exact hquiet m' hm'
      · obtain rfl := List.mem_singleton.1 hm'
        exact hsilent
    · rw [← hframe, ← hends]
      rcases hstage hst with hst | ⟨j, hrecv, haccepts, hnow⟩
      · obtain ⟨j, hrecv, m', hm', hrest⟩ := hacc hst
        exact ⟨j, hrecv, m', List.mem_append_left _ hm', hrest⟩
      · exact ⟨j, hrecv, m, by simp, haccepts, hnow⟩

/-- What the moment `m` of a log that began with `past` does to the queue of the interface `i`. -/
structure Moment.Fair (past : List Moment) (m : Moment) (i : InterfaceId) : Prop where
  /-- Frames have left the queue in the order in which they joined it. -/
  order : past.flatMap (·.joined i) = past.flatMap (·.left i) ++ m.before.queue i
  /-- Frames join the queue at its end, or the head leaves it. -/
  ends : (m.left i = [] ∧ m.after.queue i = m.before.queue i ++ m.joined i) ∨
    ∃ f, m.left i = [f] ∧ m.joined i = [] ∧ m.before.queue i = f :: m.after.queue i
  /-- A frame that leaves the queue was accepted when it was sent last. -/
  vouched : ∀ f ∈ m.left i, Vouched past i f
  /-- A data frame that is sent is the head of the queue. -/
  head : ∀ {f}, m.Sends i f →
    (m.before.queue i).head? = some f ∧ m.after.queue i = m.before.queue i
  /-- A frame that was sent stays the head of the queue until it leaves it. -/
  stays : ∀ {before sent since f}, past = before ++ sent :: since → sent.Sends i f →
    (∀ m' ∈ since, m'.left i = []) → (m.before.queue i).head? = some f

/-- The network is tracked by flights, the log tells about them, and all its moments are fair. -/
structure Story (log : List Moment) (net : Network) (g : Flights) : Prop where
  matched : net.Matched
  tracked : net.Tracked g
  tells : ∀ {i fl}, g i = some fl → Tells log i fl
  order : ∀ i, log.flatMap (·.joined i) = log.flatMap (·.left i) ++ net.queue i
  stays : ∀ {i past sent since f}, log = past ++ sent :: since → sent.Sends i f →
    (∀ m ∈ since, m.left i = []) → (net.queue i).head? = some f
  fair : ∀ {past m future}, log = past ++ m :: future → ∀ i, m.Fair past i

namespace Story

variable (h : Story log net g) (hq : m.before.queue = net.queue) (ha : m.Advance g g')
include h hq ha

/-- The next moment of a story is fair. -/
lemma fair_next (i : InterfaceId) : m.Fair log i := by
  refine ⟨by rw [hq]; exact h.order i, ?_, fun f hf => ?_, fun hs => ?_, fun hlog hs hnone => ?_⟩
  · exact (ha.queue i).imp_right fun ⟨fl, _, _, hleft, hjoined, hhead⟩ =>
      ⟨fl.frame, hleft, hjoined, hhead⟩
  · rcases ha.queue i with ⟨hnone, -⟩ | ⟨fl, hg, hacc, hleft, -, -⟩
    · rw [hnone] at hf
      cases hf
    · rw [hleft, List.mem_singleton] at hf
      rw [hf]
      exact (h.tells hg).vouched (by simp [hacc])
  · obtain ⟨hhead, hsame, -⟩ := ha.sends hs
    exact ⟨hhead, hsame⟩
  · rw [hq]
    exact h.stays hlog hs hnone

/-- One more moment continues the story of all queues and flights. -/
lemma advance (hm : m.before.Matched) (hm' : m.after.Matched) (ht : m.after.Tracked g') :
    Story (log ++ [m]) m.after g' := by
  have hfair := h.fair_next hq ha
  refine ⟨hm', ht, Tells.advance h.tells ha hm, fun i => ?_, fun {i past sent since f} hlog hs hnone => ?_,
    fun {past m' future} hlog i => ?_⟩
  · have horder := (hfair i).order
    rw [List.flatMap_append, List.flatMap_append, horder, List.flatMap_singleton, List.flatMap_singleton]
    rcases (hfair i).ends with ⟨hleft, hafter⟩ | ⟨f, hleft, hjoined, hbefore⟩
    · simp [hleft, hafter]
    · simp [hleft, hjoined, hbefore]
  · rcases cut_of_snoc hlog with ⟨-, rfl, -⟩ | ⟨since', rfl, hcut⟩
    · obtain ⟨hhead, hsame, -⟩ := ha.sends hs
      rw [hsame, hhead]
    · -- the frame was the head before, and has not left
      have hhead := (hfair i).stays hcut hs fun m' hm' => hnone m' (List.mem_append_left _ hm')
      rcases (hfair i).ends with ⟨-, hafter⟩ | ⟨f', hleft, -, -⟩
      · rw [hafter, List.head?_append, hhead]
        rfl
      · rw [hnone m (by simp)] at hleft
        cases hleft
  · rcases cut_of_snoc hlog with ⟨rfl, rfl, -⟩ | ⟨future', -, hcut⟩
    · exact hfair i
    · exact h.fair hcut i

end Story

/-- Whatever event fires, the story goes on. -/
lemma story_closed : Closed (fun log net => ∃ g, Story log net g) fun _ => True where
  clock := fun ⟨g, h⟩ hw =>
    ⟨g, ⟨h.matched.endpoints, h.matched.home⟩, h.tracked.advanceTo hw, h.tells, h.order, h.stays, h.fair⟩
  event := fun ⟨g, h⟩ hf _ => by
    obtain ⟨hq, g', ht, ha⟩ := h.tracked.fires hf
    obtain ⟨hpop, hfire⟩ := h.tracked.sound.fires_sameShape hf
    have hm := hpop.matched h.matched
    exact ⟨g', h.advance hq ha hm (hfire.matched hm) ht⟩

/-- Whatever is called in a regular run, the story goes on. -/
lemma story_call {op : Op} {fuel : Nat} (h : ∃ g, Story log net g) (hop : op.firesEvents = false)
    (hreg : op.isRegular = true) (ha : op.apply fuel net = .ok (result, net')) :
    ∃ g, Story (log ++ [⟨net, .call op, net'⟩]) net' g := by
  obtain ⟨g, h⟩ := h
  obtain ⟨ht, hgrown⟩ := h.tracked.apply hop hreg ha
  have hsilent : ∀ i f, ¬ Moment.Sends ⟨net, .call op, net'⟩ i f := by
    intro i f hs
    rcases hs.starts with hcall | ⟨k, hev, -⟩
    · cases hcall
      cases hreg
    · cases hev
  have hs := h.tracked.sound
  exact ⟨g, h.advance rfl (.joins hsilent hgrown) h.matched (h.matched.apply hs.coherent hs.onTime hop ha) ht⟩

/-- In a run from its start, with frames that come in by production, forwarding and the sending of data
frames only, the queues are first in, first out, every data frame that is sent is the head of its queue
and stays it until it leaves, and a frame leaves only after the receiver of its hop has accepted what was
sent last. -/
theorem Run.hops_reliable {start : Network} (hstart : start.Begins)
    (hrun : Run (fun op _ => op.isRegular) start log net) :
    (∀ past m future, log = past ++ m :: future → ∀ i, m.Fair past i) ∧
      ∀ i, log.flatMap (·.joined i) = log.flatMap (·.left i) ++ net.queue i := by
  obtain ⟨htracked, hempty⟩ := hstart.tracked
  have hfirst : Story [] start fun _ => none :=
    ⟨hstart.matched, htracked, fun hg => (by cases hg), fun i => (by simp [hempty]),
      fun hlog => (by simp at hlog), fun hlog => (by simp at hlog)⟩
  obtain ⟨g, h⟩ := story_closed.run story_call (fun _ _ => trivial) ⟨_, hfirst⟩ hrun
  exact ⟨fun _ _ _ hlog => h.fair hlog, h.order⟩

/-- In a run of two nodes, the frame of the first one leaves its queue after it was accepted. -/
theorem hops_of_pair : ∃ (start : Network) (log : List Moment) (net : Network),
    start.Begins ∧ Run (fun op _ => op.isRegular) start log net ∧
      ∃ past m future f, log = past ++ m :: future ∧ m.left ⟨0⟩ = [f] ∧ Vouched past ⟨0⟩ f := by
  have hend : endsWith (Op.runAfter 100 Op.pair [.runUntilIdle] (.new {} 7 [.delta 5]))
      (fun log _ => log.any fun m => (m.left ⟨0⟩).length = 1) = true := by
    decide +kernel
  obtain ⟨log, net, hok, hany⟩ := endsWith_iff.1 hend
  obtain ⟨start, hstart, hrun⟩ := Run.of_runAfter (fun op _ => op.isRegular) hok (by simp [Op.isRegular])
  obtain ⟨m, hm, hleft⟩ := List.any_eq_true.1 hany
  obtain ⟨past, future, hlog⟩ := List.append_of_mem hm
  obtain ⟨f, hf⟩ := List.length_eq_one_iff.1 (of_decide_eq_true hleft)
  have hfair := (hrun.hops_reliable hstart).1 past m future hlog ⟨0⟩
  exact ⟨start, log, net, hstart, hrun, past, m, future, f, hlog, hf, hfair.vouched f (by simp [hf])⟩

end CarrierSense.Network
