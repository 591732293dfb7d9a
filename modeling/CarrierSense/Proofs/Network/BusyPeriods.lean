import CarrierSense.Proofs.Network.Hearing

/-!
# What becomes of busy periods

In every run, whatever is called, an interface listens until the last frame of its busy period ends, and
counts all frames that began while another one was being heard. It takes a frame only at the end of a busy
period of this one frame, which did not begin during the idle time before an attempt. A data frame for the
interface that is alone in its busy period is taken, unless it found a countdown whose attempt had been
spoiled before: that is not made up for when the countdown begins.
-/

namespace CarrierSense.Network

variable {net mid net' before : Network} {w : Setting} {i j : InterfaceId} {k : Timer} {r : Radio}
  {q : Sequel} {t : Turn} {f : Frame} {m : Moment} {log : List Moment} {l : InterfaceId → Listening}
  {result : Except NetworkError Unit}

/-- In this moment the interface `i` neither owes a new acknowledgement nor settles a frame of its queue;
and if a timer of its own has run out, it hands nothing on. -/
structure Moment.TakesNothing (m : Moment) (i : InterfaceId) : Prop where
  acks : m.after.owes i <:+ m.before.owes i
  queue : m.restarts = true ∨ m.before.queue i <+: m.after.queue i
  kept : ∀ k, m.cause = .event (.timer i k) → m.before.Kept m.after

/-- The interface `i` takes the frame `f`, which has just ended: it accepts a data frame, or settles the
head of its queue by an acknowledgement. -/
structure Moment.Takes (m : Moment) (i : InterfaceId) (f : Frame) : Prop where
  cause : m.cause = .event (.timer i .reception)
  receiver : f.receiver = some i
  data : f.isAck = false → m.before.Accepts i f m.after
  ack : f.isAck = true → ∃ f', m.before.queue i = f' :: m.after.queue i

/-- Acknowledgements and queue of the interface are as before. -/
lemma Moment.TakesNothing.of_eq (howes : m.after.owes i = m.before.owes i)
    (hqueue : m.after.queue i = m.before.queue i)
    (hkept : ∀ k, m.cause = .event (.timer i k) → m.before.Kept m.after) : m.TakesNothing i :=
  ⟨howes ▸ List.suffix_rfl, .inr (hqueue ▸ List.prefix_rfl), hkept⟩

/-- Frames may join queues, if no timer has run out. -/
lemma Moment.TakesNothing.of_grown (howes : m.after.owes = m.before.owes)
    (hgrown : m.before.Grown m.after) (hm : ∀ i k, m.cause ≠ .event (.timer i k)) (i : InterfaceId) :
    m.TakesNothing i := by
  obtain ⟨fs, hq⟩ := hgrown i
  exact ⟨congrFun howes i ▸ List.suffix_rfl, .inr (hq ▸ List.prefix_append _ _),
    fun k hk => absurd hk (hm i k)⟩

/-- A frame that is sent stands at the end of its queue. -/
lemma send_grown (h : net.Sound) (hs : net.send i f = .ok (result, net')) : net.Grown net' := by
  rcases send_queued h.coherent h.onTime hs with ⟨-, rfl⟩ | ⟨-, -, next, hq⟩
  · exact .of_eq rfl
  · exact hq.joined.grown

/-- A frame that is produced stands at the end of its queue. -/
lemma produce_grown {n : NodeId} (h : net.Sound) (hp : net.produce n = .ok (result, net')) :
    net.Grown net' := by
  rcases produce_cases h.coherent h.onTime hp with ⟨ha, -, -⟩ | ⟨-, i, f, next, hmade⟩
  · exact .of_eq (views_of_radio ha.radio).1
  · obtain ⟨mid, hq, ha, -⟩ := hmade.queued
    intro j
    rw [(views_of_radio ha.radio).1]
    exact hq.joined.grown j

/-- The busy period of an interface consists of one frame, which the interface takes. -/
def Moment.TakesSole (m : Moment) (i : InterfaceId) (l : Listening) : Prop :=
  ∃ h, l.current = [h] ∧ h.found.status ∈ [.idle, .waitingForAck, .waitingForBackoff] ∧
    m.Takes i h.frame

/-- A turn that queues no acknowledgement, settles nothing and hands nothing on takes nothing. -/
lemma Fired.takesNothing (hF : Fired net before i k r w q t mid) (hnext : before.Follows i q mid net')
    (ha : t.radio.acks <:+ r.acks) (hq : t.radio.outgoing = r.outgoing) (hh : t.handedOn = []) :
    Moment.TakesNothing ⟨before, .event (.timer i k), net'⟩ i := by
  obtain ⟨hqueue, howes, -⟩ := hF.views_net
  obtain ⟨hqueue₀, howes₀, -⟩ := hF.views_before
  obtain ⟨hqueue', howes', -⟩ := hF.views_self
  -- whatever is sent after the turn disturbs nobody's queue
  have hun := hnext.undisturbed hF.after
  refine ⟨?_, .inr ?_, fun _ _ => (hF.kept hh).trans hun.toKept⟩
  · rw [hun.owes, howes', howes₀, howes]
    exact ha
  · rw [hun.queue, hqueue', hqueue₀, hqueue]
    exact hq ▸ List.prefix_rfl

/-- The end of a frame that changes the queue or the acknowledgements was not spoiled: the frame was alone
in its busy period. -/
lemma Fired.sole {x : Incoming} (hF : Fired net before i .reception r w q t mid) (hl : r.Listens (l i))
    (hx : r.incoming = some x) (hnot : ¬ (t.radio.outgoing = r.outgoing ∧ t.radio.acks = r.acks)) :
    ∃ h, (l i).current = [h] ∧ h.frame = x.frame ∧
      h.found.status ∈ [.idle, .waitingForAck, .waitingForBackoff] := by
  have hset : (net.alarms i .reception).isSome := by simp [hF.due]
  have hc : r.collision = false := by
    by_contra hc
    obtain ⟨hq, ha, -⟩ := Radio.receptionEnded_spoiled hF.sound hset (by simpa using hc) hF.ends
    exact hnot ⟨hq, ha⟩
  obtain ⟨h, hcur, rfl, hst⟩ := hl.sole_of_clean hx hc
  exact ⟨h, hcur, rfl, hst⟩

/-- When a timer runs out, its interface takes nothing, or the sole frame of its busy period. -/
lemma Fired.takes (hF : Fired net before i k r w q t mid) (hnext : before.Follows i q mid net')
    (hl : r.Listens (l i)) :
    Moment.TakesNothing ⟨before, .event (.timer i k), net'⟩ i ∨
      Moment.TakesSole ⟨before, .event (.timer i k), net'⟩ i (l i) := by
  have hself := hF.self
  cases hF.outcome with
  | launch _ _ hout hacks _ _ _ _ _ hh =>
    exact .inl (hF.takesNothing hnext (hacks ▸ List.nil_suffix) hout hh)
  | answer _ _ _ hout hacks _ _ hh =>
    exact .inl (hF.takesNothing hnext (hacks ▸ List.nil_suffix) hout hh)
  | quiet _ hout hacks _ _ _ hh =>
    exact .inl (hF.takesNothing hnext (hacks ▸ List.suffix_rfl) hout hh)
  | @settle x hq hx hack hrecv hout hacks hin =>
    obtain ⟨f', hout⟩ := hout
    -- only the end of a frame makes a radio forget it
    have hk : k = .reception := by
      by_contra hk
      have hset : (net.alarms i k).isSome := by simp [hF.due]
      have hsame := (Radio.expire_steady hF.sound hset hk hF.ends).incoming
      rw [hin, hx] at hsame
      cases hsame
    subst hk
    have hnot : ¬ (t.radio.outgoing = r.outgoing ∧ t.radio.acks = r.acks) := by simp [hout]
    obtain ⟨h, hcur, hframe, hst⟩ := hF.sole hl hx hnot
    have hqueue : before.queue i = f' :: net'.queue i := by
      rw [(hnext.undisturbed hF.after).queue, hF.views_self.1, hF.views_before.1, hF.views_net.1, hout]
    refine .inr ⟨h, hcur, hst, rfl, ?_, fun hd => ?_, fun _ => ⟨f', hqueue⟩⟩
    · rw [hframe, ← hself]
      exact hrecv
    · rw [hframe, hack] at hd
      cases hd
  | @accept x hq hk hx hdata hrecv hout hacks hin _ _ hh =>
    subst hk
    have hnot : ¬ (t.radio.outgoing = r.outgoing ∧ t.radio.acks = r.acks) := by simp [hacks.1, hacks.2]
    obtain ⟨h, hcur, hframe, hst⟩ := hF.sole hl hx hnot
    obtain rfl := hnext.eq_of_silent hq
    rw [hself] at hacks hrecv
    refine .inr ⟨h, hcur, hst, rfl, ?_, fun _ => ?_, fun hack => ?_⟩
    · rw [hframe]
      exact hrecv
    · rw [hframe]
      exact hF.accepts (hF.ends_now rfl hx) hx hacks hh
    · rw [hframe, hdata] at hack
      cases hack

/-- Whatever event fires, an interface takes nothing, or the sole frame of its busy period. -/
lemma Attends.takes (h : net.Attends l) (hn : net.Sound) (hf : net.Fires m result) (i : InterfaceId) :
    m.TakesNothing i ∨ m.TakesSole i (l i) := by
  obtain ⟨before, cause, after⟩ := m
  obtain ⟨id, e, scheduler, hp, hc, rfl, hfire⟩ := hf
  cases e with
  | timer j k =>
    obtain ⟨-, r, w, q, t, mid, hF, hnext⟩ := hn.fired hp hc hfire
    by_cases hj : i = j
    · subst hj
      exact hF.takes hnext (hF.listens h)
    · -- another interface has acted
      obtain ⟨hqueue, howes, -⟩ := hF.views_other hj
      obtain ⟨hqueue₀, howes₀, -⟩ := hF.views_before
      have hun := hnext.undisturbed hF.after
      refine .inl (.of_eq ?_ ?_ fun k' hk' => ?_)
      · rw [hun.owes, howes, howes₀]
      · rw [hun.queue, hqueue, hqueue₀]
      · cases hk'
        exact absurd rfl hj
  | produce n =>
    have hs := hn.pop_other hp hc (by simp)
    exact .inl (.of_grown (produce_unanswered hs hfire).owes (produce_grown hs hfire) (by simp) i)
  | forward i' f =>
    have hs := hn.pop_other hp hc (by simp)
    exact .inl (.of_grown (send_unanswered hs hfire).owes (send_grown hs hfire) (by simp) i)

/-- No call makes an interface take anything. -/
lemma apply_takesNothing {op : Op} {fuel : Nat} (hn : net.Sound) (hop : op.firesEvents = false)
    (ha : op.apply fuel net = .ok (result, net')) (i : InterfaceId) :
    Moment.TakesNothing ⟨net, .call op, net'⟩ i := by
  by_cases hk : op.keepsBooks = true
  · obtain ⟨hqueue, howes, -⟩ := views_of_radio (Op.apply_aside hk hn.coherent hn.onTime ha).radio
    exact .of_grown howes (.of_eq hqueue) (by simp) i
  cases op with
  | addInterface n name radius =>
    simp only [Op.apply, bind_eq_ok] at ha
    obtain ⟨⟨i', mid⟩, hi, ha⟩ := ha
    cases ha
    obtain ⟨hqueue, howes, -⟩ := addInterface_views hn.coherent hi
    exact .of_grown howes (.of_eq hqueue) (by simp) i
  | initRun =>
    refine ⟨?_, .inl rfl, fun k hk => by cases hk⟩
    have howes : net'.owes i = [] := by
      rw [(views_of_radio (initRun_aside ha).1.radio).2.1]
      unfold owes
      split
      · rename_i r hr
        rw [radio_reset_eq hr]
        rfl
      · rfl
    rw [howes]
    exact List.nil_suffix
  | produce n =>
    have hgrown : net.Grown net' := produce_grown hn ha
    exact .of_grown (produce_unanswered hn ha).owes hgrown (by simp) i
  | send i' f =>
    have hgrown : net.Grown net' := send_grown hn ha
    exact .of_grown (send_unanswered hn ha).owes hgrown (by simp) i
  | receive i' f =>
    obtain ⟨-, r, w, hr, hw, hs⟩ := receive_settled hn.coherent hn.onTime ha
    have hun := hn.receive_undisturbed hr hw hs
    exact .of_eq (congrFun hun.owes i) (congrFun hun.queue i) fun _ _ => hun.toKept
  | broadcast i' f =>
    obtain ⟨-, medium, -, hh⟩ := broadcast_hears hn.coherent hn.onTime ha
    have hun := hh.undisturbed hn
    exact .of_eq (congrFun hun.owes i) (congrFun hun.queue i) fun _ _ => hun.toKept
  | step | runTo | runUntilIdle => cases hop
  | _ => exact absurd rfl hk

/-- At the end of a busy period of a data frame for the interface alone, which found the radio with nothing
spoiled, the interface accepts the frame. -/
lemma Attends.accepts {h : Hearing} (hl : net.Attends l) (hn : net.Sound) (hf : net.Fires m result)
    (hcause : m.cause = .event (.timer i .reception)) (hcur : (l i).current = [h])
    (hdata : h.frame.isAck = false) (hfor : h.frame.receiver = some i)
    (hs : h.found.status ∈ [.idle, .waitingForAck] ∨
      h.found.status = .waitingForBackoff ∧ h.found.collision = false) :
    m.before.now = h.endsAt ∧ m.before.Accepts i h.frame m.after := by
  obtain ⟨id, e, scheduler, hp, hc, hcause', hfire⟩ := hf
  rw [hcause] at hcause'
  cases hcause'
  obtain ⟨-, r, w, q, t, mid, hF, hnext⟩ := hn.fired hp hc hfire
  have hself := hF.self
  have hl' := hF.listens hl
  have hclean := hl'.clean_of_sole hcur hs
  obtain ⟨hx, -⟩ := hl'.sole hcur
  have hend := hF.ends_now rfl hx
  obtain ⟨hacks, hhand⟩ := Radio.receptionEnded_takes hF.sound hx hclean hdata (hself.symm ▸ hfor) hF.ends
  have hafter : m.after = mid :=
    hnext.eq_of_silent fun f hq => Radio.receptionEnded_silent _ _ f (hF.sequel ▸ hq)
  -- a radio that listens owes no acknowledgement yet
  have hnone : r.acks = [] := by
    cases hF.outcome with
    | launch _ _ _ hacks' => rw [hacks] at hacks'; simp at hacks'
    | answer _ hk => cases hk
    | settle _ _ _ _ _ hacks' => rw [hacks] at hacks'; simp at hacks'
    | accept _ _ _ _ _ _ hacks' => exact hacks'.1
    | quiet _ _ hacks' => rw [hacks] at hacks'; simp at hacks'
  rw [hnone, hself, List.nil_append] at hacks
  rw [hafter]
  exact ⟨hF.now_before.trans hend.symm, hF.accepts hend hx ⟨hnone, hacks⟩ hhand⟩

/-- The interface listens until the last frame of its current busy period ends, and its radio has counted
all frames that began while another one was being heard. -/
structure ListensTo (net : Network) (i : InterfaceId) (l : Listening) : Prop where
  tracked : (net.heardBy i).map (·.endsAt) = l.latest?
  timer : ∀ time, (∃ n, net.scheduler.Pending ⟨time, n⟩ (.timer i .reception)) ↔
    l.latest? = some time
  corrupted : ∀ {r}, net.radio i = .ok r → r.corrupted = l.overlaps

/-- A radio that listens as its busy periods say has a timer for the end of the last frame. -/
lemma Attends.listensTo (h : net.Attends l) (hn : net.Sound) (i : InterfaceId) :
    net.ListensTo i (l i) := by
  have hal : net.alarms i .reception = (net.heardBy i).map (·.endsAt) := by
    unfold heardBy
    split
    · rename_i r hr
      exact (hn.radio hr).reception
    · rename_i e hr
      simp only [alarms, hr, Option.map_none]
  have htracked : (net.heardBy i).map (·.endsAt) = (l i).latest? := by
    cases hr : net.radio i with
    | ok r =>
      rw [heardBy_eq hr]
      exact (h.listens hr).latest
    | error e =>
      have hi := h i
      simp only [hr] at hi
      simp only [heardBy, hr, hi]
      rfl
  refine ⟨htracked, fun time => ?_, fun hr => (h.listens hr).corrupted⟩
  rw [← hn.coherent.alarms_eq_some, hal, htracked]

/-- Whatever event fires, it finds the interface listening as before. -/
lemma Attends.found (h : net.Attends l) (hn : net.Sound) (hf : net.Fires m result) (i : InterfaceId) :
    (m.before.heardBy i).map (·.endsAt) = (l i).latest? := by
  obtain ⟨id, e, scheduler, hp, hc, -, hfire⟩ := hf
  have hheard : m.before.heardBy = net.heardBy := by
    by_cases he : ∃ j k, e = .timer j k
    · obtain ⟨j, k, rfl⟩ := he
      obtain ⟨-, r, w, q, t, mid, hF, -⟩ := hn.fired hp hc hfire
      exact hF.views_before.2.2
    · obtain ⟨hmid, -⟩ := Network.pop_other hn.coherent hn.onTime hp hc fun j k hjk => he ⟨j, k, hjk⟩
      rw [hmid]
      rfl
  rw [hheard]
  exact (h.listensTo hn i).tracked

/-- What the moment `m` makes of the busy periods `l` of the interface `i` that went before. -/
structure Moment.Heeds (m : Moment) (i : InterfaceId) (l : Listening) : Prop where
  found : (m.before.heardBy i).map (·.endsAt) = l.latest?
  listens : m.after.ListensTo i (l.step m.restarts (m.endsListening i) (m.hearing i))
  takes : m.TakesNothing i ∨ m.TakesSole i l
  accepts : ∀ {h}, m.cause = .event (.timer i .reception) → l.current = [h] → h.frame.isAck = false →
    h.frame.receiver = some i → (h.found.status ∈ [.idle, .waitingForAck] ∨
      h.found.status = .waitingForBackoff ∧ h.found.collision = false) →
    m.before.now = h.endsAt ∧ m.before.Accepts i h.frame m.after

/-- All radios listen as the log says, and did so in all its moments. -/
structure Overheard (log : List Moment) (net : Network) : Prop where
  sound : net.Sound
  distinct : net.topology.Distinct
  attends : net.Attends (listening log)
  heeds : ∀ {past m future}, log = past ++ m :: future → ∀ i, m.Heeds i (listening past i)

/-- One more moment is overheard if the radios listen afterwards as the log says. -/
lemma Overheard.advance (h : Overheard log net) (hn : m.after.Sound) (hnd : m.after.topology.Distinct)
    (ha : m.after.Attends fun i =>
      (listening log i).step m.restarts (m.endsListening i) (m.hearing i))
    (hheeds : ∀ i, m.Heeds i (listening log i)) : Overheard (log ++ [m]) m.after := by
  refine ⟨hn, hnd, ha.congr (listening_concat log m), fun {past m' future} hlog i => ?_⟩
  rcases cut_of_snoc hlog with ⟨rfl, rfl, -⟩ | ⟨future', -, hcut⟩
  · exact hheeds i
  · exact h.heeds hcut i

/-- Whatever event fires is overheard. -/
lemma overheard_closed : Closed Overheard fun _ => True where
  clock := fun h hw => ⟨h.sound.advanceTo hw, h.distinct, h.attends.of_radio rfl, h.heeds⟩
  event := fun h hf _ => by
    obtain ⟨hpop, hfire⟩ := h.sound.fires_sameShape hf
    have hsound := h.sound.fires hf
    have hattends := h.attends.fires h.sound h.distinct hf
    exact h.advance hsound ((hpop.trans hfire).topology ▸ h.distinct) hattends fun i =>
      ⟨h.attends.found h.sound hf i, hattends.listensTo hsound i, h.attends.takes h.sound hf i,
        h.attends.accepts h.sound hf⟩

/-- Whatever is called that fires no events is overheard. -/
lemma overheard_call {op : Op} {fuel : Nat} (h : Overheard log net) (hop : op.firesEvents = false)
    (ha : op.apply fuel net = .ok (result, net')) :
    Overheard (log ++ [⟨net, .call op, net'⟩]) net' := by
  have hsound := h.sound.apply hop ha
  have hattends := h.attends.apply h.sound h.distinct hop ha rfl
  exact h.advance (m := ⟨net, .call op, net'⟩) hsound (apply_distinct h.distinct h.sound hop ha) hattends
    fun i => ⟨(h.attends.listensTo h.sound i).tracked, hattends.listensTo hsound i,
      .inl (apply_takesNothing h.sound hop ha i), fun hcause => by cases hcause⟩

/-- At each moment of a run radios listen as the log says. -/
lemma Run.overheard {allowed : Op → Except NetworkError Unit → Prop} {timing : Timing} {seed : UInt64}
    {laws : List Law} (hrun : Run allowed (Network.new timing seed laws) log net) : Overheard log net := by
  refine overheard_closed.run (fun h hop _ ha => overheard_call h hop ha) (fun _ _ => trivial) ?_ hrun
  refine ⟨new_sound timing seed laws, new_distinct timing seed laws, fun i => ?_, fun hlog => ?_⟩
  · simp [radio, new, listening]
  · simp at hlog

/-- Whatever is called, an interface listens until the last frame of its busy period ends, at all times,
counts every frame but the first one of each busy period, and takes a frame only at the end of a busy
period of this one frame, which did not begin during the idle time before an attempt. -/
theorem Run.busy_periods {timing : Timing} {seed : UInt64} {laws : List Law}
    (hrun : Run (fun _ _ => True) (Network.new timing seed laws) log net) (i : InterfaceId) :
    net.ListensTo i (listening log i) ∧ ∀ past m future, log = past ++ m :: future →
      m.after.ListensTo i (listening (past ++ [m]) i) ∧
        (m.TakesNothing i ∨ m.TakesSole i (listening past i)) := by
  have h := hrun.overheard
  refine ⟨h.attends.listensTo h.sound i, fun past m future hlog => ?_⟩
  obtain ⟨-, hlistens, htakes, -⟩ := h.heeds hlog i
  rw [← listening_concat] at hlistens
  exact ⟨hlistens, htakes⟩

/-- Two nodes that hear each other. -/
def Op.couple : List Op :=
  [.addNode "a" ⟨0, 0⟩, .addNode "b" ⟨1, 0⟩, .addInterface ⟨0⟩ "ia" 2, .addInterface ⟨1⟩ "ib" 2,
    .addMember ⟨0⟩ ⟨1⟩, .addMember ⟨1⟩ ⟨0⟩]

/-- Of three frames for an interface the first two overlap, and only the third one is taken. -/
theorem overlapping_frames_dropped : ∃ log net,
    Run (fun _ _ => True) (Network.new {} 7 []) log net ∧
      (listening log ⟨0⟩).closed.map List.length = [2, 1] ∧ net.ListensTo ⟨0⟩ (listening log ⟨0⟩) ∧
      ∃ past m future, log = past ++ m :: future ∧ (listening past ⟨0⟩).closed.map List.length = [2] ∧
        m.TakesSole ⟨0⟩ (listening past ⟨0⟩) := by
  have hend : endsWith (Op.applyAll 100 (Op.couple ++
      [.receive ⟨0⟩ ((Frame.data 1 5 ⟨1⟩ ⟨0⟩).onHop ⟨1⟩ ⟨0⟩),
        .receive ⟨0⟩ ((Frame.data 2 9 ⟨1⟩ ⟨0⟩).onHop ⟨1⟩ ⟨0⟩), .runUntilIdle,
        .receive ⟨0⟩ ((Frame.data 3 5 ⟨1⟩ ⟨0⟩).onHop ⟨1⟩ ⟨0⟩), .runUntilIdle]) [] (.new {} 7 []))
      (fun log _ => (listening log ⟨0⟩).closed.map List.length = [2, 1] &&
        splitsAt 10 log fun past m _ => (listening past ⟨0⟩).closed.map List.length = [2] &&
          (m.before.owes ⟨0⟩).length < (m.after.owes ⟨0⟩).length) = true := by
    decide +kernel
  obtain ⟨log, net, hok, htest⟩ := endsWith_iff.1 hend
  have hrun : Run (fun _ _ => True) (Network.new {} 7 []) log net :=
    Run.of_applyAll .start hok fun _ _ => trivial
  obtain ⟨hlistens, hmoments⟩ := hrun.busy_periods ⟨0⟩
  simp only [Bool.and_eq_true, decide_eq_true_eq] at htest
  obtain ⟨hover, htest⟩ := htest
  obtain ⟨m, future, hlog, htest⟩ := splitsAt_eq_true htest
  simp only [Bool.and_eq_true, decide_eq_true_eq] at htest
  obtain ⟨hpast, howes⟩ := htest
  obtain ⟨-, hnone | htakes⟩ := hmoments _ m future hlog
  · exact absurd hnone.acks.length_le (by omega)
  · exact ⟨log, net, hrun, hover, hlistens, log.take 10, m, future, hlog, hpast, htakes⟩

/-- A busy period ends exactly when its reception runs out. -/
lemma Moment.endsListening_iff :
    m.endsListening i = true ↔ m.cause = .event (.timer i .reception) := by
  unfold Moment.endsListening
  split <;> simp_all

end CarrierSense.Network
