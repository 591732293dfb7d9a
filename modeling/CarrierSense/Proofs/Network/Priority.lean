import CarrierSense.Proofs.Network.Contention

/-!
# Launches after receptions

What an acknowledgement has to fear. An interface that has listened to a frame launches none of its own within
the pause before the acknowledgement, if slots take any time at all: a first attempt and a countdown that is
taken up again both wait for a whole idle time. But a countdown that is drawn after the frame has ended starts
at once, and may be over before the acknowledgement goes on the air.
-/

namespace CarrierSense.Network

variable {net net' : Network} {i : InterfaceId} {r r' : Radio} {d d' : Alarms} {m p : Moment}
  {log since : List Moment} {timing : Timing} {ended now : Nat} {heard : Option Hearing} {restarts : Bool}
  {timers : Timers} {result : Except NetworkError Unit}

/-- A countdown that was drawn in one of the moments `since` and started at once ends at the tick `time`. -/
def DrawnSince (since : List Moment) (i : InterfaceId) (time : Nat) : Prop :=
  ∃ x ∈ since, ∃ b, x.drawn i = some b ∧ time = x.before.now + b

/-- A draw is still among the moments when one more follows. -/
lemma DrawnSince.snoc {time : Nat} (h : DrawnSince since i time) (m : Moment) :
    DrawnSince (since ++ [m]) i time := by
  obtain ⟨x, hx, hb⟩ := h
  exact ⟨x, List.mem_append_left _ hx, hb⟩

/-- How far the radio `r` with the alarms `d` has got after a reception that ended at the tick `ended`, with
the moments `since` that have followed: an attempt that can still succeed, and a countdown, go on for an idle
time after `ended` at least, unless the countdown has been drawn since. -/
structure Yields (timing : Timing) (ended : Nat) (since : List Moment) (i : InterfaceId) (r : Radio)
    (d : Alarms) : Prop where
  attempt : r.status = .waitingForDifs → r.collision = true ∨
    ∃ time, d .difs = some time ∧ ended + timing.difs ≤ time
  countdown : r.isCounting = true → ended + timing.difs ≤ r.backoffStarted ∨
    DrawnSince since i (r.backoffStarted + r.backoffRemaining)

/-- A radio that is listening has no attempt that can still succeed, and does not count. -/
lemma Yields.of_receiving (hr : r.Sound d) (hin : r.isReceiving = true) : Yields timing ended since i r d where
  attempt := fun hs => by
    obtain ⟨-, -, -, -, hspoiled⟩ := hr.of_waitingForDifs hs
    exact .inl (hspoiled (Option.isSome_iff_ne_none.1 hin))
  countdown := fun hc => by simp [Radio.isCounting, hin] at hc

/-- A radio that was just switched on gives way, as it has neither attempt nor countdown. -/
lemma Yields.of_powerOn : Yields timing ended since i (Radio.powerOn timing) d :=
  ⟨fun h => by simp [Radio.powerOn] at h, fun h => by simp [Radio.powerOn, Radio.isCounting] at h⟩

/-- Whatever a radio does after a reception, it goes on to give way. -/
lemma Yields.step (h : Yields timing ended since i r d) (hr : r.Sound d)
    (hdue : ∀ {time}, d .backoff = some time → now ≤ time) (hlate : ended ≤ now)
    (hc : r.Change timing now restarts d heard (m.drawn i) r' d') (hnow : m.before.now = now) :
    Yields timing ended (since ++ [m]) i r' d' := by
  cases hdrawn : m.drawn i with
  | none =>
    rw [hdrawn] at hc
    have hp := hc.proceeds hr hdue
    refine ⟨fun hs => ?_, fun hcount => ?_⟩
    · rcases hp.attempt hs with ⟨-, -, -, hd⟩ | ⟨hold, hd, hcoll⟩
      · exact .inr ⟨_, hd, by omega⟩
      · rcases h.attempt hold with hspoiled | ⟨time, htime, hle⟩
        · exact .inl (by simp [hcoll, hspoiled])
        · exact .inr ⟨time, hd.trans htime, hle⟩
    · have hstart := hp.start hcount
      split at hstart
      · -- the countdown goes on as before
        rename_i hold
        obtain ⟨-, hlength⟩ := hp.length (Radio.hasCountdown_of_isCounting hcount)
        have hran : r.ranFor now r' = 0 := by simp [Radio.ranFor, hcount]
        have hlength : r'.backoffRemaining = r.backoffRemaining := by omega
        rw [hstart, hlength]
        exact (h.countdown hold).imp_right fun hfresh => hfresh.snoc m
      · exact .inl (by omega)
  | some b =>
    rw [hdrawn] at hc
    obtain ⟨-, hs, hlength, -, -, hstart⟩ := hc.draws
    refine ⟨fun hdifs => ?_, fun hcount => .inr ⟨m, List.mem_append_right _ List.mem_cons_self, b, hdrawn, ?_⟩⟩
    · rw [hs] at hdifs
      cases hdifs
    · rw [hstart hcount, hlength, hnow]

/-- A frame that is launched after a reception comes an idle time later, or at the end of a countdown that
was drawn since. -/
lemma Yields.launch (h : Yields timing ended since i r d) (hr : r.Sound d)
    (hdue : ∀ {time}, d .backoff = some time → now ≤ time)
    (hc : r.Change timing now restarts d heard (m.drawn i) r' d') (hbefore : m.before.radio i = .ok r)
    (hafter : m.after.radio i = .ok { r' with timers }) (hl : m.Launches i) :
    ended + timing.difs ≤ now ∨ DrawnSince since i now := by
  have hs : r.status ≠ .sendingMessage := by simpa [statusOf_eq hbefore] using hl.1
  have hs' : r'.status = .sendingMessage := by simpa [statusOf_eq hafter] using hl.2
  cases hdrawn : m.drawn i with
  | none =>
    rw [hdrawn] at hc
    rcases (hc.proceeds hr hdue).launch hs' hs with ⟨hold, hfree, hend⟩ | ⟨hcount, hend⟩
    · rcases h.attempt hold with hspoiled | ⟨time, htime, hle⟩
      · rw [hfree] at hspoiled
        cases hspoiled
      · rw [htime, Option.some.injEq] at hend
        exact .inl (by omega)
    · have hend' := hr.counting_ends hcount
      rw [hend, Option.some.injEq] at hend'
      rcases h.countdown hcount with hle | hfresh
      · exact .inl (by omega)
      · exact .inr (hend' ▸ hfresh)
  | some b =>
    rw [hdrawn] at hc
    obtain ⟨-, hback, -⟩ := hc.draws
    rw [hs'] at hback
    cases hback

/-- A network in which the interface `i` gives way after the reception that has ended in the moment `p`. -/
def YieldsSince (net : Network) (p : Moment) (between : List Moment) (i : InterfaceId) : Prop :=
  p.before.now ≤ net.now ∧
    ∀ {r}, net.radio i = .ok r → Yields net.timing p.before.now (p :: between) i r (net.alarms i)

/-- What another moment makes of it. -/
lemma Happens.yields {between : List Moment} (hm : Happens net m) (hgoes : m.restarts = false)
    (h : YieldsSince net p between i) :
    YieldsSince m.after p (between ++ [m]) i ∧
      (m.Launches i → p.before.now + net.timing.difs ≤ m.before.now ∨
        DrawnSince (p :: between) i m.before.now) := by
  obtain ⟨hlate, h⟩ := h
  have hafter := hm.goesOn hgoes
  cases hm.acts i with
  | missing _ hbefore hnew =>
    refine ⟨⟨hafter ▸ hlate, fun hr => ?_⟩, fun hl => ?_⟩
    · rw [hnew _ hr, hm.timing]
      exact .of_powerOn
    · obtain ⟨r, hr, hs⟩ := statusOf_eq_some.1 hl.2
      rw [hnew r hr] at hs
      cases hs
  | @changed r timers hfound hbefore hsound hchange =>
    obtain ⟨r', timers', hr', hchange⟩ := hchange
    have hdue : ∀ {time}, net.alarms i .backoff = some time → net.now ≤ time := fun ha => hm.found.due ha
    have hold : Yields net.timing p.before.now (p :: between) i r (net.alarms i) :=
      ⟨(h hfound).attempt, (h hfound).countdown⟩
    refine ⟨⟨hafter ▸ hlate, fun {s} hs => ?_⟩, fun hl => ?_⟩
    · cases hr'.symm.trans hs
      have hnew := hold.step hsound hdue hlate hchange hm.now
      rw [hm.timing]
      exact ⟨hnew.attempt, hnew.countdown⟩
    · rw [hm.now]
      exact hold.launch hsound hdue hchange hbefore hr' hl

/-- At the end of a reception the interface begins to give way. -/
lemma Happens.begins_to_yield (hm : Happens net m) (hends : m.endsListening i = true) :
    YieldsSince m.after m [] i := by
  have hcause := Moment.endsListening_iff.1 hends
  have hafter := hm.goesOn (Moment.restarts_event hcause)
  refine ⟨Nat.le_of_eq (hm.now.trans hafter.symm), fun {s} hs => ?_⟩
  rw [hm.timing]
  cases hm.acts i with
  | missing _ _ hnew =>
    rw [hnew _ hs]
    exact .of_powerOn
  | @changed r timers hfound hbefore hsound hchange =>
    obtain ⟨r', timers', hr', hchange⟩ := hchange
    cases hr'.symm.trans hs
    have hin : r.isReceiving = true :=
      Option.isSome_iff_ne_none.2 (hsound.expects (k := .reception) (by simp [hm.due hcause]))
    have hold : Yields net.timing m.before.now [] i r (net.alarms i) := .of_receiving hsound hin
    have hnew := hold.step hsound (fun ha => hm.found.due ha) (Nat.le_of_eq hm.now) hchange hm.now
    exact ⟨hnew.attempt, hnew.countdown⟩

/-- In the log all interfaces have given way after their receptions, and they still do. -/
structure Yielding (timing : Timing) (log : List Moment) (net : Network) : Prop where
  yields : ∀ {past p between i}, log = past ++ p :: between → p.endsListening i = true →
    (∀ x ∈ between, x.restarts = false) → YieldsSince net p between i
  launches : ∀ {past p between m future i}, log = past ++ p :: (between ++ m :: future) →
    p.endsListening i = true → (∀ x ∈ between, x.restarts = false) → m.restarts = false → m.Launches i →
    p.before.now + timing.difs ≤ m.before.now ∨ DrawnSince (p :: between) i m.before.now

/-- All interfaces go on giving way with one more moment. -/
lemma Yielding.advance (h : Yielding net.timing log net) (hm : Happens net m) :
    Yielding net.timing (log ++ [m]) m.after where
  yields := fun {past p between i} hlog hends hgoes => by
    rcases cut_of_snoc hlog with ⟨rfl, rfl, rfl⟩ | ⟨between', rfl, hcut⟩
    · exact hm.begins_to_yield hends
    · have hold := h.yields hcut hends fun x hx => hgoes x (List.mem_append_left _ hx)
      exact (hm.yields (hgoes m (by simp)) hold).1
  launches := fun {past p between m' future i} hlog hends hgoes hstill hl => by
    rw [← List.cons_append, ← List.append_assoc] at hlog
    rcases cut_of_snoc hlog with ⟨hcut, rfl, -⟩ | ⟨future', -, hcut⟩
    · exact (hm.yields hstill (h.yields hcut.symm hends hgoes)).2 hl
    · rw [List.append_assoc, List.cons_append] at hcut
      exact h.launches hcut hends hgoes hstill hl

/-- At each moment of a run all interfaces give way after their receptions. -/
lemma Run.yielding {allowed : Op → Except NetworkError Unit → Prop} {seed : UInt64} {laws : List Law}
    (hrun : Run allowed (Network.new timing seed laws) log net) : Yielding timing log net := by
  refine (Run.course (fun {log net time} h hn _ => ?_) (fun h ht hm => ?_) ?_ hrun).2
  · obtain ⟨-, hal⟩ := hn.coherent.advanceTo time
    refine ⟨fun hlog hends hgoes => ?_, h.launches⟩
    obtain ⟨hlate, hyields⟩ := h.yields hlog hends hgoes
    refine ⟨Nat.le_trans hlate ?_, fun hr => ?_⟩
    · show net.scheduler.now ≤ (net.scheduler.advanceTo time).now
      rw [Scheduler.now_advanceTo]
      exact Nat.le_max_left _ _
    · rw [hal]
      exact hyields hr
  · subst ht
    exact h.advance hm
  · exact ⟨fun hlog => by simp at hlog, fun hlog => by simp at hlog⟩

/-- If slots take any time at all, a frame that an interface launches after it has listened to another one
goes on the air later than an acknowledgement of that one, unless it ends a countdown that was drawn since,
and that was not stopped. -/
theorem Run.launches_after_receptions {seed : UInt64} {laws : List Law} (hslot : 1 ≤ timing.slot)
    (hrun : Run (fun _ _ => True) (Network.new timing seed laws) log net)
    {past between future : List Moment} (hlog : log = past ++ p :: (between ++ m :: future))
    (hends : p.endsListening i = true) (hgoes : ∀ x ∈ between ++ [m], x.restarts = false)
    (hl : m.Launches i) :
    p.before.now + timing.sifs < m.before.now ∨ DrawnSince (p :: between) i m.before.now := by
  have hbetween : ∀ x ∈ between, x.restarts = false := fun x hx => hgoes x (List.mem_append_left _ hx)
  rcases hrun.yielding.launches hlog hends hbetween (hgoes m (by simp)) hl with hlate | hdrawn
  · unfold Timing.difs at hlate
    exact .inl (by omega)
  · exact .inr hdrawn

/-- A countdown that is taken up again after a reception ends later than an acknowledgement. -/
theorem resumed_countdown_gives_way : ∃ log net past p m future,
    Run (fun _ _ => True) (Network.new {} 3 []) log net ∧ log = past ++ p :: ([] ++ m :: future) ∧
      p.endsListening ⟨0⟩ = true ∧ m.Launches ⟨0⟩ ∧ p.before.now + ({} : Timing).sifs < m.before.now := by
  have hend : endsWith (Op.applyAll 100 (Op.couple ++
      [.send ⟨0⟩ (Frame.data 1 50 ⟨0⟩ ⟨1⟩), .receive ⟨0⟩ (Frame.data 2 5 ⟨1⟩ ⟨0⟩), .runTo 30,
        .receive ⟨0⟩ (Frame.data 3 5 ⟨1⟩ ⟨0⟩), .runTo 90]) [] (.new {} 3 []))
      (fun log _ => splitsAt 11 log fun _ p rest => splitsAt 0 rest fun _ m _ =>
        p.endsListening ⟨0⟩ && (p.drawn ⟨0⟩).isNone && !m.restarts &&
        m.before.statusOf ⟨0⟩ = some .waitingForBackoff &&
        m.after.statusOf ⟨0⟩ = some .sendingMessage) = true := by
    decide +kernel
  obtain ⟨log, net, hok, htest⟩ := endsWith_iff.1 hend
  have hrun : Run (fun _ _ => True) (Network.new {} 3 []) log net :=
    Run.of_applyAll .start hok fun _ _ => trivial
  obtain ⟨p, rest, hlog, htest⟩ := splitsAt_eq_true htest
  obtain ⟨m, future, hrest, htest⟩ := splitsAt_eq_true htest
  have hlog : log = log.take 11 ++ p :: ([] ++ m :: future) := hlog.trans (congrArg (_ ++ p :: ·) hrest)
  simp only [Bool.and_eq_true, decide_eq_true_eq, Bool.not_eq_true', Option.isNone_iff_eq_none] at htest
  obtain ⟨⟨⟨⟨hends, hnone⟩, hgoes⟩, hbefore⟩, hafter⟩ := htest
  have hl : m.Launches ⟨0⟩ := ⟨by simp [hbefore], hafter⟩
  refine ⟨log, net, log.take 11, p, m, future, hrun, hlog, hends, hl, ?_⟩
  rcases hrun.launches_after_receptions (by decide) hlog hends (by simp [hgoes]) hl with hlate | hdrawn
  · exact hlate
  · obtain ⟨x, hx, b, hb, -⟩ := hdrawn
    rw [List.mem_singleton.1 hx, hnone] at hb
    cases hb

/-- Three nodes that hear each other. -/
def Op.trio : List Op :=
  [.addNode "a" ⟨0, 0⟩, .addNode "b" ⟨1, 0⟩, .addNode "c" ⟨2, 0⟩, .addInterface ⟨0⟩ "ia" 5,
    .addInterface ⟨1⟩ "ib" 5, .addInterface ⟨2⟩ "ic" 5, .addMember ⟨0⟩ ⟨1⟩, .addMember ⟨0⟩ ⟨2⟩,
    .addMember ⟨1⟩ ⟨0⟩, .addMember ⟨1⟩ ⟨2⟩, .addMember ⟨2⟩ ⟨0⟩, .addMember ⟨2⟩ ⟨1⟩]

/-- An interface that heard a frame to its end during an attempt, and draws a short countdown when the
attempt is over, launches a frame of its own before the acknowledgement is sent. -/
theorem drawn_countdown_overtakes_ack : ∃ start log net past p between m future,
    start.Begins ∧ 1 ≤ start.timing.slot ∧ Run (fun op _ => op.isRegular) start log net ∧
      log = past ++ p :: (between ++ m :: future) ∧ p.endsListening ⟨1⟩ = true ∧
      (∀ x ∈ between ++ [m], x.restarts = false) ∧ m.Launches ⟨1⟩ ∧
      p.before.now ≤ m.before.now ∧ m.before.now ≤ p.before.now + start.timing.sifs := by
  have hend : endsWith (Op.runAfter 100 Op.trio [.send ⟨0⟩ (Frame.data 1 10 ⟨0⟩ ⟨2⟩), .runTo 12,
      .send ⟨1⟩ (Frame.data 2 10 ⟨1⟩ ⟨2⟩), .runTo 41] (.new {} 7 []))
      (fun log net => net.timing = {} && splitsAt 4 log fun _ p rest => splitsAt 2 rest fun between m _ =>
        p.endsListening ⟨1⟩ && (between ++ [m]).all (fun x => !x.restarts) &&
        m.before.statusOf ⟨1⟩ = some .waitingForBackoff && m.after.statusOf ⟨1⟩ = some .sendingMessage &&
        p.before.now = 38 && m.before.now = 41) = true := by
    decide +kernel
  obtain ⟨log, net, hok, htest⟩ := endsWith_iff.1 hend
  obtain ⟨start, hstart, hrun⟩ := Run.of_runAfter (fun op _ => op.isRegular) hok
    (by simp [Op.isRegular, Frame.data])
  rw [Bool.and_eq_true, decide_eq_true_eq] at htest
  obtain ⟨htiming, htest⟩ := htest
  have htiming : start.timing = {} := (hrun.timing hstart.tracked.1.sound).symm.trans htiming
  obtain ⟨p, rest, hlog, htest⟩ := splitsAt_eq_true htest
  obtain ⟨m, future, hrest, htest⟩ := splitsAt_eq_true htest
  simp only [Bool.and_eq_true, decide_eq_true_eq, List.all_eq_true, Bool.not_eq_true'] at htest
  obtain ⟨⟨⟨⟨⟨hends, hgoes⟩, hbefore⟩, hafter⟩, hp⟩, hnow⟩ := htest
  refine ⟨start, log, net, log.take 4, p, rest.take 2, m, future, hstart, ?_, hrun, hrest ▸ hlog, hends, hgoes,
    ⟨by simp [hbefore], hafter⟩, by omega, ?_⟩
  · rw [htiming]
    decide
  · rw [htiming, hp, hnow]
    decide

end CarrierSense.Network
