import CarrierSense.Proofs.Network.BusyPeriods
import CarrierSense.Proofs.Network.Course

/-!
# Access to the medium

How the interfaces of a network get to send, in every run, whatever is called. A frame is launched at the end
of an attempt during which nothing was heard, an idle time after the attempt has begun; or at the end of a
countdown, which has then run for exactly as many ticks as were drawn, however often it was stopped.
-/

namespace CarrierSense.Network

variable {net net' : Network} {i : InterfaceId} {r r' : Radio} {d : Alarms} {m p x : Moment}
  {log past since : List Moment} {timing : Timing} {b : Nat} {result : Except NetworkError Unit}

/-- The status of an interface. -/
def statusOf (net : Network) (i : InterfaceId) : Option Status :=
  match net.radio i with
  | .ok r => some r.status
  | .error _ => none

/-- The status of an interface is the one of its radio. -/
lemma statusOf_eq (h : net.radio i = .ok r) : net.statusOf i = some r.status := by
  simp only [statusOf, h]

/-- An interface has a status if it has a radio. -/
lemma statusOf_eq_some {s : Status} : net.statusOf i = some s ↔ ∃ r, net.radio i = .ok r ∧ r.status = s := by
  unfold statusOf
  cases net.radio i <;> simp

namespace Moment

/-- The interface starts to send a data frame. -/
def Launches (m : Moment) (i : InterfaceId) : Prop :=
  m.before.statusOf i ≠ some .sendingMessage ∧ m.after.statusOf i = some .sendingMessage

/-- For how many ticks a countdown ran that is stopped or ends in this moment. -/
def ranFor (m : Moment) (i : InterfaceId) : Nat :=
  match m.before.radio i, m.after.radio i with
  | .ok r, .ok r' => r.ranFor m.before.now r'
  | _, _ => 0

/-- How long a countdown ran is to be seen at the radio before and after. -/
lemma ranFor_eq (hr : m.before.radio i = .ok r) (hr' : m.after.radio i = .ok r') :
    m.ranFor i = r.ranFor m.before.now r' := by
  simp only [ranFor, hr, hr']

end Moment

/-- A log ends with an attempt of the interface, which has begun in the moment `p` and is still under way
after each moment `since`. -/
structure Attempt (log : List Moment) (i : InterfaceId) (p : Moment) (since : List Moment) : Prop where
  cut : ∃ earlier, log = earlier ++ p :: since
  begins : p.before.statusOf i ≠ some .waitingForDifs ∧ p.after.statusOf i = some .waitingForDifs
  lasts : ∀ x ∈ since, x.after.statusOf i = some .waitingForDifs

/-- A log ends with a countdown of the interface from `b`, which was drawn in the moment `p` from the window
of the radio, and is not over after any moment `since`. -/
structure Countdown (log : List Moment) (i : InterfaceId) (p : Moment) (b : Nat) (since : List Moment) :
    Prop where
  cut : ∃ earlier, log = earlier ++ p :: since
  drawn : p.drawn i = some b
  low : 1 ≤ b
  high : ∃ r, p.after.radio i = .ok r ∧ b ≤ max r.window 1
  lasts : ∀ x ∈ since, x.drawn i = none ∧ ∃ r, x.after.radio i = .ok r ∧ r.hasCountdown

/-- An attempt goes on while the interface waits for the medium to be idle. -/
lemma Attempt.snoc (h : Attempt log i p since) (hm : m.after.statusOf i = some .waitingForDifs) :
    Attempt (log ++ [m]) i p (since ++ [m]) := by
  obtain ⟨earlier, rfl⟩ := h.cut
  refine ⟨⟨earlier, by simp⟩, h.begins, fun x hx => ?_⟩
  rcases List.mem_append.1 hx with hx | hx
  · exact h.lasts x hx
  · rw [List.mem_singleton.1 hx]
    exact hm

/-- A countdown goes on while the radio has it to finish and draws no other. -/
lemma Countdown.snoc (h : Countdown log i p b since) (hdrawn : m.drawn i = none)
    (hm : ∃ r, m.after.radio i = .ok r ∧ r.hasCountdown) : Countdown (log ++ [m]) i p b (since ++ [m]) := by
  obtain ⟨earlier, rfl⟩ := h.cut
  refine ⟨⟨earlier, by simp⟩, h.drawn, h.low, h.high, fun x hx => ?_⟩
  rcases List.mem_append.1 hx with hx | hx
  · exact h.lasts x hx
  · rw [List.mem_singleton.1 hx]
    exact ⟨hdrawn, hm⟩

/-- What the log tells of attempt and countdown of the interface `i`, whose radio is `r` with the alarms
`d`: an attempt ends an idle time after its beginning, and is spoiled by what has been heard since; and the
ticks for which a countdown has run have been taken away from it. -/
structure Recounts (timing : Timing) (log : List Moment) (i : InterfaceId) (r : Radio) (d : Alarms) : Prop where
  attempt : r.status = .waitingForDifs → ∃ p since, Attempt log i p since ∧
    d .difs = some (p.before.now + timing.difs) ∧ (r.collision = true ↔ ∃ x ∈ since, x.hearing i ≠ none)
  countdown : r.hasCountdown = true → ∃ p b since, Countdown log i p b since ∧
    r.backoffRemaining + (since.map (·.ranFor i)).sum = b

/-- A radio that is switched on has neither attempt nor countdown. -/
lemma recounts_powerOn (timing timing' : Timing) (log : List Moment) (i : InterfaceId) (d : Alarms) :
    Recounts timing log i (Radio.powerOn timing') d :=
  ⟨fun h => by simp [Radio.powerOn] at h, fun h => by simp [Radio.powerOn, Radio.hasCountdown] at h⟩

/-- A moment in which no countdown is drawn. -/
lemma Recounts.proceeds {heard : Option Hearing} {timers : Timers} {d' : Alarms} {now : Nat}
    (h : Recounts timing log i r d) (hp : r.Proceeds timing now d heard r' d')
    (hbefore : m.before.radio i = .ok r) (hafter : m.after.radio i = .ok { r' with timers })
    (hnow : m.before.now = now) (hheard : m.hearing i = heard) (hdrawn : m.drawn i = none) :
    Recounts timing (log ++ [m]) i r' d' where
  attempt := fun hs => by
    have hafter' : m.after.statusOf i = some .waitingForDifs := by rw [statusOf_eq hafter, ← hs]
    rcases hp.attempt hs with ⟨hnew, -, hc, hd⟩ | ⟨hold, hd, hc⟩
    · -- the attempt begins in this moment
      have hbefore' : m.before.statusOf i ≠ some .waitingForDifs := by simpa [statusOf_eq hbefore] using hnew
      refine ⟨m, [], ⟨⟨log, rfl⟩, ⟨hbefore', hafter'⟩, by simp⟩, hnow ▸ hd, ?_⟩
      simp [hc]
    · obtain ⟨p, since, ha, hend, hspoiled⟩ := h.attempt hold
      refine ⟨p, since ++ [m], ha.snoc hafter', hd.trans hend, ?_⟩
      rw [hc, Bool.or_eq_true, hspoiled, ← hheard, Option.isSome_iff_ne_none]
      simp [or_and_right, exists_or]
  countdown := fun hhas => by
    obtain ⟨hold, hlength⟩ := hp.length hhas
    obtain ⟨p, b, since, hc, hsum⟩ := h.countdown hold
    refine ⟨p, b, since ++ [m], hc.snoc hdrawn ⟨_, hafter, hhas⟩, ?_⟩
    have hran : m.ranFor i = r.ranFor now r' := by
      rw [Moment.ranFor_eq hbefore hafter, hnow]
      rfl
    rw [List.map_append, List.sum_append, List.map_singleton, List.sum_singleton, hran]
    omega

/-- A moment in which a countdown is drawn. -/
lemma recounts_drawn {timers : Timers} {d' : Alarms} {now : Nat} {heard : Option Hearing}
    {restarts : Bool} (hc : r.Change timing now restarts d heard (some b) r' d')
    (hafter : m.after.radio i = .ok { r' with timers }) (hdrawn : m.drawn i = some b) :
    Recounts timing (log ++ [m]) i r' d' := by
  obtain ⟨-, hs, hlength, hlow, hhigh, -⟩ := hc.draws
  refine ⟨fun hdifs => ?_, fun _ => ⟨m, b, [], ⟨⟨log, rfl⟩, hdrawn, hlow, ⟨_, hafter, hhigh⟩, by simp⟩, ?_⟩⟩
  · rw [hs] at hdifs
    cases hdifs
  · simp [hlength]

/-- The moment ends an attempt of the interface during which nothing was heard. -/
def Moment.EndsAttempt (m : Moment) (timing : Timing) (past : List Moment) (i : InterfaceId) : Prop :=
  m.before.statusOf i = some .waitingForDifs ∧ ∃ p since, Attempt past i p since ∧
    m.before.now = p.before.now + timing.difs ∧ ∀ x ∈ since, x.hearing i = none

/-- The moment ends a countdown of the interface, which has run for as many ticks as were drawn. -/
def Moment.EndsCountdown (m : Moment) (past : List Moment) (i : InterfaceId) : Prop :=
  m.before.statusOf i = some .waitingForBackoff ∧ ∃ p b since, Countdown past i p b since ∧
    ((since ++ [m]).map (·.ranFor i)).sum = b

/-- How the interface `i` gets at the medium in the moment `m`, which follows the moments `past`. -/
structure Moment.Contends (m : Moment) (timing : Timing) (past : List Moment) (i : InterfaceId) : Prop where
  /-- A frame is launched at the end of an attempt or of a countdown. -/
  launch : m.Launches i → Xor (m.EndsAttempt timing past i) (m.EndsCountdown past i)
  /-- An attempt that is not cut off by a new run ends after an idle time: with a countdown if anything
  was heard, and with a launch if not. -/
  attempt : m.restarts = false → m.before.statusOf i = some .waitingForDifs →
    m.after.statusOf i ≠ some .waitingForDifs →
    ∃ p since, Attempt past i p since ∧ m.before.now = p.before.now + timing.difs ∧
      ((∃ x ∈ since, x.hearing i ≠ none) ∧ m.drawn i ≠ none ∧
          m.after.statusOf i = some .waitingForBackoff ∨
        (∀ x ∈ since, x.hearing i = none) ∧ m.Launches i)
  /-- A countdown starts when it is drawn, or else an idle time after it is taken up again. -/
  start : ∀ {r r'}, m.before.radio i = .ok r → m.after.radio i = .ok r' → r'.isCounting = true →
    r'.backoffStarted =
      if (m.drawn i).isSome then m.before.now
      else if r.isCounting then r.backoffStarted
      else m.before.now + timing.difs
  /-- A countdown that is stopped has not run for longer than was left of it. -/
  stop : ∀ {r}, m.before.radio i = .ok r → r.isCounting = true →
    m.before.now - r.backoffStarted ≤ r.backoffRemaining
  /-- The timer of a countdown runs out at the end of the countdown. -/
  expiry : m.cause = .event (.timer i .backoff) → ∃ r, m.before.radio i = .ok r ∧ r.isCounting = true ∧
    m.before.now = r.backoffStarted + r.backoffRemaining

/-- A timer is set for the end of the countdown of an interface, exactly while it counts. -/
def CountsDown (net : Network) (i : InterfaceId) : Prop :=
  ∀ time, (∃ n, net.scheduler.Pending ⟨time, n⟩ (.timer i .backoff)) ↔
    ∃ r, net.radio i = .ok r ∧ r.isCounting = true ∧ time = r.backoffStarted + r.backoffRemaining

/-- In a sound network the end of a countdown is timed exactly while it counts. -/
lemma Sound.countsDown (h : net.Sound) (i : InterfaceId) : net.CountsDown i := by
  intro time
  rw [← h.coherent.alarms_eq_some]
  constructor
  · intro ha
    obtain ⟨n, hp⟩ := h.coherent.alarms_eq_some.1 ha
    obtain ⟨r, hr, -⟩ := h.coherent.kept hp
    have hsound := h.radio hr
    obtain ⟨hs, hin⟩ := hsound.expects (k := .backoff) (by simp [ha])
    exact ⟨r, hr, by simp [Radio.isCounting, Radio.isReceiving, hs, hin], hsound.backoff ha⟩
  · rintro ⟨r, hr, hc, rfl⟩
    exact (h.radio hr).counting_ends hc

/-- If no frame was heard, then each moment has heard none. -/
lemma not_spoiled (h : ¬ ∃ x ∈ since, x.hearing i ≠ none) : ∀ x ∈ since, x.hearing i = none := by
  intro x hx
  by_contra hheard
  exact h ⟨x, hx, hheard⟩

/-- A moment that launches a frame ends an attempt, or a countdown, but not both. -/
lemma Recounts.launch {heard : Option Hearing} {timers : Timers} {d' : Alarms} {now : Nat}
    (h : Recounts timing past i r d) (hr : r.Sound d) (hp : r.Proceeds timing now d heard r' d')
    (hbefore : m.before.radio i = .ok r) (hafter : m.after.radio i = .ok { r' with timers })
    (hnow : m.before.now = now) (hl : m.Launches i) :
    Xor (m.EndsAttempt timing past i) (m.EndsCountdown past i) := by
  obtain ⟨hs, hs'⟩ := hl
  rw [statusOf_eq hbefore] at hs
  rw [statusOf_eq hafter, Option.some.injEq] at hs'
  rcases hp.launch hs' (by simpa using hs) with ⟨hold, hfree, hend⟩ | ⟨hcount, hend⟩
  · refine .inl ⟨?_, fun hc => ?_⟩
    · obtain ⟨p, since, ha, hdue, hspoiled⟩ := h.attempt hold
      rw [hdue, Option.some.injEq] at hend
      refine ⟨by rw [statusOf_eq hbefore, hold], p, since, ha, by rw [hnow, hend], not_spoiled ?_⟩
      rw [← hspoiled, hfree]
      simp
    · have hboth := hc.1
      rw [statusOf_eq hbefore, hold] at hboth
      cases hboth
  · have hstatus : r.status = .waitingForBackoff := by
      simp only [Radio.isCounting, Bool.and_eq_true, decide_eq_true_eq] at hcount
      exact hcount.1
    refine .inr ⟨?_, fun ha => ?_⟩
    · obtain ⟨p, b, since, hc, hsum⟩ := h.countdown (Radio.hasCountdown_of_isCounting hcount)
      refine ⟨by rw [statusOf_eq hbefore, hstatus], p, b, since, hc, ?_⟩
      -- all that was left of the countdown has run by now
      have hdue := hr.counting_ends hcount
      rw [hend, Option.some.injEq] at hdue
      have hran : m.ranFor i = r.backoffRemaining := by
        have hstill : Radio.isCounting { r' with timers } = false := by
          simp [Radio.isCounting, show r'.status = _ from hs']
        rw [Moment.ranFor_eq hbefore hafter, Radio.ranFor, hcount, hstill, hnow, hdue]
        simp
      rw [List.map_append, List.sum_append, List.map_singleton, List.sum_singleton, hran]
      omega
    · have hboth := ha.1
      rw [statusOf_eq hbefore, hstatus] at hboth
      cases hboth

/-- A moment that ends an attempt draws a countdown if anything was heard, and launches a frame if not. -/
lemma Recounts.ends {heard : Option Hearing} {timers : Timers} {d' : Alarms}
    {now : Nat} (h : Recounts timing past i r d) (hr : r.Sound d)
    (hc : r.Change timing now m.restarts d heard (m.drawn i) r' d') (hbefore : m.before.radio i = .ok r)
    (hafter : m.after.radio i = .ok { r' with timers }) (hnow : m.before.now = now)
    (hrestarts : m.restarts = false) (hs : m.before.statusOf i = some .waitingForDifs)
    (hs' : m.after.statusOf i ≠ some .waitingForDifs) :
    ∃ p since, Attempt past i p since ∧ m.before.now = p.before.now + timing.difs ∧
      ((∃ x ∈ since, x.hearing i ≠ none) ∧ m.drawn i ≠ none ∧
          m.after.statusOf i = some .waitingForBackoff ∨
        (∀ x ∈ since, x.hearing i = none) ∧ m.Launches i) := by
  rw [statusOf_eq hbefore, Option.some.injEq] at hs
  rw [statusOf_eq hafter, ne_eq, Option.some.injEq] at hs'
  rcases hc.leaves hr hs hs' with hrestart | ⟨hend, hhow⟩
  · rw [hrestarts] at hrestart
    cases hrestart
  · obtain ⟨p, since, ha, hdue, hspoiled⟩ := h.attempt hs
    rw [hdue, Option.some.injEq] at hend
    refine ⟨p, since, ha, by rw [hnow, hend], ?_⟩
    cases hcoll : r.collision with
    | true =>
      rw [hcoll, if_pos rfl] at hhow
      obtain ⟨n, hn⟩ := Option.isSome_iff_exists.1 hhow
      rw [hn] at hc
      obtain ⟨-, hback, -⟩ := hc.draws
      have hback : m.after.statusOf i = some .waitingForBackoff := by rw [statusOf_eq hafter, ← hback]
      exact .inl ⟨hspoiled.1 hcoll, by simp [hn], hback⟩
    | false =>
      have hsend : r'.status = .sendingMessage := by simpa [hcoll] using hhow
      have hquiet : ∀ x ∈ since, x.hearing i = none :=
        not_spoiled fun hheard => by simp [hspoiled.2 hheard] at hcoll
      exact .inr ⟨hquiet, by simp [statusOf_eq hbefore, hs], by rw [statusOf_eq hafter, ← hsend]⟩

/-- An interface that is not there before a moment has neither attempt nor countdown after it. -/
lemma Happens.contends_missing (hm : Happens net m) (hnone : ∀ r, net.radio i ≠ .ok r)
    (hbefore : ∀ r, m.before.radio i ≠ .ok r)
    (hnew : ∀ r, m.after.radio i = .ok r → r = Radio.powerOn net.timing) :
    m.Contends net.timing past i ∧
      ∀ {r}, m.after.radio i = .ok r → Recounts net.timing (past ++ [m]) i r (m.after.alarms i) := by
  have hmissing : m.before.statusOf i = none := by
    unfold statusOf
    split
    · rename_i r hr
      exact absurd hr (hbefore r)
    · rfl
  refine ⟨⟨fun hl => ?_, fun _ hs => ?_, fun hr => absurd hr (hbefore _), fun hr => absurd hr (hbefore _),
    fun hcause => ?_⟩, fun hr => ?_⟩
  · obtain ⟨r, hr, hs⟩ := statusOf_eq_some.1 hl.2
    rw [hnew r hr] at hs
    cases hs
  · rw [hmissing] at hs
    cases hs
  · obtain ⟨n, hp⟩ := hm.found.coherent.alarms_eq_some.1 (hm.due hcause)
    obtain ⟨r, hr, -⟩ := hm.found.coherent.kept hp
    exact absurd hr (hnone r)
  · rw [hnew _ hr]
    exact recounts_powerOn _ _ _ _ _

/-- A moment comes no later than the end of a countdown that runs. -/
lemma Happens.stops (hm : Happens net m) (hr : r.Sound (net.alarms i)) (hc : r.isCounting = true) :
    m.before.now - r.backoffStarted ≤ r.backoffRemaining := by
  have hlate := hm.found.due (hr.counting_ends hc)
  have hnow := hm.now
  omega

/-- The timer of a countdown runs out at the end of the countdown. -/
lemma Happens.expires (hm : Happens net m) (hr : r.Sound (net.alarms i))
    (hcause : m.cause = .event (.timer i .backoff)) :
    r.isCounting = true ∧ m.before.now = r.backoffStarted + r.backoffRemaining := by
  have hend := hm.due hcause
  obtain ⟨hs, hin⟩ := hr.expects (k := .backoff) (by simp [hend])
  exact ⟨by simp [Radio.isCounting, Radio.isReceiving, hs, hin], hm.now.trans (hr.backoff hend)⟩

/-- What a moment makes of an interface that the log has told of. -/
lemma Happens.contends (hm : Happens net m) (i : InterfaceId)
    (h : ∀ {r}, net.radio i = .ok r → Recounts net.timing past i r (net.alarms i)) :
    m.Contends net.timing past i ∧
      ∀ {r}, m.after.radio i = .ok r → Recounts net.timing (past ++ [m]) i r (m.after.alarms i) := by
  cases hm.acts i with
  | missing hnone hbefore hnew => exact hm.contends_missing hnone hbefore hnew
  | @changed r timers hfound hbefore hsound hchange =>
    obtain ⟨r', timers', hafter, hchange⟩ := hchange
    have hold : Recounts net.timing past i r (net.alarms i) := ⟨(h hfound).attempt, (h hfound).countdown⟩
    have hattempt := hold.ends hsound hchange hbefore hafter hm.now
    have hstop : ∀ {s}, m.before.radio i = .ok s → s.isCounting = true →
        m.before.now - s.backoffStarted ≤ s.backoffRemaining := by
      intro s hs hc
      cases hbefore.symm.trans hs
      exact hm.stops hsound hc
    have hexpiry : m.cause = .event (.timer i .backoff) → ∃ r, m.before.radio i = .ok r ∧
        r.isCounting = true ∧ m.before.now = r.backoffStarted + r.backoffRemaining :=
      fun hcause => ⟨_, hbefore, hm.expires hsound hcause⟩
    cases hdrawn : m.drawn i with
    | none =>
      rw [hdrawn] at hchange
      have hp := hchange.proceeds hsound fun ha => hm.found.due ha
      refine ⟨⟨hold.launch hsound hp hbefore hafter hm.now, hattempt, fun {s s'} hs hs' hc => ?_, hstop,
        hexpiry⟩, fun {s} hs => ?_⟩
      · cases hbefore.symm.trans hs
        cases hafter.symm.trans hs'
        simpa [hdrawn, hm.now] using hp.start hc
      · cases hafter.symm.trans hs
        have hnew := hold.proceeds hp hbefore hafter hm.now rfl hdrawn
        exact ⟨hnew.attempt, hnew.countdown⟩
    | some n =>
      rw [hdrawn] at hchange
      obtain ⟨-, hback, -, -, -, hstart⟩ := hchange.draws
      refine ⟨⟨fun hl => ?_, hattempt, fun {s s'} hs hs' hc => ?_, hstop, hexpiry⟩, fun {s} hs => ?_⟩
      · have hsend := hl.2
        rw [statusOf_eq hafter, Option.some.injEq] at hsend
        rw [show r'.status = _ from hsend] at hback
        cases hback
      · cases hafter.symm.trans hs'
        simpa [hdrawn, hm.now] using hstart hc
      · cases hafter.symm.trans hs
        have hnew : Recounts net.timing (past ++ [m]) i r' (m.after.alarms i) :=
          recounts_drawn hchange hafter hdrawn
        exact ⟨hnew.attempt, hnew.countdown⟩

/-- The log tells of all attempts and countdowns, and in all its moments the interfaces have got at the
medium as they should. -/
structure Contended (timing : Timing) (log : List Moment) (net : Network) : Prop where
  recounts : ∀ {i r}, net.radio i = .ok r → Recounts timing log i r (net.alarms i)
  contends : ∀ {past m future}, log = past ++ m :: future → ∀ i,
    m.after.CountsDown i ∧ m.Contends timing past i

/-- One more moment tells of attempts and countdowns as the log does. -/
lemma Contended.advance (h : Contended net.timing log net) (hm : Happens net m) :
    Contended net.timing (log ++ [m]) m.after := by
  have hstep : ∀ i, m.Contends net.timing log i ∧
      ∀ {r}, m.after.radio i = .ok r → Recounts net.timing (log ++ [m]) i r (m.after.alarms i) :=
    fun i => hm.contends i fun hr => h.recounts hr
  refine ⟨fun {i r} hr => (hstep i).2 hr, fun {past m' future} hlog i => ?_⟩
  rcases cut_of_snoc hlog with ⟨rfl, rfl, -⟩ | ⟨future', -, hcut⟩
  · exact ⟨hm.left.countsDown i, (hstep i).1⟩
  · exact h.contends hcut i

/-- At each moment of a run the log tells of all attempts and countdowns. -/
lemma Run.contended {allowed : Op → Except NetworkError Unit → Prop} {seed : UInt64} {laws : List Law}
    (hrun : Run allowed (Network.new timing seed laws) log net) :
    net.Sound ∧ Contended timing log net := by
  refine Run.course (fun {log net time} h hn _ => ?_) (fun h ht hm => ?_) ?_ hrun
  · obtain ⟨-, hal⟩ := hn.coherent.advanceTo time
    refine ⟨fun {i r} hr => ?_, h.contends⟩
    rw [hal]
    exact h.recounts hr
  · subst ht
    exact h.advance hm
  · refine ⟨fun {i r} hr => ?_, fun hlog => ?_⟩
    · simp [radio_eq_ok, new] at hr
    · simp at hlog

/-- Whatever is called, an interface launches a frame only at the end of an attempt during which it heard
nothing, or at the end of a countdown that has run for as many ticks as were drawn; an attempt during which
anything is heard is followed by a countdown; and the timer of a countdown that runs is set for its end. -/
theorem Run.medium_access {seed : UInt64} {laws : List Law}
    (hrun : Run (fun _ _ => True) (Network.new timing seed laws) log net) (i : InterfaceId) :
    net.CountsDown i ∧ ∀ past m future, log = past ++ m :: future →
      m.after.CountsDown i ∧ m.Contends timing past i := by
  obtain ⟨hn, h⟩ := hrun.contended
  exact ⟨hn.countsDown i, fun past m future hlog => h.contends hlog i⟩

/-- A countdown of eleven ticks that is stopped after two of them, and then runs for the other nine. -/
theorem stopped_countdown_completed : ∃ log net past m future,
    Run (fun _ _ => True) (Network.new {} 3 []) log net ∧ log = past ++ m :: future ∧
      net.CountsDown ⟨0⟩ ∧ m.Launches ⟨0⟩ ∧ m.EndsCountdown past ⟨0⟩ ∧
      past.filterMap (·.drawn ⟨0⟩) = [11] ∧
      ((past ++ [m]).map (·.ranFor ⟨0⟩)).filter (0 < ·) = [2, 9] := by
  have hend : endsWith (Op.applyAll 100 (Op.couple ++
      [.send ⟨0⟩ (Frame.data 1 50 ⟨0⟩ ⟨1⟩), .receive ⟨0⟩ (Frame.data 2 5 ⟨1⟩ ⟨0⟩), .runTo 30,
        .receive ⟨0⟩ (Frame.data 3 5 ⟨1⟩ ⟨0⟩), .runTo 90]) [] (.new {} 3 []))
      (fun log _ => splitsAt 12 log fun past m _ => m.before.statusOf ⟨0⟩ = some .waitingForBackoff &&
        m.after.statusOf ⟨0⟩ = some .sendingMessage && past.filterMap (·.drawn ⟨0⟩) = [11] &&
        ((past ++ [m]).map (·.ranFor ⟨0⟩)).filter (0 < ·) = [2, 9]) = true := by
    decide +kernel
  obtain ⟨log, net, hok, htest⟩ := endsWith_iff.1 hend
  have hrun : Run (fun _ _ => True) (Network.new {} 3 []) log net :=
    Run.of_applyAll .start hok fun _ _ => trivial
  obtain ⟨hcounts, hmoments⟩ := hrun.medium_access ⟨0⟩
  obtain ⟨m, future, hlog, htest⟩ := splitsAt_eq_true htest
  simp only [Bool.and_eq_true, decide_eq_true_eq] at htest
  obtain ⟨⟨⟨hbefore, hafter⟩, hdrawn⟩, hran⟩ := htest
  have hl : m.Launches ⟨0⟩ := ⟨by simp [hbefore], hafter⟩
  obtain ⟨-, hcontends⟩ := hmoments _ m future hlog
  refine ⟨log, net, log.take 12, m, future, hrun, hlog, hcounts, hl, ?_, hdrawn, hran⟩
  rcases hcontends.launch hl with ⟨hattempt, -⟩ | ⟨hcountdown, -⟩
  · rw [hattempt.1] at hbefore
    cases hbefore
  · exact hcountdown

end CarrierSense.Network
