import CarrierSense.Proofs.Network.Contention
import CarrierSense.Proofs.Radio.Window

/-!
# Contention windows over a run

The contention window of an interface is read off the log of a run: it has been doubled once for each
acknowledgement that was lost since the interface was added, since the start of the run, or since the last
acknowledgement that it took, whichever came last. What carries the induction is what one moment makes of the
windows of all interfaces (`Rewindows`).
-/

namespace CarrierSense.Network

variable {net mid net' before : Network} {w : Setting} {i j : InterfaceId} {k : Timer} {r : Radio}
  {s : Sequel} {t : Turn} {f : Frame} {m : Moment} {log : List Moment} {members : List InterfaceId}
  {timing : Timing} {result : Except NetworkError Unit}

/-- The contention window of an interface, if there is one. -/
def window (net : Network) (i : InterfaceId) : Option Nat :=
  match net.radio i with
  | .ok r => some r.window
  | .error _ => none

namespace Moment

/-- Whether an acknowledgement that an interface has waited for is lost. -/
def timesOut (m : Moment) (i : InterfaceId) : Bool :=
  match m.cause with
  | .event (.timer j .ackTimeout) => j = i
  | _ => false

/-- Whether an interface takes an acknowledgement that settles the head of its queue. -/
def settles (m : Moment) (i : InterfaceId) : Bool :=
  match m.cause, m.before.radio i with
  | .event (.timer j .reception), .ok r => j = i && r.takesAck i
  | _, _ => false

/-- Whether an interface is added. -/
def adds (m : Moment) (i : InterfaceId) : Bool :=
  (m.before.window i).isNone && (m.after.window i).isSome

/-- Whether the contention window of an interface is set to the first one. -/
def resetsWindow (m : Moment) (i : InterfaceId) : Bool := m.adds i || m.restarts || m.settles i

end Moment

/-- How many acknowledgements an interface has lost since its window was reset. -/
def timeouts (log : List Moment) (i : InterfaceId) : Nat :=
  (log.reverse.takeWhile fun m => !m.resetsWindow i).countP fun m => m.timesOut i

/-- Lost acknowledgements are counted moment by moment, and from zero on after each reset of the window. -/
lemma timeouts_concat (log : List Moment) (m : Moment) (i : InterfaceId) :
    timeouts (log ++ [m]) i =
      if m.resetsWindow i then 0 else timeouts log i + if m.timesOut i then 1 else 0 := by
  simp only [timeouts, List.reverse_append, List.reverse_cons, List.reverse_nil, List.nil_append,
    List.singleton_append, List.takeWhile_cons]
  cases m.resetsWindow i with
  | true => rfl
  | false => simp [List.countP_cons]

/-- The window of an interface is the one of its radio. -/
lemma window_eq (hr : net.radio i = .ok r) : net.window i = some r.window := by
  simp only [window, hr]

/-- There is a window if there is a radio. -/
lemma window_eq_some {n : Nat} : net.window i = some n ↔ ∃ r, net.radio i = .ok r ∧ r.window = n := by
  unfold window
  cases net.radio i <;> simp

/-- The window depends on the radio alone. -/
lemma window_of_radio (h : net'.radio i = net.radio i) : net'.window i = net.window i := by
  simp only [window, h]

/-- A turn that is carried out changes no window but its own. -/
lemma Settled.window (hs : net.Settled w t net') (j : InterfaceId) :
    net'.window j = if j = w.self then some t.radio.window else net.window j := by
  split
  · rename_i hj
    subst hj
    obtain ⟨timers, hr⟩ := hs.radio_self
    exact (window_eq hr :)
  · rename_i hj
    exact window_of_radio (hs.radio_other hj)

/-- A turn that leaves the window of its radio alone leaves all windows alone. -/
lemma Settled.window_same (hs : net.Settled w t net') (hr : net.radio w.self = .ok r)
    (ht : t.radio.window = r.window) : net'.window = net.window := by
  funext j
  rw [hs.window]
  split
  · rename_i hj
    rw [hj, window_eq hr, ht]
  · rfl

/-- A frame that is heard leaves all windows alone. -/
lemma Hears.window (hh : Hears net f members net') : net'.window = net.window := by
  induction hh with
  | nil => rfl
  | @cons net mid net' i r w f rest hr hw hs _ ih =>
    obtain rfl := setting_self hw
    exact ih.trans (hs.window_same hr (Radio.receive_contention w f { radio := r }).1)

/-- A frame that joins a queue changes no window. -/
lemma Queued.window (hq : net.Queued i f net') : net'.window = net.window := by
  obtain ⟨r, w, hr, hw, hs⟩ := hq
  obtain rfl := setting_self hw
  exact hs.window_same hr (Radio.enqueue_contention w f r).window

/-- What leaves radios alone changes no window. -/
lemma Aside.window (ha : net.Aside net') : net'.window = net.window :=
  funext fun _ => window_of_radio (by rw [ha.radio])

/-- A frame that is sent changes no window. -/
lemma send_window (h : net.Sound) (hs : net.send i f = .ok (result, net')) : net'.window = net.window := by
  rcases send_queued h.coherent h.onTime hs with ⟨-, rfl⟩ | ⟨-, -, next, hq⟩
  · rfl
  · exact hq.window

/-- A frame that is produced changes no window. -/
lemma produce_window {n : NodeId} (h : net.Sound) (hp : net.produce n = .ok (result, net')) :
    net'.window = net.window := by
  rcases produce_cases h.coherent h.onTime hp with ⟨ha, -, -⟩ | ⟨-, i, f, next, hmade⟩
  · exact ha.window
  · obtain ⟨mid, hq, ha, -⟩ := hmade.queued
    exact ha.window.trans hq.window

/-- A timer that runs out leaves the windows of all other interfaces alone. -/
lemma Fired.window (hF : Fired net before i k r w s t mid) (hnext : before.Follows i s mid net')
    (j : InterfaceId) :
    net'.window j = if j = i then some (Radio.windowAt w r k) else net.window j := by
  have hself := hF.self
  subst hself
  have hturn : t.radio.window = Radio.windowAt w r k :=
    (Radio.Ends.window hF.ends).trans (Radio.expire_window hF.sound w k)
  have hmid : net'.window = mid.window := by
    cases hnext with
    | silent _ heq => rw [heq]
    | transmit _ _ hh => exact hh.window
  have hsettled := hF.settled.window j
  rw [hmid, hsettled]
  simp only [hturn]

/-- What the moment `m` makes of the windows that the network `net` has before it. -/
structure Rewindows (net : Network) (m : Moment) : Prop where
  before : m.before.window = net.window
  after : ∀ {i n}, m.after.window i = some n →
    if m.resetsWindow i then n = net.timing.windowMin
    else ∃ n₀, net.window i = some n₀ ∧ n = if m.timesOut i then Radio.widened net.timing n₀ else n₀

/-- A moment that neither loses nor takes an acknowledgement, and no start of a run, leaves windows alone. -/
lemma Rewindows.of_same (hb : m.before.window = net.window) (ha : m.after.window = net.window)
    (hr : m.restarts = false) (hm : ∀ i k, m.cause ≠ .event (.timer i k)) : Rewindows net m := by
  refine ⟨hb, ?_⟩
  intro i n hn
  have hadds : m.adds i = false := by simp [Moment.adds, hb, ha]
  have hevents : m.settles i = false ∧ m.timesOut i = false := by
    obtain ⟨before, cause, after⟩ := m
    cases cause with
    | call op => exact ⟨rfl, rfl⟩
    | event e =>
      cases e with
      | timer j k => exact absurd rfl (hm j k)
      | produce | forward => exact ⟨rfl, rfl⟩
  rw [ha] at hn
  simp [Moment.resetsWindow, hadds, hr, hevents, hn]

/-- The window of an interface doubles when an acknowledgement is lost, and is reset when one is taken. -/
lemma Fired.rewindows (hF : Fired net m.before i k r w s t mid) (hnext : m.before.Follows i s mid m.after)
    (hm : m.cause = .event (.timer i k)) : Rewindows net m := by
  obtain ⟨timers, htwin⟩ := hF.twin
  have hold : net.window i = some r.window := (window_eq htwin :)
  have hbefore : m.before.window = net.window := by
    funext j
    by_cases hj : j = i
    · rw [hj, window_eq hF.radio, hold]
    · exact window_of_radio (hF.rest j hj)
  have hafter := hF.window hnext
  refine ⟨hbefore, ?_⟩
  intro j n hn
  have hadds : m.adds j = false := by
    rw [Moment.adds, hbefore, hafter]
    split
    · rename_i hj
      simp [hj, hold]
    · cases net.window j <;> rfl
  have hrestarts : m.restarts = false := Moment.restarts_event hm
  rw [hafter] at hn
  split at hn
  · rename_i hj
    subst hj
    obtain rfl := Option.some.inj hn
    have hsettles : m.settles j = (decide (k = .reception) && r.takesAck j) := by
      simp only [Moment.settles, hm, hF.radio]
      cases k <;> simp
    have htimes : m.timesOut j = decide (k = .ackTimeout) := by
      simp only [Moment.timesOut, hm]
      cases k <;> simp
    rw [Moment.resetsWindow, hadds, hrestarts, hsettles, htimes, ← hF.timing]
    have hself := hF.self
    cases k with
    | reception => cases htakes : r.takesAck j <;> simp [Radio.windowAt, hself, htakes, hold]
    | _ => simp [Radio.windowAt, hold]
  · rename_i hj
    have hother : m.settles j = false ∧ m.timesOut j = false := by
      simp only [Moment.settles, Moment.timesOut, hm]
      constructor <;> cases k <;> cases m.before.radio j <;> simp [Ne.symm hj]
    simp [Moment.resetsWindow, hadds, hrestarts, hother, hn]

/-- Whatever event fires, the windows change as they should. -/
lemma Sound.fires_rewindows (h : net.Sound) (hf : net.Fires m result) : Rewindows net m := by
  obtain ⟨id, e, scheduler, hp, hc, hm, hfire⟩ := hf
  have hother : (∀ i k, e ≠ .timer i k) → m.after.window = m.before.window → Rewindows net m := by
    intro he ha
    obtain ⟨hmid, -⟩ := Network.pop_other h.coherent h.onTime hp hc he
    have hbefore : m.before.window = net.window := by
      rw [hmid]
      rfl
    refine .of_same hbefore (ha.trans hbefore) (Moment.restarts_event hm) ?_
    intro i k hcause
    cases hm.symm.trans hcause
    exact he i k rfl
  cases e with
  | timer i k =>
    obtain ⟨-, r, w, s, t, mid, hF, hnext⟩ := h.fired hp hc hfire
    exact hF.rewindows hnext hm
  | produce n => exact hother (by simp) (produce_window (h.pop_other hp hc (by simp)) hfire)
  | forward i f => exact hother (by simp) (send_window (h.pop_other hp hc (by simp)) hfire)

/-- A new interface begins with the first window, and those of the others stay. -/
lemma addInterface_rewindows {op : Op} {n : NodeId} {name : String} {radius : Float} (h : net.Sound)
    (ha : net.addInterface n name radius = .ok (i, net')) (hop : op ≠ .initRun) :
    Rewindows net ⟨net, .call op, net'⟩ := by
  obtain ⟨-, -, -, new, hnew, hself, -, hother, -⟩ := addInterface_radio h.coherent ha
  refine ⟨rfl, ?_⟩
  intro j size hsize
  have hsize : net'.window j = some size := hsize
  have hrestarts : Moment.restarts ⟨net, .call op, net'⟩ = false := by
    cases op with
    | initRun => exact absurd rfl hop
    | _ => rfl
  by_cases hj : j = new
  · subst hj
    have hnone : net.window j = none := by
      cases hr : net.radio j with
      | ok r => exact absurd hr (hnew r)
      | error halt => simp only [window, hr]
    rw [window_eq hself] at hsize
    obtain rfl := Option.some.inj hsize
    simp [Moment.resetsWindow, Moment.adds, hnone, window_eq hself, Radio.powerOn]
  · rw [window_of_radio (hother hj)] at hsize
    simp [Moment.resetsWindow, Moment.adds, Moment.settles, Moment.timesOut, hrestarts, hsize]

/-- At the start of a run all windows are reset. -/
lemma initRun_rewindows (hi : net.initRun = .ok (result, net')) : Rewindows net ⟨net, .call .initRun, net'⟩ := by
  refine ⟨rfl, ?_⟩
  intro j n hn
  have hn : net'.window j = some n := hn
  rw [(initRun_aside hi).1.window, window, radio_reset] at hn
  have hfirst : n = net.timing.windowMin := by
    cases hr : net.radio j <;> rw [hr] at hn <;> cases hn
    rfl
  simp [Moment.resetsWindow, Moment.restarts, hfirst]

/-- Whatever is called, the windows change as they should. -/
lemma Sound.apply_rewindows {op : Op} {fuel : Nat} (h : net.Sound) (hop : op.firesEvents = false)
    (ha : op.apply fuel net = .ok (result, net')) : Rewindows net ⟨net, .call op, net'⟩ := by
  have hsame : net'.window = net.window → op ≠ .initRun → Rewindows net ⟨net, .call op, net'⟩ := by
    intro hw hinit
    refine .of_same rfl hw ?_ (by simp)
    cases op with
    | initRun => exact absurd rfl hinit
    | _ => rfl
  by_cases hk : op.keepsBooks = true
  · refine hsame (Op.apply_aside hk h.coherent h.onTime ha).window ?_
    rintro rfl
    cases hk
  cases op with
  | addInterface n name radius =>
    simp only [Op.apply, bind_eq_ok] at ha
    obtain ⟨⟨j, mid⟩, hj, ha⟩ := ha
    cases ha
    exact addInterface_rewindows h hj (by simp)
  | initRun => exact initRun_rewindows ha
  | produce n => exact hsame (produce_window h ha) (by simp)
  | send j f => exact hsame (send_window h ha) (by simp)
  | receive j f =>
    obtain ⟨-, r, w, hr, hw, hs⟩ := receive_settled h.coherent h.onTime ha
    have hh : Hears net f [j] net' := .cons hr hw hs .nil
    exact hsame hh.window (by simp)
  | broadcast j f =>
    obtain ⟨-, medium, -, hh⟩ := broadcast_hears h.coherent h.onTime ha
    exact hsame hh.window (by simp)
  | step | runTo | runUntilIdle => cases hop
  | _ => exact absurd rfl hk

/-- A window that is neither reset nor doubled stays as it is. -/
lemma Rewindows.window_same {n : Nat} (h : Rewindows net m) (hreset : m.resetsWindow i = false)
    (htime : m.timesOut i = false) (hn : m.after.window i = some n) : m.before.window i = some n := by
  have hstep := h.after hn
  simp only [hreset, htime, Bool.false_eq_true, if_false] at hstep
  obtain ⟨n₀, hold, rfl⟩ := hstep
  rw [h.before, hold]

/-- Only an interface that is there draws a countdown. -/
lemma Moment.drawn_radio {n : Nat} (h : m.drawn i = some n) : ∃ r, m.before.radio i = .ok r := by
  obtain ⟨before, cause, after⟩ := m
  have hmissing : ∀ k halt, before.radio i = .error halt → before.countdown i k = none := by
    intro k halt hr
    simp only [countdown, hr]
  cases cause with
  | call op => cases h
  | event e =>
    cases e with
    | timer j k =>
      cases hr : before.radio i with
      | ok r => exact ⟨r, rfl⟩
      | error halt => simp [Moment.drawn, hmissing k halt hr] at h
    | produce | forward => cases h

/-- Each window has been doubled for each acknowledgement that was lost since it was reset. -/
def Widened (timing : Timing) (log : List Moment) (net : Network) : Prop :=
  ∀ i n, net.window i = some n → n = timing.windowAfter (timeouts log i)

/-- What one moment preserves. -/
lemma Widened.concat (h : Widened net.timing log net) (hle : net.timing.windowMin ≤ net.timing.windowMax)
    (hmax : net.timing.windowMax ≤ Radio.windowLimit) (hm : Rewindows net m) :
    Widened net.timing (log ++ [m]) m.after := by
  intro i n hn
  have hstep := hm.after hn
  rw [timeouts_concat]
  split at hstep
  · rename_i hreset
    rw [if_pos hreset, hstep]
    exact (Timing.windowAfter_zero hle).symm
  · rename_i hreset
    obtain ⟨n₀, hold, hnew⟩ := hstep
    have hn₀ := h i n₀ hold
    rw [if_neg hreset, hnew, hn₀]
    split
    · exact Radio.widened_windowAfter hmax _
    · rfl

/-- All windows of a run have been doubled as the log says, at each of its moments. -/
structure Rewound (timing : Timing) (log : List Moment) (net : Network) : Prop where
  widened : Widened timing log net
  moments : ∀ {past m future}, log = past ++ m :: future →
    Widened timing past m.before ∧ Widened timing (past ++ [m]) m.after ∧
      ∀ {i n}, m.resetsWindow i = false → m.timesOut i = false → m.after.window i = some n →
        m.before.window i = some n

/-- One more moment widens the windows as the log says. -/
lemma Rewound.advance (h : Rewound net.timing log net) (hle : net.timing.windowMin ≤ net.timing.windowMax)
    (hmax : net.timing.windowMax ≤ Radio.windowLimit) (hm : Rewindows net m) :
    Rewound net.timing (log ++ [m]) m.after := by
  have hnew := h.widened.concat hle hmax hm
  refine ⟨hnew, ?_⟩
  intro past m' future hlog
  rcases cut_of_snoc hlog with ⟨rfl, rfl, -⟩ | ⟨future', -, hcut⟩
  · refine ⟨?_, hnew, ?_⟩
    · intro i n hn
      rw [hm.before] at hn
      exact h.widened i n hn
    · intro i n hreset htime hn
      exact hm.window_same hreset htime hn
  · exact h.moments hcut

/-- At each moment of a run the windows have been doubled as the log says. -/
lemma Run.rewound {allowed : Op → Except NetworkError Unit → Prop} {seed : UInt64} {laws : List Law}
    (hle : timing.windowMin ≤ timing.windowMax) (hmax : timing.windowMax ≤ Radio.windowLimit)
    (hrun : Run allowed (Network.new timing seed laws) log net) : Rewound timing log net := by
  have hclosed : Closed (fun log net => (net.Sound ∧ net.timing = timing) ∧ Rewound timing log net)
      fun _ => True := by
    refine ⟨?_, ?_⟩
    · intro log net time h ha
      obtain ⟨⟨hn, ht⟩, h⟩ := h
      exact ⟨⟨hn.advanceTo ha, ht⟩, h.widened, h.moments⟩
    · intro log net m result h hf _
      obtain ⟨⟨hn, rfl⟩, h⟩ := h
      exact ⟨⟨hn.fires hf, (hn.fires_timing hf).2⟩, h.advance hle hmax (hn.fires_rewindows hf)⟩
  refine (hclosed.run ?_ (fun _ _ => trivial) ⟨⟨new_sound timing seed laws, rfl⟩, ?_⟩ hrun).2
  · intro log net op fuel result net' h hop _ ha
    obtain ⟨⟨hn, rfl⟩, h⟩ := h
    exact ⟨⟨hn.apply hop ha, hn.apply_timing hop ha⟩, h.advance hle hmax (hn.apply_rewindows hop ha)⟩
  · refine ⟨?_, ?_⟩
    · intro i n hn
      simp [window, radio, new] at hn
    · intro past m future hlog
      simp at hlog

/-- All radios are within the limits of the timing, at each moment of a run. No interface vanishes, and
countdowns are drawn from the window. -/
structure Limited (timing : Timing) (log : List Moment) (net : Network) : Prop where
  radios : ∀ {i r}, net.radio i = .ok r → r.InLimits timing
  moments : ∀ {past m future}, log = past ++ m :: future →
    (∀ {i r}, m.after.radio i = .ok r → r.InLimits timing) ∧
      (∀ {i n}, m.before.window i = some n → ∃ n', m.after.window i = some n') ∧
      ∀ {i n}, m.drawn i = some n → ∃ r, m.after.radio i = .ok r ∧ r.status = .waitingForBackoff ∧
        r.backoffRemaining = n ∧ 1 ≤ n ∧ n ≤ r.window

/-- What one moment preserves. -/
lemma Limited.advance (h : Limited net.timing log net) (hcheck : net.timing.check = .ok ())
    (hmax : net.timing.windowMax ≤ Radio.windowLimit) (hm : Happens net m) :
    Limited net.timing (log ++ [m]) m.after := by
  obtain ⟨hpos, hle, -⟩ := Timing.check_eq_ok_iff.1 hcheck
  have hradios : ∀ {i r}, m.after.radio i = .ok r → r.InLimits net.timing := by
    intro i r hr
    cases hm.acts i with
    | changed found _ sound change =>
      obtain ⟨r', timers', hr', hchange⟩ := change
      cases hr.symm.trans hr'
      have hold := h.radios found
      have hnew := hchange.inLimits sound hpos hmax ⟨hold.low, hold.high, hold.remaining⟩
      exact ⟨hnew.low, hnew.high, hnew.remaining⟩
    | missing _ _ new =>
      cases new r hr
      exact .powerOn hle
  refine ⟨hradios, ?_⟩
  intro past m' future hlog
  rcases cut_of_snoc hlog with ⟨rfl, rfl, -⟩ | ⟨future', -, hcut⟩
  · refine ⟨hradios, ?_, ?_⟩
    · intro i n hn
      cases hm.acts i with
      | changed _ _ _ change =>
        obtain ⟨r', timers', hr', -⟩ := change
        exact ⟨_, window_eq hr'⟩
      | missing _ before _ =>
        obtain ⟨r, hr, -⟩ := window_eq_some.1 hn
        exact absurd hr (before r)
    · intro i n hdrawn
      cases hm.acts i with
      | changed _ _ _ change =>
        obtain ⟨r', timers', hr', hchange⟩ := change
        rw [hdrawn] at hchange
        obtain ⟨-, hstatus, hlength, hlow, hhigh, -⟩ := hchange.draws
        have hsize : net.timing.windowMin ≤ r'.window := (hradios hr').low
        have hwindow : n ≤ r'.window := by omega
        exact ⟨_, hr', hstatus, hlength, hlow, hwindow⟩
      | missing _ before _ =>
        obtain ⟨r, hr⟩ := Moment.drawn_radio hdrawn
        exact absurd hr (before r)
  · exact h.moments hcut

/-- At each moment of a run all radios are within the limits. -/
lemma Run.limited {allowed : Op → Except NetworkError Unit → Prop} {seed : UInt64} {laws : List Law}
    (hcheck : timing.check = .ok ()) (hmax : timing.windowMax ≤ Radio.windowLimit)
    (hrun : Run allowed (Network.new timing seed laws) log net) : Limited timing log net := by
  refine (Run.course ?_ ?_ ?_ hrun).2
  · intro log net time h _ _
    exact ⟨h.radios, h.moments⟩
  · intro log net m h ht hm
    subst ht
    exact h.advance hcheck hmax hm
  · refine ⟨?_, ?_⟩
    · intro i r hr
      simp [radio_eq_ok, new] at hr
    · intro past m future hlog
      simp at hlog

/-- At any time of any run, the window of an interface has been doubled, up to the largest one, for each acknowledgement
that it has lost since it was added, since the start of the run, or since the last acknowledgement that it took; nothing
else that happens changes it. It stays within its limits, as does what is left of a countdown. A countdown that is drawn
is what the radio has left to count when it enters the countdown, and it is drawn from the window. -/
theorem Run.contention_windows {seed : UInt64} {laws : List Law} (hcheck : timing.check = .ok ())
    (hmax : timing.windowMax ≤ Radio.windowLimit)
    (hrun : Run (fun _ _ => True) (Network.new timing seed laws) log net) (i : InterfaceId) :
    (∀ r, net.radio i = .ok r → r.window = timing.windowAfter (timeouts log i) ∧
      timing.windowMin ≤ r.window ∧ r.window ≤ timing.windowMax ∧ r.backoffRemaining ≤ timing.windowMax) ∧
    ∀ past m future, log = past ++ m :: future →
      (∀ r, m.before.radio i = .ok r → r.window = timing.windowAfter (timeouts past i)) ∧
      (∀ r, m.after.radio i = .ok r → r.window = timing.windowAfter (timeouts (past ++ [m]) i) ∧
        timing.windowMin ≤ r.window ∧ r.window ≤ timing.windowMax ∧ r.backoffRemaining ≤ timing.windowMax) ∧
      (m.resetsWindow i = false → m.timesOut i = false → m.after.window i = m.before.window i) ∧
      ∀ n, m.drawn i = some n →
        (∃ r, m.after.radio i = .ok r ∧ r.status = .waitingForBackoff ∧ r.backoffRemaining = n) ∧
          1 ≤ n ∧ n ≤ timing.windowAfter (timeouts (past ++ [m]) i) := by
  obtain ⟨-, hle, -⟩ := Timing.check_eq_ok_iff.1 hcheck
  have hwound := hrun.rewound hle hmax
  have hlimited := hrun.limited hcheck hmax
  constructor
  · intro r hr
    obtain ⟨hlow, hhigh, hremaining⟩ := hlimited.radios hr
    exact ⟨hwound.widened i _ (window_eq hr), hlow, hhigh, hremaining⟩
  · intro past m future hlog
    obtain ⟨hbefore, hafter, hsame⟩ := hwound.moments hlog
    obtain ⟨hradios, hstays, hdraws⟩ := hlimited.moments hlog
    refine ⟨?_, ?_, ?_, ?_⟩
    · intro r hr
      exact hbefore i _ (window_eq hr)
    · intro r hr
      obtain ⟨hlow, hhigh, hremaining⟩ := hradios hr
      exact ⟨hafter i _ (window_eq hr), hlow, hhigh, hremaining⟩
    · intro hreset htime
      cases hn : m.after.window i with
      | some n => exact (hsame hreset htime hn).symm
      | none =>
        cases hold : m.before.window i with
        | none => rfl
        | some n₀ =>
          obtain ⟨n, hnew⟩ := hstays hold
          cases hn.symm.trans hnew
    · intro n hdrawn
      obtain ⟨r, hr, hstatus, hlength, hlow, hhigh⟩ := hdraws hdrawn
      rw [hafter i r.window (window_eq hr)] at hhigh
      exact ⟨⟨r, hr, hstatus, hlength⟩, hlow, hhigh⟩

/-- A window that is more than half of the largest one. It is as large as can be once an acknowledgement has been
lost, and as small as at first once the next one has been taken. -/
theorem large_window_doubled : ∃ log net past m future,
    Run (fun _ _ => True) (Network.new { windowMin := 3000000000, windowMax := 4294967295 } 7 []) log net ∧
      log = past ++ m :: future ∧ timeouts past ⟨0⟩ = 0 ∧ timeouts (past ++ [m]) ⟨0⟩ = 1 ∧
      m.before.window ⟨0⟩ = some 3000000000 ∧ m.after.window ⟨0⟩ = some 4294967295 ∧
      m.drawn ⟨0⟩ = some 1789459390 ∧ 1789459390 ≤ 4294967295 ∧
      (∃ r, m.after.radio ⟨0⟩ = .ok r ∧ r.status = .waitingForBackoff ∧ r.backoffRemaining = 1789459390) ∧
      timeouts log ⟨0⟩ = 0 ∧ net.window ⟨0⟩ = some 3000000000 := by
  have hend : endsWith (Op.applyAll 100 (Op.couple ++
      [.send ⟨0⟩ (Frame.data 1 5 ⟨0⟩ ⟨1⟩), .runTo 30, .receive ⟨1⟩ (Frame.data 2 5 ⟨0⟩ ⟨0⟩), .runTo 2000000000])
      [] (.new { windowMin := 3000000000, windowMax := 4294967295 } 7 []))
      (fun log net => (splitsAt 11 log fun past m _ => timeouts past ⟨0⟩ = 0 &&
        timeouts (past ++ [m]) ⟨0⟩ = 1 && (m.before.window ⟨0⟩).isSome && (m.after.window ⟨0⟩).isSome &&
        m.drawn ⟨0⟩ = some 1789459390) && timeouts log ⟨0⟩ = 0 && (net.window ⟨0⟩).isSome) = true := by
    decide +kernel
  obtain ⟨log, net, hok, htest⟩ := endsWith_iff.1 hend
  have hrun : Run (fun _ _ => True) (Network.new { windowMin := 3000000000, windowMax := 4294967295 } 7 [])
      log net :=
    .of_applyAll .start hok fun _ _ => trivial
  obtain ⟨hwindows, hmoments⟩ := hrun.contention_windows (by decide) (by decide) ⟨0⟩
  simp only [Bool.and_eq_true, decide_eq_true_eq, Option.isSome_iff_exists] at htest
  obtain ⟨⟨hsplit, hsettled⟩, size, hsize⟩ := htest
  obtain ⟨m, future, hlog, htest⟩ := splitsAt_eq_true hsplit
  simp only [Bool.and_eq_true, decide_eq_true_eq, Option.isSome_iff_exists] at htest
  obtain ⟨⟨⟨⟨hpast, hlost⟩, size₀, hsize₀⟩, size₁, hsize₁⟩, hdrawn⟩ := htest
  obtain ⟨r, hr, rfl⟩ := window_eq_some.1 hsize
  obtain ⟨r₀, hr₀, rfl⟩ := window_eq_some.1 hsize₀
  obtain ⟨r₁, hr₁, rfl⟩ := window_eq_some.1 hsize₁
  obtain ⟨hbefore, hafter, -, hdraws⟩ := hmoments _ m future hlog
  obtain ⟨hleft, -, hhigh⟩ := hdraws _ hdrawn
  refine ⟨log, net, log.take 11, m, future, hrun, hlog, hpast, hlost, ?_, ?_, hdrawn, ?_, hleft, hsettled, ?_⟩
  · rw [hsize₀, hbefore r₀ hr₀, hpast]
    rfl
  · rw [hsize₁, (hafter r₁ hr₁).1, hlost]
    rfl
  · rw [hlost] at hhigh
    exact hhigh
  · rw [hsize, (hwindows r hr).1, hsettled]
    rfl

end CarrierSense.Network
