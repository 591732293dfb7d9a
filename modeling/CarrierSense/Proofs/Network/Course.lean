import CarrierSense.Proofs.Network.Changes
import CarrierSense.Proofs.Network.Hearing
import CarrierSense.Proofs.Radio.Countdown

/-!
# What a moment makes of a radio

Every moment of a run, whether an event or a call, changes the radio of each interface in one of a few ways
(`Radio.Change`): the radio stays as it is, is switched off and on, is given a frame to send, begins to hear
a frame, or finds that a timer of its own has run out. The length of a countdown is read off the random
stream that the moment found.
-/

namespace CarrierSense

/-- An integer that is picked from some is not beyond the last of them. -/
lemma Stream.pick_le {width low high : Nat} {draw : Stream → Nat × Stream} (h : low ≤ high)
    (hword : ∀ s, (draw s).1 < 2 ^ width) (fuel : Nat) (s : Stream) :
    (pick width low (high - low + 1) draw fuel s).1 ≤ high := by
  induction fuel generalizing s with
  | zero => exact h
  | succ fuel ih =>
    unfold pick
    dsimp only
    split
    · -- the high half of the product of a word and the count is less than the count
      have hlt : (draw s).1 * (high - low + 1) / 2 ^ width < high - low + 1 :=
        Nat.div_lt_of_lt_mul (Nat.mul_lt_mul_of_pos_right (hword s) (Nat.succ_pos _))
      rw [Nat.shiftRight_eq_div_pow]
      show low + (draw s).1 * (high - low + 1) / 2 ^ width ≤ high
      omega
    · exact ih _

/-- An integer drawn from a range is not above it. -/
lemma Stream.between32_le (s : Stream) {low high : Nat} (h : low ≤ high) : (s.between32 low high).1 ≤ high :=
  pick_le h (fun s => s.word.1.toNat_lt) _ _

/-- A number that is drawn is at most the greatest one it may be. -/
lemma Stream.between64_le (s : Stream) {low high : Nat} (h : low ≤ high) : (s.between64 low high).1 ≤ high :=
  pick_le h (fun s => s.doubleWord.1.toNat_lt) _ _

namespace Network

variable {net mid net' before : Network} {w : Setting} {i j : InterfaceId} {k : Timer} {r r' : Radio}
  {q : Sequel} {t : Turn} {f : Frame} {m : Moment} {members : List InterfaceId}
  {restarts : Bool} {result : Except NetworkError Unit}

/-- The length of the countdown that is drawn when the timer `k` of the interface `i` runs out. -/
def countdown (net : Network) (i : InterfaceId) (k : Timer) : Option Nat :=
  match net.radio i, net.setting i with
  | .ok radio, .ok w =>
    match Radio.expire w { radio } k with
    | (turn, .contend) => some (net.stream.between32 1 (max turn.radio.window 1)).1
    | _ => none
  | _, _ => none

/-- The length of the countdown that an interface draws in a moment. -/
def Moment.drawn (m : Moment) (i : InterfaceId) : Option Nat :=
  match m.cause with
  | .event (.timer j k) => if j = i then m.before.countdown i k else none
  | _ => none

/-- A countdown is drawn exactly if the turn of the timer calls for one. -/
lemma countdown_eq (hr : net.radio i = .ok r) (hw : net.setting i = .ok w) :
    net.countdown i k = if (Radio.expire w { radio := r } k).2 = .contend then
      some (net.stream.between32 1 (max (Radio.expire w { radio := r } k).1.radio.window 1)).1 else none := by
  simp only [countdown, hr, hw]
  obtain ⟨turn, s⟩ := Radio.expire w { radio := r } k
  cases s <;> simp

/-- A countdown that follows a turn has the length that is drawn from the stream. -/
lemma contend_draws (h : net.Coherent) (ho : net.scheduler.OnTime) (hr : net.radio i = .ok r)
    (hc : net.contend i = .ok (result, net')) :
    ∃ r', net'.radio i = .ok r' ∧
      r'.backoffRemaining = (net.stream.between32 1 (max r.window 1)).1 := by
  simp only [contend, hr, ok_bind] at hc
  generalize net.stream.between32 1 (max r.window 1) = draw at hc
  have h' : Coherent { net with stream := draw.2 } := ⟨h.filed, h.slot, h.kept⟩
  obtain ⟨-, r₀, w, -, hw, hs⟩ := act_settled h' ho
    (Radio.beginCountdown_proper draw.1 (Turn.proper_start _ _)) hc
  obtain rfl := setting_self hw
  obtain ⟨timers, hself⟩ := hs.radio_self
  refine ⟨_, hself, ?_⟩
  unfold Radio.beginCountdown
  dsimp only
  split <;> rfl

/-- A turn that calls for a countdown begins the one that is drawn. -/
lemma expire_draws (h : net.Coherent) (ho : net.scheduler.OnTime) (hr : net.radio i = .ok r)
    (hw : net.setting i = .ok w) (hq : (Radio.expire w { radio := r } k).2 = .contend)
    (he : net.expire i k = .ok (result, net')) :
    ∃ r', net'.radio i = .ok r' ∧ net.countdown i k = some r'.backoffRemaining := by
  obtain ⟨r₀, w₀, hr₀, hw₀, he⟩ := expire_eq_ok he
  cases hr.symm.trans hr₀
  cases hw.symm.trans hw₀
  simp only [hq, follow] at he
  obtain rfl := setting_self hw
  have hproper := Radio.expire_proper (w := w) k (Turn.proper_start w r)
  rw [countdown_eq hr hw, if_pos hq]
  rcases andThen_eq_ok.1 he with ⟨e, hs, -⟩ | ⟨_, mid, hs, hc⟩
  · exact absurd (settle_settled h ho hr (setting_now hw) hproper hs).1 (by simp)
  · obtain ⟨-, hset⟩ := settle_settled h ho hr (setting_now hw) hproper hs
    unfold settle at hs
    have hstream : mid.stream = (net.setRadio w.self _).stream := stream_turnClosed.performAll hs
    obtain ⟨timers, hself⟩ := hset.radio_self
    obtain ⟨r', hr', hn⟩ := contend_draws hset.coherent hset.onTime hself hc
    exact ⟨r', hr', by rw [hn, hstream]; rfl⟩

/-- An interface that a frame does not reach is left alone. -/
lemma Hears.untouched (hh : Hears net f members net') (hi : i ∉ members) :
    net'.radio i = net.radio i ∧ net'.alarms i = net.alarms i := by
  induction hh with
  | nil => exact ⟨rfl, rfl⟩
  | cons _ hw hs _ ih =>
    obtain rfl := setting_self hw
    obtain ⟨hne, hrest⟩ := List.ne_and_not_mem_of_not_mem_cons hi
    obtain ⟨hradio, halarms⟩ := ih hrest
    exact ⟨hradio.trans (hs.radio_other hne), halarms.trans (hs.alarms_other hne)⟩

/-- What the interface `i` is like after a moment that found its radio as `r`, with the alarms `d`. -/
def Changed (net : Network) (restarts : Bool) (i : InterfaceId) (r : Radio) (d : Alarms) (heard : Option Hearing)
    (drawn : Option Nat) (net' : Network) : Prop :=
  ∃ r' timers, net'.radio i = .ok { r' with timers } ∧
    r.Change net.timing net.now restarts d heard drawn r' (net'.alarms i)

/-- An interface whose radio and alarms are as before. -/
lemma Changed.still {d : Alarms} (hr : net'.radio i = .ok r) (ha : net'.alarms i = d) :
    net.Changed restarts i r d none none net' :=
  ⟨r, r.timers, hr, ha ▸ .still⟩

/-- What has changed depends on timing and clock only. -/
lemma Changed.congr {d : Alarms} {heard : Option Hearing} {drawn : Option Nat}
    (h : mid.Changed restarts i r d heard drawn net') (ht : mid.timing = net.timing) (hn : mid.now = net.now) :
    net.Changed restarts i r d heard drawn net' := by
  obtain ⟨r', timers, hr', hchange⟩ := h
  rw [ht, hn] at hchange
  exact ⟨r', timers, hr', hchange⟩

/-- An interface that is missing hears nothing, and stays missing. -/
lemma Hears.missing (hh : Hears net f members net') (hi : ∀ r, net.radio i ≠ .ok r) :
    net'.radio i = net.radio i := by
  induction hh with
  | nil => rfl
  | cons hr hw hs _ ih =>
    obtain rfl := setting_self hw
    have hsame := hs.radio_other fun hself : i = _ => hi _ (by rw [hself, hr])
    exact (ih (hsame ▸ hi)).trans hsame

/-- A frame that reaches different interfaces is heard by those that are not deaf. -/
lemma Hears.changed (hh : Hears net f members net') (hn : net.Sound) (hnd : members.Nodup)
    (hr : net.radio i = .ok r) :
    net.Changed restarts i r (net.alarms i) (net.hearing f members i) none net' := by
  induction hh generalizing r with
  | nil =>
    rw [hearing_of_not_mem List.not_mem_nil]
    exact .still hr rfl
  | @cons net mid net' j s w f rest hs hw hset hrest ih =>
    obtain ⟨hnew, hrestnd⟩ := List.nodup_cons.1 hnd
    have hmid := hn.receive hs hw hset
    have htiming := setting_timing hw
    have hnow := setting_now hw
    obtain rfl := setting_self hw
    by_cases hj : i = w.self
    · -- the first interface hears the frame, if it is not deaf, and nothing else after it
      subst hj
      cases hr.symm.trans hs
      obtain ⟨hradio, halarms⟩ := hrest.untouched hnew
      obtain ⟨timers, hself⟩ := hset.radio_self
      refine ⟨_, timers, hradio.trans hself, ?_⟩
      have hal : net'.alarms w.self = (Radio.receive w f { radio := s }).alarms (net.alarms w.self) :=
        halarms.trans hset.alarms_self
      rw [hearing_of_radio hr, hal]
      cases hd : s.isDeaf with
      | true =>
        rw [Radio.receive_deaf hd, if_neg (by simp)]
        exact .still
      | false =>
        simpa using Radio.Change.heard w ⟨f, net.now + f.airtime, s⟩ htiming hnow hd
          (hn.coherent.slot_isSome hr .backoff)
    · have hr' : mid.radio i = .ok r := (hset.radio_other hj).trans hr
      have hheard : mid.hearing f rest i = net.hearing f (w.self :: rest) i :=
        hearing_congr (hset.radio_other hj) hset.now (by simp [hj])
      have hchanged := ih hmid hrestnd hr'
      rw [hheard, hset.alarms_other hj] at hchanged
      exact hchanged.congr hset.timing hset.now

/-- What becomes of the interface `i`: its radio changes, or it is missing and stays so. -/
def Alters (net : Network) (restarts : Bool) (i : InterfaceId) (heard : Option Hearing) (net' : Network) : Prop :=
  (∃ r, net.radio i = .ok r ∧ net.Changed restarts i r (net.alarms i) heard none net') ∨
    (∀ r, net.radio i ≠ .ok r) ∧ net'.radio i = net.radio i

/-- What leaves radio and alarms of an interface alone alters nothing there. -/
lemma Alters.of_same (hr : net'.radio i = net.radio i) (ha : net'.alarms i = net.alarms i) :
    net.Alters restarts i none net' := by
  cases hi : net.radio i with
  | ok r => exact .inl ⟨r, hi, .still (hr.trans hi) ha⟩
  | error e => exact .inr ⟨by simp [hi], hr⟩

/-- A frame that reaches the members of a medium alters an interface by what it begins to hear. -/
lemma Hears.alters (hh : Hears net f members net') (hn : net.Sound) (hnd : members.Nodup) (i : InterfaceId) :
    net.Alters restarts i (net.hearing f members i) net' := by
  cases hi : net.radio i with
  | ok r => exact .inl ⟨r, hi, hh.changed hn hnd hi⟩
  | error e =>
    have hmissing : ∀ r, net.radio i ≠ .ok r := by simp [hi]
    exact .inr ⟨hmissing, hh.missing hmissing⟩

/-- A frame that joins a queue may start an attempt at its interface. -/
lemma Queued.alters (hq : net.Queued j f net') (i : InterfaceId) : net.Alters restarts i none net' := by
  obtain ⟨r, w, hr, hw, hs⟩ := hq
  have htiming := setting_timing hw
  have hnow := setting_now hw
  obtain rfl := setting_self hw
  by_cases hj : i = w.self
  · subst hj
    obtain ⟨timers, hself⟩ := hs.radio_self
    have hal : net'.alarms w.self = (Radio.enqueue w f r).alarms (net.alarms w.self) := hs.alarms_self
    exact .inl ⟨r, hr, _, timers, hself, hal ▸ .queued w f htiming hnow⟩
  · exact .of_same (hs.radio_other hj) (hs.alarms_other hj)

/-- A frame that is sent alters radios by nothing that is heard. -/
lemma send_alters (hn : net.Sound) (hs : net.send j f = .ok (result, net')) (i : InterfaceId) :
    net.Alters restarts i none net' := by
  rcases send_queued hn.coherent hn.onTime hs with ⟨-, rfl⟩ | ⟨-, -, next, hq⟩
  · exact .of_same rfl rfl
  · exact hq.alters i

/-- What leaves radios and clock alone may follow an alteration. -/
lemma Alters.aside {heard : Option Hearing} (h : net.Alters restarts i heard mid) (ha : mid.Aside net') :
    net.Alters restarts i heard net' := by
  rcases h with ⟨r, hr, r', timers, hr', hchange⟩ | ⟨hmissing, hr⟩
  · refine .inl ⟨r, hr, r', timers, by rw [ha.radio, hr'], ?_⟩
    rw [ha.alarms]
    exact hchange
  · exact .inr ⟨hmissing, by rw [ha.radio, hr]⟩

/-- A frame that is produced alters radios by nothing that is heard. -/
lemma produce_alters {n : NodeId} (hn : net.Sound) (hp : net.produce n = .ok (result, net'))
    (i : InterfaceId) : net.Alters restarts i none net' := by
  rcases produce_cases hn.coherent hn.onTime hp with ⟨ha, -, -⟩ | ⟨-, j, f, next, hmade⟩
  · exact (Alters.of_same rfl rfl).aside ha
  · obtain ⟨mid, hq, ha, -⟩ := hmade.queued
    exact (hq.alters i).aside ha

/-- What the moment `m`, before which the network was `net`, makes of the interface `i`. A new interface
comes with a radio that is switched on. -/
inductive Moment.Acts (net : Network) (m : Moment) (i : InterfaceId) : Prop where
  | changed {r : Radio} {timers : Timers} (found : net.radio i = .ok { r with timers })
      (before : m.before.radio i = .ok r) (sound : r.Sound (net.alarms i))
      (change : net.Changed m.restarts i r (net.alarms i) (m.hearing i) (m.drawn i) m.after)
  | missing (found : ∀ r, net.radio i ≠ .ok r) (before : ∀ r, m.before.radio i ≠ .ok r)
      (new : ∀ r, m.after.radio i = .ok r → r = Radio.powerOn net.timing)

/-- A moment that finds all radios as they were. -/
lemma Alters.acts (h : m.before.Alters m.restarts i (m.hearing i) m.after) (hn : net.Sound)
    (hradio : m.before.radio = net.radio) (halarms : m.before.alarms = net.alarms)
    (htiming : m.before.timing = net.timing) (hnow : m.before.now = net.now) (hdrawn : m.drawn i = none) :
    m.Acts net i := by
  rcases h with ⟨r, hr, hchanged⟩ | ⟨hmissing, hsame⟩
  · have hr' : net.radio i = .ok { r with timers := r.timers } := hradio ▸ hr
    rw [halarms] at hchanged
    exact .changed hr' hr (hn.radio hr') (hdrawn ▸ hchanged.congr htiming hnow)
  · refine .missing (hradio ▸ hmissing) hmissing fun r hr => ?_
    rw [hsame] at hr
    exact absurd hr (hmissing r)

/-- A radio that is deaf is left alone by frames. -/
lemma Hears.deaf (hh : Hears net f members net') (hr : net.radio i = .ok r) (hd : r.isDeaf = true) :
    (∃ timers, net'.radio i = .ok { r with timers }) ∧ net'.alarms i = net.alarms i := by
  induction hh generalizing r with
  | nil => exact ⟨⟨r.timers, hr⟩, rfl⟩
  | @cons net mid net' j s w f rest hs hw hset _ ih =>
    obtain rfl := setting_self hw
    by_cases hj : i = w.self
    · subst hj
      cases hr.symm.trans hs
      rw [Radio.receive_deaf hd] at hset
      obtain ⟨timers, hself⟩ := hset.radio_self
      obtain ⟨htimers, hal⟩ := ih (r := { s with timers }) hself hd
      exact ⟨htimers, hal.trans hset.alarms_self⟩
    · obtain ⟨htimers, hal⟩ := ih ((hset.radio_other hj).trans hr) hd
      exact ⟨htimers, hal.trans (hset.alarms_other hj)⟩

namespace Fired

variable (hF : Fired net before i k r w q t mid)
include hF

/-- Nothing is heard if nothing goes on the air. -/
lemma hearing_silent (hq : ∀ f, q ≠ .transmit f) (hm : m.cause = .event (.timer i k)) (hb : m.before = before)
    (j : InterfaceId) : m.hearing j = none := by
  have hnone : before.transmission i k = none := by
    refine Option.eq_none_iff_forall_ne_some.2 fun f hf => ?_
    exact hq f (hF.transmits_iff.1 (transmission_eq_some.1 hf))
  rw [Moment.hearing_timer hm, hb, hnone]
  rfl

/-- The interface whose timer has run out is as its turn has left it. -/
lemma self_after (hnext : before.Follows i q mid net') :
    (∃ timers, net'.radio i = .ok { t.radio with timers }) ∧
      net'.alarms i = t.alarms ((net.alarms i).set k none) := by
  have hself := hF.self
  subst hself
  obtain ⟨timers, hr⟩ := hF.settled.radio_self
  have hal : mid.alarms w.self = t.alarms ((net.alarms w.self).set k none) := hF.settled.alarms_self
  cases hnext with
  | silent _ heq =>
    rw [heq]
    exact ⟨⟨timers, hr⟩, hal⟩
  | transmit hq _ hh =>
    -- a radio that sends is deaf
    subst hq
    obtain ⟨r', hr', hd⟩ := hF.deaf
    cases hr.symm.trans hr'
    obtain ⟨⟨timers', hr''⟩, hal'⟩ := hh.deaf hr' hd
    exact ⟨⟨timers', hr''⟩, hal'.trans hal⟩

/-- What the interface does whose timer has run out. -/
lemma acts_self (hnext : before.Follows i q mid net') (hc : before.Coherent) (ho : before.scheduler.OnTime)
    (he : before.expire i k = .ok (result, net')) :
    Moment.Acts net ⟨before, .event (.timer i k), net'⟩ i := by
  obtain ⟨timers, htwin⟩ := hF.twin
  obtain ⟨⟨timers', hr'⟩, hal⟩ := hF.self_after hnext
  have hheard : Moment.hearing ⟨before, .event (.timer i k), net'⟩ i = none := by
    rw [Moment.hearing_timer rfl]
    cases before.transmission i k with
    | none => rfl
    | some f => exact hearing_of_not_mem (by simp)
  have hdrawn : Moment.drawn ⟨before, .event (.timer i k), net'⟩ i = before.countdown i k := by
    simp [Moment.drawn]
  refine .changed htwin hF.radio hF.sound ?_
  rw [hheard, hdrawn]
  by_cases hq : q = .contend
  · have hs : (Radio.expire w { radio := r } k).2 = .contend := hF.sequel ▸ hq
    obtain ⟨r'', hr'', hcount⟩ := expire_draws hc ho hF.radio hF.setting hs he
    have hends := hF.ends
    rw [show Radio.expire w { radio := r } k = ((Radio.expire w { radio := r } k).1, .contend) by rw [← hs]]
      at hends
    obtain ⟨n, hlow, ht⟩ := hends.of_contend
    cases hr'.symm.trans hr''
    have hn : t.radio.backoffRemaining = n := by
      rw [ht]
      unfold Radio.beginCountdown
      dsimp only
      split <;> rfl
    have hcount : before.countdown i k = some n := hcount.trans (congrArg some hn)
    have hhigh : n ≤ max (Radio.expire w { radio := r } k).1.radio.window 1 := by
      rw [countdown_eq hF.radio hF.setting, if_pos hs] at hcount
      rw [← Option.some.inj hcount]
      exact Stream.between32_le _ (Nat.le_max_right _ _)
    rw [hcount]
    refine ⟨t.radio, timers', hr', ?_⟩
    rw [hal, ht]
    exact .drew w k n hF.timing hF.now hF.due hs hlow hhigh
  · have hs : (Radio.expire w { radio := r } k).2 ≠ .contend := hF.sequel ▸ hq
    have ht := hF.ends.eq_of_rest hs
    rw [countdown_eq hF.radio hF.setting, if_neg hs]
    refine ⟨t.radio, timers', hr', ?_⟩
    rw [hal, ht]
    exact .expired w k hF.timing hF.now hF.due hs

/-- What another interface does when a timer has run out: it may hear a frame. -/
lemma acts_other (hnext : before.Follows i q mid net') (hn : net.Sound) (hnd : before.topology.Distinct)
    (hj : j ≠ i) : Moment.Acts net ⟨before, .event (.timer i k), net'⟩ j := by
  have hself := hF.self
  subst hself
  have hradio : mid.radio j = net.radio j := hF.settled.radio_other hj
  have halarms : mid.alarms j = net.alarms j := hF.settled.alarms_other hj
  have hdrawn : Moment.drawn ⟨before, .event (.timer w.self k), net'⟩ j = none := by
    simp [Moment.drawn, Ne.symm hj]
  have halters : mid.Alters false j (Moment.hearing ⟨before, .event (.timer w.self k), net'⟩ j) net' := by
    cases hnext with
    | silent hq heq =>
      rw [hF.hearing_silent hq rfl rfl, heq]
      exact .of_same rfl rfl
    | @transmit f medium hq hmedium hh =>
      subst hq
      have htrans : before.transmission w.self k = some f :=
        transmission_eq_some.2 (hF.transmits_iff.2 rfl)
      rw [Moment.hearing_timer rfl, htrans, Option.bind_some, ← hF.hearing_mid hmedium]
      exact hh.alters hF.after (hnd.mediumOf hmedium) j
  rcases halters with ⟨s, hs, hchanged⟩ | ⟨hmissing, hsame⟩
  · have hs' : net.radio j = .ok { s with timers := s.timers } := hradio ▸ hs
    rw [halarms] at hchanged
    refine .changed hs' ((hF.rest j hj).trans hs') (hn.radio hs') ?_
    rw [hdrawn]
    exact hchanged.congr hF.settled.timing hF.settled.now
  · have hmissing' : ∀ r, net.radio j ≠ .ok r := hradio ▸ hmissing
    refine .missing hmissing' (by rw [hF.rest j hj]; exact hmissing') fun s hs => ?_
    rw [hsame] at hs
    exact absurd hs (hmissing s)

end Fired

/-- Whatever event fires, each interface does one of the things it can do. -/
theorem Sound.acts_fires (hn : net.Sound) (hnd : net.topology.Distinct) (hf : net.Fires m result)
    (i : InterfaceId) : m.Acts net i := by
  have hdistinct : m.before.topology.Distinct := (hn.fires_sameShape hf).1.topology ▸ hnd
  obtain ⟨before, cause, after⟩ := m
  obtain ⟨id, e, scheduler, hp, hc, rfl, hfire⟩ := hf
  have hother : (∀ i k, e ≠ .timer i k) → before.Alters false i none after →
      Moment.Acts net ⟨before, .event e, after⟩ i := by
    intro he halters
    obtain ⟨hmid, -, -, hnow, hal, -, -⟩ := Network.pop_other hn.coherent hn.onTime hp hc he
    have hnone : Moment.hearing ⟨before, .event e, after⟩ i = none ∧
        Moment.drawn ⟨before, .event e, after⟩ i = none := by
      cases e with
      | timer i k => exact absurd rfl (he i k)
      | _ => exact ⟨rfl, rfl⟩
    refine Alters.acts (by rw [hnone.1]; exact halters) hn ?_ hal ?_ hnow hnone.2
    · rw [hmid]
      rfl
    · rw [hmid]
  cases e with
  | timer j k =>
    obtain ⟨-, r, w, q, t, mid, hF, hnext⟩ := hn.fired hp hc hfire
    obtain ⟨-, hcoh, hon, -⟩ := hn.pop_timer hp hc
    by_cases hj : i = j
    · subst hj
      exact hF.acts_self hnext hcoh hon hfire
    · exact hF.acts_other hnext hn hdistinct hj
  | produce n => exact hother (by simp) (produce_alters (hn.pop_other hp hc (by simp)) hfire i)
  | forward j f => exact hother (by simp) (send_alters (hn.pop_other hp hc (by simp)) hfire i)

/-- Nothing is drawn in a call. -/
lemma Moment.drawn_call {op : Op} (hm : m.cause = .call op) (i : InterfaceId) : m.drawn i = none := by
  simp only [drawn, hm]

/-- A new interface is there with its radio switched on, and the others are as before. -/
lemma addInterface_acts {op : Op} {n : NodeId} {name : String} {radius : Float} (hn : net.Sound)
    (ha : net.addInterface n name radius = .ok (j, net')) (i : InterfaceId)
    (hheard : Moment.hearing ⟨net, .call op, net'⟩ i = none) :
    Moment.Acts net ⟨net, .call op, net'⟩ i := by
  obtain ⟨-, -, -, new, hnew, hself, -, hother, halarms⟩ := addInterface_radio hn.coherent ha
  by_cases hi : i = new
  · subst hi
    refine .missing hnew hnew fun r hr => ?_
    rw [hself] at hr
    cases hr
    rfl
  · refine Alters.acts ?_ hn rfl rfl rfl rfl (Moment.drawn_call rfl i)
    rw [hheard]
    exact .of_same (hother hi) (halarms hi)

/-- At the start of a run each radio is switched off and on. -/
lemma initRun_alters (hi : net.initRun = .ok (result, net')) (i : InterfaceId) :
    net.Alters true i none net' := by
  have haside := (initRun_aside hi).1
  have hal : net'.alarms i = fun _ => none := by rw [haside.alarms, alarms_reset]
  have hafter : net'.radio i = (net.radio i).map fun _ => Radio.powerOn net.timing := by
    rw [haside.radio, radio_reset]
  cases hr : net.radio i with
  | ok r =>
    rw [hr] at hafter
    exact .inl ⟨r, hr, Radio.powerOn net.timing, {}, hafter, hal ▸ .restarted rfl⟩
  | error e =>
    rw [hr] at hafter
    exact .inr ⟨by simp [hr], by rw [hafter, hr]; rfl⟩

/-- Whatever is called, each interface does one of the things it can do. -/
theorem Sound.acts_apply {op : Op} {fuel : Nat} (hn : net.Sound) (hnd : net.topology.Distinct)
    (hop : op.firesEvents = false) (ha : op.apply fuel net = .ok (result, net')) (i : InterfaceId) :
    Moment.Acts net ⟨net, .call op, net'⟩ i := by
  have halters : ∀ {heard : Option Hearing}, Moment.hearing ⟨net, .call op, net'⟩ i = heard →
      net.Alters (Moment.restarts ⟨net, .call op, net'⟩) i heard net' →
        Moment.Acts net ⟨net, .call op, net'⟩ i := by
    intro heard hheard h
    exact Alters.acts (by rw [hheard]; exact h) hn rfl rfl rfl rfl (Moment.drawn_call rfl i)
  by_cases hk : op.keepsBooks = true
  · have haside := Op.apply_aside hk hn.coherent hn.onTime ha
    refine halters ?_ (.of_same (by rw [haside.radio]) (by rw [haside.alarms]))
    cases op <;> first | rfl | cases hk
  cases op with
  | addInterface n name radius =>
    simp only [Op.apply, bind_eq_ok] at ha
    obtain ⟨⟨j, mid⟩, hj, ha⟩ := ha
    cases ha
    exact addInterface_acts hn hj i rfl
  | initRun => exact halters rfl (initRun_alters ha i)
  | produce n => exact halters rfl (produce_alters hn ha i)
  | send j f => exact halters rfl (send_alters hn ha i)
  | receive j f =>
    obtain ⟨-, r, w, hr, hw, hs⟩ := receive_settled hn.coherent hn.onTime ha
    have hh : Hears net f [j] net' := .cons hr hw hs .nil
    exact halters rfl (hh.alters hn (List.pairwise_singleton _ j) i)
  | broadcast j f =>
    obtain ⟨-, medium, hmedium, hh⟩ := broadcast_hears hn.coherent hn.onTime ha
    refine halters ?_ (hh.alters hn (hnd.mediumOf hmedium) i)
    rw [← Topology.listeners_eq hmedium]
    rfl
  | step | runTo | runUntilIdle => cases hop
  | _ => exact absurd rfl hk

/-- What follows a turn does not move the clock. -/
lemma Moved.now {move : Move} (h : net.Moved w move net') : net'.now = net.now := by
  cases h with
  | rest _ hs => exact hs.now
  | contend _ _ hs => exact hs.now
  | transmit _ hs _ hh => exact hh.same.1.trans hs.now

/-- A frame that joins a queue does not move the clock. -/
lemma Queued.now (h : net.Queued i f net') : net'.now = net.now := by
  obtain ⟨r, w, -, -, hs⟩ := h
  exact hs.now

/-- To send a frame does not move the clock. -/
lemma send_now (h : net.Sound) (hs : net.send i f = .ok (result, net')) : net'.now = net.now := by
  rcases send_queued h.coherent h.onTime hs with ⟨-, rfl⟩ | ⟨-, -, next, hq⟩
  · rfl
  · exact hq.now

/-- To produce a frame does not move the clock. -/
lemma produce_now {n : NodeId} (h : net.Sound) (hp : net.produce n = .ok (result, net')) :
    net'.now = net.now := by
  rcases produce_cases h.coherent h.onTime hp with ⟨ha, -, -⟩ | ⟨-, j, f, next, hmade⟩
  · exact ha.now
  · obtain ⟨mid, hq, ha, -⟩ := hmade.queued
    exact ha.now.trans hq.now

/-- The clock stands still while an event fires. -/
lemma Sound.fires_now (h : net.Sound) (hf : net.Fires m result) :
    m.before.now = net.now ∧ m.after.now = net.now := by
  obtain ⟨id, e, scheduler, hp, hc, -, hfire⟩ := hf
  cases e with
  | timer j k =>
    obtain ⟨-, hcoh, hon, hnow, -⟩ := h.pop_timer hp hc
    obtain ⟨-, r, w, -, -, hmoved⟩ := expire_moved hcoh hon hfire
    exact ⟨hnow, hmoved.now.trans hnow⟩
  | produce n =>
    obtain ⟨-, -, -, hnow, -⟩ := Network.pop_other h.coherent h.onTime hp hc (by simp)
    exact ⟨hnow, (produce_now (h.pop_other hp hc (by simp)) hfire).trans hnow⟩
  | forward j f =>
    obtain ⟨-, -, -, hnow, -⟩ := Network.pop_other h.coherent h.onTime hp hc (by simp)
    exact ⟨hnow, (send_now (h.pop_other hp hc (by simp)) hfire).trans hnow⟩

/-- Only the start of a run sets the clock back. -/
lemma Sound.apply_now {op : Op} {fuel : Nat} (h : net.Sound) (hop : op.firesEvents = false)
    (hrestarts : Moment.restarts ⟨net, .call op, net'⟩ = false)
    (ha : op.apply fuel net = .ok (result, net')) : net'.now = net.now := by
  by_cases hk : op.keepsBooks = true
  · exact (Op.apply_aside hk h.coherent h.onTime ha).now
  cases op with
  | addInterface n name radius =>
    simp only [Op.apply, bind_eq_ok] at ha
    obtain ⟨⟨j, mid⟩, hj, ha⟩ := ha
    cases ha
    obtain ⟨-, hs, -⟩ := addInterface_radio h.coherent hj
    exact congrArg Scheduler.now hs
  | initRun => cases hrestarts
  | produce n => exact produce_now h ha
  | send j f => exact send_now h ha
  | receive j f =>
    obtain ⟨-, r, w, -, -, hs⟩ := receive_settled h.coherent h.onTime ha
    exact hs.now
  | broadcast j f =>
    obtain ⟨-, medium, -, hh⟩ := broadcast_hears h.coherent h.onTime ha
    exact hh.same.1
  | step | runTo | runUntilIdle => cases hop
  | _ => exact absurd rfl hk

/-- The moment `m` comes to pass in the sound network `net`. -/
structure Happens (net : Network) (m : Moment) : Prop where
  found : net.Sound
  left : m.after.Sound
  timing : m.after.timing = net.timing
  now : m.before.now = net.now
  goesOn : m.restarts = false → m.after.now = net.now
  due : ∀ {i k}, m.cause = .event (.timer i k) → net.alarms i k = some net.now
  acts : ∀ i, m.Acts net i

/-- Whatever event fires, the moment comes to pass as the machine says. -/
lemma Sound.happens_fires (h : net.Sound) (hnd : net.topology.Distinct) (hf : net.Fires m result) :
    Happens net m := by
  obtain ⟨hnow, hafter⟩ := h.fires_now hf
  refine ⟨h, h.fires hf, (h.fires_timing hf).2, hnow, fun _ => hafter, fun {i k} hm => ?_,
    h.acts_fires hnd hf⟩
  obtain ⟨id, e, scheduler, hp, hc, hcause, -⟩ := hf
  cases hm.symm.trans hcause
  exact (h.pop_timer hp hc).1

/-- Whatever is called that fires no events, the moment comes to pass as the machine says. -/
lemma Sound.happens_apply {op : Op} {fuel : Nat} (h : net.Sound) (hnd : net.topology.Distinct)
    (hop : op.firesEvents = false) (ha : op.apply fuel net = .ok (result, net')) :
    Happens net ⟨net, .call op, net'⟩ :=
  ⟨h, h.apply hop ha, h.apply_timing hop ha, rfl, fun hrestarts => h.apply_now hop hrestarts ha,
    fun hm => (by cases hm), h.acts_apply hnd hop ha⟩

/-- No timer of a sound network is late. -/
lemma Sound.due (h : net.Sound) {time : Nat} (ha : net.alarms i k = some time) : net.now ≤ time := by
  obtain ⟨n, hp⟩ := h.coherent.alarms_eq_some.1 ha
  exact h.onTime.now_le_due hp

/-- What holds at the start, and is preserved whenever the clock moves or something happens, holds after
every run. -/
theorem Run.course {P : List Moment → Network → Prop} {allowed : Op → Except NetworkError Unit → Prop}
    {timing : Timing} {seed : UInt64} {laws : List Law} {log : List Moment}
    (clock : ∀ {log net time}, P log net → net.Sound → net.Awaits time →
      P log { net with scheduler := net.scheduler.advanceTo time })
    (moment : ∀ {log net m}, P log net → net.timing = timing → Happens net m → P (log ++ [m]) m.after)
    (start : P [] (Network.new timing seed laws)) (hrun : Run allowed (Network.new timing seed laws) log net) :
    net.Sound ∧ P log net := by
  have hclosed : Closed (fun log net => (net.Sound ∧ net.topology.Distinct ∧ net.timing = timing) ∧ P log net)
      fun _ => True := by
    refine ⟨fun {log net time} h ha => ?_, fun {log net m result} h hf _ => ?_⟩
    · obtain ⟨⟨hn, hnd, ht⟩, hP⟩ := h
      exact ⟨⟨hn.advanceTo ha, hnd, ht⟩, clock hP hn ha⟩
    · obtain ⟨⟨hn, hnd, ht⟩, hP⟩ := h
      have hm := hn.happens_fires hnd hf
      obtain ⟨hpop, hfire⟩ := hn.fires_sameShape hf
      exact ⟨⟨hm.left, (hpop.trans hfire).topology ▸ hnd, hm.timing.trans ht⟩, moment hP ht hm⟩
  have hrun' := hclosed.run (fun {log net op fuel result net'} h hop _ ha => by
      obtain ⟨⟨hn, hnd, ht⟩, hP⟩ := h
      have hm := hn.happens_apply hnd hop ha
      exact ⟨⟨hm.left, apply_distinct hnd hn hop ha, hm.timing.trans ht⟩, moment hP ht hm⟩)
    (fun _ _ => trivial) ⟨⟨new_sound timing seed laws, new_distinct timing seed laws, rfl⟩, start⟩ hrun
  exact ⟨hrun'.1.1, hrun'.2⟩

end Network

end CarrierSense
