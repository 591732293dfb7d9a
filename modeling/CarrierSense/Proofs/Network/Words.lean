import CarrierSense.Proofs.Network.Books
import CarrierSense.Proofs.Network.Confined

/-!
# Runs within machine words

Times and counts are words of 64 bits. In a run whose limit lies a horizon before the last tick no sum leaves them:
times do not, as the networks of the run are confined, and the counts of nodes and radios do not, as the counters of
the network count the same things (`Tallied`). Nor is any handle looked up in vain. Such a run halts for one reason
only, which is that its fuel has run out.
-/

namespace CarrierSense

/-- One of several counters is at most their sum. -/
lemma Counters.get_le_sum (counters : Counters) (c : Counter) :
    counters.get c ≤ (Counter.all.map counters.get).sum :=
  List.le_sum_of_mem (List.mem_map_of_mem (by cases c <;> simp [Counter.all]))

namespace Network

variable {net mid net' start : Network} {m : Moment} {log : List Moment} {fuel steps time : Nat}
  {goesOn : Nat → Bool} {P : Network → Prop} {result : Except NetworkError Unit}

/-- What nodes have consumed was counted as delivered, and what radios have lost was counted as collisions. -/
def Tallied (net : Network) : Prop :=
  net.counters.delivered = net.totalConsumed ∧ net.counters.collisions = net.totalCorrupted

/-- Two laws of the books say what is tallied. -/
lemma tallied_iff :
    net.Tallied ↔ net.books Valuation.deliveries = 0 ∧ net.books Valuation.losses = 0 := by
  have hconsumed := net.worth_eq_totals Valuation.deliveries
  have hlost := net.worth_eq_totals Valuation.losses
  simp [worth, Valuation.deliveries] at hconsumed
  simp [worth, Valuation.losses] at hlost
  unfold Tallied Valuation.deliveries Valuation.losses
  omega

/-- No event makes a difference to this, nor does taking it out. -/
lemma Sound.tallied (h : net.Sound) (hb : net.Tallied) (hf : net.Fires m result) :
    m.before.Tallied ∧ m.after.Tallied := by
  obtain ⟨hconsumed, hlost⟩ := tallied_iff.1 hb
  have hconsumed' := h.fires_worth Valuation.neutral_deliveries hf fun _ _ => .inl rfl
  have hlost' := h.fires_worth Valuation.neutral_losses hf fun _ _ => .inl rfl
  obtain ⟨id, e, scheduler, -, hc, -, -⟩ := hf
  constructor
  · rw [tallied_iff, clearTimer_books hc, clearTimer_books hc]
    exact ⟨hconsumed, hlost⟩
  · rw [tallied_iff]
    simp_all [worth, Valuation.deliveries, Valuation.losses, Valuation.acceptance, Valuation.settlement]

/-- Events keep the books tallied. -/
lemma tallied_closed : Closed (fun _ net => net.Sound ∧ net.Tallied) fun _ => True where
  clock := fun h ha => ⟨h.1.advanceTo ha, h.2⟩
  event := fun h hf _ => ⟨h.1.fires hf, (h.1.tallied h.2 hf).2⟩

/-- A run starts with its books tallied. -/
lemma initRun_tallied (hi : net.initRun = .ok (result, net')) : net'.Tallied := by
  have hconsumed := initRun_worth Valuation.deliveries hi
  have hlost := initRun_worth Valuation.losses hi
  rw [tallied_iff]
  simp_all [worth, Valuation.deliveries, Valuation.losses]

/-- Fewer than `2 ^ 64` events have been posted, and fewer have been counted in the run. -/
def FewEvents (net : Network) : Prop :=
  net.scheduler.nextNumber ≤ Clock.last ∧ (Counter.all.map net.counters.get).sum ≤ Clock.last

/-- Whether there have been few events can be decided. -/
instance (net : Network) : Decidable net.FewEvents := inferInstanceAs (Decidable (_ ∧ _))

/-- Times and counts of the network are within 64 bits, and so are the times that it may add up next. Every handle
that is stored in it names something. -/
structure InWords (net : Network) : Prop where
  furnished : net.topology.Furnished
  difs : net.now + net.timing.difs ≤ Clock.last
  ackTimeout : net.now + net.timing.ackTimeout ≤ Clock.last
  countdown : ∀ {i r}, net.radio i = .ok r → net.now + net.timing.difs + r.backoffRemaining ≤ Clock.last
  frames : ∀ {i r f}, net.radio i = .ok r → f ∈ r.frames →
    net.now + f.airtime ≤ Clock.last ∧ (f.isAck = false → net.Knows f.destination)
  pending : ∀ {due e}, net.scheduler.Pending due e → due.time ≤ Clock.last ∧ net.Admits e
  corrupted : ∀ {i r}, net.radio i = .ok r → r.corrupted ≤ Clock.last
  endpoint : ∀ {n x}, net.endpoint n = .ok x → x.consumed ≤ Clock.last ∧ x.produced ≤ Clock.last
  counters : ∀ c, net.counters.get c ≤ Clock.last
  posts : net.scheduler.nextNumber ≤ Clock.last

/-- All counts stay within 64 bits while events are few. -/
lemma Confined.inWords (h : net.Confined) (hb : net.Tallied) (hf : net.FewEvents) : net.InWords := by
  obtain ⟨hposts, hsum⟩ := hf
  have hclock := h.clock
  have hcount : ∀ c, net.counters.get c ≤ Clock.last := fun c => Nat.le_trans (Counters.get_le_sum _ c) hsum
  refine ⟨h.complete.furnished, ?_, ?_, fun hr => ?_, fun hr hf => ?_, fun hp => ?_, fun hr => ?_, fun hx => ?_,
    hcount, hposts⟩
  · have hle := net.timing.countdown_le_horizon
    omega
  · have hle := net.timing.ackTimeout_le_horizon
    omega
  · have hle := net.timing.countdown_le_horizon
    have hremaining := (h.radio hr).remaining
    omega
  · have hframe := (h.radio hr).frames _ hf
    have hairtime := hframe.airtime
    exact ⟨by omega, hframe.target⟩
  · exact ⟨h.onTime.due_le hp, h.admits hp⟩
  · have hmem := List.mem_map_of_mem (f := fun r => r.corrupted) (Array.mem_of_getElem? (radio_eq_ok.1 hr)).val
    refine Nat.le_trans (List.le_sum_of_mem hmem) ?_
    rw [← totalCorrupted, ← hb.2]
    exact hcount .collisions
  · constructor
    · have hmem := List.mem_map_of_mem (f := Endpoint.consumed) (Array.mem_of_getElem? (endpoint_eq_ok.1 hx)).val
      refine Nat.le_trans (List.le_sum_of_mem hmem) ?_
      rw [← totalConsumed, ← hb.1]
      exact hcount .delivered
    · unfold Endpoint.produced
      split
      · rename_i t ht
        exact Nat.le_trans (h.produced hx ht) (h.complete.fed _ _ t hx ht).maxMessages
      · exact Nat.zero_le _

/-- What no event undoes still holds when events have fired one after the other. -/
lemma Firings.keep (h : Firings net log net') (hp : P net)
    (hfires : ∀ {net m}, P net → Fires net m (.ok ()) → P m.after) : P net' := by
  induction h with
  | nil => exact hp
  | cons first _ ih => exact ih (hfires hp first)

/-- What no event undoes holds wherever an event of a tick is found, whether the fuel suffices or not. -/
lemma drainMoments_found (hp : P net) (hfires : ∀ {net m}, P net → Fires net m (.ok ()) → P m.after) :
    ∀ m ∈ drainMoments fuel net, ∃ found result, P found ∧ found.Fires m result := by
  induction fuel generalizing net with
  | zero => exact fun _ hm => absurd hm List.not_mem_nil
  | succ fuel ih =>
    intro m hm
    unfold drainMoments at hm
    split at hm
    · cases hm
    rename_i id e scheduler hpop
    split at hm
    · cases hm
    rename_i before hc
    split at hm
    · cases hm
    · rename_i after hfire
      rw [List.mem_singleton.1 hm]
      exact ⟨net, _, hp, id, e, scheduler, hpop, hc, rfl, hfire⟩
    · rename_i after hfire
      have hfirst : net.Fires ⟨before, .event e, after⟩ (.ok ()) := ⟨id, e, scheduler, hpop, hc, rfl, hfire⟩
      rcases List.mem_cons.1 hm with rfl | hm
      · exact ⟨net, _, hp, hfirst⟩
      · exact ih (hfires hp hfirst) m hm

/-- What neither an event nor a move of the clock undoes holds wherever an event of a run is found. -/
lemma stepWhileMoments_found (hp : P net)
    (hclock : ∀ {net time}, P net → goesOn time = true → Awaits net time →
      P { net with scheduler := net.scheduler.advanceTo time })
    (hfires : ∀ {net m}, P net → Fires net m (.ok ()) → P m.after) :
    ∀ m ∈ stepWhileMoments goesOn fuel steps net, ∃ found result, P found ∧ found.Fires m result := by
  induction steps generalizing net with
  | zero => exact fun _ hm => absurd hm List.not_mem_nil
  | succ steps ih =>
    intro m hm
    unfold stepWhileMoments stepMoments at hm
    cases hnext : net.scheduler.nextTime? with
    | none =>
      simp only [hnext] at hm
      cases hm
    | some time =>
      simp only [hnext] at hm
      split at hm
      · rename_i hgo
        obtain ⟨⟨due, e, hpending, hdue⟩, hmin⟩ := Scheduler.nextTime?_eq_some hnext
        have hmoved := hclock hp hgo ⟨hmin, .inr ⟨due, e, hpending, hdue⟩⟩
        split at hm
        · rename_i after hstep
          rcases List.mem_append.1 hm with hm | hm
          · exact drainMoments_found hmoved hfires m hm
          · -- the step has fired all that was due
            rcases step_eq_ok hstep with ⟨-, he, -⟩ | ⟨_, result, hnext', hd, hres⟩
            · cases he
            cases hnext.symm.trans hnext'
            rcases drain_firings hd with ⟨rfl, hfired, -⟩ | ⟨e, _, _, _, rfl, -⟩
            · exact ih (hfired.keep hmoved hfires) m hm
            · cases hres
        · exact drainMoments_found hmoved hfires m hm
      · cases hm

/-- A run starts in a confined network, if nothing has to be looked up that is not there. -/
lemma initRun_confined (h : net.Complete) (hlast : net.timing.horizon ≤ Clock.last)
    (hi : net.initRun = .ok (result, start)) : start.Confined := by
  have hsame := initRun_keeps.left hi
  obtain ⟨haside, -, -⟩ := initRun_aside hi
  obtain ⟨-, hsupplied⟩ := initRun_supplied hi
  have hcomplete := h.same hsame
  refine ⟨haside.coherent, haside.onTime, hcomplete, ?_, fun hr => ?_, ?_, hsupplied.bounded⟩
  · rw [haside.now, now_reset, hsame.timing, Nat.zero_add]
    exact hlast
  · rw [haside.radio] at hr
    rw [radio_reset_eq hr, hsame.timing]
    exact Radio.powerOn_confined
  · refine List.countP_eq_zero.2 fun ⟨due, e⟩ hmem => ?_
    cases e with
    | timer => exact Bool.false_ne_true
    | produce n =>
      -- productions are posted for sources only, and these are nodes
      have hsome : start.productions n ≠ 0 :=
        Nat.ne_of_gt (List.countP_pos_iff.2 ⟨_, hmem, by simp [Event.produces]⟩)
      rw [hsupplied.pending] at hsome
      obtain ⟨x, hx⟩ := exists_of_hasMore (by simpa using hsome)
      have hadmits : start.Admits (.produce n) := hcomplete.matched.knows hx
      simp [stray, hadmits]
    | forward i f =>
      have hnone : start.scheduler.waiting Event.isForward = 0 := by
        rw [haside.waiting fun _ => rfl, scheduler_reset]
        rfl
      exact absurd rfl (List.countP_eq_zero.1 hnone _ hmem)

/-- A network that a run with the timing `timing` passes through. -/
structure Metered (timing : Timing) (net : Network) : Prop where
  confined : net.Confined
  sound : net.Sound
  tallied : net.Tallied
  timing : net.timing = timing

namespace Metered

variable {timing : Timing}

/-- The clock may move on to a tick that is awaited, as long as a horizon is left behind it. -/
lemma advanceTo (h : Metered timing net) (ha : net.Awaits time) (ht : time + timing.horizon ≤ Clock.last) :
    Metered timing { net with scheduler := net.scheduler.advanceTo time } :=
  ⟨h.confined.advanceTo ha (h.timing ▸ ht), h.sound.advanceTo ha, h.tallied, h.timing⟩

/-- Whatever event fires, all stays metered. -/
lemma fires (h : Metered timing net) (hf : net.Fires m result) : Metered timing m.after :=
  ⟨(h.confined.fires hf).2, h.sound.fires hf, (h.sound.tallied h.tallied hf).2,
    (h.sound.fires_timing hf).2.trans h.timing⟩

/-- Before and after each event of a run up to a limit, times and counts are within words. -/
lemma inWords {limit : Nat} (h : Metered timing net) (hlimit : limit + timing.horizon ≤ Clock.last)
    (hm : m ∈ stepWhileMoments (· ≤ limit) fuel steps net) :
    (m.before.FewEvents → m.before.InWords) ∧ (m.after.FewEvents → m.after.InWords) := by
  have hclock : ∀ {net : Network} {time}, Metered timing net → decide (time ≤ limit) = true → net.Awaits time →
      Metered timing { net with scheduler := net.scheduler.advanceTo time } := by
    intro net time h hgo ha
    have hle := of_decide_eq_true hgo
    exact h.advanceTo ha (by omega)
  obtain ⟨found, result, hfound, hfires⟩ := stepWhileMoments_found h hclock (fun h hf => h.fires hf) m hm
  obtain ⟨hbefore, hafter⟩ := hfound.confined.fires hfires
  obtain ⟨hbefore', hafter'⟩ := hfound.sound.tallied hfound.tallied hfires
  exact ⟨hbefore.inWords hbefore', hafter.inWords hafter'⟩

end Metered

/-- A network was built with valid handles, and its sources can be fed. Then a run starts, and if a horizon after its
limit the clock still has ticks, it halts at most for want of fuel: no time leaves the clock, and no handle is looked up
in vain. However far it comes, as long as fewer than `2 ^ 64` events have been posted and counted, every time and every
count are within 64 bits, before and after each event. -/
theorem Run.within_words {timing : Timing} {seed : UInt64} {laws : List Law}
    (hrun : Run (fun _ _ => True) (Network.new timing seed laws) log net) (hvalid : ∀ m ∈ log, m.Valid)
    (hfed : net.Fed) (limit : UInt64) (hlimit : limit.toNat + timing.horizon ≤ Clock.last) :
    ∃ start, net.initRun = .ok (.ok (), start) ∧ (start.FewEvents → start.InWords) ∧
      ∀ fuel,
        (start.runTo fuel limit.toNat = .error .outOfFuel ∨
          ∃ answer net', start.runTo fuel limit.toNat = .ok (answer, net') ∧ (net'.FewEvents → net'.InWords)) ∧
        ∀ m ∈ (Op.runTo limit).moments fuel start,
          (m.before.FewEvents → m.before.InWords) ∧ (m.after.FewEvents → m.after.InWords) := by
  have htiming : net.timing = timing := hrun.timing (new_sound timing seed laws)
  have hcomplete := hrun.complete hvalid hfed
  obtain ⟨start, hi⟩ := initRun_drawable hfed.drawable
  have hsame := initRun_keeps.left hi
  rw [← htiming, ← hsame.timing] at hlimit
  have hlast : net.timing.horizon ≤ Clock.last := by
    rw [← hsame.timing]
    omega
  have hconf := initRun_confined hcomplete hlast hi
  have htallied := initRun_tallied hi
  have hsound := (reset_sound net).aside (initRun_aside hi).1
  refine ⟨start, hi, hconf.inWords htallied, fun fuel => ⟨?_, fun m hm => ?_⟩⟩
  · have hlands := hconf.runTo fuel hlimit
    cases hr : start.runTo fuel limit.toNat with
    | error halt => exact .inl (congrArg Except.error (hlands.halts hr))
    | ok reply =>
      obtain ⟨-, htallied'⟩ := @Closed.runTo _ _ [] _ _ _ tallied_closed _ _ ⟨hsound, htallied⟩ hr fun _ _ => trivial
      exact .inr ⟨reply.1, reply.2, rfl, (hlands.left hr).inWords htallied'⟩
  · exact Metered.inWords ⟨hconf, hsound, htallied, rfl⟩ hlimit hm

/-- A source sends its one frame to the node that hears it. The run to the tick 1000 comes to its end, and keeps
within words all the time. -/
theorem pair_within_words : ∃ log net start answer left,
    Run (fun _ _ => True) (Network.new {} 7 [.delta 5]) log net ∧ (∀ m ∈ log, m.Valid) ∧ net.Fed ∧
      net.initRun = .ok (.ok (), start) ∧ start.runTo 100 1000 = .ok (.ok answer, left) ∧
      left.counters.delivered = 1 ∧ left.InWords ∧
      ∀ m ∈ (Op.runTo 1000).moments 100 start, m.before.InWords ∧ m.after.InWords := by
  have hend : endsWith (Op.applyAll 100 Op.pair [] (.new {} 7 [.delta 5])) (fun log net =>
      decide (∀ m ∈ log, m.Valid) && (decide net.Fed && endsWith net.initRun fun _ start =>
        decide (∀ m ∈ (Op.runTo 1000).moments 100 start, m.before.FewEvents ∧ m.after.FewEvents) &&
          endsWith (start.runTo 100 1000) fun _ left =>
            left.counters.delivered = 1 && decide left.FewEvents)) = true := by
    decide +kernel
  obtain ⟨log, net, hok, htest⟩ := endsWith_iff.1 hend
  have hrun : Run (fun _ _ => True) (Network.new {} 7 [.delta 5]) log net :=
    .of_applyAll .start hok fun _ _ => trivial
  simp only [Bool.and_eq_true, decide_eq_true_eq] at htest
  obtain ⟨hvalid, hfed, hinit⟩ := htest
  obtain ⟨_, start, hi, hinit⟩ := endsWith_iff.1 hinit
  simp only [Bool.and_eq_true, decide_eq_true_eq] at hinit
  obtain ⟨hfew, hend⟩ := hinit
  obtain ⟨answer, left, hr, hleft⟩ := endsWith_iff.1 hend
  simp only [Bool.and_eq_true, decide_eq_true_eq] at hleft
  obtain ⟨start', hi', -, hwords⟩ := hrun.within_words hvalid hfed 1000 (by decide)
  cases hi.symm.trans hi'
  obtain ⟨hend, hmoments⟩ := hwords 100
  rw [show (1000 : UInt64).toNat = 1000 from rfl] at hend
  have hinWords : left.InWords := by
    rcases hend with hfuel | ⟨answer', left', hr', hinWords⟩
    · cases hfuel.symm.trans hr
    · cases hr.symm.trans hr'
      exact hinWords hleft.2
  exact ⟨log, net, start, answer, left, hrun, hvalid, hfed, hi, hr, hleft.1, hinWords, fun m hm =>
    ⟨(hmoments m hm).1 (hfew m hm).1, (hmoments m hm).2 (hfew m hm).2⟩⟩

end Network

end CarrierSense
