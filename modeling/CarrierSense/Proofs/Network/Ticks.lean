import CarrierSense.Proofs.Network.Course

/-!
# The ticks of a network

A step fires the events of one tick, one after the other, until none is due any more or one of them fails
(`Firings`). As no event moves the clock, and none is late, each of them fires at the very tick for which it
was posted, and what is pending after the step lies behind it. From this follows where the clock stands after
each operation that moves it.
-/

namespace CarrierSense

/-- A value can be drawn from the law, at any place of its sequence and from any stream. -/
def Law.Drawable (law : Law) : Prop := ∀ cursor stream, ∃ out, Variate.draw { law, cursor } stream = .ok out

/-- All laws can be drawn from but a uniform one whose range is not finite. -/
theorem Law.drawable_iff {law : Law} : law.Drawable ↔ ∀ min max, law = .uniform min max →
    max ≤ min ∨ (min.isFinite && max.isFinite && (max - min).isFinite) = true := by
  constructor
  · rintro h min max rfl
    obtain ⟨out, hout⟩ := h 0 (Stream.ofSeed 0)
    obtain ⟨draw, hdraw, -⟩ := bind_eq_ok.1 hout
    unfold Stream.uniform at hdraw
    split at hdraw
    · exact .inl ‹_›
    · split at hdraw
      · exact .inr ‹_›
      · cases hdraw
  · intro h cursor stream
    cases law with
    | uniform min max =>
      unfold Variate.draw Stream.uniform
      rcases h min max rfl with hempty | hfinite
      · simp only [hempty, if_true, ok_bind]
        exact ⟨_, rfl⟩
      · simp only [hfinite, if_true]
        split <;> exact ⟨_, rfl⟩
    | exponential mean => exact ⟨_, rfl⟩
    | sequence values =>
      unfold Variate.draw
      dsimp only
      split <;> exact ⟨_, rfl⟩
    | delta value => exact ⟨_, rfl⟩

/-- A value that is drawn leaves the law of its variate as it is. -/
lemma Variate.draw_law {v v' : Variate} {stream stream' : Stream} {value : Float}
    (hd : v.draw stream = .ok (value, v', stream')) : v'.law = v.law := by
  unfold draw at hd
  split at hd
  · simp only [bind_eq_ok] at hd
    obtain ⟨_, -, hd⟩ := hd
    cases hd
    rfl
  · cases hd
    rfl
  · split at hd <;> cases hd <;> rfl
  · cases hd
    rfl

namespace Network

variable {net mid net' : Network} {m : Moment} {log : List Moment} {fuel steps time limit : Nat}
  {e : NetworkError} {result : Except NetworkError Unit}

/-- The events that come first in the queue fire one after the other, each without an error. -/
inductive Firings : Network → List Moment → Network → Prop where
  | nil {net : Network} : Firings net [] net
  | cons {net net' : Network} {m : Moment} {log : List Moment} (first : net.Fires m (.ok ()))
      (rest : Firings m.after log net') : Firings net (m :: log) net'

/-- Events fire until none is due, or one of them fails. -/
lemma drain_firings (hd : drain fuel net = .ok (result, net')) :
    (result = .ok () ∧ Firings net (drainMoments fuel net) net' ∧ net'.scheduler.popDue = none) ∨
      ∃ e fired cur m, result = .error e ∧ drainMoments fuel net = fired ++ [m] ∧ Firings net fired cur ∧
        cur.Fires m (.error e) ∧ net' = m.after := by
  induction fuel generalizing net with
  | zero => cases hd
  | succ fuel ih =>
    unfold drain at hd
    unfold drainMoments
    cases hpop : net.scheduler.popDue with
    | none =>
      simp only [hpop] at hd
      cases hd
      exact .inl ⟨rfl, .nil, hpop⟩
    | some entry =>
      obtain ⟨⟨id, event⟩, scheduler⟩ := entry
      simp only [hpop, bind_eq_ok] at hd
      obtain ⟨before, hclear, hd⟩ := hd
      simp only [hclear]
      rcases andThen_eq_ok.1 hd with ⟨e, hfire, rfl⟩ | ⟨_, after, hfire, hd⟩
      · simp only [hfire]
        have hfires : net.Fires ⟨before, .event event, net'⟩ (.error e) :=
          ⟨id, event, scheduler, hpop, hclear, rfl, hfire⟩
        exact .inr ⟨e, [], net, _, rfl, rfl, .nil, hfires, rfl⟩
      · simp only [hfire]
        have hfires : net.Fires ⟨before, .event event, after⟩ (.ok ()) :=
          ⟨id, event, scheduler, hpop, hclear, rfl, hfire⟩
        rcases ih hd with ⟨hres, hrest, hnone⟩ | ⟨e, fired, cur, m, hres, hlog, hrest, hfails, hleft⟩
        · exact .inl ⟨hres, .cons hfires hrest, hnone⟩
        · refine .inr ⟨e, _ :: fired, cur, m, hres, ?_, .cons hfires hrest, hfails, hleft⟩
          rw [hlog]
          rfl

/-- A step is refused if nothing waits. Otherwise it moves the clock to the next event and fires what is due. -/
lemma step_eq_ok {answer : Except NetworkError Nat} (hs : net.step fuel = .ok (answer, net')) :
    (net.scheduler.nextTime? = none ∧ answer = .error (.scheduler .noMoreEvents) ∧ net' = net) ∨
      ∃ time result, net.scheduler.nextTime? = some time ∧
        drain fuel { net with scheduler := net.scheduler.advanceTo time } = .ok (result, net') ∧
        answer = result.map fun _ => time := by
  unfold step Scheduler.nextTime at hs
  cases ht : net.scheduler.nextTime? with
  | none =>
    simp only [ht] at hs
    cases hs
    exact .inl ⟨rfl, rfl, rfl⟩
  | some time =>
    simp only [ht] at hs
    apply Or.inr
    rcases andThen_eq_ok.1 hs with ⟨e, hd, rfl⟩ | ⟨_, mid, hd, hs⟩
    · exact ⟨time, .error e, rfl, hd, rfl⟩
    · cases hs
      exact ⟨time, .ok (), rfl, hd, rfl⟩

/-- The moment `m` is the firing of an event that was posted for the tick `time`, and the clock shows it. -/
def Moment.FiredAt (m : Moment) (time : Nat) : Prop :=
  ∃ (found : Network) (id : EventId) (event : Event) (scheduler : Scheduler Event),
    found.scheduler.popDue = some ((id, event), scheduler) ∧
    found.scheduler.Pending ⟨time, id.number⟩ event ∧
    { found with scheduler }.clearTimer id event = .ok m.before ∧ m.cause = .event event ∧
    m.before.now = time

/-- The tick is over: what is pending lies behind it. -/
def Over (net : Network) (time : Nat) : Prop := ∀ due e, net.scheduler.Pending due e → time < due.time

/-- The tick is the first one for which something is pending. -/
def FirstTick (net : Network) (time : Nat) : Prop :=
  (∃ due e, net.scheduler.Pending due e ∧ due.time = time) ∧
    ∀ due e, net.scheduler.Pending due e → time ≤ due.time

/-- An event fires at the tick that the clock shows. -/
lemma Sound.fires_at (h : net.Sound) (hf : net.Fires m result) : m.FiredAt net.now := by
  have hnow := (h.fires_now hf).1
  obtain ⟨id, event, scheduler, hp, hc, hcause, -⟩ := hf
  exact ⟨net, id, event, scheduler, hp, h.onTime.pending_now hp, hc, hcause, hnow⟩

/-- However many events fire, the clock stands still. -/
lemma Firings.stand (hf : Firings net log net') (h : net.Sound) :
    net'.Sound ∧ net'.now = net.now ∧ ∀ m ∈ log, m.FiredAt net.now := by
  induction hf with
  | nil =>
    refine ⟨h, rfl, ?_⟩
    intro m hm
    cases hm
  | cons first rest ih =>
    obtain ⟨hsound, hnow, hfired⟩ := ih (h.fires first)
    have hafter := (h.fires_now first).2
    refine ⟨hsound, hnow.trans hafter, ?_⟩
    rw [List.forall_mem_cons]
    refine ⟨h.fires_at first, ?_⟩
    rw [← hafter]
    exact hfired

/-- The clock moves forward to the next event. -/
lemma Sound.turn_to (h : net.Sound) (ht : net.scheduler.nextTime? = some time) :
    net.FirstTick time ∧ Sound { net with scheduler := net.scheduler.advanceTo time } ∧
      (net.scheduler.advanceTo time).now = time := by
  obtain ⟨⟨due, e, hp, hdue⟩, hmin⟩ := Scheduler.nextTime?_eq_some ht
  have hnow := h.onTime.now_le_due hp
  refine ⟨⟨⟨due, e, hp, hdue⟩, fun _ _ hq => hmin hq⟩, h.advanceTo ⟨hmin, .inr ⟨due, e, hp, hdue⟩⟩, ?_⟩
  rw [Scheduler.now_advanceTo, ← hdue]
  exact Nat.max_eq_right hnow

/-- A step that ends without an error has fired all that was pending for the first tick. -/
lemma Sound.step_ends (h : net.Sound) (hs : net.step fuel = .ok (.ok time, net')) :
    net.FirstTick time ∧ net'.Sound ∧ net'.now = time ∧ net'.Over time ∧
      ∀ m ∈ stepMoments fuel net, m.FiredAt time := by
  rcases step_eq_ok hs with ⟨-, hres, -⟩ | ⟨time', result, ht, hd, hres⟩
  · cases hres
  obtain ⟨hfirst, hsound, hnow⟩ := h.turn_to ht
  rcases drain_firings hd with ⟨rfl, hfired, hnone⟩ | ⟨e, fired, cur, m, rfl, -⟩
  · obtain rfl : time = time' := Except.ok.inj hres
    have hmoments : stepMoments fuel net =
        drainMoments fuel { net with scheduler := net.scheduler.advanceTo time } := by
      simp only [stepMoments, ht]
    obtain ⟨hsound', hnow', hat⟩ := hfired.stand hsound
    have hclock : net'.now = time := hnow'.trans hnow
    refine ⟨hfirst, hsound', hclock, ?_, ?_⟩
    · intro due e hp
      have hlater := Scheduler.popDue_eq_none hnone hp
      exact hclock ▸ hlater
    · rw [hmoments]
      exact fun m hm => hnow ▸ hat m hm
  · cases hres

/-- Steps up to a tick move the clock no further. -/
lemma Sound.stepWhile_ends (h : net.Sound)
    (hs : stepWhile (· ≤ limit) fuel steps net = .ok (.ok (), net')) :
    net'.Sound ∧ net.now ≤ net'.now ∧ net'.now ≤ max net.now limit ∧
      ∀ m ∈ stepWhileMoments (· ≤ limit) fuel steps net, ∃ time ≤ limit, m.FiredAt time := by
  induction steps generalizing net with
  | zero => cases hs
  | succ steps ih =>
    have hidle : ∀ m ∈ ([] : List Moment), ∃ time ≤ limit, m.FiredAt time := by
      intro m hm
      cases hm
    unfold stepWhile at hs
    unfold stepWhileMoments
    cases ht : net.scheduler.nextTime? with
    | none =>
      simp only [ht] at hs
      cases hs
      exact ⟨h, Nat.le_refl _, Nat.le_max_left _ _, hidle⟩
    | some time =>
      simp only [ht] at hs ⊢
      split at hs
      · rename_i hle
        rw [if_pos hle]
        have hle : time ≤ limit := of_decide_eq_true hle
        rcases andThen_eq_ok.1 hs with ⟨e, -, he⟩ | ⟨time', mid, hstep, hs⟩
        · cases he
        obtain ⟨hfirst, hsound, hnow, -, hfired⟩ := h.step_ends hstep
        obtain ⟨hsound', hfrom, hupto, hrest⟩ := ih hsound hs
        -- the step took the clock to the tick that the loop had looked at
        obtain ⟨hnext, -, -⟩ := h.turn_to ht
        obtain ⟨⟨due, e, hp, rfl⟩, hmin⟩ := hfirst
        obtain ⟨⟨due', e', hp', rfl⟩, hmin'⟩ := hnext
        have htime := Nat.le_antisymm (hmin _ _ hp') (hmin' _ _ hp)
        have hpast : net.now ≤ due.time := h.onTime.now_le_due hp
        simp only [hstep]
        refine ⟨hsound', by omega, by omega, ?_⟩
        intro m hm
        rcases List.mem_append.1 hm with hm | hm
        · exact ⟨_, htime ▸ hle, hfired m hm⟩
        · exact hrest m hm
      · rename_i hstop
        cases hs
        rw [if_neg hstop]
        exact ⟨h, Nat.le_refl _, Nat.le_max_left _ _, hidle⟩

/-- A run up to a tick ends there, unless the clock was further on. -/
lemma Sound.runTo_ends (h : net.Sound) (hr : net.runTo fuel limit = .ok (.ok time, net')) :
    time = net'.now ∧ net'.now = max net.now limit ∧ net'.Over limit ∧
      ∀ m ∈ stepWhileMoments (· ≤ limit) fuel fuel net, ∃ time ≤ limit, m.FiredAt time := by
  rcases andThen_eq_ok.1 hr with ⟨e, -, he⟩ | ⟨_, mid, hw, hr⟩
  · cases he
  obtain ⟨-, hfrom, hupto, hfired⟩ := h.stepWhile_ends hw
  cases hr
  have hnow : (mid.scheduler.advanceTo limit).now = max mid.now limit := Scheduler.now_advanceTo _ _
  refine ⟨rfl, hnow.trans (by omega), ?_, hfired⟩
  intro due e hp
  have hp : mid.scheduler.Pending due e := Scheduler.pending_advanceTo.1 hp
  cases ht : mid.scheduler.nextTime? with
  | none => exact absurd hp (Scheduler.nextTime?_eq_none.1 ht due e)
  | some next =>
    have hstop : ¬ next ≤ limit := of_decide_eq_false (stepWhile_stops hw ht)
    have hle := (Scheduler.nextTime?_eq_some ht).2 hp
    omega

/-- The same variates have the same laws; at which value of its sequence each stands is left open. -/
def SameLaws (net net' : Network) : Prop :=
  ∀ v : Nat, net'.variates[v]?.map Variate.law = net.variates[v]?.map Variate.law

/-- To turn a variate back keeps its law. -/
lemma rewind_sameLaws (net : Network) (v : VariateId) : net.SameLaws (net.rewind v) := by
  intro u
  simp only [rewind, Array.getElem?_modify]
  split
  · rw [Option.map_map]
    rfl
  · rfl

/-- To turn back the variates of nodes keeps all laws. -/
lemma rewindAll_sameLaws (endpoints : List Endpoint) (net : Network) :
    net.SameLaws (endpoints.foldl (fun net e => (e.traffic.map net.rewindTraffic).getD net) net) := by
  induction endpoints generalizing net with
  | nil => exact fun _ => rfl
  | cons x rest ih =>
    have hfirst : net.SameLaws ((x.traffic.map net.rewindTraffic).getD net) := by
      cases x.traffic with
      | none => exact fun _ => rfl
      | some traffic =>
        simp only [Option.map_some, Option.getD_some, rewindTraffic]
        split
        · intro v
          rw [rewind_sameLaws _ _ v, rewind_sameLaws _ _ v]
        · exact rewind_sameLaws _ _
    intro v
    rw [List.foldl_cons, ih _ v, hfirst v]

/-- A reset keeps all laws. -/
lemma reset_sameLaws (net : Network) : net.SameLaws net.reset :=
  fun v => (rewindAll_sameLaws net.endpoints.toList net v :)

/-- The first delay of every source can be drawn. -/
def Drawable (net : Network) : Prop :=
  ∀ n x traffic, net.endpoint n = .ok x → x.traffic = some traffic →
    ∃ law, net.variates[traffic.arrival.index]?.map Variate.law = some law ∧ law.Drawable

/-- With the same laws, the same first delays can be drawn. -/
lemma Drawable.same (h : net.Drawable) (hv : net.SameLaws net') (he : net'.endpoint = net.endpoint) :
    net'.Drawable := by
  intro n x traffic hx ht
  rw [hv]
  exact h n x traffic (he ▸ hx) ht

/-- After a reset the first delays can still be drawn. -/
lemma Drawable.reset (h : net.Drawable) : net.reset.Drawable := by
  intro n x traffic hx ht
  rw [endpoint_reset] at hx
  cases hold : net.endpoint n with
  | error halt =>
    rw [hold] at hx
    cases hx
  | ok old =>
    rw [hold] at hx
    cases hx
    obtain ⟨first, hfirst, rfl⟩ := Option.map_eq_some_iff.1 ht
    rw [reset_sameLaws]
    exact h n old first hold hfirst

/-- A delay can be drawn from a variate with such a law. -/
lemma drawDelay_total {v : VariateId} {law : Law} (hv : net.variates[v.index]?.map Variate.law = some law)
    (hl : law.Drawable) : ∃ delay mid, net.drawDelay v = .ok (delay, mid) := by
  obtain ⟨variate, hvariate, rfl⟩ := Option.map_eq_some_iff.1 hv
  obtain ⟨⟨value, moved, stream⟩, hdraw⟩ := hl variate.cursor net.stream
  have hdraw : variate.draw net.stream = .ok (value, moved, stream) := hdraw
  simp only [drawDelay, hvariate, hdraw, ok_bind, pure_eq_ok]
  exact ⟨_, _, rfl⟩

/-- To draw a delay keeps all laws. -/
lemma drawDelay_sameLaws {v : VariateId} {delay : Nat} (hd : net.drawDelay v = .ok (delay, mid)) :
    net.SameLaws mid := by
  unfold drawDelay at hd
  split at hd
  · cases hd
  · rename_i variate hvariate
    simp only [bind_eq_ok] at hd
    obtain ⟨⟨value, moved, stream⟩, hdraw, hd⟩ := hd
    cases hd
    have hlaw : moved.law = variate.law := Variate.draw_law hdraw
    have hsize : v.index < net.variates.size := (Array.getElem?_eq_some_iff.1 hvariate).1
    intro u
    show (net.variates.setIfInBounds v.index moved)[u]?.map Variate.law = _
    rw [Array.getElem?_setIfInBounds]
    split
    · rename_i hu
      subst hu
      rw [hvariate, Option.map_some, Option.map_some, hlaw]
    · rfl

/-- At the start of a run a first production is never refused: the clock is at zero. -/
lemma start_ends {n : NodeId} (h : net.Coherent) (ho : net.scheduler.OnTime) (hnow : net.now = 0)
    (hs : net.start n = .ok (result, net')) : result = .ok () ∧ net.SameLaws net' := by
  obtain ⟨x, -, ⟨rfl, hres, -⟩ | ⟨traffic, delay, mid, -, -, hd, hs⟩⟩ := start_eq_ok hs
  · exact ⟨hres, fun _ => rfl⟩
  obtain ⟨hlast, ha, -, -⟩ := drawDelay_aside h ho hd
  obtain ⟨hres, -, -, -⟩ := post_production ha.coherent ha.onTime hlast hs
  have hzero : mid.now = 0 := ha.now.trans hnow
  refine ⟨hres (hzero ▸ Nat.zero_le _), ?_⟩
  have hlaws := drawDelay_sameLaws hd
  unfold withPost at hs
  split at hs <;> cases hs <;> exact hlaws

/-- A node whose first delay can be drawn is started. -/
lemma start_drawable {n : NodeId} {x : Endpoint} (hn : net.endpoint n = .ok x) (hs : net.Drawable) :
    ∃ result mid, net.start n = .ok (result, mid) := by
  simp only [start, hn, ok_bind]
  cases ht : x.traffic with
  | none => exact ⟨_, _, rfl⟩
  | some traffic =>
    dsimp only
    split
    · exact ⟨_, _, rfl⟩
    · obtain ⟨law, hv, hl⟩ := hs n x traffic hn ht
      obtain ⟨delay, mid, hd⟩ := drawDelay_total hv hl
      rw [hd, ok_bind]
      unfold withPost
      split <;> exact ⟨_, _, rfl⟩

/-- From the first tick on, all nodes are started without an error. -/
lemma startAll_ends {nodes : List NodeId} (h : net.Coherent) (ho : net.scheduler.OnTime) (hnow : net.now = 0)
    (hs : net.startAll nodes = .ok (result, net')) : result = .ok () := by
  induction nodes generalizing net with
  | nil =>
    cases hs
    rfl
  | cons n rest ih =>
    rcases andThen_eq_ok.1 hs with ⟨e, hn, -⟩ | ⟨_, mid, hn, hs⟩
    · cases (start_ends h ho hnow hn).1
    · obtain ⟨ha, -, -⟩ := start_aside h ho hn
      exact ih ha.coherent ha.onTime (ha.now.trans hnow) hs

/-- All nodes are started if their first delays can be drawn. -/
lemma startAll_drawable {nodes : List NodeId} (h : net.Coherent) (ho : net.scheduler.OnTime)
    (hnow : net.now = 0) (hs : net.Drawable) (hn : ∀ n ∈ nodes, ∃ x, net.endpoint n = .ok x) :
    ∃ net', net.startAll nodes = .ok (.ok (), net') := by
  induction nodes generalizing net with
  | nil => exact ⟨net, rfl⟩
  | cons n rest ih =>
    obtain ⟨hfirst, hrest⟩ := List.forall_mem_cons.1 hn
    obtain ⟨x, hx⟩ := hfirst
    obtain ⟨result, mid, hstart⟩ := start_drawable hx hs
    obtain ⟨rfl, hlaws⟩ := start_ends h ho hnow hstart
    obtain ⟨ha, -, hend⟩ := start_aside h ho hstart
    have hlater : ∀ n ∈ rest, ∃ x, mid.endpoint n = .ok x := by
      intro m hm
      rw [hend]
      exact hrest m hm
    obtain ⟨net', hall⟩ := ih ha.coherent ha.onTime (ha.now.trans hnow) (hs.same hlaws hend) hlater
    refine ⟨net', ?_⟩
    rw [startAll, hstart]
    exact hall

/-- A reset puts the clock back to the first tick. -/
lemma now_reset (net : Network) : net.reset.now = 0 := by
  rw [now, scheduler_reset]
  rfl

/-- A run starts without an error. -/
lemma initRun_ends (hi : net.initRun = .ok (result, net')) : result = .ok () :=
  startAll_ends (coherent_reset net) (onTime_reset net) (now_reset net) hi

/-- A run starts if the first delays can be drawn. -/
lemma initRun_drawable (h : net.Drawable) : ∃ net', net.initRun = .ok (.ok (), net') := by
  refine startAll_drawable (coherent_reset net) (onTime_reset net) (now_reset net) h.reset ?_
  intro n hn
  obtain ⟨k, hk, rfl⟩ := List.mem_map.1 hn
  have hlt : k < net.endpoints.size := List.mem_range.1 hk
  refine ⟨net.endpoints[k].reset, ?_⟩
  rw [endpoint_reset]
  simp only [endpoint, Array.getElem?_eq_getElem hlt]
  rfl

/-- Whatever was called before, and whether it ended with an error or not, no event is behind the clock. A step that
ends with an answer fires all that waits for the first tick, names this tick and leaves the clock there. A run up to a
limit leaves it at the limit, unless it was further on, and everything that fires in it was posted for a tick up to the
limit and fires at this tick. A new run starts without an error, and does start if the first delays can be drawn. -/
theorem Reachable.clock_discipline (h : net.Reachable) :
    (∀ due e, net.scheduler.Pending due e → net.now ≤ due.time) ∧
      (∀ fuel time net', net.step fuel = .ok (.ok time, net') →
        net.FirstTick time ∧ net'.now = time ∧ net'.Over time) ∧
      (∀ fuel time net', ∀ limit : UInt64, net.runTo fuel limit.toNat = .ok (.ok time, net') →
        time = net'.now ∧ net'.now = max net.now limit.toNat ∧ net'.Over limit.toNat ∧
          ∀ m ∈ (Op.runTo limit).moments fuel net, ∃ time ≤ limit.toNat, m.FiredAt time) ∧
      (∀ result net', net.initRun = .ok (result, net') → result = .ok ()) ∧
      (net.Drawable → ∃ net', net.initRun = .ok (.ok (), net')) := by
  have hsound := h.sound
  refine ⟨fun _ _ hp => hsound.onTime.now_le_due hp, ?_, ?_, fun _ _ => initRun_ends, initRun_drawable⟩
  · intro fuel time net' hs
    obtain ⟨hfirst, -, hnow, hover, -⟩ := hsound.step_ends hs
    exact ⟨hfirst, hnow, hover⟩
  · intro fuel time net' limit hr
    exact hsound.runTo_ends hr

/-- Of two sources that are due at one tick the first has nobody to send to, and the step ends there. The next
step fires the second source, at the same tick. -/
theorem tick_taken_up_after_error : ∃ (net left net' : Network) (e : NetworkError),
    net.Reachable ∧ net.step 100 = .ok (.error e, left) ∧ left.Reachable ∧ left.now = 5 ∧
      left.step 100 = .ok (.ok 5, net') ∧ left.FirstTick 5 ∧ net'.now = 5 ∧ net'.Over 5 := by
  have hend : endsWith (Op.applyAll 100 [.addSource "c" ⟨0, 0⟩ ⟨0⟩ 1, .addSource "a" ⟨0, 0⟩ ⟨0⟩ 1,
      .addNode "b" ⟨1, 0⟩, .addInterface ⟨1⟩ "ia" 2, .addInterface ⟨2⟩ "ib" 2, .addMember ⟨0⟩ ⟨1⟩,
      .addMember ⟨1⟩ ⟨0⟩, .addDestination ⟨1⟩ ⟨2⟩, .initRun] [] (.new {} 7 [.delta 5]))
      (fun _ net => failsWith (net.step 100) fun left =>
        left.now = 5 && endsWith (left.step 100) fun time _ => time = 5) = true := by
    decide +kernel
  obtain ⟨log, net, hok, htest⟩ := endsWith_iff.1 hend
  have hrun : Run (fun _ _ => True) (Network.new {} 7 [.delta 5]) log net :=
    .of_applyAll .start hok fun _ _ => trivial
  obtain ⟨e, left, hfails, htest⟩ := failsWith_iff.1 htest
  simp only [Bool.and_eq_true, decide_eq_true_eq] at htest
  obtain ⟨hnow, hnext⟩ := htest
  obtain ⟨time, net', hstep, htime⟩ := endsWith_iff.1 hnext
  obtain rfl := of_decide_eq_true htime
  have hcut : Op.step.apply 100 net = .ok (.error e, left) := by
    rw [Op.apply, hfails]
    rfl
  have hleft : left.Reachable := ⟨{}, 7, [.delta 5], _, hrun.op hcut trivial⟩
  obtain ⟨-, hsteps, -⟩ := hleft.clock_discipline
  obtain ⟨hfirst, hclock, hover⟩ := hsteps 100 5 net' hstep
  exact ⟨net, left, net', e, ⟨{}, 7, [.delta 5], log, hrun⟩, hfails, hleft, hnow, hstep, hfirst, hclock,
    hover⟩

end Network

end CarrierSense
