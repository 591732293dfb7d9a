import CarrierSense.Proofs.Network.History

/-!
# Coming to rest

A network `Plays` a number of events if firing them one by one leaves nothing pending. The event loop then
ends, given more fuel than there are events, however the events are spread over ticks and steps.
-/

namespace CarrierSense

/-- The clock moves on without changing the next tick. -/
lemma Scheduler.nextTime?_advanceTo {ε : Type} (s : Scheduler ε) (time : Nat) :
    (s.advanceTo time).nextTime? = s.nextTime? := by
  unfold advanceTo
  split <;> rfl

namespace Network

variable {net net' : Network} {n fuel steps : Nat}

/-- Firing `n` events, one after the other, leads from one network to another with nothing pending. -/
inductive Plays : Network → Nat → Network → Prop where
  | idle {net : Network} (hnext : net.scheduler.nextTime? = none) : Plays net 0 net
  | event {net net' : Network} {n time : Nat} {m : Moment} (hnext : net.scheduler.nextTime? = some time)
      (hfires : Fires { net with scheduler := net.scheduler.advanceTo time } m (.ok ()))
      (hrest : Plays m.after n net') : Plays net (n + 1) net'

/-- The clock may move to the next event beforehand. -/
lemma Plays.advance {time : Nat} (h : Plays net n net') (hnext : net.scheduler.nextTime? = some time) :
    Plays { net with scheduler := net.scheduler.advanceTo time } n net' := by
  cases h with
  | idle hnone =>
    rw [hnone] at hnext
    cases hnext
  | event hnext' hfires hrest =>
    rw [hnext] at hnext'
    cases hnext'
    refine .event ((Scheduler.nextTime?_advanceTo _ _).trans hnext) ?_ hrest
    rw [Scheduler.advanceTo_advanceTo _ (Nat.le_refl _)]
    exact hfires

/-- A tick comes to its end, and fires at least one event if any is due. -/
lemma Plays.drain (h : Plays net n net') (hfuel : n < fuel) :
    ∃ k mid, k ≤ n ∧ (net.scheduler.popDue.isSome → k < n) ∧ drain fuel net = .ok (.ok (), mid) ∧
      Plays mid k net' := by
  induction h generalizing fuel with
  | @idle net hnext =>
    obtain ⟨fuel, rfl⟩ := Nat.exists_eq_add_of_lt hfuel
    have hnone : net.scheduler.popDue = none := by
      unfold Scheduler.popDue
      rw [Option.map_eq_none_iff.1 hnext]
    refine ⟨0, net, Nat.le_refl 0, fun hsome => ?_, ?_, .idle hnext⟩
    · rw [hnone] at hsome
      cases hsome
    · unfold Network.drain
      rw [hnone]
  | @event net net' n time m hnext hfires hrest ih =>
    obtain ⟨extra, rfl⟩ := Nat.exists_eq_add_of_lt hfuel
    cases hpop : net.scheduler.popDue with
    | none =>
      refine ⟨n + 1, net, Nat.le_refl _, (fun hsome => by cases hsome), ?_, .event hnext hfires hrest⟩
      unfold Network.drain
      rw [hpop]
    | some entry =>
      -- the next event is due already, so that the clock stays
      have hnow : net.scheduler.advanceTo time = net.scheduler := by
        unfold Scheduler.nextTime? at hnext
        obtain ⟨⟨due, e⟩, hfirst, rfl⟩ := Option.map_eq_some_iff.1 hnext
        simp only [Scheduler.popDue, hfirst] at hpop
        split at hpop
        · cases hpop
        · rename_i hdue
          simp only [Scheduler.advanceTo]
          exact if_neg fun hlt => hdue hlt
      rw [hnow] at hfires
      obtain ⟨id, e, scheduler, hpop', hclear, -, hfire⟩ := hfires
      rw [hpop] at hpop'
      cases hpop'
      have hmore : n < n + 1 + extra := by omega
      obtain ⟨k, mid, hle, -, hdrain, hplays⟩ := ih hmore
      refine ⟨k, mid, by omega, fun _ => by omega, ?_, hplays⟩
      unfold Network.drain
      simp only [hpop, hclear, ok_bind, hfire, andThen]
      exact hdrain

/-- Steps are repeated until nothing is pending. -/
lemma Plays.stepWhile (h : Plays net n net') (hfuel : n < fuel) (hsteps : n < steps) :
    stepWhile (fun _ => true) fuel steps net = .ok (.ok (), net') := by
  induction n using Nat.strongRecOn generalizing net steps with
  | ind n ih =>
    obtain ⟨steps, rfl⟩ : ∃ s, steps = s + 1 := ⟨steps - 1, by omega⟩
    unfold Network.stepWhile
    cases hnext : net.scheduler.nextTime? with
    | none =>
      cases h with
      | idle => rfl
      | event hsome =>
        rw [hnext] at hsome
        cases hsome
    | some time =>
      -- one step fires some events, and the rest of them are fewer
      obtain ⟨k, mid, -, hless, hdrain, hplays⟩ := (h.advance hnext).drain hfuel
      have hk : k < n := by
        cases h with
        | idle hnone =>
          rw [hnext] at hnone
          cases hnone
        | event hnext' hfires _ =>
          rw [hnext] at hnext'
          cases hnext'
          obtain ⟨id, e, scheduler, hpop, -⟩ := hfires
          exact hless (by rw [hpop]; rfl)
      have hstep : net.step fuel = .ok (.ok time, mid) := by
        simp only [Network.step, Scheduler.nextTime, hnext, hdrain, andThen]
      simp only [if_true, hstep, andThen]
      exact ih k hk hplays (by omega) (by omega)

/-- A network that plays a number of events runs until it is idle, given more fuel than that. -/
theorem Plays.runUntilIdle (h : Plays net n net') (hfuel : n < fuel) :
    net.runUntilIdle fuel = .ok (.ok net'.now, net') := by
  simp only [Network.runUntilIdle, h.stepWhile hfuel hfuel, andThen]

end Network

end CarrierSense
