import CarrierSense.Proofs.Network.Fuel
import CarrierSense.Proofs.Network.Idle

/-!
# Runs in parts

Where a run stops between two events makes no difference: the clock that is moved to the limit in between is
moved on by the next step, and no event fires on the way. So a run up to a limit may be cut at any limit before
it, and into single steps.
-/

namespace CarrierSense

namespace Network

variable {net net' : Network} {a b fuel steps : Nat}

/-- No event waits for a tick up to the limit. -/
def Spent (net : Network) (limit : Nat) : Prop :=
  ∀ time, net.scheduler.nextTime? = some time → limit < time

/-- A computation comes to an end, given enough fuel. -/
def Terminates {α : Type} (run : Nat → Except Halt α) : Prop := ∃ fuel, Fuelless (run fuel)

/-- The steps of a run: `step` is called as long as the next event waits for no tick after the limit, and none of
them fails but perhaps the last. -/
inductive Steps (limit : Nat) : Network → Except NetworkError Unit → Network → Prop where
  | spent {net : Network} (h : net.Spent limit) : Steps limit net (.ok ()) net
  | fails {net net' : Network} {e : NetworkError} {time fuel : Nat}
      (hnext : net.scheduler.nextTime? = some time) (hle : time ≤ limit)
      (hstep : net.step fuel = .ok (.error e, net')) : Steps limit net (.error e) net'
  | goesOn {net mid net' : Network} {result : Except NetworkError Unit} {time answer fuel : Nat}
      (hnext : net.scheduler.nextTime? = some time) (hle : time ≤ limit)
      (hstep : net.step fuel = .ok (.ok answer, mid)) (hrest : Steps limit mid result net') :
      Steps limit net result net'

/-- A run up to one limit and, if it ends without an error, a run from there up to another. -/
def runVia (first rest : Nat) (net : Network) (a b : Nat) : Except Halt (Reply Nat) :=
  andThen (net.runTo first a) fun _ mid => mid.runTo rest b

/-- Either nothing is left up to a limit, or there is a next tick. -/
lemma spent_or_next (net : Network) (limit : Nat) :
    net.Spent limit ∨ ∃ time, net.scheduler.nextTime? = some time ∧ time ≤ limit := by
  rcases net.stop_or_next (· ≤ limit) with hstop | ⟨time, ht, hle⟩
  · exact .inl fun time ht => Nat.lt_of_not_le (of_decide_eq_false (hstop time ht))
  · exact .inr ⟨time, ht, of_decide_eq_true hle⟩

/-- If nothing is left up to a limit, then steps stop there. -/
lemma Spent.stops {limit : Nat} (h : net.Spent limit) (time : Nat) (ht : net.scheduler.nextTime? = some time) :
    decide (time ≤ limit) = false :=
  decide_eq_false (Nat.not_le_of_gt (h time ht))

/-- The step after a pause is the step that would have come without it. -/
lemma step_advanceTo {time : Nat} (ht : net.scheduler.nextTime? = some time) (hle : a ≤ time) :
    step fuel { net with scheduler := net.scheduler.advanceTo a } = net.step fuel := by
  have ht' : (net.scheduler.advanceTo a).nextTime? = some time :=
    (Scheduler.nextTime?_advanceTo _ _).trans ht
  rw [step_of_nextTime ht, step_of_nextTime ht', Scheduler.advanceTo_advanceTo _ hle]

/-- A run up to a later limit is the same if the clock is moved to a limit up to which nothing waits. -/
lemma runTo_advanceTo (fuel : Nat) (hspent : net.Spent a) (hab : a ≤ b) :
    runTo fuel { net with scheduler := net.scheduler.advanceTo a } b = net.runTo fuel b := by
  have hnext : (net.scheduler.advanceTo a).nextTime? = net.scheduler.nextTime? :=
    Scheduler.nextTime?_advanceTo _ _
  unfold runTo
  cases hfuel : fuel with
  | zero => rfl
  | succ steps =>
    rcases net.spent_or_next b with hend | ⟨time, ht, hle⟩
    · have hend' : Spent { net with scheduler := net.scheduler.advanceTo a } b :=
        fun time ht => hend time (hnext ▸ ht)
      rw [stepWhile_of_stop _ _ _ hend.stops, stepWhile_of_stop _ _ _ hend'.stops]
      simp only [andThen, Scheduler.advanceTo_advanceTo _ hab]
    · have hpast : a ≤ time := Nat.le_of_lt (hspent time ht)
      rw [stepWhile_of_next _ _ ht (decide_eq_true hle),
        stepWhile_of_next _ _ (hnext.trans ht) (decide_eq_true hle), step_advanceTo ht hpast]

/-- Steps up to a limit that come to their end leave nothing up to it. -/
lemma stepWhile_spent (hs : stepWhile (· ≤ a) fuel steps net = .ok (.ok (), net')) : net'.Spent a := by
  intro time ht
  exact Nat.lt_of_not_le (of_decide_eq_false (stepWhile_stops hs ht))

/-- Between the two parts the clock need not be moved. -/
lemma runVia_eq (first rest : Nat) (net : Network) (hab : a ≤ b) :
    net.runVia first rest a b =
      andThen (andThen (stepWhile (· ≤ a) first first net) fun _ mid => stepWhile (· ≤ b) rest rest mid)
        fun _ net => .ok (.ok (net.scheduler.advanceTo b).now,
          { net with scheduler := net.scheduler.advanceTo b }) := by
  unfold runVia
  rcases hs : stepWhile (· ≤ a) first first net with halt | ⟨e | _, mid⟩
  · simp only [runTo, hs, andThen]
  · simp only [runTo, hs, andThen]
  · have hmid := runTo_advanceTo rest (stepWhile_spent hs) hab
    rw [runTo, hs]
    exact hmid

/-- The steps up to a later limit begin with those up to an earlier one. -/
lemma stepWhile_cut (hab : a ≤ b) (h : Fuelless (stepWhile (· ≤ b) fuel steps net)) (more : Nat) :
    (andThen (stepWhile (· ≤ a) fuel steps net) fun _ mid => stepWhile (· ≤ b) fuel (steps + more) mid) =
      stepWhile (· ≤ b) fuel steps net := by
  induction steps generalizing net more with
  | zero => exact absurd rfl h
  | succ steps ih =>
    rcases net.spent_or_next a with hspent | ⟨time, ht, hle⟩
    · rw [stepWhile_of_stop _ _ _ hspent.stops]
      exact stepWhile_more net h 0 more
    · -- an event up to the first limit is one up to the second
      have hle' : time ≤ b := Nat.le_trans hle hab
      rw [stepWhile_of_next _ _ ht (decide_eq_true hle')] at h
      rw [stepWhile_of_next _ _ ht (decide_eq_true hle), stepWhile_of_next _ _ ht (decide_eq_true hle')]
      rcases hs : net.step fuel with halt | ⟨e | answer, mid⟩
      · rfl
      · rfl
      · have hrest := ih (h.of_andThen.2 _ _ hs) (more + 1)
        rw [← Nat.add_assoc, Nat.add_right_comm] at hrest
        exact hrest

/-- Where both parts end, so does the whole. -/
lemma stepWhile_joined (hab : a ≤ b) {further : Nat}
    (h : Fuelless (andThen (stepWhile (· ≤ a) fuel steps net) fun _ mid => stepWhile (· ≤ b) fuel further mid)) :
    Fuelless (stepWhile (· ≤ b) fuel (steps + further) net) := by
  induction steps generalizing net with
  | zero => exact absurd rfl h
  | succ steps ih =>
    rcases net.spent_or_next a with hspent | ⟨time, ht, hle⟩
    · rw [stepWhile_of_stop _ _ _ hspent.stops] at h
      have h : Fuelless (stepWhile (· ≤ b) fuel further net) := h
      rw [Nat.add_comm, ← Nat.add_zero fuel, stepWhile_more net h]
      exact h
    · have hle' : time ≤ b := Nat.le_trans hle hab
      rw [stepWhile_of_next _ _ ht (decide_eq_true hle)] at h
      rw [Nat.add_right_comm, stepWhile_of_next _ _ ht (decide_eq_true hle')]
      rcases hs : net.step fuel with halt | ⟨e | answer, mid⟩
      · rw [hs] at h
        exact h
      · exact .ok _
      · rw [hs] at h
        exact ih h

/-- A run that has had enough fuel does the same with more. -/
lemma runTo_more {limit : Nat} (h : Fuelless (net.runTo fuel limit)) (more : Nat) :
    net.runTo (fuel + more) limit = net.runTo fuel limit := by
  unfold runTo at h ⊢
  rw [stepWhile_more net h.of_andThen.1]

/-- A run in two parts that has had enough fuel does the same with more. -/
lemma runVia_more {first rest : Nat} (h : Fuelless (net.runVia first rest a b)) (more further : Nat) :
    net.runVia (first + more) (rest + further) a b = net.runVia first rest a b := by
  obtain ⟨hfirst, hrest⟩ := h.of_andThen
  unfold runVia
  rw [runTo_more hfirst]
  rcases hs : net.runTo first a with halt | ⟨e | answer, mid⟩
  · rfl
  · rfl
  · exact runTo_more (hrest _ _ hs) further

/-- A run that comes to its end is the same in two parts. -/
lemma runVia_of_runTo (hab : a ≤ b) (h : Fuelless (net.runTo fuel b)) :
    net.runVia fuel fuel a b = net.runTo fuel b := by
  have hwhole : Fuelless (stepWhile (· ≤ b) fuel fuel net) := h.of_andThen.1
  rw [runVia_eq _ _ _ hab]
  exact congrArg (andThen · _) (stepWhile_cut hab hwhole 0)

/-- A run that comes to its end in two parts does so in one. -/
lemma runTo_fuelless_of_runVia (hab : a ≤ b) (h : Fuelless (net.runVia fuel fuel a b)) :
    Fuelless (net.runTo (fuel + fuel) b) := by
  rw [runVia_eq _ _ _ hab] at h
  have hwhole := stepWhile_joined hab h.of_andThen.1
  refine .andThen ?_ fun _ _ _ => .ok _
  have := stepWhile_more net hwhole fuel 0
  rw [Nat.add_zero] at this
  rw [this]
  exact hwhole

/-- Steps in a row that end can be told one by one. -/
lemma stepWhile_steps {limit : Nat} {result : Except NetworkError Unit}
    (hs : stepWhile (· ≤ limit) fuel steps net = .ok (result, net')) : Steps limit net result net' := by
  induction steps generalizing net with
  | zero => cases hs
  | succ steps ih =>
    rcases net.spent_or_next limit with hspent | ⟨time, ht, hle⟩
    · rw [stepWhile_of_stop _ _ _ hspent.stops] at hs
      cases hs
      exact .spent hspent
    · rw [stepWhile_of_next _ _ ht (decide_eq_true hle)] at hs
      rcases andThen_eq_ok.1 hs with ⟨e, hstep, rfl⟩ | ⟨answer, mid, hstep, hs⟩
      · exact .fails ht hle hstep
      · exact .goesOn ht hle hstep (ih hs)

/-- Single steps make up a loop. -/
lemma Steps.stepWhile {limit : Nat} {result : Except NetworkError Unit} (h : Steps limit net result net') :
    ∃ fuel, stepWhile (· ≤ limit) fuel fuel net = .ok (result, net') := by
  induction h with
  | spent hspent => exact ⟨1, stepWhile_of_stop _ _ _ hspent.stops⟩
  | @fails net net' e time fuel ht hle hstep =>
    refine ⟨fuel + 1, ?_⟩
    rw [stepWhile_of_next _ _ ht (decide_eq_true hle), step_more net (.of_eq_ok hstep), hstep]
    rfl
  | @goesOn net mid net' result time answer fuel ht hle hstep hrest ih =>
    obtain ⟨further, hloop⟩ := ih
    refine ⟨fuel + further + 1, ?_⟩
    have hfirst : net.step (fuel + further + 1) = .ok (.ok answer, mid) := by
      rw [Nat.add_assoc, step_more net (.of_eq_ok hstep), hstep]
    have hmore := stepWhile_more mid (.of_eq_ok hloop) (fuel + 1) fuel
    rw [stepWhile_of_next _ _ ht (decide_eq_true hle), hfirst, Nat.add_comm fuel further]
    exact hmore.trans hloop

/-- A run up to a limit leaves what single steps leave, with the clock moved on unless a step fails. -/
lemma runTo_iff_steps {limit time : Nat} : (∃ fuel, net.runTo fuel limit = .ok (.ok time, net')) ↔
    ∃ mid, Steps limit net (.ok ()) mid ∧ net' = { mid with scheduler := mid.scheduler.advanceTo limit } ∧
      time = net'.now := by
  constructor
  · rintro ⟨fuel, hr⟩
    rcases andThen_eq_ok.1 hr with ⟨e, -, he⟩ | ⟨_, mid, hs, hr⟩
    · cases he
    · cases hr
      exact ⟨mid, stepWhile_steps hs, rfl, rfl⟩
  · rintro ⟨mid, hsteps, rfl, rfl⟩
    obtain ⟨fuel, hs⟩ := hsteps.stepWhile
    refine ⟨fuel, ?_⟩
    rw [runTo, hs]
    rfl

/-- A run fails exactly if single steps come to fail in the same way. -/
lemma runTo_fails_iff_steps {limit : Nat} {e : NetworkError} :
    (∃ fuel, net.runTo fuel limit = .ok (.error e, net')) ↔ Steps limit net (.error e) net' := by
  constructor
  · rintro ⟨fuel, hr⟩
    rcases andThen_eq_ok.1 hr with ⟨_, hs, he⟩ | ⟨_, mid, hs, hr⟩
    · cases he
      exact stepWhile_steps hs
    · cases hr
  · intro hsteps
    obtain ⟨fuel, hs⟩ := hsteps.stepWhile
    refine ⟨fuel, ?_⟩
    rw [runTo, hs]
    rfl

/-- Cutting a run at a limit before its own changes nothing: the run comes to its end in two parts exactly if it does in
one, and then with the same answer and in the same network, an error or a halt included. And a run that ends leaves what
single steps leave that are called as long as the next event waits for no later tick, with the clock moved on to the
limit; one that fails does so with the error of the last of these steps, in the network that this step leaves. -/
theorem runTo_in_parts (net : Network) (hab : a ≤ b) :
    (Terminates (fun fuel => net.runVia fuel fuel a b) ↔ Terminates fun fuel => net.runTo fuel b) ∧
      (∀ first rest whole, Fuelless (net.runVia first rest a b) → Fuelless (net.runTo whole b) →
        net.runVia first rest a b = net.runTo whole b) ∧
      (∀ time net', (∃ fuel, net.runTo fuel b = .ok (.ok time, net')) ↔
        ∃ mid, Steps b net (.ok ()) mid ∧ net' = { mid with scheduler := mid.scheduler.advanceTo b } ∧
          time = net'.now) ∧
      ∀ e net', (∃ fuel, net.runTo fuel b = .ok (.error e, net')) ↔ Steps b net (.error e) net' := by
  refine ⟨⟨?_, ?_⟩, ?_, fun _ _ => runTo_iff_steps, fun _ _ => runTo_fails_iff_steps⟩
  · rintro ⟨fuel, h⟩
    exact ⟨fuel + fuel, runTo_fuelless_of_runVia hab h⟩
  · rintro ⟨fuel, h⟩
    refine ⟨fuel, ?_⟩
    show Fuelless (net.runVia fuel fuel a b)
    rw [runVia_of_runTo hab h]
    exact h
  · -- with the fuel of all three runs together none of them runs out
    intro first rest whole hparts hwhole
    have hmore : Fuelless (net.runTo (whole + (first + rest)) b) := runTo_more hwhole _ ▸ hwhole
    have hsame := runVia_of_runTo hab hmore
    rw [runTo_more hwhole] at hsame
    rw [← hsame, ← runVia_more hparts (whole + rest) (whole + first)]
    congr 1 <;> omega

/-- A run that is cut while the only frame still waits for an idle medium. -/
theorem runTo_in_parts_pair : ∃ (net net' mid : Network), net.Reachable ∧
    net.runTo 100 600 = .ok (.ok 600, net') ∧ net.runVia 100 100 7 600 = .ok (.ok 600, net') ∧
      Steps 600 net (.ok ()) mid ∧ net' = { mid with scheduler := mid.scheduler.advanceTo 600 } := by
  have hend : endsWith (Op.applyAll 100 (Op.pair ++ [.initRun]) [] (.new {} 7 [.delta 5])) (fun _ net =>
      endsWith (net.runVia 100 100 7 600) (fun _ _ => true) &&
        endsWith (net.runTo 100 600) fun time _ => time = 600) = true := by
    decide +kernel
  obtain ⟨log, net, hok, htest⟩ := endsWith_iff.1 hend
  have hrun : Run (fun _ _ => True) (Network.new {} 7 [.delta 5]) log net :=
    .of_applyAll .start hok fun _ _ => trivial
  rw [Bool.and_eq_true] at htest
  obtain ⟨hparts, hwhole⟩ := htest
  obtain ⟨_, _, hvia, -⟩ := endsWith_iff.1 hparts
  obtain ⟨time, net', hto, htime⟩ := endsWith_iff.1 hwhole
  obtain rfl := of_decide_eq_true htime
  obtain ⟨-, hsame, hsteps, -⟩ := net.runTo_in_parts (a := 7) (b := 600) (by decide)
  have hvia : net.runVia 100 100 7 600 = net.runTo 100 600 :=
    hsame 100 100 100 (.of_eq_ok hvia) (.of_eq_ok hto)
  obtain ⟨mid, hmid, hnet', -⟩ := (hsteps 600 net').1 ⟨100, hto⟩
  exact ⟨net, net', mid, ⟨{}, 7, [.delta 5], log, hrun⟩, hto, hvia.trans hto, hmid, hnet'⟩

end Network

end CarrierSense
