import CarrierSense.Network.Run
import CarrierSense.Proofs.Outcome
import CarrierSense.Proofs.Scheduler.Basic

/-!
# Histories of a network

The operations on a network as data (`Op`), and the sequences of operations that none of them cuts short
by a halt (`Run`). Beside the network a run keeps a log of its moments: a call from outside, or an event
that was fired. `Closed.run` reduces what holds after every run to what moving the clock, firing one
event and one call preserve.
-/

namespace CarrierSense.Network

/-- An operation on a network. -/
inductive Op where
  | addVariate (law : Law)
  | setVariate (v : VariateId) (law : Law)
  | addNode (name : String) (position : Point Float)
  | addSource (name : String) (position : Point Float) (arrival : VariateId) (maxMessages : Nat)
  | setPeriod (n : NodeId) (period : VariateId)
  | setMessageLength (n : NodeId) (length : Nat)
  | addDestination (n destination : NodeId)
  | addInterface (n : NodeId) (name : String) (radius : Float)
  | addMember (m : MediumId) (i : InterfaceId)
  | connectInRange
  | startTrace
  | stopTrace
  | reseed (seed : UInt64)
  | initRun
  | produce (n : NodeId)
  | put (n : NodeId)
  | send (i : InterfaceId) (frame : Frame)
  | receive (i : InterfaceId) (frame : Frame)
  | broadcast (i : InterfaceId) (frame : Frame)
  | step
  | runTo (limit : UInt64)
  | runUntilIdle

/-- Leaves the answer of an operation out. -/
def done {α : Type} (reply : Except Halt (Reply α)) : Except Halt (Reply Unit) :=
  andThen reply fun _ net => .ok (.ok (), net)

/-- Carries out an operation, without its answer. -/
def Op.apply (op : Op) (fuel : Nat) (net : Network) : Except Halt (Reply Unit) :=
  match op with
  | addVariate law => .ok (.ok (), (net.addVariate law).2)
  | setVariate v law => .ok (.ok (), net.setVariate v law)
  | addNode name position => .ok (.ok (), (net.addNode name position).2)
  | addSource name position arrival maxMessages =>
    .ok (.ok (), (net.addSource name position arrival maxMessages).2)
  | setPeriod n period => net.setPeriod n period
  | setMessageLength n length => net.setMessageLength n length
  | addDestination n destination => net.addDestination n destination
  | addInterface n name radius => do return (.ok (), (← net.addInterface n name radius).2)
  | addMember m i => do return (.ok (), (← net.addMember m i).2)
  | connectInRange => .ok (.ok (), net.connectInRange)
  | startTrace => .ok (.ok (), net.startTrace)
  | stopTrace => .ok (.ok (), net.stopTrace)
  | reseed seed => .ok (.ok (), net.reseed seed)
  | initRun => net.initRun
  | produce n => net.produce n
  | put n => do return (.ok (), ← net.put n)
  | send i frame => net.send i frame
  | receive i frame => net.receive i frame
  | broadcast i frame => net.broadcast i frame
  | step => done (net.step fuel)
  | runTo limit => done (net.runTo fuel limit.toNat)
  | runUntilIdle => done (net.runUntilIdle fuel)

/-- Whether an operation fires events. -/
def Op.firesEvents : Op → Bool
  | step | runTo _ | runUntilIdle => true
  | _ => false

/-- Why a network changed. -/
inductive Cause where
  | call (op : Op)
  /-- The event was taken out of the scheduler and fired. -/
  | event (e : Event)

/-- A call or an event, with the network it found and the network it left. -/
structure Moment where
  before : Network
  cause : Cause
  after : Network

/-- The moments in which `drain` fires its events. -/
def drainMoments : Nat → Network → List Moment
  | 0, _ => []
  | fuel + 1, net =>
    match net.scheduler.popDue with
    | none => []
    | some ((id, event), scheduler) =>
      match { net with scheduler }.clearTimer id event with
      | .error _ => []
      | .ok before =>
        match before.fire event with
        | .error _ => []
        | .ok (.error _, after) => [⟨before, .event event, after⟩]
        | .ok (.ok _, after) => ⟨before, .event event, after⟩ :: drainMoments fuel after

/-- The moments in which a step fires its events. -/
def stepMoments (fuel : Nat) (net : Network) : List Moment :=
  match net.scheduler.nextTime? with
  | none => []
  | some time => drainMoments fuel { net with scheduler := net.scheduler.advanceTo time }

/-- The moments in which steps in a row fire their events. -/
def stepWhileMoments (goesOn : Nat → Bool) (fuel : Nat) : Nat → Network → List Moment
  | 0, _ => []
  | steps + 1, net =>
    match net.scheduler.nextTime? with
    | none => []
    | some time =>
      if goesOn time then
        match step fuel net with
        | .ok (.ok _, after) => stepMoments fuel net ++ stepWhileMoments goesOn fuel steps after
        | _ => stepMoments fuel net
      else []

/-- The moments of an operation. -/
def Op.moments (op : Op) (fuel : Nat) (net : Network) : List Moment :=
  match op with
  | step => stepMoments fuel net
  | runTo limit => stepWhileMoments (· ≤ limit.toNat) fuel fuel net
  | runUntilIdle => stepWhileMoments (fun _ => true) fuel fuel net
  | op =>
    match op.apply fuel net with
    | .ok (_, after) => [⟨net, .call op, after⟩]
    | .error _ => []

/-- Some operations one after the other, each allowed with the outcome it had, and each with as much fuel
as it needs. The moments of the run are kept in a log. -/
inductive Run (allowed : Op → Except NetworkError Unit → Prop) (first : Network) :
    List Moment → Network → Prop where
  | start : Run allowed first [] first
  | op {log : List Moment} {net net' : Network} {op : Op} {fuel : Nat}
      {result : Except NetworkError Unit} (before : Run allowed first log net)
      (ok : op.apply fuel net = .ok (result, net')) (may : allowed op result) :
      Run allowed first (log ++ op.moments fuel net) net'

/-- What some operations can make of a new network. An operation with a bad handle halts. -/
def Reachable (net : Network) : Prop :=
  ∃ timing seed laws log, Run (fun _ _ => True) (Network.new timing seed laws) log net

variable {net net' : Network} {log : List Moment} {fuel : Nat}

/-- Carries out operations one after the other, up to the first error, and adds their moments to a log. -/
def Op.applyAll (fuel : Nat) : List Op → List Moment → Network → Except Halt (Reply (List Moment))
  | [], log, net => .ok (.ok log, net)
  | op :: rest, log, net =>
    andThen (op.apply fuel net) fun _ next => applyAll fuel rest (log ++ op.moments fuel net) next

/-- Whether an operation or a script comes to its end with an answer and a network that pass a test. -/
def endsWith {α : Type} (reply : Except Halt (Reply α)) (test : α → Network → Bool) : Bool :=
  match reply with
  | .ok (.ok answer, net) => test answer net
  | _ => false

/-- The test is passed exactly if the operation ends with such an answer. -/
lemma endsWith_iff {α : Type} {reply : Except Halt (Reply α)} {test : α → Network → Bool} :
    endsWith reply test = true ↔ ∃ answer net, reply = .ok (.ok answer, net) ∧ test answer net = true := by
  unfold endsWith
  split
  · simp
  · rename_i hne
    simp only [Bool.false_eq_true, false_iff, not_exists, not_and]
    exact fun answer net h => absurd h (hne answer net)

/-- Whether an operation ends with an error, after which the network passes a test. -/
def failsWith {α : Type} (reply : Except Halt (Reply α)) (test : Network → Bool) : Bool :=
  match reply with
  | .ok (.error _, net) => test net
  | _ => false

/-- The test is passed exactly if the operation ends with such an error. -/
lemma failsWith_iff {α : Type} {reply : Except Halt (Reply α)} {test : Network → Bool} :
    failsWith reply test = true ↔ ∃ e net, reply = .ok (.error e, net) ∧ test net = true := by
  unfold failsWith
  split
  · simp
  · rename_i hne
    simp only [Bool.false_eq_true, false_iff, not_exists, not_and]
    exact fun e net h => absurd h (hne e net)

/-- Whether a log has a moment after the first `n` ones, such that these, the moment, and those after it pass
a test. -/
def splitsAt (n : Nat) (log : List Moment) (test : List Moment → Moment → List Moment → Bool) : Bool :=
  match log.drop n with
  | m :: future => test (log.take n) m future
  | [] => false

/-- A log that passes the test has such a moment. -/
lemma splitsAt_eq_true {n : Nat} {test : List Moment → Moment → List Moment → Bool}
    (h : splitsAt n log test = true) :
    ∃ m future, log = log.take n ++ m :: future ∧ test (log.take n) m future = true := by
  unfold splitsAt at h
  split at h
  · rename_i m future hdrop
    exact ⟨m, future, by rw [← hdrop, List.take_append_drop], h⟩
  · cases h

/-- A script that comes to its end continues a run, if its operations are allowed. -/
lemma Run.of_applyAll {allowed : Op → Except NetworkError Unit → Prop} {first : Network} {ops : List Op}
    {log' : List Moment} (hrun : Run allowed first log net)
    (h : Op.applyAll fuel ops log net = .ok (.ok log', net')) (hall : ∀ op ∈ ops, allowed op (.ok ())) :
    Run allowed first log' net' := by
  induction ops generalizing log net with
  | nil =>
    cases h
    exact hrun
  | cons op rest ih =>
    rcases andThen_eq_ok.1 h with ⟨e, -, he⟩ | ⟨_, mid, hop, h⟩
    · cases he
    · exact ih (hrun.op hop (hall op List.mem_cons_self)) h fun op hmem =>
        hall op (List.mem_cons_of_mem _ hmem)

/-- Two nodes that hear each other, the first of them a source of one frame for the second. -/
def Op.pair : List Op :=
  [.addSource "a" ⟨0, 0⟩ ⟨0⟩ 1, .addNode "b" ⟨1, 0⟩, .addInterface ⟨0⟩ "ia" 2,
    .addInterface ⟨1⟩ "ib" 2, .addMember ⟨0⟩ ⟨1⟩, .addMember ⟨1⟩ ⟨0⟩, .addDestination ⟨0⟩ ⟨1⟩]

/-- Steps are repeated until the next event, if there is one, lies beyond the condition. -/
lemma stepWhile_stops {goesOn : Nat → Bool} {steps time : Nat}
    (h : stepWhile goesOn fuel steps net = .ok (.ok (), net'))
    (ht : net'.scheduler.nextTime? = some time) : goesOn time = false := by
  induction steps generalizing net with
  | zero => cases h
  | succ steps ih =>
    unfold stepWhile at h
    split at h
    · rename_i hnone
      cases h
      rw [hnone] at ht
      cases ht
    · rename_i time' hsome
      split at h
      · rcases andThen_eq_ok.1 h with ⟨e, -, he⟩ | ⟨a, mid, -, h⟩
        · cases he
        · exact ih h
      · rename_i hstop
        cases h
        rw [hsome] at ht
        cases ht
        simpa using hstop

/-- Without its answer an operation ends in the same network, with the same error if any. -/
lemma done_eq_ok {α : Type} {reply : Except Halt (Reply α)} {result : Except NetworkError Unit}
    (h : done reply = .ok (result, net')) :
    ∃ answer : Except NetworkError α, reply = .ok (answer, net') ∧ result = answer.map fun _ => () := by
  rcases andThen_eq_ok.1 h with ⟨e, hr, rfl⟩ | ⟨a, mid, hr, hn⟩
  · exact ⟨.error e, hr, rfl⟩
  · cases hn
    exact ⟨.ok a, hr, rfl⟩

/-- The moment `m` is the firing of the event that comes first in the scheduler of `net`. -/
def Fires (net : Network) (m : Moment) (result : Except NetworkError Unit) : Prop :=
  ∃ id event scheduler, net.scheduler.popDue = some ((id, event), scheduler) ∧
    { net with scheduler }.clearTimer id event = .ok m.before ∧ m.cause = .event event ∧
    m.before.fire event = .ok (result, m.after)

/-- The clock of a network may be moved to `time`. -/
def Awaits (net : Network) (time : Nat) : Prop :=
  (∀ {due e}, net.scheduler.Pending due e → time ≤ due.time) ∧
    (time ≤ Clock.last ∨ ∃ due e, net.scheduler.Pending due e ∧ due.time = time)

/-- Moving the clock and firing an event preserve `P`; `may` are the errors that can come up. -/
structure Closed (P : List Moment → Network → Prop) (may : NetworkError → Prop) : Prop where
  clock : ∀ {log net time}, P log net → net.Awaits time →
    P log { net with scheduler := net.scheduler.advanceTo time }
  event : ∀ {log net m result}, P log net → net.Fires m result → (∀ e, result = .error e → may e) →
    P (log ++ [m]) m.after

namespace Closed

variable {P : List Moment → Network → Prop} {may : NetworkError → Prop} (c : Closed P may)
include c

/-- What moving the clock and firing an event preserve, the events of a tick preserve. -/
lemma drain {result : Except NetworkError Unit} (h : P log net)
    (hd : drain fuel net = .ok (result, net')) (he : ∀ e, result = .error e → may e) :
    P (log ++ drainMoments fuel net) net' := by
  induction fuel generalizing log net with
  | zero => cases hd
  | succ fuel ih =>
    -- one event, and then the rest with one unit of fuel less
    unfold Network.drain at hd
    unfold drainMoments
    cases hpop : net.scheduler.popDue with
    | none =>
      simp only [hpop] at hd
      cases hd
      simpa only [List.append_nil] using h
    | some entry =>
      obtain ⟨⟨id, e⟩, scheduler⟩ := entry
      simp only [hpop, bind_eq_ok, andThen_eq_ok] at hd
      obtain ⟨mid, hclear, hd⟩ := hd
      simp only [hclear]
      rcases hd with ⟨err, hfire, rfl⟩ | ⟨_, after, hfire, hd⟩
      · simp only [hfire]
        exact c.event h ⟨id, e, scheduler, hpop, hclear, rfl, hfire⟩ he
      · simp only [hfire]
        have hnext := c.event h (m := ⟨mid, .event e, after⟩) ⟨id, e, scheduler, hpop, hclear, rfl, hfire⟩
          (by simp)
        rw [← List.singleton_append, ← List.append_assoc]
        exact ih hnext hd

/-- A step preserves it, too. -/
lemma step {result : Except NetworkError Nat} (h : P log net)
    (hs : step fuel net = .ok (result, net')) (he : ∀ e, result = .error e → may e) :
    P (log ++ stepMoments fuel net) net' := by
  unfold Network.step Scheduler.nextTime at hs
  unfold stepMoments
  cases ht : net.scheduler.nextTime? with
  | none =>
    simp only [ht] at hs
    cases hs
    simpa only [List.append_nil] using h
  | some time =>
    simp only [ht] at hs
    obtain ⟨⟨due, e, hp, hdue⟩, hmin⟩ := Scheduler.nextTime?_eq_some ht
    -- the clock moves to the first tick at which anything is pending
    have hmoved := c.clock h ⟨hmin, .inr ⟨due, e, hp, hdue⟩⟩
    rcases andThen_eq_ok.1 hs with ⟨err, hd, rfl⟩ | ⟨_, mid, hd, hs⟩
    · exact c.drain hmoved hd (by simpa using he)
    · cases hs
      exact c.drain hmoved hd (by simp)

/-- Steps in a row preserve it, by induction over their number. -/
lemma stepWhile {goesOn : Nat → Bool} {steps : Nat} {result : Except NetworkError Unit}
    (h : P log net) (hs : stepWhile goesOn fuel steps net = .ok (result, net'))
    (he : ∀ e, result = .error e → may e) :
    P (log ++ stepWhileMoments goesOn fuel steps net) net' := by
  induction steps generalizing log net with
  | zero => cases hs
  | succ steps ih =>
    unfold Network.stepWhile at hs
    unfold stepWhileMoments
    cases ht : net.scheduler.nextTime? with
    | none =>
      simp only [ht] at hs
      cases hs
      simpa only [List.append_nil] using h
    | some time =>
      simp only [ht] at hs ⊢
      split at hs
      · rename_i hgoes
        rw [if_pos hgoes]
        rcases andThen_eq_ok.1 hs with ⟨err, hstep, rfl⟩ | ⟨a, mid, hstep, hs⟩
        · simp only [hstep]
          exact c.step h hstep (by simpa using he)
        · simp only [hstep]
          have hmid := c.step h hstep (by simp)
          rw [← List.append_assoc]
          exact ih hmid hs
      · rename_i hstop
        cases hs
        rw [if_neg hstop, List.append_nil]
        exact h

/-- A run up to a limit preserves it. -/
lemma runTo {limit : UInt64} {result : Except NetworkError Nat} (h : P log net)
    (hs : net.runTo fuel limit.toNat = .ok (result, net')) (he : ∀ e, result = .error e → may e) :
    P (log ++ stepWhileMoments (· ≤ limit.toNat) fuel fuel net) net' := by
  rcases andThen_eq_ok.1 hs with ⟨e, hw, rfl⟩ | ⟨_, mid, hw, hn⟩
  · exact c.stepWhile h hw (by simpa using he)
  · cases hn
    have hlimit : limit.toNat ≤ Clock.last := by
      have := limit.toNat_lt
      unfold Clock.last
      omega
    -- the events up to the limit have all been fired
    refine c.clock (c.stepWhile h hw (by simp)) ⟨fun {due e} hp => ?_, .inl hlimit⟩
    cases ht : mid.scheduler.nextTime? with
    | none => exact absurd hp (Scheduler.nextTime?_eq_none.1 ht due e)
    | some time =>
      have hstop := stepWhile_stops hw ht
      have hle := (Scheduler.nextTime?_eq_some ht).2 hp
      simp only [decide_eq_false_iff_not] at hstop
      omega

/-- A run that goes on until nothing is pending preserves it. -/
lemma runUntilIdle {result : Except NetworkError Nat} (h : P log net)
    (hs : net.runUntilIdle fuel = .ok (result, net')) (he : ∀ e, result = .error e → may e) :
    P (log ++ stepWhileMoments (fun _ => true) fuel fuel net) net' := by
  rcases andThen_eq_ok.1 hs with ⟨e, hw, rfl⟩ | ⟨_, mid, hw, hn⟩
  · exact c.stepWhile h hw (by simpa using he)
  · cases hn
    exact c.stepWhile h hw (by simp)

/-- What holds at the start of a run, and is preserved by moving the clock, by firing an event and by a
call, holds after the run. -/
theorem run {allowed : Op → Except NetworkError Unit → Prop} {first : Network}
    (call : ∀ {log net op fuel result net'}, P log net → op.firesEvents = false → allowed op result →
      op.apply fuel net = .ok (result, net') → P (log ++ [⟨net, .call op, net'⟩]) net')
    (hmay : ∀ {op e}, op.firesEvents = true → allowed op (.error e) → may e)
    (start : P [] first) (hrun : Run allowed first log net) : P log net := by
  induction hrun with
  | start => exact start
  | @op log net net' op fuel result _ ok allow ih =>
    have hout : op.firesEvents = true → ∀ {α} {answer : Except NetworkError α},
        result = answer.map (fun _ => ()) → ∀ e, answer = .error e → may e := by
      rintro hop α answer rfl e rfl
      exact hmay hop allow
    cases op with
    | step =>
      obtain ⟨answer, hs, hres⟩ := done_eq_ok ok
      exact c.step ih hs (hout rfl hres)
    | runTo limit =>
      obtain ⟨answer, hs, hres⟩ := done_eq_ok ok
      exact c.runTo ih hs (hout rfl hres)
    | runUntilIdle =>
      obtain ⟨answer, hs, hres⟩ := done_eq_ok ok
      exact c.runUntilIdle ih hs (hout rfl hres)
    | _ =>
      have hm := call ih rfl allow ok
      simpa only [Op.moments, ok] using hm

end Closed

end CarrierSense.Network
