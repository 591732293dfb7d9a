import CarrierSense.Proofs.Network.Lockstep
import CarrierSense.Proofs.Network.Setup

/-!
# Isolated runs

A run depends on the set-up of the network and on the seed alone, whatever was done to the network before.
Two networks of the same set-up (`SetUpAlike`), which may differ in everything that a run changes, give the
same answers from `reseed` and `initRun` on, call by call, and are left in the same state but for names.
-/

namespace CarrierSense

namespace Network

/-- The operations that drive a run. -/
def Op.drives : Op → Bool
  | produce _ | put _ | send _ _ | receive _ _ | broadcast _ _ | step | runTo _ | runUntilIdle => true
  | _ => false

/-- Carries out an operation, and answers with the tick if it fires events. -/
def Op.answer (op : Op) (fuel : Nat) (net : Network) : Except Halt (Reply (Option Nat)) :=
  match op with
  | step => andThen (net.step fuel) fun tick net => .ok (.ok (some tick), net)
  | runTo limit => andThen (net.runTo fuel limit.toNat) fun tick net => .ok (.ok (some tick), net)
  | runUntilIdle => andThen (net.runUntilIdle fuel) fun tick net => .ok (.ok (some tick), net)
  | op => andThen (op.apply fuel net) fun _ net => .ok (.ok none, net)

/-- What an operation does is the same with and without its answer. -/
lemma Op.done_answer (op : Op) (fuel : Nat) (net : Network) :
    done (op.answer fuel net) = op.apply fuel net := by
  have hdone : ∀ {α β : Type} (reply : Except Halt (Reply α)) (f : α → β),
      done (andThen reply fun a net => .ok (.ok (f a), net)) = done reply := by
    rintro α β (halt | ⟨e | a, net⟩) f <;> rfl
  have hunit : ∀ reply : Except Halt (Reply Unit), done reply = reply := by
    rintro (halt | ⟨e | a, net⟩) <;> rfl
  cases op <;> first | rfl | exact hdone _ _ | exact (hdone _ _).trans (hunit _)

/-- Makes calls one after the other, each with its fuel, whether they meet errors or not. The answers are
collected; a halt ends it. -/
def Op.serve : List (Op × Nat) → Network → List (Except NetworkError (Option Nat)) × Except Halt Network
  | [], net => ([], .ok net)
  | (op, fuel) :: rest, net =>
    match op.answer fuel net with
    | .error halt => ([], .error halt)
    | .ok (answer, net) => (answer :: (serve rest net).1, (serve rest net).2)

/-- Operations that get the same fuel. -/
def Op.fueled (fuel : Nat) (ops : List Op) : List (Op × Nat) := ops.map fun op => (op, fuel)

/-- Calls that do not halt are a run. -/
lemma Run.of_serve {first net net' : Network} {log : List Moment} {calls : List (Op × Nat)}
    (hrun : Run (fun _ _ => True) first log net) (h : (Op.serve calls net).2 = .ok net') :
    ∃ log, Run (fun _ _ => True) first log net' := by
  induction calls generalizing log net with
  | nil =>
    cases h
    exact ⟨log, hrun⟩
  | cons call rest ih =>
    obtain ⟨op, fuel⟩ := call
    unfold Op.serve at h
    cases hanswer : op.answer fuel net with
    | error halt =>
      rw [hanswer] at h
      cases h
    | ok reply =>
      obtain ⟨answer, mid⟩ := reply
      rw [hanswer] at h
      have happly : op.apply fuel net = .ok (answer.map fun _ => (), mid) := by
        rw [← Op.done_answer, hanswer]
        cases answer <;> rfl
      exact ih (hrun.op happly trivial) h

variable {a b : Network} {c : Naming}

namespace Twins

variable {op : Op}

/-- Twins carry out every operation of a run alike. -/
lemma apply (h : a.Twins c b) (hop : op.drives = true) (fuel : Nat) :
    TwinReplies c (op.apply fuel a) (op.apply fuel b) := by
  cases op with
  | produce n => exact h.produce n
  | put n => exact .bind (h.put n) fun h => .ok _ h
  | send i frame => exact h.send i frame
  | receive i frame => exact h.receive i frame
  | broadcast i frame => exact h.broadcast i frame
  | step => exact (h.step fuel).andThen fun h => .ok _ h
  | runTo limit => exact (h.runTo fuel limit.toNat).andThen fun h => .ok _ h
  | runUntilIdle => exact (h.runUntilIdle fuel).andThen fun h => .ok _ h
  | _ => cases hop

/-- Twins give the same answer to every operation of a run. -/
lemma answer (h : a.Twins c b) (hop : op.drives = true) (fuel : Nat) :
    TwinReplies c (op.answer fuel a) (op.answer fuel b) := by
  cases op with
  | step => exact (h.step fuel).andThen fun h => .ok _ h
  | runTo limit => exact (h.runTo fuel limit.toNat).andThen fun h => .ok _ h
  | runUntilIdle => exact (h.runUntilIdle fuel).andThen fun h => .ok _ h
  | _ => exact (h.apply hop fuel).andThen fun h => .ok _ h

end Twins

/-- The same calls have the same answers and errors in two networks, or halt alike, and they leave twins
behind: the same events are pending in the same order, and the reports are the same. -/
def ServedAlike (c : Naming) (calls : List (Op × Nat)) (a b : Network) : Prop :=
  (Op.serve calls b).1 = (Op.serve calls a).1 ∧
    Agree (fun x y => x.Twins c y ∧ y.scheduler.agenda = x.scheduler.agenda ∧ y.report = x.report)
      (Op.serve calls a).2 (Op.serve calls b).2

/-- One more call, whose answers are the same, is made before others. -/
lemma ServedAlike.cons {op : Op} {fuel : Nat} {rest : List (Op × Nat)}
    (h : TwinReplies c (op.answer fuel a) (op.answer fuel b))
    (hrest : ∀ {a b}, a.Twins c b → ServedAlike c rest a b) : ServedAlike c ((op, fuel) :: rest) a b := by
  unfold ServedAlike Op.serve
  generalize op.answer fuel a = x, op.answer fuel b = y at h
  cases h with
  | error halt => exact ⟨rfl, .error halt⟩
  | ok answer h =>
    obtain ⟨hanswers, hlast⟩ := hrest h
    exact ⟨congrArg (List.cons answer) hanswers, hlast⟩

/-- Twins give the same answers, however many calls are made. -/
theorem Twins.servedAlike {calls : List (Op × Nat)} (h : a.Twins c b)
    (hall : ∀ call ∈ calls, call.1.drives = true) : ServedAlike c calls a b := by
  induction calls generalizing a b with
  | nil => exact ⟨rfl, .ok ⟨h, h.scheduler.agenda, h.report⟩⟩
  | cons call rest ih =>
    obtain ⟨op, fuel⟩ := call
    refine .cons (h.answer (hall (op, fuel) List.mem_cons_self) fuel) fun h => ih h fun call hmem => ?_
    exact hall call (List.mem_cons_of_mem _ hmem)

end Network

/-- Two sources produce as many frames of the same length for the same destinations. -/
structure Traffic.Alike (t t' : Traffic) : Prop where
  destinations : t'.destinations = t.destinations
  maxMessages : t'.maxMessages = t.maxMessages
  messageLength : t'.messageLength = t.messageLength
  period : t'.period.isSome = t.period.isSome

/-- The variates that the traffic of a node is drawn from. -/
def Endpoint.variates (e : Endpoint) : List VariateId :=
  match e.traffic with
  | some t => t.arrival :: t.period.toList
  | none => []

deriving instance DecidableEq for Point, Site, Interface, Topology, Law

namespace Network

variable {a b : Network}

/-- The traffic of a node, if there is such a node and it is a source. -/
def traffic? (net : Network) (k : Nat) : Option Traffic := net.endpoints[k]?.bind (·.traffic)

/-- The two variates give the same delay of the same source. -/
def Counterparts (a b : Network) (v v' : VariateId) : Prop :=
  ∃ k t t', a.traffic? k = some t ∧ b.traffic? k = some t' ∧
    (v = t.arrival ∧ v' = t'.arrival ∨ t.period = some v ∧ t'.period = some v')

/-- Two networks have the same nodes, interfaces and media, and the same traffic, from variates of the same
laws that are shared in the same way. Both record a trace or none does. What a run changes is left open. -/
structure SetUpAlike (a b : Network) : Prop where
  timing : b.timing = a.timing
  topology : b.topology = a.topology
  radios : b.radios.size = a.radios.size
  endpoints : b.endpoints.size = a.endpoints.size
  traffic : ∀ k, Option.Rel Traffic.Alike (a.traffic? k) (b.traffic? k)
  shared : ∀ {v v' u u'}, a.Counterparts b v v' → a.Counterparts b u u' → (v = u ↔ v' = u')
  laws : ∀ {v v'}, a.Counterparts b v v' →
    b.variates[v'.index]?.map Variate.law = a.variates[v.index]?.map Variate.law
  isOn : b.recorder.isOn = a.recorder.isOn

/-- If a reset makes the endpoints the same, traffic differs in the number of frames only. -/
lemma traffic?_of_reset_eq (h : b.endpoints.map Endpoint.reset = a.endpoints.map Endpoint.reset) (k : Nat) :
    Option.Rel (fun t t' => t' = { t with produced := t'.produced }) (a.traffic? k) (b.traffic? k) := by
  have hreset : ∀ net : Network, (net.endpoints.map Endpoint.reset)[k]?.bind (·.traffic) =
      (net.traffic? k).map fun t => { t with produced := 0 } := fun net => by
    simp [traffic?, Option.map_bind, Endpoint.reset, Function.comp_def, Option.bind_map]
  have hk := congrArg (fun xs => xs[k]?.bind (·.traffic)) h
  simp only [hreset] at hk
  generalize a.traffic? k = x, b.traffic? k = y at hk
  cases x <;> cases y <;> simp at hk
  · exact .none
  · obtain ⟨hdest, harrival, hperiod, hmax, hlength⟩ := hk
    exact .some (by rw [← hdest, ← harrival, ← hperiod, ← hmax, ← hlength])

/-- Networks in which the same variates have the same handles are set up alike if nothing but what a run changes
tells them apart. -/
lemma SetUpAlike.of_eq (timing : b.timing = a.timing) (topology : b.topology = a.topology)
    (radios : b.radios.size = a.radios.size)
    (endpoints : b.endpoints.map Endpoint.reset = a.endpoints.map Endpoint.reset)
    (laws : b.variates.map Variate.law = a.variates.map Variate.law)
    (isOn : b.recorder.isOn = a.recorder.isOn) : a.SetUpAlike b := by
  have htraffic := traffic?_of_reset_eq endpoints
  have hsame : ∀ {k t t'}, a.traffic? k = some t → b.traffic? k = some t' →
      t' = { t with produced := t'.produced } := by
    intro k t t' ht ht'
    have hk := htraffic k
    rw [ht, ht'] at hk
    cases hk with
    | some h => exact h
  have heq : ∀ {v v'}, a.Counterparts b v v' → v' = v := by
    rintro v v' ⟨k, t, t', ht, ht', hpair⟩
    rw [hsame ht ht'] at hpair
    rcases hpair with ⟨rfl, rfl⟩ | ⟨hv, hv'⟩
    · rfl
    · exact Option.some.inj (hv'.symm.trans hv)
  refine ⟨timing, topology, radios, by simpa using congrArg Array.size endpoints, fun k => ?_, ?_, ?_, isOn⟩
  · have hk := htraffic k
    generalize a.traffic? k = x, b.traffic? k = y at hk
    cases hk with
    | none => exact .none
    | some h => exact .some (by rw [h]; exact ⟨rfl, rfl, rfl, rfl⟩)
  · intro v v' u u' hv hu
    rw [heq hv, heq hu]
  · intro v v' hv
    rw [heq hv]
    simpa using congrArg (fun xs => xs[v.index]?) laws

/-- A variate that is turned back stands at its beginning, and the others stay where they are. -/
lemma getElem?_rewind (net : Network) (v : VariateId) (k : Nat) :
    (net.rewind v).variates[k]? =
      if v.index = k then net.variates[k]?.map Variate.rewind else net.variates[k]? :=
  Array.getElem?_modify

/-- Variates that are turned back one after the other are all turned back. -/
lemma getElem?_foldl_rewind (vs : List VariateId) (net : Network) (k : Nat) :
    (vs.foldl rewind net).variates[k]? =
      if ⟨k⟩ ∈ vs then net.variates[k]?.map Variate.rewind else net.variates[k]? := by
  induction vs generalizing net with
  | nil => simp
  | cons v vs ih =>
    rw [List.foldl_cons, ih, getElem?_rewind]
    have hv : (⟨k⟩ : VariateId) = v ↔ v.index = k := by
      obtain ⟨v⟩ := v
      simp [eq_comm]
    have htwice : Variate.rewind ∘ Variate.rewind = Variate.rewind := rfl
    by_cases hk : v.index = k <;> by_cases hmem : (⟨k⟩ : VariateId) ∈ vs <;>
      simp [hv, hk, hmem, htwice]

/-- A reset turns back the variates of all sources. -/
lemma getElem?_variates_reset (net : Network) (k : Nat) :
    net.reset.variates[k]? =
      if ⟨k⟩ ∈ net.endpoints.toList.flatMap Endpoint.variates then net.variates[k]?.map Variate.rewind
      else net.variates[k]? := by
  have hstep : (fun (net : Network) (e : Endpoint) => (e.traffic.map net.rewindTraffic).getD net) =
      fun net e => e.variates.foldl rewind net := by
    funext net e
    unfold Endpoint.variates
    cases e.traffic with
    | none => rfl
    | some t =>
      simp only [Option.map_some, Option.getD_some, rewindTraffic]
      cases t.period <;> rfl
  rw [← getElem?_foldl_rewind, List.foldl_flatMap, ← hstep]
  rfl

/-- The variates of a source are turned back by a reset. -/
lemma rewound {k : Nat} {t : Traffic} {v : VariateId} (net : Network) (ht : net.traffic? k = some t)
    (hv : v = t.arrival ∨ t.period = some v) :
    net.reset.variates[v.index]? = net.variates[v.index]?.map Variate.rewind := by
  obtain ⟨e, he, ht⟩ := Option.bind_eq_some_iff.1 ht
  rw [getElem?_variates_reset, if_pos]
  refine List.mem_flatMap.2 ⟨e, Array.mem_toList_iff.2 (Array.mem_of_getElem? he), ?_⟩
  simp only [Endpoint.variates, ht]
  rcases hv with rfl | hp
  · exact List.mem_cons_self
  · exact List.mem_cons_of_mem _ (by simp [hp])

namespace SetUpAlike

/-- The names in two networks when a run starts: posts are counted from then on, and variates correspond
that are drawn from for the same purpose. -/
def naming (h : a.SetUpAlike b) : Naming where
  number := a.scheduler.nextNumber
  number' := b.scheduler.nextNumber
  records := a.recorder.records
  records' := b.recorder.records
  variates := a.Counterparts b
  one_to_one := h.shared

variable (h : a.SetUpAlike b)
include h

/-- Variates that correspond start from the same place of the same law. -/
lemma variates_reset {v v' : VariateId} (hv : a.Counterparts b v v') :
    b.reset.variates[v'.index]? = a.reset.variates[v.index]? := by
  have hlaw := h.laws hv
  obtain ⟨k, t, t', ht, ht', hpair⟩ := hv
  rw [rewound a ht (hpair.imp And.left And.left), rewound b ht' (hpair.imp And.right And.right)]
  have hrewind : Variate.rewind = (fun law => { law }) ∘ Variate.law := rfl
  rw [hrewind, ← Option.map_map, ← Option.map_map, hlaw]

/-- After a reset, sources that are set up alike are twins. -/
lemma traffic_reset {k : Nat} {t t' : Traffic} (ht : a.traffic? k = some t) (ht' : b.traffic? k = some t') :
    Traffic.Twins h.naming { t with produced := 0 } { t' with produced := 0 } := by
  have halike : t.Alike t' := by
    have hk := h.traffic k
    rw [ht, ht'] at hk
    exact Option.rel_some_some.1 hk
  obtain ⟨hdest, hmax, hlength, hperiod⟩ := halike
  refine ⟨t'.arrival, t'.period, by rw [hdest, hmax, hlength], ⟨k, t, t', ht, ht', .inl ⟨rfl, rfl⟩⟩, ?_⟩
  have hcounter : ∀ {v v'}, t.period = some v → t'.period = some v' → a.Counterparts b v v' :=
    fun hv hv' => ⟨k, t, t', ht, ht', .inr ⟨hv, hv'⟩⟩
  show Option.Rel (a.Counterparts b) t.period t'.period
  generalize t.period = p, t'.period = p' at hperiod hcounter
  cases p <;> cases p' <;> simp at hperiod
  · exact .none
  · exact .some (hcounter rfl rfl)

/-- After a reset, endpoints that are set up alike are twins. -/
lemma endpoints_reset (k : Nat) :
    Option.Rel (Endpoint.Twins h.naming) (a.endpoints[k]?.map Endpoint.reset)
      (b.endpoints[k]?.map Endpoint.reset) := by
  rcases Nat.lt_or_ge k a.endpoints.size with hk | hk
  · have hk' : k < b.endpoints.size := h.endpoints ▸ hk
    rw [Array.getElem?_eq_getElem hk, Array.getElem?_eq_getElem hk']
    refine .some ⟨rfl, ?_⟩
    have ht : a.traffic? k = a.endpoints[k].traffic := by simp [traffic?, hk]
    have ht' : b.traffic? k = b.endpoints[k].traffic := by simp [traffic?, hk']
    have hreset : ∀ {t t'}, a.traffic? k = some t → b.traffic? k = some t' →
        Traffic.Twins h.naming { t with produced := 0 } { t' with produced := 0 } := h.traffic_reset
    have hrel := h.traffic k
    simp only [Endpoint.reset, ← ht, ← ht']
    generalize a.traffic? k = x, b.traffic? k = y at hrel hreset
    cases hrel with
    | none => exact .none
    | some _ => exact .some (hreset rfl rfl)
  · rw [Array.getElem?_eq_none hk, Array.getElem?_eq_none (h.endpoints ▸ hk)]
    exact .none

/-- After a reset, radios that are set up alike are twins. -/
lemma radios_reset (k : Nat) :
    Option.Rel (Radio.Twins h.naming) (a.radios[k]?.map fun _ => Radio.powerOn a.timing)
      (b.radios[k]?.map fun _ => Radio.powerOn b.timing) := by
  have hnew : (Radio.powerOn a.timing).Twins h.naming (Radio.powerOn b.timing) := by
    rw [h.timing]
    refine ⟨{}, rfl, fun k => ?_⟩
    rw [Radio.powerOn_get, Timers.get_default]
    exact .none
  rcases Nat.lt_or_ge k a.radios.size with hk | hk
  · rw [Array.getElem?_eq_getElem hk, Array.getElem?_eq_getElem (h.radios ▸ hk)]
    exact .some hnew
  · rw [Array.getElem?_eq_none hk, Array.getElem?_eq_none (h.radios ▸ hk)]
    exact .none

/-- After a reset nothing but names tells networks of the same set-up apart, if their streams are the
same. -/
theorem reset (hs : b.stream = a.stream) : a.reset.Twins h.naming b.reset := by
  have hvariates : ∀ {v v'}, a.Counterparts b v v' →
      b.reset.variates[v'.index]? = a.reset.variates[v.index]? := h.variates_reset
  obtain ⟨va, ha⟩ := reset_eq a
  obtain ⟨vb, hb⟩ := reset_eq b
  rw [ha, hb] at hvariates ⊢
  exact {
    timing := h.timing
    topology := h.topology
    stream := hs
    counters := rfl
    isOn := h.isOn
    recorded := ⟨#[], by simp [naming], by simp [naming]⟩
    scheduler := .reset _ _
    radios := fun k => by
      simp only [Array.getElem?_map]
      exact h.radios_reset k
    endpoints := fun k => by
      simp only [Array.getElem?_map]
      exact h.endpoints_reset k
    variates := hvariates }

/-- The seed of a network is not part of its set-up. -/
lemma reseed (seed : UInt64) : (a.reseed seed).SetUpAlike (b.reseed seed) := { h with }

/-- Networks that are set up alike, and draw from the same stream, start a run alike. -/
lemma initRun (hs : b.stream = a.stream) : TwinReplies h.naming a.initRun b.initRun := by
  unfold Network.initRun
  rw [h.endpoints]
  exact (h.reset hs).startAll _

end SetUpAlike

/-- Runs are isolated: in networks of the same set-up, whatever happened to them before, all calls from a seed
and the start of a run on have the same answers and errors, or halt alike. They leave the same clock and
pending events, the same state of nodes and interfaces, the same stream and counters, and the same new records
of a trace. What may differ are the numbers of posts, by a shift, and the handles of variates. -/
theorem SetUpAlike.runs_isolated (h : a.SetUpAlike b) (seed : UInt64) (fuel : Nat)
    {calls : List (Op × Nat)} (hall : ∀ call ∈ calls, call.1.drives = true) :
    ServedAlike h.naming ((.reseed seed, fuel) :: (.initRun, fuel) :: calls) a b := by
  have hrun : ServedAlike h.naming ((.initRun, fuel) :: calls) (a.reseed seed) (b.reseed seed) :=
    .cons (((h.reseed seed).initRun rfl).andThen fun h => .ok _ h) fun h => h.servedAlike hall
  obtain ⟨hanswers, hlast⟩ := hrun
  have hreseed : ∀ net, Op.serve ((.reseed seed, fuel) :: (.initRun, fuel) :: calls) net =
      (.ok none :: (Op.serve ((.initRun, fuel) :: calls) (net.reseed seed)).1,
        (Op.serve ((.initRun, fuel) :: calls) (net.reseed seed)).2) := fun _ => rfl
  unfold ServedAlike
  rw [hreseed, hreseed, hanswers]
  exact ⟨rfl, hlast⟩

/-- A run that was left in the middle of a frame, and a call that was refused, leave no trace in the next run:
it is the first run of a new network. -/
theorem interrupted_run_forgotten : ∃ a b : Network,
    (Op.serve (Op.fueled 100 (Op.pair ++ [.startTrace, .initRun, .runTo 550, .produce ⟨1⟩]))
        (.new {} 7 [.sequence #[5, 9]])).2 = .ok a ∧
      (Op.serve (Op.fueled 100 (Op.pair ++ [.startTrace])) (.new {} 7 [.sequence #[5, 9]])).2 = .ok b ∧
      a.Reachable ∧ b.Reachable ∧ a.scheduler.isEmpty = false ∧ a.scheduler.nextNumber ≠ b.scheduler.nextNumber ∧
      (Op.serve (Op.fueled 100 [.reseed 3, .initRun, .runUntilIdle, .step]) a).1 =
        [.ok none, .ok none, .ok (some 565), .error (.scheduler .noMoreEvents)] ∧
      ∃ h : a.SetUpAlike b,
        ServedAlike h.naming (Op.fueled 100 [.reseed 3, .initRun, .runUntilIdle, .step]) a b := by
  have hend : ((Op.serve (Op.fueled 100 (Op.pair ++ [.startTrace, .initRun, .runTo 550, .produce ⟨1⟩]))
        (.new {} 7 [.sequence #[5, 9]])).2 >>= fun a =>
      (Op.serve (Op.fueled 100 (Op.pair ++ [.startTrace])) (.new {} 7 [.sequence #[5, 9]])).2 >>= fun b =>
        .ok (decide (a.scheduler.isEmpty = false ∧ a.scheduler.nextNumber ≠ b.scheduler.nextNumber ∧
          (Op.serve (Op.fueled 100 [.reseed 3, .initRun, .runUntilIdle, .step]) a).1 =
            [.ok none, .ok none, .ok (some 565), .error (.scheduler .noMoreEvents)] ∧
          b.timing = a.timing ∧ b.topology = a.topology ∧ b.radios.size = a.radios.size ∧
          b.endpoints.map Endpoint.reset = a.endpoints.map Endpoint.reset ∧
          b.variates.map Variate.law = a.variates.map Variate.law ∧
          b.recorder.isOn = a.recorder.isOn))) = .ok true := by
    decide +kernel
  simp only [bind_eq_ok] at hend
  obtain ⟨a, ha, b, hb, htest⟩ := hend
  obtain ⟨hpending, hnumber, hanswers, htiming, htopology, hradios, hendpoints, hlaws, hon⟩ :=
    of_decide_eq_true (Except.ok.inj htest)
  have h : a.SetUpAlike b := .of_eq htiming htopology hradios hendpoints hlaws hon
  obtain ⟨log, hrun⟩ := Run.of_serve .start ha
  obtain ⟨log', hrun'⟩ := Run.of_serve .start hb
  exact ⟨a, b, ha, hb, ⟨_, _, _, log, hrun⟩, ⟨_, _, _, log', hrun'⟩, hpending, hnumber, hanswers, h,
    h.runs_isolated 3 100 (by simp [Op.drives])⟩

end Network

end CarrierSense
