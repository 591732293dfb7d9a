import CarrierSense.Network.Report
import CarrierSense.Proofs.Outcome
import CarrierSense.Proofs.Radio.Handles
import CarrierSense.Proofs.Scheduler.Renumbered

/-!
# Networks that do the same

Two networks are `Twins` if nothing tells them apart but names: the numbers of posts, the handles of
variates, and what had been recorded before. A `Naming` says which names correspond. Everything that one
of two twins does, the other does too: they halt alike, they give the same answers, and they stay twins.
-/

namespace CarrierSense

/-- What may differ between two networks: the numbers from which posts are counted, the records of earlier
traces, and the handles of variates, as long as the same ones are shared. -/
structure Naming where
  number : Nat
  number' : Nat
  records : Array TraceRecord
  records' : Array TraceRecord
  variates : VariateId → VariateId → Prop
  one_to_one : ∀ {v v' u u'}, variates v v' → variates u u' → (v = u ↔ v' = u')

/-- The same timers are set. -/
def Timers.Twins (c : Naming) (t t' : Timers) : Prop :=
  ∀ k, Option.Rel (EventId.Renumbered c.number c.number') (t.get k) (t'.get k)

/-- Two radios differ in the handles of their timers only. -/
def Radio.Twins (c : Naming) (r r' : Radio) : Prop :=
  ∃ timers, r' = { r with timers } ∧ r.timers.Twins c timers

/-- Two radios that differ in the handles of their timers ask for the same effects. -/
structure Turn.Twins (c : Naming) (t t' : Turn) : Prop where
  radio : t.radio.Twins c t'.radio
  effects : t'.effects = t.effects

/-- Two sources differ in the handles of their variates only. -/
def Traffic.Twins (c : Naming) (t t' : Traffic) : Prop :=
  ∃ arrival period, t' = { t with arrival, period } ∧ c.variates t.arrival arrival ∧
    Option.Rel c.variates t.period period

/-- Two endpoints have consumed as much, and differ in the handles of their variates only. -/
structure Endpoint.Twins (c : Naming) (e e' : Endpoint) : Prop where
  consumed : e'.consumed = e.consumed
  traffic : Option.Rel (Traffic.Twins c) e.traffic e'.traffic

/-- Two networks differ in names only. -/
structure Network.Twins (c : Naming) (a b : Network) : Prop where
  timing : b.timing = a.timing
  topology : b.topology = a.topology
  stream : b.stream = a.stream
  counters : b.counters = a.counters
  isOn : b.recorder.isOn = a.recorder.isOn
  recorded : ∃ new, a.recorder.records = c.records ++ new ∧ b.recorder.records = c.records' ++ new
  scheduler : a.scheduler.Renumbered c.number c.number' b.scheduler
  radios : ∀ k : Nat, Option.Rel (Radio.Twins c) a.radios[k]? b.radios[k]?
  endpoints : ∀ k : Nat, Option.Rel (Endpoint.Twins c) a.endpoints[k]? b.endpoints[k]?
  variates : ∀ {v v'}, c.variates v v' → b.variates[v'.index]? = a.variates[v.index]?

/-- Two operations halt alike, or they give the same answer and leave twins behind. -/
inductive TwinReplies {α : Type} (c : Naming) : Except Halt (Reply α) → Except Halt (Reply α) → Prop where
  | error (halt : Halt) : TwinReplies c (.error halt) (.error halt)
  | ok {a b : Network} (answer : Except NetworkError α) (h : a.Twins c b) :
    TwinReplies c (.ok (answer, a)) (.ok (answer, b))

variable {α β : Type} {c : Naming}

namespace TwinReplies

variable {x y : Except Halt (Reply α)}

/-- Two operations stay alike behind computations that agree. -/
lemma bind {γ δ : Type} {P : γ → δ → Prop} {u : Except Halt γ} {v : Except Halt δ}
    {f : γ → Except Halt (Reply α)} {g : δ → Except Halt (Reply α)} (h : Agree P u v)
    (hf : ∀ {p q}, P p q → TwinReplies c (f p) (g q)) : TwinReplies c (u >>= f) (v >>= g) := by
  cases h with
  | error halt => exact .error halt
  | ok h => exact hf h

/-- Two operations that begin in the same way. -/
lemma bind_same {γ : Type} {u : Except Halt γ} {f g : γ → Except Halt (Reply α)}
    (hf : ∀ p, TwinReplies c (f p) (g p)) : TwinReplies c (u >>= f) (u >>= g) := by
  cases u with
  | error halt => exact .error halt
  | ok p => exact hf p

/-- The same branch is taken. -/
lemma ite {p q : Prop} [Decidable p] [Decidable q] {x' y' : Except Halt (Reply α)} (hpq : p ↔ q)
    (hx : TwinReplies c x y) (hy : TwinReplies c x' y') :
    TwinReplies c (if p then x else x') (if q then y else y') := by
  simp only [hpq]
  split
  · exact hx
  · exact hy

/-- Operations in a row are alike if both are. -/
lemma andThen {f g : α → Network → Except Halt (Reply β)} (h : TwinReplies c x y)
    (hf : ∀ {answer a b}, a.Twins c b → TwinReplies c (f answer a) (g answer b)) :
    TwinReplies c (andThen x f) (andThen y g) := by
  cases h with
  | error halt => exact .error halt
  | ok answer h =>
    cases answer with
    | error e => exact .ok _ h
    | ok value => exact hf h

end TwinReplies

/-- A place of an array that is there takes the new value. -/
lemma getElem?_setIfInBounds_eq_map (xs : Array α) (i : Nat) (x : α) (k : Nat) :
    (xs.setIfInBounds i x)[k]? = if i = k then xs[k]?.map fun _ => x else xs[k]? := by
  rw [Array.getElem?_setIfInBounds]
  split
  · rename_i hk
    subst hk
    by_cases hi : i < xs.size <;> simp [hi]
  · rfl

/-- Two arrays stay alike if the same place is changed in both. -/
lemma rel_setIfInBounds {P : α → β → Prop} {xs : Array α} {ys : Array β} {x : α} {y : β}
    (h : ∀ k : Nat, Option.Rel P xs[k]? ys[k]?) (hxy : P x y) (i k : Nat) :
    Option.Rel P (xs.setIfInBounds i x)[k]? (ys.setIfInBounds i y)[k]? := by
  rw [getElem?_setIfInBounds_eq_map, getElem?_setIfInBounds_eq_map]
  split
  · have hk := h k
    generalize xs[k]? = x', ys[k]? = y' at hk
    cases hk with
    | none => exact .none
    | some _ => exact .some hxy
  · exact h k

/-- Arrays that are alike look the same to everything that does not tell their members apart. -/
lemma map_eq_of_rel {γ : Type} {P : α → β → Prop} {xs : Array α} {ys : Array β} {f : α → γ} {g : β → γ}
    (h : ∀ k : Nat, Option.Rel P xs[k]? ys[k]?) (hfg : ∀ {x y}, P x y → g y = f x) :
    ys.toList.map g = xs.toList.map f := by
  refine List.ext_getElem? fun k => ?_
  have hk := h k
  rw [List.getElem?_map, List.getElem?_map, Array.getElem?_toList, Array.getElem?_toList]
  generalize xs[k]? = x, ys[k]? = y at hk
  cases hk with
  | none => rfl
  | some hxy => exact congrArg some (hfg hxy)

/-- The same timer may be set in both, with handles that correspond. -/
lemma Timers.Twins.set {t t' : Timers} {k : Timer} {id id' : Option EventId} (h : t.Twins c t')
    (hid : Option.Rel (EventId.Renumbered c.number c.number') id id') : (t.set k id).Twins c (t'.set k id') := by
  intro l
  rw [get_set, get_set]
  split
  · exact hid
  · exact h l

/-- A timer is set in both of two radios or in none. -/
lemma Timers.Twins.isSome {t t' : Timers} (h : t.Twins c t') (k : Timer) :
    (t'.get k).isSome = (t.get k).isSome := by
  have hk := h k
  generalize t.get k = id, t'.get k = id' at hk
  cases hk <;> rfl

/-- A turn of a twin begins as a turn of the radio itself, but for the handles of its timers. -/
lemma Turn.Twins.start {r r' : Radio} (h : r.Twins c r') :
    ∃ timers, r.timers.Twins c timers ∧ ({ radio := r' } : Turn) = ({ radio := r } : Turn).withTimers timers := by
  obtain ⟨timers, rfl, ht⟩ := h
  exact ⟨timers, ht, rfl⟩

/-- A move that does not read handles is the same for two twins. -/
lemma Radio.Blind.twins {move : Turn → Turn} {r r' : Radio} (hm : Blind move) (h : r.Twins c r') :
    (move { radio := r }).Twins c (move { radio := r' }) := by
  obtain ⟨timers, ht, hr⟩ := Turn.Twins.start h
  rw [hr, hm { radio := r } timers (ht.isSome .backoff)]
  refine ⟨⟨timers, rfl, ?_⟩, rfl⟩
  rw [hm.timers_eq]
  exact ht

/-- Twins have produced as many frames. -/
lemma Endpoint.Twins.produced {e e' : Endpoint} (h : e.Twins c e') : e'.produced = e.produced := by
  have ht := h.traffic
  unfold Endpoint.produced
  generalize e.traffic = t, e'.traffic = t' at ht
  cases ht with
  | none => rfl
  | some ht =>
    obtain ⟨arrival, period, rfl, -, -⟩ := ht
    rfl

/-- The variates for the next delay correspond. -/
lemma Traffic.Twins.nextDelay {t t' : Traffic} (h : t.Twins c t') : c.variates t.nextDelay t'.nextDelay := by
  obtain ⟨arrival, period, rfl, ha, hp⟩ := h
  unfold Traffic.nextDelay
  generalize t.period = p at hp
  cases hp with
  | none => exact ha
  | some hp => exact hp

namespace Network

variable {a b : Network} {i : InterfaceId} {n : NodeId}

namespace Twins

/-- The clocks of twins stand at the same time. -/
lemma now (h : a.Twins c b) : b.now = a.now := h.scheduler.now

/-- Twins have twin radios. -/
lemma radio (h : a.Twins c b) (i : InterfaceId) : Agree (Radio.Twins c) (a.radio i) (b.radio i) := by
  have hi := h.radios i.index
  unfold Network.radio
  generalize a.radios[i.index]? = r, b.radios[i.index]? = r' at hi
  cases hi with
  | none => exact .error _
  | some hr => exact .ok hr

/-- Twins have twin endpoints. -/
lemma endpoint (h : a.Twins c b) (n : NodeId) : Agree (Endpoint.Twins c) (a.endpoint n) (b.endpoint n) := by
  have hn := h.endpoints n.index
  unfold Network.endpoint
  generalize a.endpoints[n.index]? = e, b.endpoints[n.index]? = e' at hn
  cases hn with
  | none => exact .error _
  | some he => exact .ok he

/-- Twins stay twins with a radio changed alike in both. -/
lemma setRadio {r r' : Radio} (h : a.Twins c b) (hr : r.Twins c r') :
    (a.setRadio i r).Twins c (b.setRadio i r') where
  __ := h
  radios := rel_setIfInBounds h.radios hr i.index

/-- Twins stay twins with an endpoint changed alike in both. -/
lemma setEndpoint {e e' : Endpoint} (h : a.Twins c b) (he : e.Twins c e') :
    (a.setEndpoint n e).Twins c (b.setEndpoint n e') where
  __ := h
  endpoints := rel_setIfInBounds h.endpoints he n.index

/-- Twins stay twins with schedulers that differ in the numbers of posts only. -/
lemma schedule {s t : Scheduler Event} (h : a.Twins c b) (hs : s.Renumbered c.number c.number' t) :
    { a with scheduler := s }.Twins c { b with scheduler := t } where
  __ := h
  scheduler := hs

/-- Twins stay twins if both count the same. -/
lemma count (h : a.Twins c b) (counter : Counter) :
    { a with counters := a.counters.increment counter }.Twins c
      { b with counters := b.counters.increment counter } where
  __ := h
  counters := congrArg (·.increment counter) h.counters

/-- Twins stay twins if both draw from the same stream. -/
lemma draw (h : a.Twins c b) (stream : Stream) : { a with stream }.Twins c { b with stream } where
  __ := h
  stream := rfl

/-- A change of status is recorded by both or by none. -/
lemma note (h : a.Twins c b) (record : TraceRecord) :
    { a with recorder := a.recorder.note record }.Twins c { b with recorder := b.recorder.note record } where
  __ := h
  isOn := by
    rw [Recorder.isOn_note, Recorder.isOn_note, h.isOn]
  recorded := by
    obtain ⟨new, ha, hb⟩ := h.recorded
    simp only [Recorder.note, h.isOn]
    split
    · exact ⟨new.push record, by simp [ha], by simp [hb]⟩
    · exact ⟨new, ha, hb⟩

/-- Radios of twins find the same setting. -/
lemma setting (h : a.Twins c b) (i : InterfaceId) : b.setting i = a.setting i := by
  simp only [Network.setting, h.topology, h.timing, h.now]

/-- The reports of twins are the same. -/
lemma report (h : a.Twins c b) : b.report = a.report := by
  have hnodes : b.endpoints.toList.map (fun e => (e.produced, e.consumed)) =
      a.endpoints.toList.map fun e => (e.produced, e.consumed) :=
    map_eq_of_rel h.endpoints fun {e e'} he => Prod.ext he.produced he.consumed
  have hinterfaces : b.radios.toList.map (fun r => (r.corrupted, r.status)) =
      a.radios.toList.map fun r => (r.corrupted, r.status) :=
    map_eq_of_rel h.radios fun {r r'} hr => by
      obtain ⟨timers, rfl, -⟩ := hr
      rfl
  have hreport : ∀ net : Network, net.report =
      { endTime := net.now
        nodes := List.zipWith (fun site (p : Nat × Nat) => ⟨site.name, p.1, p.2⟩) net.topology.nodes.toList
          (net.endpoints.toList.map fun e => (e.produced, e.consumed))
        interfaces := List.zipWith (fun iface (p : Nat × Status) => ⟨iface.name, p.1, p.2⟩)
          net.topology.interfaces.toList (net.radios.toList.map fun r => (r.corrupted, r.status))
        counters := net.counters } := fun net => by
    simp only [Network.report, List.zipWith_map_right]
  rw [hreport, hreport, hnodes, hinterfaces, h.topology, h.now, h.counters]

/-- Twins disarm a timer alike. -/
lemma disarm (h : a.Twins c b) (i : InterfaceId) (k : Timer) :
    Agree (Twins c) (a.disarm i k) (b.disarm i k) := by
  unfold Network.disarm
  refine (h.radio i).bind fun {r r'} hr => ?_
  obtain ⟨timers, rfl, ht⟩ := hr
  have hset : (a.setRadio i { r with timers := r.timers.set k none }).Twins c
      (b.setRadio i { r with timers := timers.set k none }) := h.setRadio ⟨_, rfl, ht.set .none⟩
  have hk := ht k
  dsimp only
  generalize r.timers.get k = id, timers.get k = id' at hk
  cases hk with
  | none => exact .ok h
  | some hid => exact .ok (hset.schedule (h.scheduler.drop hid))

/-- Twins arm a timer alike. -/
lemma arm (h : a.Twins c b) (i : InterfaceId) (k : Timer) (time : Nat) :
    TwinReplies c (a.arm i k time) (b.arm i k time) := by
  unfold Network.arm
  refine .bind_same fun time => .bind (h.disarm i k) fun {a b} h => ?_
  have hpost := h.scheduler.post time (.timer i k)
  generalize a.scheduler.post time (.timer i k) = x, b.scheduler.post time (.timer i k) = y at hpost
  cases hpost with
  | error e => exact .ok _ h
  | ok hp =>
    refine .bind (h.radio i) fun {r r'} hr => ?_
    obtain ⟨timers, rfl, ht⟩ := hr
    exact .ok _ ((h.schedule hp.2).setRadio ⟨_, rfl, ht.set (.some hp.1)⟩)

/-- Twins hand a frame to its node alike. -/
lemma put (h : a.Twins c b) (n : NodeId) : Agree (Twins c) (a.put n) (b.put n) := by
  unfold Network.put
  refine (h.endpoint n).bind fun {e e'} he => ?_
  have hset : (a.setEndpoint n { e with consumed := e.consumed + 1 }).Twins c
      (b.setEndpoint n { e' with consumed := e'.consumed + 1 }) :=
    h.setEndpoint ⟨congrArg (· + 1) he.consumed, he.traffic⟩
  exact .ok (hset.count .delivered)

/-- Posts to both schedulers that are answered alike leave twins behind. -/
lemma withPost {x y : Except SchedulerError (EventId × Scheduler Event)} (h : a.Twins c b)
    (hp : Agree (fun x y => x.1.Renumbered c.number c.number' y.1 ∧
      x.2.Renumbered c.number c.number' y.2) x y) : TwinReplies c (a.withPost x) (b.withPost y) := by
  cases hp with
  | error e => exact .ok _ h
  | ok hp => exact .ok _ (h.schedule hp.2)

/-- Twins take a frame on for another node alike. -/
lemma relay (h : a.Twins c b) (i : InterfaceId) (frame : Frame) :
    TwinReplies c (a.relay i frame) (b.relay i frame) :=
  (h.count .forwarded).withPost (h.scheduler.postAfter 0 _)

/-- Twins carry out an effect alike. -/
lemma perform (h : a.Twins c b) (w : Setting) (e : Effect) :
    TwinReplies c (a.perform w e) (b.perform w e) := by
  cases e with
  | report status =>
    unfold Network.perform
    rw [show b.topology.interface w.self = a.topology.interface w.self by rw [h.topology]]
    exact .bind_same fun iface => .ok _ (h.note _)
  | count counter => exact .ok _ (h.count counter)
  | arm timer time => exact h.arm w.self timer time
  | disarm timer => exact .bind (h.disarm w.self timer) fun h => .ok _ h
  | deliver frame => exact .bind (h.put w.home) fun h => .ok _ h
  | relay frame => exact h.relay w.self frame

/-- Twins carry out effects in a row alike, by induction over them. -/
lemma performAll (h : a.Twins c b) (w : Setting) (es : List Effect) :
    TwinReplies c (a.performAll w es) (b.performAll w es) := by
  induction es generalizing a b with
  | nil => exact .ok _ h
  | cons e es ih => exact (h.perform w e).andThen fun h => ih h

/-- Twins carry out turns alike that differ in the handles of timers only. -/
lemma settle {t t' : Turn} (h : a.Twins c b) (w : Setting) (ht : t.Twins c t') :
    TwinReplies c (a.settle w t) (b.settle w t') := by
  unfold Network.settle
  rw [ht.effects]
  exact (h.setRadio ht.radio).performAll w t.effects

/-- Twins do alike whatever does not look at the handles of timers. -/
lemma act {move : Setting → Turn → Turn} (h : a.Twins c b) (i : InterfaceId)
    (hm : ∀ w, Radio.Blind (move w)) : TwinReplies c (a.act i move) (b.act i move) := by
  unfold Network.act
  refine .bind (h.radio i) fun hr => ?_
  rw [h.setting]
  exact .bind_same fun w => h.settle w (Radio.Blind.twins (hm w) hr)

/-- A frame reaches the same radio of twins alike. -/
lemma receive (h : a.Twins c b) (i : InterfaceId) (frame : Frame) :
    TwinReplies c (a.receive i frame) (b.receive i frame) :=
  h.act i fun _ _ _ ht => Radio.receive_withTimers frame ht

/-- A frame reaches the members of a medium alike, by induction over them. -/
lemma receiveAll (h : a.Twins c b) (frame : Frame) (members : List InterfaceId) :
    TwinReplies c (a.receiveAll frame members) (b.receiveAll frame members) := by
  induction members generalizing a b with
  | nil => exact .ok _ h
  | cons i rest ih => exact (h.receive i frame).andThen fun h => ih h

/-- Twins put a frame on the air alike. -/
lemma broadcast (h : a.Twins c b) (i : InterfaceId) (frame : Frame) :
    TwinReplies c (a.broadcast i frame) (b.broadcast i frame) := by
  unfold Network.broadcast
  rw [h.topology]
  exact .bind_same fun medium => h.receiveAll frame medium.members

/-- Twins draw the same countdown. -/
lemma contend (h : a.Twins c b) (i : InterfaceId) : TwinReplies c (a.contend i) (b.contend i) := by
  unfold Network.contend
  refine .bind (h.radio i) fun {r r'} hr => ?_
  obtain ⟨timers, rfl, -⟩ := hr
  rw [h.stream]
  generalize a.stream.between32 1 (max r.window 1) = drawn
  obtain ⟨length, stream⟩ := drawn
  exact (h.draw stream).act i fun _ _ _ _ => Radio.beginCountdown_withTimers length

/-- What follows a turn is the same for twins. -/
lemma follow (h : a.Twins c b) (i : InterfaceId) (q : Sequel) :
    TwinReplies c (a.follow i q) (b.follow i q) := by
  cases q with
  | none => exact .ok _ h
  | contend => exact h.contend i
  | transmit frame => exact h.broadcast i frame

/-- The same timer runs out alike in twins. -/
lemma expire (h : a.Twins c b) (i : InterfaceId) (k : Timer) :
    TwinReplies c (a.expire i k) (b.expire i k) := by
  have hgo : TwinReplies c
      (do
        let radio ← a.radio i
        let w ← a.setting i
        andThen (a.settle w (Radio.expire w { radio } k).1) fun _ net =>
          net.follow i (Radio.expire w { radio } k).2)
      (do
        let radio ← b.radio i
        let w ← b.setting i
        andThen (b.settle w (Radio.expire w { radio } k).1) fun _ net =>
          net.follow i (Radio.expire w { radio } k).2) := by
    refine .bind (h.radio i) fun {r r'} hr => ?_
    rw [h.setting]
    refine .bind_same fun w => ?_
    have hmove : Radio.Blind fun t => (Radio.expire w t k).1 := fun t timers _ => by
      simp only [Radio.expire_withTimers, Prod.map_fst]
    have hsequel : (Radio.expire w { radio := r' } k).2 = (Radio.expire w { radio := r } k).2 := by
      obtain ⟨timers, -, hr⟩ := Turn.Twins.start hr
      rw [hr, Radio.expire_withTimers, Prod.map_snd, id_eq]
    rw [hsequel]
    exact (h.settle w (Radio.Blind.twins hmove hr)).andThen fun h => h.follow i _
  unfold Network.expire
  rw [h.timing]
  exact .ite Iff.rfl (.bind_same fun _ => hgo) hgo

/-- Whether there is a route, and where it leads, is a matter of the topology. -/
lemma send (h : a.Twins c b) (i : InterfaceId) (frame : Frame) :
    TwinReplies c (a.send i frame) (b.send i frame) := by
  unfold Network.send
  rw [h.topology]
  refine .bind_same fun hop => ?_
  match hop with
  | .error e => exact .ok _ h
  | .ok none => exact .bind_same fun iface => .bind_same fun target => .ok _ h
  | .ok (some next) =>
    refine .bind (h.radio i) fun {r r'} hr => ?_
    obtain ⟨timers, rfl, ht⟩ := hr
    have hset := h.setRadio (i := i)
      (r := { r with outgoing := r.outgoing ++ [frame.onHop i next] }) ⟨timers, rfl, ht⟩
    exact .ite Iff.rfl (hset.act i fun _ _ _ _ => Radio.trySend_withTimers) (.ok _ hset)

end Twins

end Network

end CarrierSense
