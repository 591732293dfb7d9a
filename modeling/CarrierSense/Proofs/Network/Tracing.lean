import CarrierSense.Proofs.Network.Contention
import CarrierSense.Proofs.Network.Standing
import CarrierSense.Proofs.Radio.Walk

/-!
# What a trace tells

A trace that is on from the start of a run records each status that is entered, under the name of the
interface and with the tick at which it is entered. If no two interfaces bear one name, the statuses that
stand under a name are the whole way of that interface, from idle to where it is now, and every step of it is
one that the medium access machine may take (`Run.trace_faithful`).
-/

namespace CarrierSense.Network

variable {net mid net' : Network} {w : Setting} {i j : InterfaceId} {k : Timer} {r : Radio} {t : Turn}
  {f : Frame} {e : Effect} {iface : Interface Float} {new new' : List TraceRecord}
  {result : Except NetworkError Unit}

/-- What has been recorded, in order. -/
def trace (net : Network) : List TraceRecord := net.recorder.records.toList

/-- The statuses that have been recorded under a name, in order. -/
def statusesUnder (net : Network) (name : String) : List Status :=
  (net.trace.filter fun record => record.name = name).map (·.status)

/-- No two interfaces bear one name. -/
def DistinctNames (net : Network) : Prop := (net.topology.interfaces.toList.map Interface.name).Nodup

/-- If names are distinct, then an interface is known by its name. -/
lemma DistinctNames.unique {a b : Interface Float} (h : net.DistinctNames)
    (ha : net.topology.interface i = .ok a) (hb : net.topology.interface j = .ok b) (hname : a.name = b.name) :
    i = j := by
  have ha := Topology.interface_eq_ok.1 ha
  have hb := Topology.interface_eq_ok.1 hb
  have hlt := (Array.getElem?_eq_some_iff.1 ha).1
  have hindex : i.index = j.index := by
    apply (List.getElem?_inj _ h).1
    · rw [List.getElem?_map, List.getElem?_map, Array.getElem?_toList, Array.getElem?_toList, ha, hb]
      show some a.name = some b.name
      rw [hname]
    · rw [List.length_map, Array.length_toList]
      exact hlt
  cases i
  cases j
  cases hindex
  rfl

/-- If the trace is on, it is still on, and has been continued by `new`. -/
def Writes (net : Network) (new : List TraceRecord) (net' : Network) : Prop :=
  net.recorder.isOn = true → net'.recorder.isOn = true ∧ net'.trace = net.trace ++ new

/-- Nothing is written where the recorder stays as it is. -/
lemma Writes.nothing (h : net'.recorder = net.recorder) : net.Writes [] net' := by
  intro hon
  rw [trace, trace, h, List.append_nil]
  exact ⟨hon, rfl⟩

/-- What is written in two parts is written in a row. -/
lemma Writes.trans (h : net.Writes new mid) (h' : mid.Writes new' net') : net.Writes (new ++ new') net' := by
  intro hon
  obtain ⟨hmid, htrace⟩ := h hon
  obtain ⟨hleft, htrace'⟩ := h' hmid
  rw [htrace', htrace, List.append_assoc]
  exact ⟨hleft, rfl⟩

/-- To disarm a timer leaves the recorder alone. -/
lemma disarm_recorder (h : net.disarm i k = .ok net') : net'.recorder = net.recorder := by
  obtain ⟨r, -, h⟩ := bind_eq_ok.1 h
  split at h <;> cases h <;> rfl

/-- To arm a timer leaves the recorder alone. -/
lemma arm_recorder {time : Nat} (h : net.arm i k time = .ok (result, net')) :
    net'.recorder = net.recorder := by
  simp only [arm, bind_eq_ok] at h
  obtain ⟨_, -, mid, hd, h⟩ := h
  rw [← disarm_recorder hd]
  split at h
  · cases h
    rfl
  · obtain ⟨r, -, h⟩ := bind_eq_ok.1 h
    cases h
    rfl

/-- A post leaves the recorder alone. -/
lemma withPost_recorder {post : Except SchedulerError (EventId × Scheduler Event)}
    (h : net.withPost post = .ok (result, net')) : net'.recorder = net.recorder := by
  unfold withPost at h
  split at h <;> cases h <;> rfl

/-- What the effects of an interface leave in the trace. -/
def records (w : Setting) (iface : Interface Float) (statuses : List Status) : List TraceRecord :=
  statuses.map fun status => { time := w.now, name := iface.name, status }

/-- Records bear the time of the clock, and the name of the interface. -/
lemma mem_records {iface : Interface Float} {statuses : List Status} {record : TraceRecord}
    (h : record ∈ records w iface statuses) : record.time = w.now ∧ record.name = iface.name := by
  obtain ⟨status, -, rfl⟩ := List.mem_map.1 h
  exact ⟨rfl, rfl⟩

/-- Under each name stands what its own interface has left, and nothing of the others. -/
lemma statusesUnder_append {iface : Interface Float} {statuses : List Status}
    (h : net'.trace = net.trace ++ records w iface statuses) (name : String) :
    net'.statusesUnder name = net.statusesUnder name ++ if iface.name = name then statuses else [] := by
  unfold statusesUnder
  rw [h, List.filter_append, List.map_append]
  split
  · rename_i hname
    have hall : (records w iface statuses).filter (fun record => record.name = name) = records w iface statuses :=
      List.filter_eq_self.2 fun record hmem => decide_eq_true ((mem_records hmem).2.trans hname)
    rw [hall]
    simp [records, Function.comp_def]
  · rename_i hname
    have hnone : (records w iface statuses).filter (fun record => record.name = name) = [] :=
      List.filter_eq_nil_iff.2 fun record hmem hrecord =>
        hname ((mem_records hmem).2.symm.trans (of_decide_eq_true hrecord))
    rw [hnone]
    rfl

/-- An effect that reports a status is recorded, and no other. -/
lemma perform_writes (hi : net.topology.interface w.self = .ok iface)
    (hp : net.perform w e = .ok (result, net')) : net.Writes (records w iface e.reported?.toList) net' := by
  cases e with
  | report status =>
    simp only [perform, hi, ok_bind, pure_eq_ok] at hp
    cases hp
    intro hon
    show (net.recorder.note _).isOn = true ∧ (net.recorder.note _).records.toList = _
    rw [Recorder.isOn_note, Recorder.records_note hon]
    exact ⟨hon, Array.toList_push ..⟩
  | count counter =>
    cases hp
    exact .nothing rfl
  | arm timer time => exact .nothing (arm_recorder hp)
  | disarm timer =>
    obtain ⟨mid, hd, hp⟩ := bind_eq_ok.1 hp
    cases hp
    exact .nothing (disarm_recorder hd)
  | deliver frame =>
    obtain ⟨mid, hd, hp⟩ := bind_eq_ok.1 hp
    cases hp
    obtain ⟨x, -, rfl⟩ := put_eq_ok hd
    exact .nothing rfl
  | relay frame =>
    have hpost : net'.recorder = { net with counters := net.counters.increment .forwarded }.recorder :=
      withPost_recorder hp
    exact .nothing hpost

/-- Effects write what they report, in order. -/
lemma performAll_writes {es : List Effect} (h : net.Coherent) (ho : net.scheduler.OnTime)
    (he : ∀ {k time}, .arm k time ∈ es → net.now ≤ time) (hi : net.topology.interface w.self = .ok iface)
    (hp : net.performAll w es = .ok (result, net')) :
    net.Writes (records w iface (es.filterMap Effect.reported?)) net' := by
  induction es generalizing net with
  | nil =>
    cases hp
    exact .nothing rfl
  | cons e es ih =>
    have hfirst : ∀ {result mid}, net.perform w e = .ok (result, mid) →
        result = .ok () ∧ net.Carried w [e] mid := fun hm =>
      perform_carried h ho (fun {k time} heq => he (List.mem_cons.2 (.inl heq.symm))) hm
    rcases andThen_eq_ok.1 hp with ⟨e', hm, -⟩ | ⟨_, mid, hm, hp⟩
    · exact absurd (hfirst hm).1 (by simp)
    obtain ⟨-, hc⟩ := hfirst hm
    have hrest := ih hc.coherent hc.onTime (fun hmem => hc.now ▸ he (List.mem_cons_of_mem _ hmem))
      (hc.topology ▸ hi) hp
    have hboth := (perform_writes hi hm).trans hrest
    rw [records, records, ← List.map_append] at hboth
    have hsplit : (e :: es).filterMap Effect.reported? =
        e.reported?.toList ++ es.filterMap Effect.reported? := by
      cases hrep : e.reported? <;> simp [hrep]
    rw [hsplit]
    exact hboth

/-- A turn leaves in the trace what it reports. -/
lemma settle_writes (h : net.Coherent) (ho : net.scheduler.OnTime) (hr : net.radio w.self = .ok r)
    (hw : w.now = net.now) (ht : t.Proper w r.timers) (hi : net.topology.interface w.self = .ok iface)
    (hs : net.settle w t = .ok (result, net')) : net.Writes (records w iface t.reported) net' := by
  have hset := (h.setRadio hr ht.timers).1
  have hwrites : (net.setRadio w.self t.radio).Writes (records w iface t.reported) net' :=
    performAll_writes hset ho (fun hmem => hw ▸ ht.punctual hmem) hi hs
  exact hwrites

/-- A frame is counted, and the next production is posted unless it was the last one. -/
lemma countOne_eq_ok {n : NodeId} {x : Endpoint} {traffic : Traffic}
    (hp : net.countOne n x traffic = .ok (result, net')) :
    ∃ y, y = { x with traffic := some { traffic with produced := traffic.produced + 1 } } ∧
      (net' = net.setEndpoint n y ∧ result = .ok () ∨
        ∃ delay mid, (net.setEndpoint n y).drawDelay traffic.nextDelay = .ok (delay, mid) ∧
          mid.withPost (mid.scheduler.postAfter delay (.produce n)) = .ok (result, net')) := by
  refine ⟨_, rfl, ?_⟩
  unfold countOne at hp
  dsimp only at hp
  split at hp
  · cases hp
    exact .inl ⟨rfl, rfl⟩
  · obtain ⟨⟨delay, mid⟩, hd, hp⟩ := bind_eq_ok.1 hp
    exact .inr ⟨delay, mid, hd, hp⟩

/-- The trace is on, its times do not decrease and are not ahead of the clock, it bears names of interfaces
only, and what stands under a name that no two interfaces share leads from idle to the status of the
interface. -/
structure Faithful (net : Network) : Prop where
  isOn : net.recorder.isOn = true
  ordered : net.trace.Pairwise fun a b => a.time ≤ b.time
  past : ∀ record ∈ net.trace, record.time ≤ net.now
  named : ∀ record ∈ net.trace, ∃ i iface, net.topology.interface i = .ok iface ∧ iface.name = record.name
  walks : net.DistinctNames → ∀ {i iface s}, net.topology.interface i = .ok iface → net.statusOf i = some s →
    Status.idle.Walk (net.statusesUnder iface.name) s

namespace Faithful

/-- Nothing is recorded, no interface is added, and no status changes. -/
lemma same (h : net.Faithful) (hrec : net'.recorder = net.recorder) (hnow : net.now ≤ net'.now)
    (hi : net'.topology.interfaces = net.topology.interfaces) (hs : net'.statusOf = net.statusOf) :
    net'.Faithful := by
  have htrace : net'.trace = net.trace := congrArg (·.records.toList) hrec
  have hget : net'.topology.interface = net.topology.interface := by
    funext i
    rw [Topology.interface, hi]
    rfl
  refine ⟨hrec ▸ h.isOn, htrace ▸ h.ordered, ?_, ?_, ?_⟩
  · rw [htrace]
    intro record hmem
    exact Nat.le_trans (h.past record hmem) hnow
  · rw [htrace, hget]
    exact h.named
  · intro hd i iface s hi' hst
    have hd' : net.DistinctNames := by
      unfold DistinctNames at hd
      rw [hi] at hd
      exact hd
    unfold statusesUnder
    rw [htrace]
    exact h.walks hd' (hget ▸ hi') (hs ▸ hst)

/-- A turn whose reports walk on from the status of its radio is faithfully recorded. -/
lemma settled (h : net.Faithful) (hi : net.topology.interface w.self = .ok iface)
    (hr : net.radio w.self = .ok r) (hw : w.now = net.now) (hs : net.Settled w t net')
    (hwrites : net.Writes (records w iface t.reported) net') (hwalk : t.Walks r.status) : net'.Faithful := by
  obtain ⟨hon, htrace⟩ := hwrites h.isOn
  refine ⟨hon, ?_, ?_, ?_, ?_⟩
  · rw [htrace, List.pairwise_append]
    refine ⟨h.ordered, ?_, ?_⟩
    · apply List.pairwise_of_forall_mem_list
      intro a ha b hb
      rw [(mem_records ha).1, (mem_records hb).1]
    · intro a ha b hb
      rw [(mem_records hb).1, hw]
      exact h.past a ha
  · rw [htrace, hs.now]
    intro record hmem
    rcases List.mem_append.1 hmem with hold | hnew
    · exact h.past record hold
    · rw [(mem_records hnew).1, hw]
  · rw [htrace, hs.topology]
    intro record hmem
    rcases List.mem_append.1 hmem with hold | hnew
    · exact h.named record hold
    · exact ⟨w.self, iface, hi, (mem_records hnew).2.symm⟩
  · intro hd j jface s hget hst
    have hd' : net.DistinctNames := by
      unfold DistinctNames at hd
      rw [hs.topology] at hd
      exact hd
    rw [hs.topology] at hget
    rw [statusesUnder_append htrace]
    by_cases hj : j = w.self
    · subst hj
      obtain rfl : iface = jface := Except.ok.inj (hi.symm.trans hget)
      obtain ⟨timers, hself⟩ := hs.radio_self
      rw [statusOf_eq hself] at hst
      cases hst
      rw [if_pos rfl]
      exact (h.walks hd' hi (statusOf_eq hr)).append hwalk
    · -- another interface bears another name
      have hname : iface.name ≠ jface.name := fun hname => hj (hd'.unique hget hi hname.symm)
      have hst' : net.statusOf j = some s := by
        unfold statusOf at hst ⊢
        rw [← hs.radio_other hj]
        exact hst
      rw [if_neg hname, List.append_nil]
      exact h.walks hd' hget hst'

/-- A turn of a radio, from what the radio knows. -/
lemma settle (h : net.Faithful) (hc : net.Coherent) (ho : net.scheduler.OnTime) (hr : net.radio i = .ok r)
    (hw : net.setting i = .ok w) (ht : t.Proper w r.timers) (hwalk : t.Walks r.status)
    (hs : net.settle w t = .ok (result, net')) : net.Settled w t net' ∧ net'.Faithful := by
  obtain rfl := setting_self hw
  obtain ⟨iface, hi, -⟩ := setting_eq_ok.1 hw
  have hnow := setting_now hw
  obtain ⟨-, hsettled⟩ := settle_settled hc ho hr hnow ht hs
  have hwrites := settle_writes hc ho hr hnow ht hi hs
  exact ⟨hsettled, h.settled hi hr hnow hsettled hwrites hwalk⟩

/-- What a radio does leaves a faithful trace. -/
lemma act {move : Setting → Turn → Turn} (h : net.Faithful) (hc : net.Coherent) (ho : net.scheduler.OnTime)
    (hm : ∀ {w r}, (move w { radio := r }).Proper w r.timers)
    (hwalk : ∀ {w r}, net.radio i = .ok r → (move w { radio := r }).Walks r.status)
    (ha : net.act i move = .ok (result, net')) : net'.Faithful := by
  obtain ⟨r, hr, ha⟩ := bind_eq_ok.1 ha
  obtain ⟨w, hw, hs⟩ := bind_eq_ok.1 ha
  exact (h.settle hc ho hr hw hm (hwalk hr) hs).2

/-- A frame that reaches a radio leaves a faithful trace. -/
lemma receive (h : net.Faithful) (hc : net.Coherent) (ho : net.scheduler.OnTime)
    (hr : net.receive i f = .ok (result, net')) : net'.Faithful :=
  h.act hc ho (Radio.receive_proper f (Turn.proper_start _ _))
    (fun _ => Radio.receive_walks f (Turn.walks_start _)) hr

/-- A frame that reaches the members of a medium leaves a faithful trace, by induction over them. -/
lemma receiveAll {members : List InterfaceId} (h : net.Faithful) (hc : net.Coherent)
    (ho : net.scheduler.OnTime) (hr : net.receiveAll f members = .ok (result, net')) : net'.Faithful := by
  induction members generalizing net with
  | nil =>
    cases hr
    exact h
  | cons i rest ih =>
    rcases andThen_eq_ok.1 hr with ⟨e, hm, -⟩ | ⟨_, mid, hm, hr⟩
    · exact absurd (receive_settled hc ho hm).1 (by simp)
    · obtain ⟨-, s, w, -, -, hs⟩ := receive_settled hc ho hm
      exact ih (h.receive hc ho hm) hs.coherent hs.onTime hr

/-- A frame that is put on the air leaves a faithful trace. -/
lemma broadcast (h : net.Faithful) (hc : net.Coherent) (ho : net.scheduler.OnTime)
    (hb : net.broadcast i f = .ok (result, net')) : net'.Faithful := by
  obtain ⟨medium, -, hr⟩ := bind_eq_ok.1 hb
  exact h.receiveAll hc ho hr

/-- A countdown is taken up from a status that it may follow. -/
lemma contend (h : net.Faithful) (hc : net.Coherent) (ho : net.scheduler.OnTime)
    (hs : ∀ {r}, net.radio i = .ok r → .waitingForBackoff ∈ r.status.successors)
    (hb : net.contend i = .ok (result, net')) : net'.Faithful := by
  obtain ⟨r, -, hb⟩ := bind_eq_ok.1 hb
  generalize net.stream.between32 1 (max r.window 1) = draw at hb
  obtain ⟨length, stream⟩ := draw
  have h' : Faithful { net with stream } := h.same rfl (Nat.le_refl _) rfl rfl
  have hc' : Coherent { net with stream } := ⟨hc.filed, hc.slot, hc.kept⟩
  exact h'.act hc' ho (Radio.beginCountdown_proper length (Turn.proper_start _ _))
    (fun hr => Radio.beginCountdown_walks length (Turn.walks_start _) (hs hr)) hb

/-- Whatever timer of a sound radio runs out, what follows is faithfully recorded. -/
lemma expire {d : Alarms} (h : net.Faithful) (hc : net.Coherent) (ho : net.scheduler.OnTime)
    (hd : ∀ {r}, net.radio i = .ok r → r.Sound d) (hk : (d k).isSome)
    (he : net.expire i k = .ok (result, net')) : net'.Faithful := by
  obtain ⟨r, w, hr, hw, he⟩ := expire_eq_ok he
  have hproper := Radio.expire_proper (w := w) k (Turn.proper_start w r)
  have hmove := Radio.expire_walks (w := w) (hd hr) hk
  generalize Radio.expire w { radio := r } k = m at he hproper hmove
  rcases andThen_eq_ok.1 he with ⟨e, hs, -⟩ | ⟨_, mid, hs, hf⟩
  · exact (h.settle hc ho hr hw hproper hmove.walks hs).2
  obtain ⟨hsettled, hmid⟩ := h.settle hc ho hr hw hproper hmove.walks hs
  obtain rfl := setting_self hw
  obtain ⟨timers, hself⟩ := hsettled.radio_self
  cases hq : m.2 with
  | none =>
    rw [hq] at hf
    cases hf
    exact hmid
  | contend =>
    rw [hq] at hf
    apply hmid.contend hsettled.coherent hsettled.onTime _ hf
    intro r' hr'
    rw [hself] at hr'
    cases hr'
    exact hmove.contends hq
  | transmit frame =>
    rw [hq] at hf
    exact hmid.broadcast hsettled.coherent hsettled.onTime hf

/-- A trace stays faithful while radios keep their statuses. -/
lemma setRadio {r' : Radio} (h : net.Faithful) (hr : net.radio i = .ok r) (hs : r'.status = r.status) :
    (net.setRadio i r').Faithful := by
  refine h.same rfl (Nat.le_refl _) rfl ?_
  funext j
  by_cases hj : j = i
  · subst hj
    rw [statusOf_eq (radio_setRadio_self hr r'), statusOf_eq hr, hs]
  · unfold statusOf
    rw [radio_setRadio_ne hj]

/-- A frame that is sent leaves a faithful trace. -/
lemma send (h : net.Faithful) (hc : net.Coherent) (ho : net.scheduler.OnTime)
    (hs : net.send i f = .ok (result, net')) : net'.Faithful := by
  rcases send_eq_ok hs with ⟨rfl, -⟩ | ⟨next, r, mid, -, hr, rfl, hs⟩
  · exact h
  have hqueued : (net.setRadio i { r with outgoing := r.outgoing ++ [f.onHop i next] }).Faithful :=
    h.setRadio hr rfl
  split at hs
  · rename_i hidle
    have hself := radio_setRadio_self hr { r with outgoing := r.outgoing ++ [f.onHop i next] }
    have htimers : { r with outgoing := r.outgoing ++ [f.onHop i next] }.timers = r.timers := rfl
    refine hqueued.act (hc.setRadio hr htimers).1 ho (Radio.trySend_proper (Turn.proper_start _ _)) ?_ hs
    intro w r' hr'
    rw [hself] at hr'
    cases hr'
    apply Radio.trySend_walks (Turn.walks_start _)
    · exact .inl hidle
    · show _ ∈ r.status.successors
      rw [hidle]
      decide
  · cases hs
    exact hqueued

/-- A trace stays faithful through posts, which do not move the clock. -/
lemma withPost {post : Except SchedulerError (EventId × Scheduler Event)} (h : net.Faithful)
    (hnow : ∀ {id scheduler}, post = .ok (id, scheduler) → scheduler.now = net.now)
    (hp : net.withPost post = .ok (result, net')) : net'.Faithful := by
  unfold Network.withPost at hp
  split at hp
  · cases hp
    exact h
  · cases hp
    exact h.same rfl (Nat.le_of_eq (hnow rfl).symm) rfl rfl

/-- A frame that is produced leaves a faithful trace. -/
lemma produce {n : NodeId} (h : net.Faithful) (hc : net.Coherent) (ho : net.scheduler.OnTime)
    (hp : net.produce n = .ok (result, net')) : net'.Faithful := by
  rcases produce_eq_ok hp with ⟨rfl, -⟩ | ⟨site, x, traffic, i, stream, f, -, -, -, -, -, -, hp⟩
  · exact h
  have h' : Faithful { net with stream } := h.same rfl (Nat.le_refl _) rfl rfl
  have hc' : Coherent { net with stream } := ⟨hc.filed, hc.slot, hc.kept⟩
  rcases andThen_eq_ok.1 hp with ⟨e, hs, -⟩ | ⟨_, mid, hs, hp⟩
  · exact h'.send hc' ho hs
  have hmid := h'.send hc' ho hs
  obtain ⟨y, -, ⟨rfl, -⟩ | ⟨delay, drawn, hd, hp⟩⟩ := countOne_eq_ok hp
  · exact hmid.same rfl (Nat.le_refl _) rfl rfl
  · obtain ⟨-, variates, moved, rfl⟩ := drawDelay_eq_ok hd
    have hdrawn : Faithful { mid.setEndpoint n y with variates, stream := moved } :=
      hmid.same rfl (Nat.le_refl _) rfl rfl
    refine hdrawn.withPost ?_ hp
    intro id scheduler hpost
    exact Scheduler.now_post hpost

/-- A trace stays faithful when the clock moves on. -/
lemma advanceTo (h : net.Faithful) (time : Nat) :
    Faithful { net with scheduler := net.scheduler.advanceTo time } := by
  refine h.same rfl ?_ rfl rfl
  show net.scheduler.now ≤ (net.scheduler.advanceTo time).now
  rw [Scheduler.now_advanceTo]
  exact Nat.le_max_left _ _

/-- Taking an event out of the scheduler leaves no trace. -/
lemma popped {id : EventId} {event : Event} {scheduler : Scheduler Event} (h : net.Faithful)
    (hnow : mid.now = net.now) (hc : { net with scheduler }.clearTimer id event = .ok mid) : mid.Faithful := by
  rcases clearTimer_eq_ok hc with rfl | ⟨i, k, r, hr, rfl⟩
  · exact h.same rfl (Nat.le_of_eq hnow.symm) rfl rfl
  · have h' : Faithful { net with scheduler } := h.same rfl (Nat.le_of_eq hnow.symm) rfl rfl
    exact h'.setRadio hr rfl

/-- Whatever event fires, the trace stays faithful. -/
theorem fires {m : Moment} (h : net.Faithful) (hn : net.Sound) (hf : net.Fires m result) :
    m.after.Faithful := by
  have hnow := (hn.fires_now hf).1
  obtain ⟨id, event, scheduler, hp, hc, -, hfire⟩ := hf
  have hbefore := h.popped hnow hc
  cases event with
  | timer i k =>
    obtain ⟨hal, hcoh, hon, -, -, hself⟩ := hn.pop_timer hp hc
    have hk : (net.alarms i k).isSome := by
      rw [hal]
      rfl
    refine hbefore.expire hcoh hon ?_ hk hfire
    intro r hr
    obtain ⟨d, hd, rfl, -⟩ := hself hr
    exact hd
  | produce n =>
    have hmid := hn.pop_other hp hc (by simp)
    exact hbefore.produce hmid.coherent hmid.onTime hfire
  | forward i f =>
    have hmid := hn.pop_other hp hc (by simp)
    exact hbefore.send hmid.coherent hmid.onTime hfire

/-- A new interface starts idle, and nothing stands in the trace under a name that no other interface bears. -/
lemma addInterface {n : NodeId} {name : String} {radius : Float} (h : net.Faithful) (hf : net.Fitted)
    (ha : net.addInterface n name radius = .ok (i, net')) : net'.Faithful := by
  simp only [Network.addInterface, Topology.addInterface, bind_eq_ok] at ha
  obtain ⟨_, ⟨site, -, ht⟩, ha⟩ := ha
  cases ht
  cases ha
  have hold : ∀ {j iface}, net.topology.interface j = .ok iface →
      j.index < net.topology.interfaces.size ∧ (net.topology.interfaces.push
        ⟨name, n, ⟨net.topology.media.size⟩, radius⟩)[j.index]? = some iface := by
    intro j iface hj
    have hget := Topology.interface_eq_ok.1 hj
    have hlt := (Array.getElem?_eq_some_iff.1 hget).1
    rw [Array.getElem?_push, if_neg (Nat.ne_of_lt hlt)]
    exact ⟨hlt, hget⟩
  refine ⟨h.isOn, h.ordered, h.past, ?_, ?_⟩
  · intro record hmem
    obtain ⟨j, iface, hj, hname⟩ := h.named record hmem
    exact ⟨j, iface, Topology.interface_eq_ok.2 (hold hj).2, hname⟩
  · intro hd j iface s hget hst
    have hget' := Topology.interface_eq_ok.1 hget
    obtain ⟨r, hr, rfl⟩ := statusOf_eq_some.1 hst
    have hr := radio_eq_ok.1 hr
    dsimp only at hget' hr
    rw [Array.getElem?_push] at hget' hr
    rw [hf] at hr
    split at hget'
    · rename_i hnew
      cases hget'
      rw [if_pos hnew] at hr
      cases hr
      have hnothing : net.statusesUnder name = [] := by
        unfold statusesUnder
        rw [List.map_eq_nil_iff, List.filter_eq_nil_iff]
        intro record hmem hname
        obtain ⟨l, other, hl, hother⟩ := h.named record hmem
        have hsame : l = j :=
          hd.unique (Topology.interface_eq_ok.2 (hold hl).2) hget (hother.trans (of_decide_eq_true hname))
        subst hsame
        exact absurd hnew (Nat.ne_of_lt (hold hl).1)
      show Status.idle.Walk (net.statusesUnder name) .idle
      rw [hnothing]
      exact .nil _
    · rename_i hne
      rw [if_neg hne] at hr
      have hd' : net.DistinctNames := by
        unfold DistinctNames at hd
        rw [Array.toList_push, List.map_append] at hd
        exact (List.nodup_append.1 hd).1
      exact h.walks hd' (Topology.interface_eq_ok.2 hget') (statusOf_eq (radio_eq_ok.2 hr))

end Faithful

/-- Whether an operation goes on with a run and its trace. -/
def Op.goesOn : Op → Bool
  | initRun | startTrace | stopTrace => false
  | _ => true

/-- Whatever is called, but for the start of a run or a trace, the trace stays faithful. -/
theorem Faithful.apply {op : Op} {fuel : Nat} (h : net.Faithful) (hn : net.Sound) (hf : net.Fitted)
    (hgo : op.goesOn = true) (hop : op.firesEvents = false) (ha : op.apply fuel net = .ok (result, net')) :
    net'.Faithful := by
  cases op with
  | addVariate | setVariate | addNode | addSource | reseed =>
    cases ha
    exact h.same rfl (Nat.le_refl _) rfl rfl
  | setPeriod | setMessageLength | addDestination =>
    rcases editTraffic_eq_ok ha with rfl | ⟨x, traffic, -, -, rfl⟩
    · exact h
    · exact h.same rfl (Nat.le_refl _) rfl rfl
  | addInterface n name radius =>
    obtain ⟨⟨i, mid⟩, hi, ha⟩ := bind_eq_ok.1 ha
    cases ha
    exact h.addInterface hf hi
  | addMember m i =>
    simp only [Op.apply, addMember, Topology.addMember, bind_eq_ok] at ha
    obtain ⟨_, ⟨_, ⟨medium, -, ht⟩, hm⟩, ha⟩ := ha
    cases ht
    cases hm
    cases ha
    exact h.same rfl (Nat.le_refl _) rfl rfl
  | connectInRange =>
    cases ha
    exact h.same rfl (Nat.le_refl _) (Topology.connectInRange_same net.topology).2 rfl
  | put n =>
    obtain ⟨mid, hp, ha⟩ := bind_eq_ok.1 ha
    cases ha
    obtain ⟨x, -, rfl⟩ := put_eq_ok hp
    exact h.same rfl (Nat.le_refl _) rfl rfl
  | produce n => exact h.produce hn.coherent hn.onTime ha
  | send i f => exact h.send hn.coherent hn.onTime ha
  | receive i f => exact h.receive hn.coherent hn.onTime ha
  | broadcast i f => exact h.broadcast hn.coherent hn.onTime ha
  | initRun | startTrace | stopTrace => cases hgo
  | step | runTo | runUntilIdle => cases hop

/-- The first posts of a run leave the recorder alone. -/
lemma startAll_recorder {nodes : List NodeId} (hs : net.startAll nodes = .ok (result, net')) :
    net'.recorder = net.recorder := by
  refine startAll_closed (R := fun net net' => net'.recorder = net.recorder) (fun _ => rfl) (fun h h' => h'.trans h)
    (fun hd => ?_) withPost_recorder hs
  obtain ⟨-, variates, stream, rfl⟩ := drawDelay_eq_ok hd
  rfl

/-- A run starts without a record of its own. -/
lemma initRun_recorder (hi : net.initRun = .ok (result, net')) : net'.recorder = net.recorder := by
  have hreset : net.reset.recorder = net.recorder := by
    obtain ⟨variates, hr⟩ := reset_eq net
    rw [hr]
  exact (startAll_recorder hi).trans hreset

/-- At the start of a run with an empty trace all radios are idle. -/
lemma initRun_faithful (hrec : net.recorder = .start) (hi : net.initRun = .ok (result, net')) :
    net'.Faithful := by
  have hrec' : net'.recorder = .start := (initRun_recorder hi).trans hrec
  have hempty : net'.trace = [] := by
    unfold trace
    rw [hrec']
    rfl
  refine ⟨by rw [hrec']; rfl, ?_, ?_, ?_, ?_⟩
  · rw [hempty]
    exact .nil
  · rw [hempty]
    exact fun _ hmem => by cases hmem
  · rw [hempty]
    exact fun _ hmem => by cases hmem
  · intro _ i iface s _ hst
    obtain ⟨r, hr, rfl⟩ := statusOf_eq_some.1 hst
    rw [(initRun_aside hi).1.radio] at hr
    obtain rfl := radio_reset_eq hr
    unfold statusesUnder
    rw [hempty]
    exact .nil _

/-- A trace that is empty when a run starts is faithful as long as the run goes on: its times never decrease, and
what stands under the name of an interface leads step by step, from idle on, to the status that the interface
has now. -/
theorem Run.trace_faithful {allowed : Op → Except NetworkError Unit → Prop} {first begun : Network}
    {log : List Moment} (hfirst : first.Reachable) (hrec : first.recorder = .start)
    (hinit : first.initRun = .ok (result, begun))
    (hallowed : ∀ {op result}, allowed op result → op.goesOn = true) (hrun : Run allowed begun log net)
    (hnames : net.DistinctNames) :
    net.trace.Pairwise (fun a b => a.time ≤ b.time) ∧
      (∀ record ∈ net.trace, record.time ≤ net.now ∧
        ∃ i iface, net.topology.interface i = .ok iface ∧ iface.name = record.name) ∧
      ∀ i iface, net.topology.interface i = .ok iface →
        ∃ r, net.radio i = .ok r ∧ Status.idle.Walk (net.statusesUnder iface.name) r.status := by
  have hclosed : Closed (fun _ net => net.Sound ∧ net.Fitted ∧ net.Faithful) fun _ => True := by
    refine ⟨fun h ha => ⟨h.1.advanceTo ha, h.2.1, h.2.2.advanceTo _⟩, fun h hf _ => ?_⟩
    exact ⟨h.1.fires hf, (hf.sameSetUp.1.trans hf.sameSetUp.2).fitted h.2.1, h.2.2.fires h.1 hf⟩
  have hstart : begun.Sound ∧ begun.Fitted ∧ begun.Faithful :=
    ⟨(reset_sound first).aside (initRun_aside hinit).1, (initRun_keeps.left hinit).fitted hfirst.fitted,
      initRun_faithful hrec hinit⟩
  obtain ⟨-, hfitted, hfaithful⟩ := hclosed.run
    (fun h hop hall ha => ⟨h.1.apply hop ha, h.2.1.apply hop ha, h.2.2.apply h.1 h.2.1 (hallowed hall) hop ha⟩)
    (fun _ _ => trivial) hstart hrun
  refine ⟨hfaithful.ordered, fun record hmem => ⟨hfaithful.past record hmem, hfaithful.named record hmem⟩, ?_⟩
  intro i iface hi
  obtain ⟨r, hr⟩ := hfitted.radio hi
  exact ⟨r, hr, hfaithful.walks hnames hi (statusOf_eq hr)⟩

/-- A frame and its acknowledgement between two nodes, in the midst of which a third node appears. -/
theorem trace_of_pair : ∃ first begun net : Network, ∃ log : List Moment,
    first.Reachable ∧ first.recorder = .start ∧ first.initRun = .ok (.ok (), begun) ∧
      Run (fun op _ => op.goesOn = true) begun log net ∧ net.DistinctNames ∧
      net.statusesUnder "ia" =
        [.waitingForDifs, .sendingMessage, .waitingForAck, .receivingMessage, .idle] ∧
      net.statusesUnder "ib" = [.receivingMessage, .waitingForSifs, .sendingAck, .idle] ∧
      net.statusesUnder "ic" = [] ∧
      net.trace.Pairwise (fun a b => a.time ≤ b.time) ∧
      ∀ i iface, net.topology.interface i = .ok iface →
        ∃ r, net.radio i = .ok r ∧ Status.idle.Walk (net.statusesUnder iface.name) r.status := by
  have hend : endsWith (Op.applyAll 100 (Op.pair ++ [.startTrace]) [] (.new {} 7 [.delta 5])) (fun _ first =>
      first.recorder.isOn && first.recorder.records = #[] && endsWith first.initRun fun _ begun =>
        endsWith (Op.applyAll 100 [.runTo 550, .addNode "c" ⟨5, 5⟩, .addInterface ⟨2⟩ "ic" 2, .runUntilIdle] []
          begun) fun _ net =>
            (net.topology.interfaces.toList.map Interface.name).Nodup && net.statusesUnder "ia" =
              [.waitingForDifs, .sendingMessage, .waitingForAck, .receivingMessage, .idle] &&
            net.statusesUnder "ib" = [.receivingMessage, .waitingForSifs, .sendingAck, .idle] &&
            net.statusesUnder "ic" = []) = true := by
    decide +kernel
  obtain ⟨log₀, first, hfirst, htest⟩ := endsWith_iff.1 hend
  simp only [Bool.and_eq_true, decide_eq_true_eq] at htest
  obtain ⟨⟨hon, hempty⟩, htest⟩ := htest
  obtain ⟨_, begun, hinit, htest⟩ := endsWith_iff.1 htest
  obtain ⟨log, net, hrest, htest⟩ := endsWith_iff.1 htest
  simp only [Bool.and_eq_true, decide_eq_true_eq] at htest
  obtain ⟨⟨⟨hnames, hia⟩, hib⟩, hic⟩ := htest
  have hreach : first.Reachable := ⟨{}, 7, [.delta 5], log₀, .of_applyAll .start hfirst fun _ _ => trivial⟩
  have hstart : ∀ r : Recorder, r.isOn = true → r.records = #[] → r = .start := by
    rintro ⟨_, _⟩ rfl rfl
    rfl
  have hrun : Run (fun op _ => op.goesOn = true) begun log net :=
    .of_applyAll .start hrest (by simp [Op.goesOn])
  obtain ⟨hordered, -, hwalks⟩ := hrun.trace_faithful hreach (hstart _ hon hempty) hinit id hnames
  exact ⟨first, begun, net, log, hreach, hstart _ hon hempty, hinit, hrun, hnames, hia, hib, hic, hordered, hwalks⟩

end CarrierSense.Network
