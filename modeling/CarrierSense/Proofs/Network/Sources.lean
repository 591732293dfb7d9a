import CarrierSense.Proofs.Network.Delivery

/-!
# Sources

A network is `Supplied` if every source that has frames left has its next production pending, and no other
node has one. The start of a run makes it so, for it never fails; and a run keeps it so, whatever the radios
do, as long as no production is refused: they leave traffic and productions alone (`SameSources`), and a
source that has produced a frame posts the next production until it has produced them all.
-/

namespace CarrierSense

/-- Whether an event is a production of the node `n`. -/
def Event.produces (n : NodeId) : Event → Bool
  | .produce m => m = n
  | _ => false

/-- Whether a node has frames left to produce. -/
def Endpoint.hasMore (x : Endpoint) : Bool := x.traffic.any fun t => !t.isExhausted

namespace Network

/-- Whether a node has frames left to produce. -/
def hasMore (net : Network) (n : NodeId) : Bool :=
  match net.endpoint n with
  | .ok x => x.hasMore
  | .error _ => false

/-- How many productions of a node are pending. -/
def productions (net : Network) (n : NodeId) : Nat := net.scheduler.waiting (Event.produces n)

/-- A source that has frames left has one production pending, and no other node has any. No source has
produced more than it should. -/
structure Supplied (net : Network) : Prop where
  pending : ∀ n, net.productions n = if net.hasMore n then 1 else 0
  bounded : ∀ {n x t}, net.endpoint n = .ok x → x.traffic = some t → t.produced ≤ t.maxMessages

/-- Neither traffic nor pending productions have changed. -/
structure SameSources (net net' : Network) : Prop where
  traffic : ∀ n, (net'.endpoint n).map Endpoint.traffic = (net.endpoint n).map Endpoint.traffic
  productions : ∀ n, net'.productions n = net.productions n

variable {net mid net' : Network} {w : Setting} {es : List Effect} {i : InterfaceId} {k : Timer} {f : Frame}
  {n : NodeId} {x : Endpoint} {t : Traffic} {result : Except NetworkError Unit}

/-- Whether a node has frames left is read off its endpoint. -/
lemma hasMore_eq (h : net.endpoint n = .ok x) : net.hasMore n = x.hasMore := by simp only [hasMore, h]

/-- Only a node that is there has frames left. -/
lemma exists_of_hasMore (h : net.hasMore n = true) : ∃ x, net.endpoint n = .ok x := by
  unfold hasMore at h
  split at h
  · exact ⟨_, ‹_›⟩
  · cases h

namespace SameSources

/-- Sources stay the same through two changes that keep them. -/
lemma trans (h : net.SameSources mid) (h' : mid.SameSources net') : net.SameSources net' :=
  ⟨fun n => (h'.traffic n).trans (h.traffic n), fun n => (h'.productions n).trans (h.productions n)⟩

/-- Without a change of endpoints and scheduler, the sources are the same. -/
lemma of_eq (he : net'.endpoint = net.endpoint) (hs : net'.scheduler = net.scheduler) :
    net.SameSources net' :=
  ⟨fun n => by rw [he], fun n => by unfold Network.productions; rw [hs]⟩

/-- Traffic is at the same nodes before and after. -/
lemma endpoint (h : net.SameSources net') (hx : net'.endpoint n = .ok x) :
    ∃ y, net.endpoint n = .ok y ∧ x.traffic = y.traffic := by
  have hn := h.traffic n
  rw [hx] at hn
  cases hy : net.endpoint n with
  | error halt => rw [hy] at hn; cases hn
  | ok y =>
    rw [hy] at hn
    exact ⟨y, rfl, Except.ok.inj hn⟩

/-- Whether a node has frames left stays the same with the sources. -/
lemma hasMore (h : net.SameSources net') (n : NodeId) : net'.hasMore n = net.hasMore n := by
  have hn := h.traffic n
  unfold Network.hasMore Endpoint.hasMore
  cases hx : net'.endpoint n <;> cases hy : net.endpoint n <;> rw [hx, hy] at hn <;>
    simp_all [Except.map]

/-- Whether all sources are supplied stays the same with the sources. -/
lemma supplied (h : net.SameSources net') (hn : net.Supplied) : net'.Supplied := by
  refine ⟨fun n => ?_, fun hx ht => ?_⟩
  · rw [h.productions, h.hasMore]
    exact hn.pending n
  · obtain ⟨y, hy, htraffic⟩ := h.endpoint hx
    exact hn.bounded hy (htraffic ▸ ht)

end SameSources

/-- Frames that reach a node are no traffic of its own, and to take a frame on is no production. -/
lemma Affected.sameSources (h : net.Affected w es net') : net.SameSources net' := by
  refine ⟨fun n => ?_, fun n => ?_⟩
  · rw [h.endpoint]
    cases net.endpoint n <;> rfl
  · have hnone : es.countP (Effect.posts w.self (Event.produces n)) = 0 :=
      List.countP_eq_zero.2 fun e _ => by cases e <;> simp [Effect.posts, Event.produces]
    exact (h.waiting fun _ _ => rfl).trans (by rw [hnone]; rfl)

/-- Listening changes no source, by induction over those who hear. -/
lemma Hears.sameSources {members : List InterfaceId} (h : Hears net f members net') :
    net.SameSources net' := by
  induction h with
  | nil => exact .of_eq rfl rfl
  | cons _ _ hs _ ih => exact hs.sameSources.trans ih

/-- What follows a turn changes no source. -/
lemma Moved.sameSources {m : Move} (h : net.Moved w m net') : net.SameSources net' := by
  cases h with
  | rest _ hs => exact hs.sameSources
  | contend _ _ hs => exact hs.sameSources
  | transmit _ hs _ hh => exact hs.sameSources.trans hh.sameSources

/-- To send a frame changes no source. -/
lemma send_sameSources (h : net.Sound) (hs : net.send i f = .ok (result, net')) :
    net.SameSources net' := by
  rcases send_queued h.coherent h.onTime hs with ⟨-, rfl⟩ | ⟨-, -, next, r, w, -, -, hset⟩
  · exact .of_eq rfl rfl
  · exact hset.sameSources

/-- When a timer runs out, or a frame is forwarded, sources take no part. -/
lemma Sound.fires_sameSources {m : Moment} (h : net.Sound) (hf : net.Fires m result)
    (hcause : ∀ n, m.cause ≠ .event (.produce n)) : net.SameSources m.after := by
  obtain ⟨id, e, scheduler, hp, hc, hm, hfire⟩ := hf
  cases e with
  | produce n => exact absurd hm (hcause n)
  | timer i k =>
    obtain ⟨-, hcar⟩ := Network.pop_timer h.coherent h.onTime hp hc rfl
    have hcar := hcar (w := ⟨i, ⟨0⟩, net.timing, net.now⟩) rfl
    obtain ⟨-, r, w, -, -, hmoved⟩ := expire_moved hcar.coherent hcar.onTime hfire
    exact hcar.sameSources.trans hmoved.sameSources
  | forward i f =>
    obtain ⟨hmid, -, -, -, -, -, hwait⟩ := Network.pop_other h.coherent h.onTime hp hc (by simp)
    have hpop : net.SameSources m.before := by
      refine ⟨fun n => by rw [hmid]; rfl, fun n => ?_⟩
      have hn := hwait (Event.produces n)
      simp only [Event.produces, Bool.false_eq_true, if_false, Nat.add_zero] at hn
      exact hn.symm
    exact hpop.trans (send_sameSources (h.pop_other hp hc (by simp)) hfire)

/-- To draw a delay posts nothing. -/
lemma drawDelay_scheduler {v : VariateId} {delay : Nat} (hd : net.drawDelay v = .ok (delay, net')) :
    net'.scheduler = net.scheduler := by
  obtain ⟨-, variates, stream, rfl⟩ := drawDelay_eq_ok hd
  rfl

/-- A production that the scheduler accepts is pending from now on. -/
lemma withPost_productions {time : Nat} (h : net.scheduler.Filed)
    (hp : net.withPost (net.scheduler.post time (.produce n)) = .ok (.ok (), net')) (m : NodeId) :
    net'.productions m = net.productions m + if n = m then 1 else 0 := by
  unfold withPost at hp
  split at hp
  · cases hp
  · rename_i id scheduler hpost
    cases hp
    have hwait := Scheduler.waiting_post h hpost (Event.produces m)
    simp only [Event.produces, decide_eq_true_eq] at hwait
    exact hwait

/-- A source that has frames left, and whose production is not refused, counts the frame, and has its next
production pending unless this was the last one. -/
lemma produce_productions (h : net.Sound) (hx : net.endpoint n = .ok x) (ht : x.traffic = some t)
    (hmore : t.isExhausted = false) (hp : net.produce n = .ok (.ok (), net')) :
    (∀ m, net'.endpoint m = if m = n then .ok x.madeOne else net.endpoint m) ∧
      ∀ m, net'.productions m = net.productions m + if n = m ∧ x.madeOne.hasMore then 1 else 0 := by
  rcases produce_eq_ok hp with ⟨-, ⟨_, he, -⟩ | ⟨-, hdone⟩⟩ |
    ⟨site, x', t', i, stream, f, -, -, hx', ht', -, -, hp⟩
  · cases he
  · rw [hdone hx ht] at hmore
    cases hmore
  cases hx.symm.trans hx'
  cases ht.symm.trans ht'
  rcases andThen_eq_ok.1 hp with ⟨_, -, he⟩ | ⟨_, mid, hs, hp⟩
  · cases he
  -- sending touches neither nodes nor productions
  have h₀ := h.withStream stream
  have hmid := h₀.send hs
  have hprod : ∀ m, mid.productions m = net.productions m := (send_sameSources h₀ hs).productions
  have hend : mid.endpoint = net.endpoint := by
    rcases send_queued h₀.coherent h₀.onTime hs with ⟨⟨_, he, -⟩, -⟩ | ⟨-, -, next, hq⟩
    · cases he
    · exact hq.endpoint
  have hx' : mid.endpoint n = .ok x := by rw [hend, hx]
  obtain ⟨-, -, -, hcount⟩ := count_produced hmid.coherent hmid.onTime hx' ht hp
  refine ⟨fun m => ?_, fun m => ?_⟩
  · rw [hcount, hend]
    split
    · rename_i hm
      rw [hm, hx]
      rfl
    · rfl
  · have hmade : x.madeOne.hasMore = !({ t with produced := t.produced + 1 } : Traffic).isExhausted := by
      simp [Endpoint.hasMore, Endpoint.madeOne, ht]
    unfold countOne at hp
    dsimp only at hp
    generalize ({ t with produced := t.produced + 1 } : Traffic) = t' at hp hmade
    rw [hmade, ← hprod]
    split at hp
    · rename_i hdone
      cases hp
      simp [hdone]
      rfl
    · rename_i hdone
      simp only [bind_eq_ok] at hp
      obtain ⟨⟨delay, next⟩, hd, hp⟩ := hp
      have hs := drawDelay_scheduler hd
      have hfiled : next.scheduler.Filed := hs ▸ hmid.coherent.filed
      rw [withPost_productions hfiled hp]
      simp [hdone, productions, hs]
      rfl

/-- A refused production is a fault of the set-up. -/
lemma produce_refused {e : NetworkError} (h : net.Sound) (hp : net.produce n = .ok (.error e, net')) :
    e.isQuiescent = false := by
  rcases produce_eq_ok hp with ⟨-, ⟨_, he, hfault⟩ | ⟨he, -⟩⟩ |
    ⟨site, x, t, i, stream, f, -, -, hx, ht, -, -, hp⟩
  · cases he
    exact hfault
  · cases he
  have h₀ := h.withStream stream
  rcases andThen_eq_ok.1 hp with ⟨e', hs, he⟩ | ⟨_, mid, hs, hp⟩
  · cases he
    rcases send_queued h₀.coherent h₀.onTime hs with ⟨⟨_, he, hfault⟩, -⟩ | ⟨he, -⟩
    · cases he
      exact hfault
    · cases he
  · have hmid := h₀.send hs
    rcases send_queued h₀.coherent h₀.onTime hs with ⟨⟨_, he, -⟩, -⟩ | ⟨-, -, next, hq⟩
    · cases he
    · have hx' : mid.endpoint n = .ok x := by
        rw [hq.endpoint]
        exact hx
      cases (count_produced hmid.coherent hmid.onTime hx' ht hp).1

/-- To take a production out of the scheduler leaves one less of its node. -/
lemma Sound.pop_production {id : EventId} {scheduler : Scheduler Event} (h : net.Sound)
    (hp : net.scheduler.popDue = some ((id, .produce n), scheduler))
    (hc : { net with scheduler }.clearTimer id (.produce n) = .ok mid) :
    mid.endpoint = net.endpoint ∧ ∀ m, net.productions m = mid.productions m + if n = m then 1 else 0 := by
  obtain ⟨heq, -, -, -, -, -, hwait⟩ := Network.pop_other h.coherent h.onTime hp hc (by simp)
  refine ⟨by rw [heq]; rfl, fun m => ?_⟩
  have hm := hwait (Event.produces m)
  simp only [Event.produces, decide_eq_true_eq] at hm
  exact hm

/-- The production that comes first is that of a source which has frames left. -/
lemma Supplied.hasMore_first {id : EventId} {scheduler : Scheduler Event} (h : net.Supplied) (hn : net.Sound)
    (hp : net.scheduler.popDue = some ((id, .produce n), scheduler))
    (hc : { net with scheduler }.clearTimer id (.produce n) = .ok mid) : net.hasMore n = true := by
  have hone := h.pending n
  rw [(hn.pop_production hp hc).2, if_pos rfl] at hone
  by_contra hnone
  simp [hnone] at hone

/-- A production that is not refused keeps a network supplied. -/
lemma Supplied.produce {id : EventId} {scheduler : Scheduler Event} (h : net.Supplied) (hn : net.Sound)
    (hp : net.scheduler.popDue = some ((id, .produce n), scheduler))
    (hc : { net with scheduler }.clearTimer id (.produce n) = .ok mid)
    (hf : mid.produce n = .ok (.ok (), net')) : net'.Supplied := by
  have hmid := hn.pop_other hp hc (by simp)
  obtain ⟨hend, hpop⟩ := hn.pop_production hp hc
  -- the event that was taken out is the one production of a source that has frames left
  have hmore := h.hasMore_first hn hp hc
  unfold hasMore at hmore
  split at hmore
  · rename_i x hx
    obtain ⟨t, ht, hleft⟩ := (Option.any_eq_true _ _).1 hmore
    have hleft : t.isExhausted = false := by simpa using hleft
    have hlt : t.produced < t.maxMessages := by simpa [Traffic.isExhausted] using hleft
    obtain ⟨hcount, hnext⟩ := produce_productions hmid (hend ▸ hx) ht hleft hf
    refine ⟨fun m => ?_, fun {m y s} hy hs => ?_⟩
    · have hm := h.pending m
      rw [hpop] at hm
      rw [hnext]
      unfold hasMore at hm ⊢
      rw [hcount, hend]
      by_cases hnm : m = n
      · subst hnm
        simp [hx, hmore] at hm ⊢
        exact hm
      · simp [hnm, Ne.symm hnm] at hm ⊢
        exact hm
    · rw [hcount, hend] at hy
      split at hy
      · cases hy
        simp only [Endpoint.madeOne, ht, Option.map_some, Option.some.injEq] at hs
        rw [← hs]
        exact hlt
      · exact h.bounded hy hs
  · cases hmore

/-- Before a run begins, the clock stands at zero and no production is refused. -/
lemma start_productions (h : net.Coherent) (ho : net.scheduler.OnTime) (hnow : net.now = 0)
    (hs : net.start n = .ok (result, net')) :
    result = .ok () ∧
      ∀ m, net'.productions m = net.productions m + if n = m ∧ net.hasMore n then 1 else 0 := by
  obtain ⟨x, hx, hs⟩ := start_eq_ok hs
  rw [hasMore_eq hx]
  unfold Endpoint.hasMore
  rcases hs with ⟨rfl, rfl, hdone⟩ | ⟨t, delay, next, ht, hmore, hd, hs⟩
  · cases ht : x.traffic with
    | none => simp
    | some t => simp [hdone ht]
  obtain ⟨hlast, ha, -, -⟩ := drawDelay_aside h ho hd
  have hres : result = .ok () := by
    refine (post_production ha.coherent ha.onTime hlast hs).1 ?_
    rw [ha.now, hnow]
    exact Nat.zero_le _
  subst hres
  refine ⟨rfl, fun m => ?_⟩
  rw [withPost_productions ha.coherent.filed hs]
  simp [ht, hmore, productions, drawDelay_scheduler hd]

/-- The first posts of a run are one production for each source that has frames left. -/
lemma startAll_productions {nodes : List NodeId} (h : net.Coherent) (ho : net.scheduler.OnTime)
    (hnow : net.now = 0) (hs : net.startAll nodes = .ok (result, net')) :
    result = .ok () ∧
      ∀ m, net'.productions m = net.productions m + if net.hasMore m then nodes.count m else 0 := by
  induction nodes generalizing net with
  | nil =>
    cases hs
    exact ⟨rfl, fun m => by simp⟩
  | cons n rest ih =>
    rcases andThen_eq_ok.1 hs with ⟨e, hn, rfl⟩ | ⟨_, mid, hn, hs⟩
    · exact absurd (start_productions h ho hnow hn).1 (by simp)
    · obtain ⟨-, hfirst⟩ := start_productions h ho hnow hn
      obtain ⟨ha, -, hend⟩ := start_aside h ho hn
      obtain ⟨hres, hrest⟩ := ih ha.coherent ha.onTime (ha.now.trans hnow) hs
      refine ⟨hres, fun m => ?_⟩
      have hsame : mid.hasMore m = net.hasMore m := by
        unfold hasMore
        rw [hend]
      rw [hrest, hfirst, hsame, List.count_cons]
      by_cases hm : n = m
      · subst hm
        by_cases hmore : net.hasMore n <;> simp [hmore]
        omega
      · simp [hm]

/-- The start of a run never fails, and every source has its first production pending. -/
theorem initRun_supplied (hi : net.initRun = .ok (result, net')) : result = .ok () ∧ net'.Supplied := by
  have hnow : net.reset.now = 0 := by
    unfold now
    rw [scheduler_reset]
    rfl
  obtain ⟨hres, hprod⟩ := startAll_productions (coherent_reset net) (onTime_reset net) hnow hi
  obtain ⟨-, -, hend⟩ := initRun_aside hi
  refine ⟨hres, fun n => ?_, fun {n x t} hx ht => ?_⟩
  · have hnone : net.reset.productions n = 0 := by
      unfold productions
      rw [scheduler_reset]
      rfl
    have hsame : net'.hasMore n = net.reset.hasMore n := by
      unfold hasMore
      rw [hend]
    rw [hprod, hnone, hsame, Nat.zero_add]
    -- every node with an endpoint has its turn once
    cases hmore : net.reset.hasMore n with
    | false => rfl
    | true =>
      have hlt : n.index < net.endpoints.size := by
        rw [← endpoint_exists, ← exists_map, ← endpoint_reset]
        exact exists_of_hasMore hmore
      have hinj : Function.Injective NodeId.mk := fun a b hab => congrArg NodeId.index hab
      have hcount := List.count_map_of_injective (List.range net.endpoints.size) NodeId.mk hinj n.index
      rw [List.count_range, if_pos hlt] at hcount
      simp only [if_true]
      exact hcount
  · rw [hend, endpoint_reset] at hx
    cases hy : net.endpoint n with
    | error halt => rw [hy] at hx; cases hx
    | ok y =>
      rw [hy] at hx
      cases hx
      obtain ⟨s, -, rfl⟩ := Option.map_eq_some_iff.1 ht
      exact Nat.zero_le _

/-- Events keep all sources supplied, as long as no run goes wrong in between. -/
lemma supplied_closed : Closed (fun _ net => net.Sound ∧ net.Supplied) fun e => e.isQuiescent = true where
  clock := fun ⟨hs, h⟩ ha => by
    have hsame : ∀ {net : Network} {time : Nat},
        net.SameSources { net with scheduler := net.scheduler.advanceTo time } :=
      ⟨fun _ => rfl, fun _ => Scheduler.waiting_advanceTo _ _ _⟩
    exact ⟨hs.advanceTo ha, hsame.supplied h⟩
  event := fun {log net m result} ⟨hs, h⟩ hf hres => by
    refine ⟨hs.fires hf, ?_⟩
    by_cases hcause : ∃ n, m.cause = .event (.produce n)
    · obtain ⟨n, hn⟩ := hcause
      obtain ⟨id, e, scheduler, hp, hc, hm, hfire⟩ := hf
      rw [hn] at hm
      cases hm
      have hmid := hs.pop_other hp hc (by simp)
      match result with
      | .ok _ => exact h.produce hs hp hc hfire
      | .error e =>
        have hfault := produce_refused hmid hfire
        rw [hres e rfl] at hfault
        cases hfault
    · exact (hs.fires_sameSources hf fun n hn => hcause ⟨n, hn⟩).supplied h

end Network

end CarrierSense
