import CarrierSense.Proofs.Network.Firing

/-!
# What turns are made of

All that radios do to a network comes down to a few changes: of radios, of counters and of the trace, of what a node
has consumed, and of the scheduler, in which timers and frames to be forwarded are posted and timers dropped. A
relation between networks that each of these changes keeps (`TurnClosed`) is kept by all that radios do. The random
stream is moved on in one place only, when a countdown is drawn.
-/

namespace CarrierSense.Network

/-- A relation between networks that is kept by all that a turn is made of. -/
structure TurnClosed (R : Network → Network → Prop) : Prop where
  refl : ∀ net, R net net
  trans : ∀ {net mid net'}, R net mid → R mid net' → R net net'
  radio : ∀ net i r, R net (net.setRadio i r)
  count : ∀ net counter, R net { net with counters := net.counters.increment counter }
  note : ∀ net record, R net { net with recorder := net.recorder.note record }
  put : ∀ {net n net'}, net.put n = .ok net' → R net net'
  drop : ∀ net id, R net { net with scheduler := (net.scheduler.drop id).2 }
  post : ∀ {net : Network} {time e id scheduler}, (∀ n, e ≠ .produce n) →
    net.scheduler.post time e = .ok (id, scheduler) → R net { net with scheduler }

namespace TurnClosed

variable {R : Network → Network → Prop} (c : TurnClosed R) {net net' : Network} {w : Setting} {i : InterfaceId}
  {k : Timer} {f : Frame} {result : Except NetworkError Unit}
include c

/-- To disarm a timer keeps such a relation. -/
lemma disarm (h : net.disarm i k = .ok net') : R net net' := by
  simp only [Network.disarm, bind_eq_ok] at h
  obtain ⟨r, -, h⟩ := h
  split at h
  · cases h
    exact c.refl _
  · cases h
    exact c.trans (c.radio net i _) (c.drop _ _)

/-- To arm a timer keeps it. -/
lemma arm {time : Nat} (h : net.arm i k time = .ok (result, net')) : R net net' := by
  simp only [Network.arm, bind_eq_ok] at h
  obtain ⟨time, -, mid, hd, h⟩ := h
  have hmid := c.disarm hd
  split at h
  · cases h
    exact hmid
  · rename_i id scheduler hpost
    simp only [bind_eq_ok] at h
    obtain ⟨r, -, h⟩ := h
    cases h
    exact c.trans hmid (c.trans (c.post (by simp) hpost) (c.radio _ i _))

/-- To take a frame on for another node keeps it. -/
lemma relay (h : net.relay i f = .ok (result, net')) : R net net' := by
  have hcount := c.count net .forwarded
  simp only [Network.relay, withPost] at h
  split at h
  · cases h
    exact hcount
  · rename_i id scheduler hpost
    cases h
    exact c.trans hcount (c.post (by simp) hpost)

/-- Each effect keeps it. -/
lemma perform {e : Effect} (h : net.perform w e = .ok (result, net')) : R net net' := by
  cases e with
  | report status =>
    simp only [Network.perform, bind_eq_ok] at h
    obtain ⟨iface, -, h⟩ := h
    cases h
    exact c.note net _
  | count counter =>
    cases h
    exact c.count net counter
  | arm timer time => exact c.arm h
  | disarm timer =>
    simp only [Network.perform, bind_eq_ok] at h
    obtain ⟨mid, hd, h⟩ := h
    cases h
    exact c.disarm hd
  | deliver frame =>
    simp only [Network.perform, bind_eq_ok] at h
    obtain ⟨mid, hp, h⟩ := h
    cases h
    exact c.put hp
  | relay frame => exact c.relay h

/-- Effects in a row keep it, by induction over them. -/
lemma performAll {es : List Effect} (h : net.performAll w es = .ok (result, net')) : R net net' := by
  induction es generalizing net with
  | nil =>
    cases h
    exact c.refl _
  | cons e rest ih =>
    rcases andThen_eq_ok.1 h with ⟨_, he, -⟩ | ⟨_, mid, he, h⟩
    · exact c.perform he
    · exact c.trans (c.perform he) (ih h)

/-- A turn that is carried out keeps it. -/
lemma settle {t : Turn} (h : net.settle w t = .ok (result, net')) : R net net' :=
  c.trans (c.radio net w.self t.radio) (c.performAll h)

/-- What a radio does keeps it. -/
lemma act {move : Setting → Turn → Turn} (h : net.act i move = .ok (result, net')) : R net net' := by
  simp only [Network.act, bind_eq_ok] at h
  obtain ⟨r, -, w, -, h⟩ := h
  exact c.settle h

/-- A frame that reaches the members of a medium keeps it, by induction over them. -/
lemma receiveAll {members : List InterfaceId} (h : net.receiveAll f members = .ok (result, net')) : R net net' := by
  induction members generalizing net with
  | nil =>
    cases h
    exact c.refl _
  | cons i rest ih =>
    rcases andThen_eq_ok.1 h with ⟨_, hr, -⟩ | ⟨_, mid, hr, h⟩
    · exact c.act hr
    · exact c.trans (c.act hr) (ih h)

/-- A frame that is put on the air keeps it. -/
lemma broadcast (h : net.broadcast i f = .ok (result, net')) : R net net' := by
  simp only [Network.broadcast, bind_eq_ok] at h
  obtain ⟨medium, -, h⟩ := h
  exact c.receiveAll h

/-- A frame that is sent keeps it. -/
lemma send (h : net.send i f = .ok (result, net')) : R net net' := by
  rcases send_eq_ok h with ⟨rfl, -⟩ | ⟨next, r, mid, -, -, rfl, h⟩
  · exact c.refl _
  · have hjoin := c.radio net i { r with outgoing := r.outgoing ++ [f.onHop i next] }
    split at h
    · exact c.trans hjoin (c.act h)
    · cases h
      exact hjoin

/-- A timer that runs out keeps it, if random draws do. -/
lemma expire (draw : ∀ net stream, R net { net with stream }) (h : net.expire i k = .ok (result, net')) :
    R net net' := by
  obtain ⟨r, w, -, -, h⟩ := expire_eq_ok h
  rcases andThen_eq_ok.1 h with ⟨_, hs, -⟩ | ⟨_, mid, hs, h⟩
  · exact c.settle hs
  · refine c.trans (c.settle hs) ?_
    generalize (Radio.expire w { radio := r } k).2 = sequel at h
    cases sequel with
    | none =>
      cases h
      exact c.refl _
    | contend =>
      simp only [follow, contend, bind_eq_ok] at h
      obtain ⟨s, -, h⟩ := h
      exact c.trans (draw mid _) (c.act h)
    | transmit frame => exact c.broadcast h

end TurnClosed

/-- Neither effects nor frames that are queued move the random stream on. -/
lemma stream_turnClosed : TurnClosed fun net net' => net'.stream = net.stream where
  refl _ := rfl
  trans h h' := h'.trans h
  radio _ _ _ := rfl
  count _ _ := rfl
  note _ _ := rfl
  put hp := by
    obtain ⟨x, -, rfl⟩ := put_eq_ok hp
    rfl
  drop _ _ := rfl
  post _ _ := rfl

end CarrierSense.Network
