import CarrierSense.Network.Access
import CarrierSense.Proofs.Outcome
import CarrierSense.Proofs.Radio.Alarms
import CarrierSense.Proofs.Scheduler.Basic

/-!
# Coherent networks

A network is `Coherent` if its radios and its scheduler agree on the timers that are set: every handle
that a radio keeps leads to a pending event, and every pending event of a timer is kept by its radio.
`Network.alarms` reads the alarms of a radio off both, and the lemmas below say what the elementary
changes of a network do to it.
-/

namespace CarrierSense.Network

variable {net net' : Network} {i j : InterfaceId} {k : Timer} {r : Radio}

/-- A radio is looked up at its place. -/
lemma radio_eq_ok : net.radio i = .ok r ↔ net.radios[i.index]? = some r := by
  unfold radio
  cases net.radios[i.index]? <;> simp

/-- A radio that takes the place of another is found there. -/
lemma radio_setRadio_self (h : net.radio i = .ok r) (r' : Radio) :
    (net.setRadio i r').radio i = .ok r' := by
  have hlt : i.index < net.radios.size := (Array.getElem?_eq_some_iff.1 (radio_eq_ok.1 h)).1
  simp [radio_eq_ok, setRadio, hlt]

/-- The radios of other interfaces stay as they are. -/
lemma radio_setRadio_ne (h : j ≠ i) (r' : Radio) : (net.setRadio i r').radio j = net.radio j := by
  have hne : i.index ≠ j.index := fun he => h (by cases i; cases j; simp_all)
  simp [radio, setRadio, Array.getElem?_setIfInBounds_ne hne]

/-- Radios and scheduler agree on the timers that are set. -/
structure Coherent (net : Network) : Prop where
  filed : net.scheduler.Filed
  slot : ∀ {i r k id}, net.radio i = .ok r → r.timers.get k = some id →
    ∃ time, net.scheduler.Pending ⟨time, id.number⟩ (.timer i k)
  kept : ∀ {i k due}, net.scheduler.Pending due (.timer i k) →
    ∃ r, net.radio i = .ok r ∧ r.timers.get k = some ⟨due.number⟩

/-- When the timers of an interface run out. -/
def alarms (net : Network) (i : InterfaceId) : Alarms := fun k =>
  match net.radio i with
  | .ok r => (r.timers.get k).bind fun id => net.scheduler.pending[id.number]?
  | .error _ => none

namespace Coherent

variable (h : net.Coherent)
include h

/-- The alarms of an interface are the pending events of its timers. -/
lemma alarms_eq_some {time : Nat} :
    net.alarms i k = some time ↔ ∃ n, net.scheduler.Pending ⟨time, n⟩ (.timer i k) := by
  constructor
  · intro ha
    unfold alarms at ha
    split at ha
    · rename_i r hr
      obtain ⟨id, hid, hp⟩ := Option.bind_eq_some_iff.1 ha
      obtain ⟨time', hp'⟩ := h.slot hr hid
      obtain ⟨e, hp⟩ := (h.filed.index _ _).1 hp
      have hplace := h.filed.place_unique hp hp' rfl
      cases hplace
      exact ⟨id.number, hp'⟩
    · cases ha
  · rintro ⟨n, hp⟩
    obtain ⟨r, hr, hid⟩ := h.kept hp
    have hsome : net.scheduler.pending[n]? = some time := (h.filed.index _ _).2 ⟨_, hp⟩
    simp [alarms, hr, hid, hsome]

/-- At most one event is pending for a timer. -/
lemma timer_unique {due due' : Due} (hd : net.scheduler.Pending due (.timer i k))
    (hd' : net.scheduler.Pending due' (.timer i k)) : due = due' := by
  obtain ⟨r, hr, hid⟩ := h.kept hd
  obtain ⟨r', hr', hid'⟩ := h.kept hd'
  rw [hr] at hr'
  cases hr'
  rw [hid] at hid'
  exact h.filed.place_unique hd hd' (congrArg EventId.number (Option.some.inj hid'))

/-- A radio keeps a handle exactly of the timers that are set. -/
lemma slot_isSome (hr : net.radio i = .ok r) (k : Timer) :
    (r.timers.get k).isSome = (net.alarms i k).isSome := by
  cases hid : r.timers.get k with
  | none => simp [alarms, hr, hid]
  | some id =>
    obtain ⟨time, hp⟩ := h.slot hr hid
    simp [h.alarms_eq_some.2 ⟨_, hp⟩]

/-- A timer that is pending says when it runs out. -/
lemma alarms_eq_of_pending {due : Due} (hp : net.scheduler.Pending due (.timer i k)) :
    net.alarms i k = some due.time :=
  h.alarms_eq_some.2 ⟨due.number, hp⟩

end Coherent

/-- The alarms of an interface depend on its pending timers alone. -/
lemma alarms_congr (h : net.Coherent) (h' : net'.Coherent)
    (hp : ∀ due k, net'.scheduler.Pending due (.timer i k) ↔ net.scheduler.Pending due (.timer i k)) :
    net'.alarms i = net.alarms i := by
  funext k
  refine Option.ext fun time => ?_
  simp [h.alarms_eq_some, h'.alarms_eq_some, hp]

/-- Radios and scheduler still agree if they do about the one interface that has changed. -/
lemma Coherent.update (h : net.Coherent) (hf : net'.scheduler.Filed) (hself : net'.radio i = .ok r)
    (hother : ∀ {j}, j ≠ i → net'.radio j = net.radio j)
    (hp : ∀ {j}, j ≠ i → ∀ {due k},
      net'.scheduler.Pending due (.timer j k) ↔ net.scheduler.Pending due (.timer j k))
    (hslot : ∀ {k id}, r.timers.get k = some id →
      ∃ time, net'.scheduler.Pending ⟨time, id.number⟩ (.timer i k))
    (hkept : ∀ {k due}, net'.scheduler.Pending due (.timer i k) →
      r.timers.get k = some ⟨due.number⟩) : net'.Coherent := by
  refine ⟨hf, fun {j s k id} hs hk => ?_, fun {j k due} hq => ?_⟩
  · by_cases hj : j = i
    · subst hj
      rw [hself] at hs
      cases hs
      exact hslot hk
    · rw [hother hj] at hs
      exact (h.slot hs hk).imp fun _ => (hp hj).2
  · by_cases hj : j = i
    · subst hj
      exact ⟨r, hself, hkept hq⟩
    · rw [hother hj]
      exact h.kept ((hp hj).1 hq)

section Drop

variable {due : Due} (h : net.Coherent) (hr : net.radio i = .ok r)
  (hd : net.scheduler.Pending due (.timer i k))
  (hs : net'.scheduler = (net.scheduler.drop ⟨due.number⟩).2)
include h hd hs

/-- Only the timer that is dropped is no longer pending. -/
lemma Coherent.pending_drop_timer (j : InterfaceId) (l : Timer) (due' : Due) :
    net'.scheduler.Pending due' (.timer j l) ↔
      net.scheduler.Pending due' (.timer j l) ∧ ¬ (j = i ∧ l = k) := by
  rw [hs, Scheduler.pending_drop h.filed]
  refine and_congr_right fun hq => not_congr ⟨fun hn => ?_, ?_⟩
  · have hplace := h.filed.place_unique hq hd hn
    subst hplace
    cases hq.unique hd
    exact ⟨rfl, rfl⟩
  · rintro ⟨rfl, rfl⟩
    exact congrArg Due.number (h.timer_unique hq hd)

/-- Taking a pending event of a timer out of the scheduler, and its handle out of the radio. -/
lemma Coherent.drop_timer (hself : net'.radio i = .ok { r with timers := r.timers.set k none })
    (hr : net.radio i = .ok r) (hother : ∀ {j}, j ≠ i → net'.radio j = net.radio j) :
    net'.Coherent := by
  have hpend := pending_drop_timer h hd hs
  refine h.update (hs ▸ h.filed.drop) hself hother (fun hj => ?_) (fun {l id} hl => ?_) fun {l due'} hq => ?_
  · simp [hpend, hj]
  · simp only [Timers.get_set] at hl
    split at hl
    · cases hl
    · rename_i hkl
      obtain ⟨time, hq⟩ := h.slot hr hl
      exact ⟨time, (hpend _ _ _).2 ⟨hq, fun he => hkl he.2.symm⟩⟩
  · obtain ⟨hq, hne⟩ := (hpend _ _ _).1 hq
    obtain ⟨s, hs, hl⟩ := h.kept hq
    rw [hr] at hs
    cases hs
    have hkl : k ≠ l := fun he => hne ⟨rfl, he.symm⟩
    simp [Timers.get_set, hkl, hl]

/-- Only the alarm of the timer that is dropped is off. -/
lemma Coherent.alarms_drop_timer (h' : net'.Coherent) :
    net'.alarms i = (net.alarms i).set k none ∧ ∀ {j}, j ≠ i → net'.alarms j = net.alarms j := by
  have hpend := pending_drop_timer h hd hs
  refine ⟨?_, fun {j} hj => ?_⟩
  · funext l
    refine Option.ext fun time => ?_
    by_cases hl : k = l
    · subst hl
      simp [h'.alarms_eq_some, hpend]
    · simp [Alarms.set_ne hl, h'.alarms_eq_some, h.alarms_eq_some, hpend, Ne.symm hl]
  · exact alarms_congr h h' fun due' l => by simp [hpend, hj]

end Drop

section Post

variable {id : EventId} {scheduler : Scheduler Event} {time : Nat}

/-- Setting a timer that is not set. -/
lemma Coherent.post_timer (h : net.Coherent) (hr : net.radio i = .ok r) (hk : r.timers.get k = none)
    (hp : net.scheduler.post time (.timer i k) = .ok (id, net'.scheduler))
    (hself : net'.radio i = .ok { r with timers := r.timers.set k (some id) })
    (hother : ∀ {j}, j ≠ i → net'.radio j = net.radio j) : net'.Coherent := by
  have hpend : ∀ {due e}, net'.scheduler.Pending due e ↔
      due = ⟨time, id.number⟩ ∧ e = .timer i k ∨ net.scheduler.Pending due e :=
    Scheduler.pending_post h.filed hp
  refine h.update (h.filed.post hp) hself hother (fun hj => ?_) (fun {l id'} hl => ?_)
    fun {l due'} hq => ?_
  · simp [hpend, hj]
  · simp only [Timers.get_set] at hl
    split at hl
    · rename_i hkl
      subst hkl
      cases hl
      exact ⟨time, hpend.2 (.inl ⟨rfl, rfl⟩)⟩
    · exact (h.slot hr hl).imp fun _ hq => hpend.2 (.inr hq)
  · rcases hpend.1 hq with ⟨rfl, he⟩ | hq
    · cases he
      simp [Timers.get_set]
    · obtain ⟨s, hs, hl⟩ := h.kept hq
      rw [hr] at hs
      cases hs
      have hkl : k ≠ l := by
        rintro rfl
        rw [hk] at hl
        cases hl
      simp [Timers.get_set, hkl, hl]

/-- A timer that is posted sets its alarm, and no other. -/
lemma Coherent.alarms_post_timer (h : net.Coherent)
    (hp : net.scheduler.post time (.timer i k) = .ok (id, net'.scheduler)) (h' : net'.Coherent) :
    net'.alarms i = (net.alarms i).set k (some time) ∧
      ∀ {j}, j ≠ i → net'.alarms j = net.alarms j := by
  have hpend : ∀ {due e}, net'.scheduler.Pending due e ↔
      due = ⟨time, id.number⟩ ∧ e = .timer i k ∨ net.scheduler.Pending due e :=
    Scheduler.pending_post h.filed hp
  refine ⟨?_, fun {j} hj => ?_⟩
  · funext l
    by_cases hl : k = l
    · subst hl
      rw [Alarms.set_self, h'.alarms_eq_some]
      exact ⟨_, hpend.2 (.inl ⟨rfl, rfl⟩)⟩
    · refine Option.ext fun time' => ?_
      simp [Alarms.set_ne hl, h'.alarms_eq_some, h.alarms_eq_some, hpend, Ne.symm hl]
  · exact alarms_congr h h' fun due l => by simp [hpend, hj]

end Post

/-- A network with the same timers pending, and the same handles in its radios. -/
lemma Coherent.same_timers (h : net.Coherent) (hf : net'.scheduler.Filed)
    (hr : ∀ {j r'}, net'.radio j = .ok r' → ∃ r, net.radio j = .ok r ∧ r'.timers = r.timers)
    (hr' : ∀ {j r}, net.radio j = .ok r → ∃ r', net'.radio j = .ok r')
    (hp : ∀ {due j k},
      net'.scheduler.Pending due (.timer j k) ↔ net.scheduler.Pending due (.timer j k)) :
    net'.Coherent ∧ net'.alarms = net.alarms := by
  have h' : net'.Coherent := by
    refine ⟨hf, fun hs hk => ?_, fun hq => ?_⟩
    · obtain ⟨s, hs, ht⟩ := hr hs
      rw [ht] at hk
      exact (h.slot hs hk).imp fun _ => hp.2
    · obtain ⟨s, hs, hk⟩ := h.kept (hp.1 hq)
      obtain ⟨s', hs'⟩ := hr' hs
      obtain ⟨s₀, hs₀, ht⟩ := hr hs'
      rw [hs] at hs₀
      cases hs₀
      exact ⟨s', hs', by rw [ht]; exact hk⟩
  exact ⟨h', funext fun _ => alarms_congr h h' fun _ _ => hp⟩

/-- Another radio with the same handles changes no alarm. -/
lemma Coherent.setRadio (h : net.Coherent) (hr : net.radio i = .ok r) {r' : Radio}
    (ht : r'.timers = r.timers) :
    (net.setRadio i r').Coherent ∧ (net.setRadio i r').alarms = net.alarms := by
  refine h.same_timers h.filed (fun {j s} hs => ?_) (fun {j s} hs => ?_) Iff.rfl
  · by_cases hj : j = i
    · subst hj
      rw [radio_setRadio_self hr] at hs
      cases hs
      exact ⟨r, hr, ht⟩
    · rw [radio_setRadio_ne hj] at hs
      exact ⟨s, hs, rfl⟩
  · by_cases hj : j = i
    · subst hj
      exact ⟨r', radio_setRadio_self hr r'⟩
    · exact ⟨s, by rw [radio_setRadio_ne hj]; exact hs⟩

/-- An event that is no timer changes no alarm. -/
lemma Coherent.post_other {e : Event} {id : EventId} {time : Nat} (h : net.Coherent)
    (he : ∀ i k, e ≠ .timer i k)
    (hp : net.scheduler.post time e = .ok (id, net'.scheduler)) (hr : net'.radio = net.radio) :
    net'.Coherent ∧ net'.alarms = net.alarms := by
  refine h.same_timers (h.filed.post hp) (fun {j s} hs => ⟨s, hr ▸ hs, rfl⟩)
    (fun {j s} hs => ⟨s, hr ▸ hs⟩) fun {due j k} => ?_
  rw [Scheduler.pending_post h.filed hp]
  exact ⟨fun hq => hq.resolve_left fun hq => he j k hq.2.symm, .inr⟩

/-- Without a change of radios and scheduler the two agree as before. -/
lemma Coherent.congr (h : net.Coherent) (hr : net'.radio = net.radio)
    (hs : net'.scheduler = net.scheduler) : net'.Coherent ∧ net'.alarms = net.alarms :=
  h.same_timers (hs ▸ h.filed) (fun {j s} hj => ⟨s, hr ▸ hj, rfl⟩) (fun {j s} hj => ⟨s, hr ▸ hj⟩)
    fun {due j k} => by rw [hs]

end CarrierSense.Network
