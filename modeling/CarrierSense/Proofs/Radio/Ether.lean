import CarrierSense.Proofs.Radio.Flight

/-!
# What is on the air

Between the radios there are data frames that are being heard, acknowledgements that are owed, and
acknowledgements that are being heard. `Ether` says what each of them tells about the flight of the radio
that it concerns: a data frame that its receiver hears is aloft; an acknowledgement that is owed or heard
is about a frame that was accepted. The lemmas below follow the outcomes of a turn.
-/

namespace CarrierSense

/-- What each radio has put on the air last. -/
abbrev Flights := InterfaceId → Option Flight

namespace Flights

/-- The flight of one radio has changed. -/
def put (g : Flights) (i : InterfaceId) (fl : Flight) : Flights :=
  fun j => if j = i then some fl else g j

/-- A new flight takes its place. -/
@[simp] lemma put_self (g : Flights) (i : InterfaceId) (fl : Flight) : g.put i fl i = some fl :=
  if_pos rfl

/-- A new flight leaves the others alone. -/
@[simp] lemma put_ne {g : Flights} {i j : InterfaceId} {fl : Flight} (h : j ≠ i) :
    g.put i fl j = g j :=
  if_neg h

/-- Whoever has a flight had one before, or has the new one. -/
lemma put_ne_none {g : Flights} {i j : InterfaceId} {fl : Flight} (h : g.put i fl j ≠ none) :
    g j ≠ none ∨ j = i := by
  by_cases hj : j = i
  · exact .inr hj
  · rw [put_ne hj] at h
    exact .inl h

end Flights

/-- What the acknowledgements that are owed and the frames that are heard say about flights. Of each
interface, `acks` are the acknowledgements that it owes, `heard` is the frame that it listens to, and
`due` is the end of its pause before an acknowledgement. -/
structure Ether (sifs : Nat) (acks : InterfaceId → List Frame) (heard : InterfaceId → Option Incoming)
    (due : InterfaceId → Option Nat) (g : Flights) : Prop where
  data : ∀ {j x}, heard j = some x → x.frame.isAck = false → x.frame.receiver = some j →
    ∃ i, x.frame.sender = some i ∧ g i = some ⟨x.frame, x.endsAt, .aloft⟩
  owed : ∀ {j a}, a ∈ acks j → a.isAck = true ∧ ∃ i fl, a.receiver = some i ∧ g i = some fl ∧
    fl.stage = .accepted ∧ fl.frame.receiver = some j ∧ due j = some (fl.endsAt + sifs)
  answered : ∀ {i x}, heard i = some x → x.frame.isAck = true → x.frame.receiver = some i →
    (∃ fl, g i = some fl ∧ fl.stage = .accepted) ∧ ∀ {j a}, a ∈ acks j → a.receiver ≠ some i

/-- A frame that may be heard by anyone. -/
structure Airs (acks : InterfaceId → List Frame) (g : Flights) (f : Frame) (endsAt : Nat) : Prop where
  data : f.isAck = false → ∃ i, f.sender = some i ∧ g i = some ⟨f, endsAt, .aloft⟩
  ack : f.isAck = true → ∀ {i}, f.receiver = some i →
    (∃ fl, g i = some fl ∧ fl.stage = .accepted) ∧ ∀ {j a}, a ∈ acks j → a.receiver ≠ some i

namespace Ether

variable {sifs : Nat} {acks acks' : InterfaceId → List Frame}
  {heard heard' : InterfaceId → Option Incoming} {due due' : InterfaceId → Option Nat} {g : Flights}
  {i j : InterfaceId} {f : Frame} (h : Ether sifs acks heard due g)
include h

/-- Frames may end, and acknowledgements may be sent. -/
lemma mono (ha : ∀ {j a}, a ∈ acks' j → a ∈ acks j ∧ due' j = due j)
    (hh : ∀ {j x}, heard' j = some x → heard j = some x) : Ether sifs acks' heard' due' g where
  data := fun hx => h.data (hh hx)
  owed := fun hmem => by
    obtain ⟨hmem, hdue⟩ := ha hmem
    rw [hdue]
    exact h.owed hmem
  answered := fun hx hack hrecv => by
    obtain ⟨hacc, hnone⟩ := h.answered (hh hx) hack hrecv
    exact ⟨hacc, fun hmem => hnone (ha hmem).1⟩

/-- A frame that may be heard by anyone is heard by some. -/
lemma hear {endsAt : Nat} (hf : Airs acks g f endsAt)
    (hh : ∀ {j x}, heard' j = some x → heard j = some x ∨ x = ⟨f, endsAt⟩)
    (ha : ∀ {j a}, a ∈ acks j → due' j = due j) : Ether sifs acks heard' due' g where
  data := fun {j x} hx hdata hrecv => by
    rcases hh hx with hx | rfl
    · exact h.data hx hdata hrecv
    · exact hf.data hdata
  owed := fun hmem => by
    rw [ha hmem]
    exact h.owed hmem
  answered := fun {i x} hx hack hrecv => by
    rcases hh hx with hx | rfl
    · exact h.answered hx hack hrecv
    · exact hf.ack hack hrecv

/-- A radio whose last flight has left nothing on the air launches a frame. -/
lemma launch {fl : Flight} (hself : heard' i = none) (hother : ∀ {j}, j ≠ i → heard' j = heard j)
    (ha : ∀ {j a}, a ∈ acks' j → a ∈ acks j ∧ due' j = due j)
    (hdata : ∀ {j x}, heard j = some x → x.frame.isAck = false → x.frame.receiver = some j →
      x.frame.sender ≠ some i)
    (hacks : ∀ {j a}, a ∈ acks j → a.receiver ≠ some i) :
    Ether sifs acks' heard' due' (g.put i fl) where
  data := fun {j x} hx hd hrecv => by
    by_cases hj : j = i
    · rw [hj, hself] at hx
      cases hx
    · rw [hother hj] at hx
      obtain ⟨s, hs, hg⟩ := h.data hx hd hrecv
      have hsi : s ≠ i := by
        rintro rfl
        exact hdata hx hd hrecv hs
      exact ⟨s, hs, by rw [Flights.put_ne hsi]; exact hg⟩
  owed := fun {j a} hmem => by
    obtain ⟨hmem, hdue⟩ := ha hmem
    obtain ⟨hack, s, fl', hs, hg, hrest⟩ := h.owed hmem
    have hsi : s ≠ i := by
      rintro rfl
      exact hacks hmem hs
    exact ⟨hack, s, fl', hs, by rw [Flights.put_ne hsi]; exact hg, hrest.1, hrest.2.1, hdue ▸ hrest.2.2⟩
  answered := fun {s x} hx hack hrecv => by
    by_cases hs : s = i
    · rw [hs, hself] at hx
      cases hx
    · rw [hother hs] at hx
      obtain ⟨⟨fl', hg, hacc⟩, hnone⟩ := h.answered hx hack hrecv
      exact ⟨⟨fl', by rw [Flights.put_ne hs]; exact hg, hacc⟩, fun hmem => hnone (ha hmem).1⟩

/-- A radio takes the acknowledgement that it awaited. -/
lemma settle {x : Incoming} {fl : Flight} (hx : heard i = some x) (hack : x.frame.isAck = true)
    (hrecv : x.frame.receiver = some i) (hself : heard' i = none)
    (hother : ∀ {j}, j ≠ i → heard' j = heard j)
    (ha : ∀ {j a}, a ∈ acks' j → a ∈ acks j ∧ due' j = due j) :
    Ether sifs acks' heard' due' (g.put i fl) := by
  obtain ⟨⟨fl', hg, hacc⟩, hnone⟩ := h.answered hx hack hrecv
  refine h.launch hself hother ha (fun hy hd hr hs => ?_) hnone
  obtain ⟨s, hs', hg'⟩ := h.data hy hd hr
  rw [hs] at hs'
  cases hs'
  rw [hg] at hg'
  cases hg'
  cases hacc

/-- A flight that is aloft is heard by its receiver only. -/
lemma sender_ne {x y : Incoming} {k : InterfaceId} (hx : heard j = some x) (hd : x.frame.isAck = false)
    (hrecv : x.frame.receiver = some j) (hs : x.frame.sender = some i) (hk : k ≠ j)
    (hy : heard k = some y) (hyd : y.frame.isAck = false) (hyr : y.frame.receiver = some k) :
    y.frame.sender ≠ some i := by
  intro hys
  obtain ⟨s, hs', hg⟩ := h.data hx hd hrecv
  obtain ⟨s', hys', hg'⟩ := h.data hy hyd hyr
  rw [hs] at hs'
  rw [hys] at hys'
  cases hs'
  cases hys'
  rw [hg] at hg'
  simp only [Option.some.injEq, Flight.mk.injEq] at hg'
  rw [← hg'.1, hrecv] at hyr
  exact hk (Option.some.inj hyr).symm

/-- No acknowledgement of a flight is owed as long as it is aloft. -/
lemma receiver_ne {fl : Flight} {a : Frame} {k : InterfaceId} (hg : g i = some fl)
    (hst : fl.stage = .aloft) (hmem : a ∈ acks k) : a.receiver ≠ some i := by
  intro hrecv
  obtain ⟨-, s, fl', hs, hg', hacc, -⟩ := h.owed hmem
  rw [hrecv] at hs
  cases hs
  rw [hg] at hg'
  cases hg'
  rw [hst] at hacc
  cases hacc

/-- A radio takes a data frame, and owes an acknowledgement. -/
lemma accept {x : Incoming} {airtime : Nat} (hx : heard j = some x) (hd : x.frame.isAck = false)
    (hrecv : x.frame.receiver = some j) (hs : x.frame.sender = some i)
    (hacks' : acks' j = [x.frame.ackFrom j airtime]) (hdue : due' j = some (x.endsAt + sifs))
    (hself : heard' j = none) (hother : ∀ {k}, k ≠ j → heard' k = heard k)
    (ha : ∀ {k}, k ≠ j → acks' k = acks k ∧ due' k = due k) :
    Ether sifs acks' heard' due' (g.put i ⟨x.frame, x.endsAt, .accepted⟩) := by
  obtain ⟨s, hs', hg⟩ := h.data hx hd hrecv
  rw [hs] at hs'
  cases hs'
  have hmem' : ∀ {k a}, a ∈ acks' k →
      k = j ∧ a = x.frame.ackFrom j airtime ∨ k ≠ j ∧ a ∈ acks k ∧ due' k = due k := by
    intro k a hmem
    by_cases hk : k = j
    · subst hk
      rw [hacks', List.mem_singleton] at hmem
      exact .inl ⟨rfl, hmem⟩
    · rw [(ha hk).1] at hmem
      exact .inr ⟨hk, hmem, (ha hk).2⟩
  refine ⟨fun {k y} hy hyd hyr => ?_, fun {k a} hmem => ?_, fun {k y} hy hya hyr => ?_⟩
  · by_cases hk : k = j
    · rw [hk, hself] at hy
      cases hy
    · rw [hother hk] at hy
      obtain ⟨s, hs', hg'⟩ := h.data hy hyd hyr
      have hsi : s ≠ i := by
        rintro rfl
        exact h.sender_ne hx hd hrecv hs hk hy hyd hyr hs'
      exact ⟨s, hs', by rw [Flights.put_ne hsi]; exact hg'⟩
  · rcases hmem' hmem with ⟨rfl, rfl⟩ | ⟨hk, hmem, hdue'⟩
    · exact ⟨rfl, i, _, hs, Flights.put_self .., rfl, hrecv, hdue⟩
    · obtain ⟨hack, s, fl, hs', hg', hrest⟩ := h.owed hmem
      have hsi : s ≠ i := by
        rintro rfl
        exact h.receiver_ne hg rfl hmem hs'
      exact ⟨hack, s, fl, hs', by rw [Flights.put_ne hsi]; exact hg', hrest.1, hrest.2.1,
        hdue' ▸ hrest.2.2⟩
  · by_cases hk : k = j
    · rw [hk, hself] at hy
      cases hy
    · rw [hother hk] at hy
      obtain ⟨⟨fl, hg', hacc⟩, hnone⟩ := h.answered hy hya hyr
      have hki : k ≠ i := by
        rintro rfl
        rw [hg] at hg'
        cases hg'
        cases hacc
      refine ⟨⟨fl, by rw [Flights.put_ne hki]; exact hg', hacc⟩, fun hmem => ?_⟩
      rcases hmem' hmem with ⟨-, rfl⟩ | ⟨-, hmem, -⟩
      · have hr : (x.frame.ackFrom j airtime).receiver = some i := hs
        rw [hr]
        exact fun he => hki (Option.some.inj he).symm
      · exact hnone hmem

end Ether

end CarrierSense
