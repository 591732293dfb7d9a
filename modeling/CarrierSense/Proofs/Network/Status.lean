import CarrierSense.Proofs.Network.Setup

/-!
# What the status of a radio says

In a reachable network the status of a radio determines which of its timers are pending, which duties it
has put off, and what its queues hold. So no event ever finds a radio without the frame that it is about.
-/

namespace CarrierSense

namespace Radio

/-- Duties, queues and tracked frame of a radio, as its status allows them. -/
structure Dutiful (r : Radio) : Prop where
  one : r.duties.count true ≤ 1
  clear : r.status ∈ [.idle, .waitingForDifs, .waitingForBackoff, .sendingMessage] → true ∉ r.duties
  retransmit : r.retransmitPending → r.status ∈ [.receivingMessage, .waitingForSifs, .sendingAck]
  paused : r.backoffPaused → r.status ∈ [.waitingForSifs, .sendingAck]
  acks : r.acks.length = if r.status = .waitingForSifs then 1 else 0
  idle : r.status = .idle → r.outgoing = []
  frame : r.status ∈ [.waitingForDifs, .waitingForBackoff, .sendingMessage, .waitingForAck] ∨
    true ∈ r.duties → r.outgoing ≠ []
  tracked : r.incoming ≠ none → r.status = .waitingForDifs ∧ r.collision ∨
    r.status = .waitingForBackoff ∨ r.status = .receivingMessage

/-- A radio that puts nothing off has none of its duties. -/
lemma Unburdened.duties_eq {r : Radio} (h : r.Unburdened) : r.duties = [false, false, false] := by
  simp only [duties, h.waitingForAck, h.retransmitPending, h.backoffPaused]

/-- A sound radio is dutiful. -/
lemma Sound.dutiful {r : Radio} {d : Alarms} (h : r.Sound d) : r.Dutiful := by
  have ho := h.orderly
  unfold Orderly at ho
  cases hs : r.status <;> simp only [hs] at ho
  case idle =>
    obtain ⟨hu, hq, hin⟩ := ho
    constructor <;> simp_all [hu.duties_eq, hu.acks, hu.retransmitPending, hu.backoffPaused]
  case waitingForDifs =>
    obtain ⟨hu, hq, hc⟩ := ho
    have hc : r.incoming ≠ none → r.collision := by
      simpa [isReceiving, Option.isSome_iff_ne_none] using hc
    constructor <;> simp_all [hu.duties_eq, hu.acks, hu.retransmitPending, hu.backoffPaused]
  case waitingForBackoff =>
    obtain ⟨hu, hq⟩ := ho
    constructor <;> simp_all [hu.duties_eq, hu.acks, hu.retransmitPending, hu.backoffPaused]
  case sendingMessage =>
    obtain ⟨hu, hq, hin⟩ := ho
    constructor <;> simp_all [hu.duties_eq, hu.acks, hu.retransmitPending, hu.backoffPaused]
  case waitingForAck =>
    obtain ⟨how, hacks, hw, hin⟩ := ho
    obtain ⟨hre, hp, hq⟩ := how.of_waitingForAck hw
    constructor <;> simp [hs, hacks, hin, hre, hp, hq, how.one]
  case receivingMessage =>
    obtain ⟨how, hacks, hp, hin⟩ := ho
    constructor <;> simp [hs, hacks, hp, how.one]
    exact how.frame
  case waitingForSifs =>
    obtain ⟨how, hacks, hin⟩ := ho
    constructor <;> simp [hs, hacks, hin, how.one]
    exact how.frame
  case sendingAck =>
    obtain ⟨how, hacks, hin⟩ := ho
    constructor <;> simp [hs, hacks, hin, how.one]
    exact how.frame

end Radio

namespace Network

variable {net : Network} {i : InterfaceId} {r : Radio}

/-- In a sound network the timers of an interface that are pending are those that its status dictates. -/
lemma Sound.pending_iff (h : net.Sound) (hr : net.radio i = .ok r) (k : Timer) :
    (∃ due, net.scheduler.Pending due (.timer i k)) ↔ k ∈ r.dictated := by
  rw [← (h.radio hr).dictated, Option.isSome_iff_exists]
  constructor
  · rintro ⟨due, hp⟩
    exact ⟨due.time, h.coherent.alarms_eq_of_pending hp⟩
  · rintro ⟨time, ht⟩
    obtain ⟨n, hp⟩ := h.coherent.alarms_eq_some.1 ht
    exact ⟨⟨time, n⟩, hp⟩

/-- A radio keeps the handle of a timer exactly while it is pending. -/
lemma Coherent.get_eq_some (h : net.Coherent) (hr : net.radio i = .ok r) {k : Timer} {id : EventId} :
    r.timers.get k = some id ↔ ∃ time, net.scheduler.Pending ⟨time, id.number⟩ (.timer i k) := by
  refine ⟨h.slot hr, ?_⟩
  rintro ⟨time, hp⟩
  obtain ⟨r', hr', hk⟩ := h.kept hp
  rw [hr] at hr'
  cases hr'
  exact hk

/-- In every reachable network the pending timers of an interface are exactly the ones that the status of
its radio dictates, each is pending once, and the radio keeps their handles. A radio that waits for an
acknowledgement has not forgotten that it does, and one that is receiving tracks a frame; whatever the
status, the timer of a reception is pending if and only if a frame is tracked, and the timer of an
acknowledgement if and only if one is awaited. -/
theorem Reachable.timers_match_status (h : net.Reachable) (hr : net.radio i = .ok r) :
    (∀ k, (∃ due, net.scheduler.Pending due (.timer i k)) ↔ k ∈ r.dictated) ∧
      (∀ k due due', net.scheduler.Pending due (.timer i k) →
        net.scheduler.Pending due' (.timer i k) → due = due') ∧
      (∀ k id, r.timers.get k = some id ↔
        ∃ time, net.scheduler.Pending ⟨time, id.number⟩ (.timer i k)) ∧
      (r.status = .waitingForAck → r.waitingForAck) ∧
      (r.status = .receivingMessage → r.incoming ≠ none) ∧
      ((∃ due, net.scheduler.Pending due (.timer i .reception)) ↔ r.incoming ≠ none) ∧
      ((∃ due, net.scheduler.Pending due (.timer i .ackTimeout)) ↔ r.waitingForAck) := by
  have hs := h.sound
  have hsound := hs.radio hr
  have ho := hsound.orderly
  refine ⟨hs.pending_iff hr, fun k due due' => hs.coherent.timer_unique,
    fun k id => hs.coherent.get_eq_some hr, fun hst => ?_, fun hst => ?_, ?_, ?_⟩
  · simp only [Radio.Orderly, hst] at ho
    exact ho.2.2.1
  · simp only [Radio.Orderly, hst] at ho
    exact Option.isSome_iff_ne_none.1 ho.2.2.2
  · rw [hs.pending_iff hr, ← hsound.dictated, hsound.reception, Option.isSome_map,
      Option.isSome_iff_ne_none]
  · rw [hs.pending_iff hr, ← hsound.dictated]
    refine ⟨fun hk => hsound.expects hk, fun hw => ?_⟩
    obtain ⟨-, hst⟩ := hsound.of_waitingForAck hw
    rw [hsound.dictated]
    rcases hst with hst | hst | hst | hst <;> simp [Radio.dictated, hst, Radio.awaiting, hw]

/-- When the frame has reached the second node, the pause before its acknowledgement is all that is
pending there. -/
theorem timers_of_pair : ∃ (net : Network) (r : Radio),
    net.Reachable ∧ net.radio ⟨1⟩ = .ok r ∧ r.status = .waitingForSifs ∧
    ∀ k, (∃ due, net.scheduler.Pending due (.timer ⟨1⟩ k)) ↔ k = .sifs := by
  have hend : endsWith (Op.applyAll 100 (Op.pair ++ [.initRun, .runTo 550]) [] (.new {} 7 [.delta 5]))
      (fun _ net => net.radios.toList.map (fun r => (r.status, r.dictated)) =
        [(.waitingForAck, [.ackTimeout]), (.waitingForSifs, [.sifs])]) = true := by
    decide +kernel
  obtain ⟨log, net, hok, htest⟩ := endsWith_iff.1 hend
  have hreach : net.Reachable := ⟨{}, 7, [.delta 5], log, .of_applyAll .start hok fun _ _ => trivial⟩
  obtain ⟨r₀, r, hradios⟩ : ∃ r₀ r, net.radios.toList = [r₀, r] := by
    have hlen := congrArg List.length (of_decide_eq_true htest)
    exact List.length_eq_two.1 (by simpa using hlen)
  have hr : net.radio ⟨1⟩ = .ok r := by
    rw [radio_eq_ok, ← Array.getElem?_toList, hradios]
    rfl
  simp only [hradios, List.map_cons, List.map_nil, decide_eq_true_eq, List.cons.injEq, Prod.mk.injEq,
    and_true] at htest
  refine ⟨net, r, hreach, hr, htest.2.1, fun k => ?_⟩
  rw [(hreach.timers_match_status hr).1 k, htest.2.2, List.mem_singleton]

/-- A radio whose timer runs out has what the timer is about: a frame to send after an idle time or a
countdown, an acknowledgement to send after the pause that goes before it, and a frame that has ended. -/
def Moment.Provided (m : Moment) : Prop :=
  ∀ {i k r}, m.cause = .event (.timer i k) → m.before.radio i = .ok r →
    (k = .difs ∨ k = .backoff → r.outgoing ≠ []) ∧ (k = .sifs → r.acks ≠ []) ∧
      (k = .reception → r.incoming ≠ none)

/-- A timer that runs out in a sound network finds what it is about. -/
lemma Sound.provided {m : Moment} {result : Except NetworkError Unit} (h : net.Sound)
    (hf : net.Fires m result) : m.Provided := by
  intro i k r hm hr
  obtain ⟨id, e, scheduler, hp, hc, hcause, -⟩ := hf
  rw [hm] at hcause
  cases hcause
  obtain ⟨hal, -, -, -, -, hself⟩ := h.pop_timer hp hc
  obtain ⟨d, hd, rfl, -⟩ := hself hr
  have hx := hd.expects (k := k) (by simp [hal])
  refine ⟨?_, ?_, ?_⟩
  · rintro (rfl | rfl)
    · exact (hd.of_waitingForDifs hx).2.2.2.1
    · exact (hd.of_waitingForBackoff hx.1).2.2.2
  · rintro rfl hnil
    have hacks := hd.dutiful.acks
    have hx : r.status = .waitingForSifs := hx
    simp [hx, hnil] at hacks
  · rintro rfl
    exact hx

/-- Events keep a network sound, and find all that they rely on. -/
lemma dutiful_closed : Closed (fun log net => net.Sound ∧ ∀ m ∈ log, m.Provided) fun _ => True where
  clock := fun h ha => ⟨h.1.advanceTo ha, h.2⟩
  event := fun h hf _ => by
    refine ⟨h.1.fires hf, fun m hm => ?_⟩
    rcases List.mem_append.1 hm with hm | hm
    · exact h.2 m hm
    · cases List.mem_singleton.1 hm
      exact h.1.provided hf

/-- Whatever is done with a new network, duties, queues and tracked frame of all its radios fit their
status; and whenever a timer has run out, the radio had what the timer was about. -/
theorem Run.radios_dutiful {timing : Timing} {seed : UInt64} {laws : List Law} {log : List Moment}
    (hrun : Run (fun _ _ => True) (Network.new timing seed laws) log net) :
    (∀ i r, net.radio i = .ok r → r.Dutiful) ∧ ∀ m ∈ log, m.Provided := by
  have h : net.Sound ∧ ∀ m ∈ log, m.Provided := by
    refine dutiful_closed.run (fun h hop _ ha => ⟨h.1.apply hop ha, fun m hm => ?_⟩)
      (fun _ _ => trivial) ⟨new_sound timing seed laws, by simp⟩ hrun
    rcases List.mem_append.1 hm with hm | hm
    · exact h.2 m hm
    · cases List.mem_singleton.1 hm
      exact fun hcause => by cases hcause
  exact ⟨fun i r hr => (h.1.radio hr).dutiful, h.2⟩

/-- In a run of the two nodes, the second one finds the acknowledgement that it paused for. -/
theorem dutiful_of_pair : ∃ (log : List Moment) (net : Network) (r : Radio),
    Run (fun _ _ => True) (.new {} 7 [.delta 5]) log net ∧ net.radio ⟨1⟩ = .ok r ∧ r.Dutiful ∧
      ∃ m ∈ log, m.cause = .event (.timer ⟨1⟩ .sifs) ∧ m.Provided := by
  have hend : endsWith (Op.applyAll 100 (Op.pair ++ [.initRun, .runUntilIdle]) [] (.new {} 7 [.delta 5]))
      (fun log net => net.radios.size = 2 ∧ (log.any fun m =>
        match m.cause with
        | .event e => e = .timer ⟨1⟩ .sifs
        | .call _ => false) = true) = true := by
    decide +kernel
  obtain ⟨log, net, hok, htest⟩ := endsWith_iff.1 hend
  obtain ⟨hsize, hany⟩ := of_decide_eq_true htest
  have hrun : Run (fun _ _ => True) (.new {} 7 [.delta 5]) log net :=
    .of_applyAll .start hok fun _ _ => trivial
  obtain ⟨hduty, hprov⟩ := hrun.radios_dutiful
  have hr : net.radio ⟨1⟩ = .ok net.radios[1] := radio_eq_ok.2 (by simp)
  refine ⟨log, net, net.radios[1], hrun, hr, hduty _ _ hr, ?_⟩
  obtain ⟨m, hm, hcause⟩ := List.any_eq_true.1 hany
  refine ⟨m, hm, ?_, hprov m hm⟩
  split at hcause
  · rename_i e he
    rw [he, of_decide_eq_true hcause]
  · cases hcause

end Network

end CarrierSense
