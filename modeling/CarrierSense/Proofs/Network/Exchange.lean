import CarrierSense.Proofs.Network.BusyPeriods
import CarrierSense.Proofs.Network.Views

/-!
# An isolated exchange

Two interfaces that hear each other, and nobody else about: a frame that one of them is given for the node
of the other goes through in one attempt, and everything comes to rest when its acknowledgement has ended.
The exchange is told as a sequence of views, each of which leads to the next one; where several timers run
out in one tick, the order of the posts decides. It takes a slot of at least one tick, without which the
sender gives the acknowledgement up in the tick in which it ends.
-/

namespace CarrierSense

/-- The interfaces `i` and `j` are the only ones and hear each other, and the node `y` sends with `j`. -/
structure Topology.Couple {κ : Type} (topo : Topology κ) (i j : InterfaceId) (y : NodeId) : Prop where
  distinct : i ≠ j
  only : ∀ {a iface}, topo.interface a = .ok iface → a = i ∨ a = j
  valid : ∀ {a}, a ∈ topo.listeners i ++ topo.listeners j → ∃ iface, topo.interface a = .ok iface
  hears : j ∈ topo.listeners i
  heard : i ∈ topo.listeners j
  home : ∃ iface, topo.interface j = .ok iface ∧ iface.node = y
  site : ∃ site, topo.node y = .ok site ∧ site.iface = some j

/-- Whether a topology is a couple. -/
def Topology.isCouple {κ : Type} (topo : Topology κ) (i j : InterfaceId) (y : NodeId) : Bool :=
  i ≠ j && i.index < 2 && j.index < 2 && topo.interfaces.size = 2 &&
    (topo.listeners i ++ topo.listeners j).all (fun a => a.index < 2) &&
    (topo.listeners i).contains j && (topo.listeners j).contains i &&
    match topo.interface j, topo.node y with
    | .ok iface, .ok site => iface.node = y && site.iface = some j
    | _, _ => false

/-- The check for a couple is sound. -/
lemma Topology.couple_of_isCouple {κ : Type} {topo : Topology κ} {i j : InterfaceId} {y : NodeId}
    (h : topo.isCouple i j y = true) : topo.Couple i j y := by
  simp only [isCouple, Bool.and_eq_true, decide_eq_true_eq, List.all_eq_true, List.contains_iff_mem] at h
  obtain ⟨⟨⟨⟨⟨⟨⟨hne, hi⟩, hj⟩, hsize⟩, hvalid⟩, hhears⟩, hheard⟩, hlast⟩ := h
  split at hlast
  · rename_i iface site hiface hsite
    simp only [Bool.and_eq_true, decide_eq_true_eq] at hlast
    refine ⟨hne, fun {a iface} ha => ?_, fun ha => ?_, hhears, hheard, ⟨iface, hiface, hlast.1⟩,
      ⟨site, hsite, hlast.2⟩⟩
    · have hlt : a.index < 2 := hsize ▸ (Array.getElem?_eq_some_iff.1 (interface_eq_ok.1 ha)).1
      have hij : i.index ≠ j.index := fun he => hne (by cases i; cases j; simp_all)
      have hcases : a.index = i.index ∨ a.index = j.index := by omega
      exact hcases.imp (fun he => by cases a; cases i; simp_all) fun he => by cases a; cases j; simp_all
    · have hlt := hvalid _ ha
      exact ⟨_, interface_eq_ok.2 (Array.getElem?_eq_getElem (hsize ▸ hlt))⟩
  · cases hlast

/-- A radio with nothing to do, which remembers what `r` does from its past. -/
def Radio.atRest (r : Radio) : Radio :=
  { window := r.window, backoffRemaining := r.backoffRemaining, backoffStarted := r.backoffStarted,
    corrupted := r.corrupted }

/-- A frame on its hop from one interface to another one, and the tick at which it was queued. -/
structure Exchange where
  timing : Timing
  began : Nat
  sender : InterfaceId
  receiver : InterfaceId
  /-- The node of the receiver. -/
  home : NodeId
  frame : Frame
  /-- The radio of the sender before the exchange. -/
  near : Radio
  /-- The radio of the receiver before the exchange. -/
  far : Radio

namespace Exchange

variable (x : Exchange)

/-- When the frame goes on the air. -/
def starts : Nat := x.began + x.timing.difs

/-- When the frame has left the air. -/
def ends : Nat := x.starts + x.frame.airtime

/-- When the acknowledgement goes on the air. -/
def replies : Nat := x.ends + x.timing.sifs

/-- When the acknowledgement has ended. -/
def acked : Nat := x.replies + x.timing.ackDuration

/-- When the sender would give the acknowledgement up. -/
def late : Nat := x.ends + x.timing.ackTimeout

/-- The acknowledgement of the frame. -/
def ack : Frame := x.frame.ackFrom x.receiver x.timing.ackDuration

/-- The two radios, and no others. -/
def radios (near far : Radio) : InterfaceId → Option Radio := fun i =>
  if i = x.sender then some near else if i = x.receiver then some far else none

/-- What is between two events of the exchange. -/
inductive Phase where
  /-- The sender waits for an idle medium. -/
  | waiting
  | sending
  /-- The frame has ended, and the receiver has yet to notice. -/
  | sent
  /-- The receiver has taken the frame. -/
  | taken
  | answering
  /-- The acknowledgement has ended, and the sender has yet to notice. -/
  | answered
  | settled

/-- When a phase begins. -/
def clock : Phase → Nat
  | .waiting => x.began
  | .sending => x.starts
  | .sent | .taken => x.ends
  | .answering => x.replies
  | .answered | .settled => x.acked

/-- The radio of the sender in each phase. -/
def senderAt : Phase → Radio
  | .waiting => { x.near.atRest with status := .waitingForDifs, outgoing := [x.frame] }
  | .sending => { x.near.atRest with status := .sendingMessage, outgoing := [x.frame] }
  | .sent | .taken =>
    { x.near.atRest with status := .waitingForAck, outgoing := [x.frame], waitingForAck := true }
  | .answering | .answered =>
    { x.near.atRest with
      status := .receivingMessage, outgoing := [x.frame], waitingForAck := true,
      incoming := some ⟨x.ack, x.acked⟩ }
  | .settled => { x.near.atRest with window := x.timing.windowMin }

/-- The radio of the receiver in each phase. -/
def receiverAt : Phase → Radio
  | .waiting | .answered | .settled => x.far.atRest
  | .sending | .sent =>
    { x.far.atRest with status := .receivingMessage, incoming := some ⟨x.frame, x.ends⟩ }
  | .taken => { x.far.atRest with status := .waitingForSifs, acks := [x.ack] }
  | .answering => { x.far.atRest with status := .sendingAck }

/-- What is pending in each phase, in the order in which it fires. -/
def agenda : Phase → List (Nat × Event)
  | .waiting => [(x.starts, .timer x.sender .difs)]
  | .sending => [(x.ends, .timer x.sender .transmission), (x.ends, .timer x.receiver .reception)]
  | .sent => [(x.ends, .timer x.receiver .reception), (x.late, .timer x.sender .ackTimeout)]
  | .taken => [(x.replies, .timer x.receiver .sifs), (x.late, .timer x.sender .ackTimeout)]
  | .answering =>
    [(x.acked, .timer x.receiver .ackTransmission), (x.acked, .timer x.sender .reception),
      (x.late, .timer x.sender .ackTimeout)]
  | .answered => [(x.acked, .timer x.sender .reception), (x.late, .timer x.sender .ackTimeout)]
  | .settled => []

/-- How many frames the receiver has handed to its node. -/
def handed : Phase → Nat
  | .waiting | .sending | .sent => 0
  | _ => 1

/-- The view in which the clock shows `now`, and the receiver has handed `n` frames to its node. -/
def seen (now : Nat) (near far : Radio) (agenda : List (Nat × Event)) (n : Nat) : View :=
  { now, radios := x.radios near far, agenda, served := fun m => if m = x.home then n else 0 }

/-- What is seen of the exchange in a phase. -/
def view (s : Phase) : View := x.seen (x.clock s) (x.senderAt s) (x.receiverAt s) (x.agenda s) (handed s)

/-- The radio seen at the sender is the first of the two. -/
lemma radios_sender (a b : Radio) : x.radios a b x.sender = some a := if_pos rfl

/-- The radio seen at the receiver is the second of the two. -/
lemma radios_receiver (hne : x.sender ≠ x.receiver) (a b : Radio) : x.radios a b x.receiver = some b := by
  simp [radios, hne.symm]

/-- Another radio at the sender takes the first place. -/
lemma update_sender (a b a' : Radio) :
    Function.update (x.radios a b) x.sender (some a') = x.radios a' b := by
  funext i
  by_cases hi : i = x.sender
  · simp [hi, radios]
  · simp [hi, radios, Function.update_of_ne]

/-- Another radio at the receiver takes the second place. -/
lemma update_receiver (hne : x.sender ≠ x.receiver) (a b b' : Radio) :
    Function.update (x.radios a b) x.receiver (some b') = x.radios a b' := by
  funext i
  by_cases hi : i = x.receiver
  · simp [hi, radios, hne.symm]
  · simp [hi, radios, Function.update_of_ne]

section

variable {x} {w : Setting}

/-- A turn of the sender, which hands nothing to its node. -/
lemma seen_after_sender {now n : Nat} {a b a' : Radio} {agenda : List (Nat × Event)} {es : List Effect}
    (hw : w.self = x.sender) (hes : es.countP Effect.delivers = 0) :
    (x.seen now a b agenda n).after w a' es =
      x.seen now a' b (es.foldl (Effect.reschedule w) agenda) n := by
  simp only [seen, View.after, hw, update_sender, hes, ite_self, Nat.add_zero]

/-- A turn of the receiver. -/
lemma seen_after_receiver {now n : Nat} {a b b' : Radio} {agenda : List (Nat × Event)} {es : List Effect}
    (hne : x.sender ≠ x.receiver) (hw : w.self = x.receiver) (hh : w.home = x.home) :
    (x.seen now a b agenda n).after w b' es =
      x.seen now a b' (es.foldl (Effect.reschedule w) agenda) (n + es.countP Effect.delivers) := by
  have hserved : ∀ m, ((if m = x.home then n else 0) +
      if m = x.home then es.countP Effect.delivers else 0) =
        if m = x.home then n + es.countP Effect.delivers else 0 := by
    intro m
    split <;> rfl
  simp only [seen, View.after, hw, hh, update_receiver _ hne, hserved]

/-- The medium has been idle for long enough, and the sender puts the frame on the air. -/
lemma sender_starts (hn : w.now = x.starts) :
    (x.senderAt .waiting).Expires w .difs (x.senderAt .sending)
      [.report .sendingMessage, .arm .transmission x.ends, .count .framesSent] (.transmit x.frame) := by
  intro timers
  rw [ends, ← hn]
  rfl

/-- The receiver begins to listen to the frame. -/
lemma receiver_listens (hn : w.now = x.starts) :
    (x.receiverAt .waiting).Receives w x.frame (x.receiverAt .sending)
      [.report .receivingMessage, .arm .reception x.ends] := by
  intro timers
  rw [receiverAt, receiverAt, ends, ← hn]
  rfl

/-- The frame has ended, and the sender waits for the acknowledgement. -/
lemma sender_ends (ht : w.timing = x.timing) (hn : w.now = x.ends) :
    (x.senderAt .sending).Expires w .transmission (x.senderAt .sent)
      [.report .waitingForAck, .arm .ackTimeout x.late] .none := by
  intro timers
  rw [late, ← hn, ← ht]
  rfl

/-- The receiver takes the frame for its node, and waits before it answers. -/
lemma receiver_takes (ht : w.timing = x.timing) (hn : w.now = x.ends) (hself : w.self = x.receiver)
    (hdata : x.frame.isAck = false) (hrecv : x.frame.receiver = some x.receiver)
    (hdest : x.frame.destination = w.home) :
    (x.receiverAt .sent).Expires w .reception (x.receiverAt .taken)
      [.deliver x.frame, .report .waitingForSifs, .arm .sifs x.replies] .none := by
  intro timers
  rw [receiverAt, receiverAt, ack, replies, ← hn, ← ht, ← hself]
  simp [Radio.expire, Radio.receptionEnded, Radio.finishListening, Radio.accept, Radio.resume, Frame.isFor,
    Turn.edit, Turn.enter, Turn.ask, Radio.atRest, hdata, hrecv, hdest, hself]

/-- The receiver puts the acknowledgement on the air. -/
lemma receiver_answers (hn : w.now = x.replies) :
    (x.receiverAt .taken).Expires w .sifs (x.receiverAt .answering)
      [.report .sendingAck, .arm .ackTransmission x.acked, .count .acksSent] (.transmit x.ack) := by
  intro timers
  rw [acked, ← hn]
  rfl

/-- The sender begins to listen to the acknowledgement. -/
lemma sender_listens (hn : w.now = x.replies) :
    (x.senderAt .taken).Receives w x.ack (x.senderAt .answering)
      [.report .receivingMessage, .arm .reception x.acked] := by
  intro timers
  rw [senderAt, senderAt, acked, ← hn]
  rfl

/-- The acknowledgement has ended, and the receiver has nothing left to do. -/
lemma receiver_rests : (x.receiverAt .answering).Expires w .ackTransmission (x.receiverAt .answered)
    [.report .idle] .none := by
  intro timers
  rfl

/-- The sender takes the acknowledgement, and is done with the frame. -/
lemma sender_settles (ht : w.timing = x.timing) (hself : w.self = x.sender)
    (hsend : x.frame.sender = some x.sender) :
    (x.senderAt .answered).Expires w .reception (x.senderAt .settled)
      [.disarm .ackTimeout, .report .idle] .none := by
  intro timers
  rw [senderAt, senderAt, ← ht]
  simp [Radio.expire, Radio.receptionEnded, Radio.finishListening, Radio.accept, Radio.resume, Frame.isFor,
    Turn.edit, Turn.enter, Turn.ask, Radio.atRest, Radio.trySend, Radio.headId, ack, Frame.ackFrom, hsend,
    hself]

end

end Exchange

namespace Network

variable {first net : Network} {v : View} {x : Exchange} {i j : InterfaceId} {y : NodeId} {f : Frame}
  {r r' : Radio} {es : List Effect} {iface : Interface Float}

/-- All that the interface `i` reaches is the interface `j`, and perhaps itself. -/
def Reaches (net : Network) (i j : InterfaceId) : Prop :=
  ∃ medium, net.topology.mediumOf i = .ok medium ∧ medium.members ∈ [[j], [i, j], [j, i]]

/-- A list without duplicates that has `b` and at most `a` beside it is one of three. -/
lemma members_of_two {a b : InterfaceId} {l : List InterfaceId} (hne : a ≠ b) (hnd : l.Nodup)
    (honly : ∀ c ∈ l, c = a ∨ c = b) (hb : b ∈ l) : l ∈ [[b], [a, b], [b, a]] := by
  match l with
  | [] => cases hb
  | [c] => simpa [eq_comm] using hb
  | [c, d] =>
    have hcd : c ≠ d := by simpa using hnd
    rcases honly c (by simp) with rfl | rfl <;> rcases honly d (by simp) with rfl | rfl <;> simp_all
  | c :: d :: e :: rest =>
    -- there are no three different members
    have hc := honly c (by simp)
    have hd := honly d (by simp)
    have he := honly e (by simp)
    simp only [List.nodup_cons, List.mem_cons, not_or] at hnd
    rcases hc with rfl | rfl <;> rcases hd with rfl | rfl <;> rcases he with rfl | rfl <;> simp_all

/-- An interface of a couple reaches the other one, and perhaps itself. -/
lemma reaches_of_couple {a b : InterfaceId} (hd : net.topology.Distinct) (hne : a ≠ b)
    (honly : ∀ c ∈ net.topology.listeners a, c = a ∨ c = b) (hb : b ∈ net.topology.listeners a) :
    net.Reaches a b := by
  cases hm : net.topology.mediumOf a with
  | error halt =>
    simp [Topology.listeners, hm] at hb
  | ok medium =>
    rw [Topology.listeners_eq hm] at honly hb
    exact ⟨medium, hm, members_of_two hne (hd.mediumOf hm) honly hb⟩

/-- What the interface `i` sends is heard by `j` alone: if `i` is a member of its own medium, it is deaf. -/
lemma Shows.broadcast (h : Shows first v net) (hm : first.Matched) (hreach : first.Reaches i j)
    {ifacei : Interface Float} (hi : first.topology.interface i = .ok ifacei) {ri : Radio}
    (hri : v.radios i = some ri) (hdeaf : ri.isDeaf = true)
    (hj : first.topology.interface j = .ok iface) {w : Setting} (hw : w = v.setting first.timing j iface)
    (hne : i ≠ j) (hrj : v.radios j = some r) (hrec : r.Receives w f r' es) (htime : Timely v.now es)
    (hfault : ∀ e ∈ es, e.isFault = false) :
    ∃ net', net.broadcast i f = .ok (.ok (), net') ∧ Shows first (v.after w r' es) net' := by
  obtain ⟨medium, hmedium, hmem⟩ := hreach
  have hself : w.self = j := by rw [hw]; rfl
  have hb : net.broadcast i f = net.receiveAll f medium.members := by
    have hmedium' : net.topology.mediumOf i = .ok medium := h.topology ▸ hmedium
    simp only [Network.broadcast, hmedium', ok_bind]
  rw [hb]
  simp only [List.mem_cons, List.not_mem_nil, or_false] at hmem
  rcases hmem with hmem | hmem | hmem <;> rw [hmem]
  · obtain ⟨net', hn, hshows⟩ := h.receive hm hj hw hrj hrec htime hfault
    exact ⟨net', by simp only [receiveAll, hn, andThen], hshows⟩
  · obtain ⟨mid, hmiss, hmid⟩ := h.miss (f := f) hm hi hri hdeaf
    obtain ⟨net', hn, hshows⟩ := hmid.receive hm hj hw hrj hrec htime hfault
    exact ⟨net', by simp only [receiveAll, hmiss, hn, andThen], hshows⟩
  · obtain ⟨mid, hn, hmid⟩ := h.receive hm hj hw hrj hrec htime hfault
    have hri' : (v.after w r' es).radios i = some ri := by
      rw [v.radios_after_other r' es (by rw [hself]; exact hne)]
      exact hri
    obtain ⟨net', hmiss, hshows⟩ := hmid.miss (f := f) hm hi hri' hdeaf
    exact ⟨net', by simp only [receiveAll, hmiss, hn, andThen], hshows⟩

/-- The exchange can take place in the network. -/
structure Hosts (first : Network) (x : Exchange) : Prop where
  matched : first.Matched
  distinct : first.topology.Distinct
  timing : first.timing = x.timing
  couple : first.topology.Couple x.sender x.receiver x.home
  data : x.frame.isAck = false
  sender : x.frame.sender = some x.sender
  receiver : x.frame.receiver = some x.receiver
  destination : x.frame.destination = x.home
  slot : 1 ≤ x.timing.slot
  last : x.late ≤ Clock.last

namespace Hosts

open Exchange

variable (h : first.Hosts x)
include h

/-- The order of the times of an exchange. -/
lemma times : x.starts ≤ x.ends ∧ x.ends ≤ x.replies ∧ x.replies ≤ x.acked ∧ x.acked < x.late ∧
    x.late ≤ Clock.last ∧ x.timing.difs ≤ Clock.last := by
  have hslot := h.slot
  have hlast := h.last
  simp only [ends, replies, acked, late, starts, Timing.ackTimeout] at hlast ⊢
  omega

/-- A timer of the sender runs out. -/
lemma sender_turns {s s' : Phase} {k : Timer} {q : Sequel} {rest : List (Nat × Event)}
    (plan : List (Nat × Event))
    (ha : x.agenda s = (x.clock s', .timer x.sender k) :: rest)
    (hexp : ∀ {w : Setting}, w.timing = x.timing → w.now = x.clock s' → w.self = x.sender →
      (x.senderAt s).Expires w k (x.senderAt s') es q)
    (htime : Timely (x.clock s') es) (hfault : ∀ e ∈ es, e.isFault = false)
    (hserved : es.countP Effect.delivers = 0)
    (hplan : ∀ {w : Setting}, w.self = x.sender → es.foldl (Effect.reschedule w) rest = plan)
    (hfollow : ∀ {mid},
      Shows first (x.seen (x.clock s') (x.senderAt s') (x.receiverAt s) plan (handed s)) mid →
      ∃ net', mid.follow x.sender q = .ok (.ok (), net') ∧ Shows first (x.view s') net') :
    first.Leads (x.view s) (x.view s') := by
  obtain ⟨iface, hi⟩ := h.couple.valid (List.mem_append_right _ h.couple.heard)
  let u := x.seen (x.clock s') (x.senderAt s) (x.receiverAt s) rest (handed s)
  let w := u.setting first.timing x.sender iface
  have hv : (x.view s).radios x.sender = some (x.senderAt s) := x.radios_sender _ _
  refine leads_of_timer (u := u) (w := w) h.matched ha hi hv rfl rfl (hexp h.timing rfl rfl)
    (h.timing ▸ h.times.2.2.2.2.2) htime hfault fun {mid} hmid => hfollow ?_
  rw [seen_after_sender rfl hserved, hplan rfl] at hmid
  exact hmid

/-- A timer of the receiver runs out. -/
lemma receiver_turns {s s' : Phase} {k : Timer} {q : Sequel} {rest : List (Nat × Event)}
    (plan : List (Nat × Event))
    (ha : x.agenda s = (x.clock s', .timer x.receiver k) :: rest)
    (hexp : ∀ {w : Setting}, w.timing = x.timing → w.now = x.clock s' → w.self = x.receiver →
      w.home = x.home → (x.receiverAt s).Expires w k (x.receiverAt s') es q)
    (htime : Timely (x.clock s') es) (hfault : ∀ e ∈ es, e.isFault = false)
    (hserved : handed s + es.countP Effect.delivers = handed s')
    (hplan : ∀ {w : Setting}, w.self = x.receiver → es.foldl (Effect.reschedule w) rest = plan)
    (hfollow : ∀ {mid},
      Shows first (x.seen (x.clock s') (x.senderAt s) (x.receiverAt s') plan (handed s')) mid →
      ∃ net', mid.follow x.receiver q = .ok (.ok (), net') ∧ Shows first (x.view s') net') :
    first.Leads (x.view s) (x.view s') := by
  obtain ⟨iface, hi, hhome⟩ := h.couple.home
  let u := x.seen (x.clock s') (x.senderAt s) (x.receiverAt s) rest (handed s)
  let w := u.setting first.timing x.receiver iface
  have hv : (x.view s).radios x.receiver = some (x.receiverAt s) := x.radios_receiver h.couple.distinct _ _
  refine leads_of_timer (u := u) (w := w) h.matched ha hi hv rfl rfl (hexp h.timing rfl rfl hhome)
    (h.timing ▸ h.times.2.2.2.2.2) htime hfault fun {mid} hmid => hfollow ?_
  rw [seen_after_receiver h.couple.distinct rfl hhome, hplan rfl, hserved] at hmid
  exact hmid

/-- Each of the two interfaces reaches the other one. -/
lemma reaches : first.Reaches x.sender x.receiver ∧ first.Reaches x.receiver x.sender := by
  have honly : ∀ {c}, c ∈ first.topology.listeners x.sender ++ first.topology.listeners x.receiver →
      c = x.sender ∨ c = x.receiver := by
    intro c hc
    obtain ⟨iface, hc⟩ := h.couple.valid hc
    exact h.couple.only hc
  exact ⟨reaches_of_couple h.distinct h.couple.distinct (fun c hc => honly (List.mem_append_left _ hc))
    h.couple.hears, reaches_of_couple h.distinct h.couple.distinct.symm
    (fun c hc => (honly (List.mem_append_right _ hc)).symm) h.couple.heard⟩

/-- The sender begins to send, and the receiver to listen. -/
lemma waiting_leads : first.Leads (x.view .waiting) (x.view .sending) := by
  obtain ⟨h₁, h₂, h₃, h₄, h₅, -⟩ := h.times
  obtain ⟨iface, hi⟩ := h.couple.valid (List.mem_append_right _ h.couple.heard)
  obtain ⟨iface', hj, hhome⟩ := h.couple.home
  refine h.sender_turns [(x.ends, .timer x.sender .transmission)] rfl
    (fun _ hn _ => sender_starts hn) ?_ (by simp [Effect.isFault, Counter.isFault]) rfl (fun hw => ?_)
    fun {mid} hmid => ?_
  · simp [clock]
    omega
  · simp [Effect.reschedule, Agenda.drop, Agenda.post, hw]
  · obtain ⟨net', hn, hshows⟩ := hmid.broadcast (f := x.frame) h.matched h.reaches.1 hi (x.radios_sender _ _)
      rfl hj rfl h.couple.distinct (x.radios_receiver h.couple.distinct _ _) (receiver_listens rfl)
      (by simp [seen, clock]; omega) (by simp [Effect.isFault])
    refine ⟨net', hn, ?_⟩
    rw [seen_after_receiver h.couple.distinct rfl hhome] at hshows
    simpa [view, seen, Effect.reschedule, Agenda.drop, Agenda.post, View.setting, agenda, handed,
      Effect.delivers] using hshows

/-- The end of the frame is seen by the sender first. -/
lemma sending_leads : first.Leads (x.view .sending) (x.view .sent) := by
  obtain ⟨h₁, h₂, h₃, h₄, h₅, -⟩ := h.times
  refine h.sender_turns (x.agenda .sent) rfl (fun ht hn _ => sender_ends ht hn) ?_
    (by simp [Effect.isFault]) rfl (fun hw => ?_) fun hmid => ⟨_, rfl, hmid⟩
  · simp [clock]
    omega
  · have hlate : x.ends ≤ x.late := by omega
    simp [Effect.reschedule, Agenda.drop, Agenda.post, hw, agenda, hlate]

/-- Then the receiver notices it and takes the frame. -/
lemma sent_leads : first.Leads (x.view .sent) (x.view .taken) := by
  obtain ⟨h₁, h₂, h₃, h₄, h₅, -⟩ := h.times
  refine h.receiver_turns (x.agenda .taken) rfl (fun ht hn hself hhome =>
    receiver_takes ht hn hself h.data h.receiver (h.destination.trans hhome.symm)) ?_
    (by simp [Effect.isFault]) rfl (fun hw => ?_) fun hmid => ⟨_, rfl, hmid⟩
  · simp [clock]
    omega
  · have hlate : ¬ x.late ≤ x.replies := by omega
    simp [Effect.reschedule, Agenda.drop, Agenda.post, hw, agenda, hlate]

/-- The receiver begins to answer, and the sender to listen. -/
lemma taken_leads : first.Leads (x.view .taken) (x.view .answering) := by
  obtain ⟨h₁, h₂, h₃, h₄, h₅, -⟩ := h.times
  obtain ⟨iface, hi⟩ := h.couple.valid (List.mem_append_right _ h.couple.heard)
  obtain ⟨iface', hj, hhome⟩ := h.couple.home
  have hacked : ¬ x.late ≤ x.acked := by omega
  refine h.receiver_turns
    [(x.acked, .timer x.receiver .ackTransmission), (x.late, .timer x.sender .ackTimeout)] rfl
    (fun _ hn _ _ => receiver_answers hn) ?_ (by simp [Effect.isFault, Counter.isFault]) rfl (fun hw => ?_)
    fun {mid} hmid => ?_
  · simp [clock]
    omega
  · simp [Effect.reschedule, Agenda.drop, Agenda.post, hw, hacked]
  · obtain ⟨net', hn, hshows⟩ := hmid.broadcast (f := x.ack) h.matched h.reaches.2 hj
      (x.radios_receiver h.couple.distinct _ _) rfl hi rfl h.couple.distinct.symm (x.radios_sender _ _)
      (sender_listens rfl) (by simp [seen, clock]; omega) (by simp [Effect.isFault])
    refine ⟨net', hn, ?_⟩
    rw [seen_after_sender rfl rfl] at hshows
    simpa [view, seen, Effect.reschedule, Agenda.drop, Agenda.post, View.setting, agenda, handed,
      hacked] using hshows

/-- The end of the acknowledgement is seen by the receiver first. -/
lemma answering_leads : first.Leads (x.view .answering) (x.view .answered) := by
  refine h.receiver_turns (x.agenda .answered) rfl (fun _ _ _ _ => receiver_rests) (by simp)
    (by simp [Effect.isFault]) rfl (fun _ => rfl) fun hmid => ⟨_, rfl, hmid⟩

/-- Then the sender notices it, and the exchange is over. -/
lemma answered_leads : first.Leads (x.view .answered) (x.view .settled) := by
  refine h.sender_turns (x.agenda .settled) rfl (fun ht _ hself => sender_settles ht hself h.sender)
    (by simp) (by simp [Effect.isFault]) rfl (fun hw => ?_) fun hmid => ⟨_, rfl, hmid⟩
  simp [Effect.reschedule, Agenda.drop, hw, agenda]

/-- The exchange takes six events. -/
lemma leadsIn : first.LeadsIn 6 (x.view .waiting) (x.view .settled) :=
  h.waiting_leads.before <| h.sending_leads.before <| h.sent_leads.before <| h.taken_leads.before <|
    h.answering_leads.before <| h.answered_leads.before <| leadsIn_of_idle rfl

/-- The exchange begins when the frame is sent. -/
lemma begins (hf : x.frame = f.onHop x.sender x.receiver)
    (hroute : first.topology.route x.sender f.destination = .ok (.ok (some x.receiver)))
    (hshows : Shows first (x.seen x.began x.near.atRest x.far.atRest [] 0) net) :
    ∃ mid, net.send x.sender f = .ok (.ok (), mid) ∧ Shows first (x.view .waiting) mid := by
  obtain ⟨iface, hi⟩ := h.couple.valid (List.mem_append_right _ h.couple.heard)
  have hlast : x.began + first.timing.difs ≤ Clock.last := by
    have htimes := h.times
    have hstarts : x.starts = x.began + x.timing.difs := rfl
    rw [h.timing]
    omega
  obtain ⟨mid, hs, hmid⟩ := hshows.send h.matched hi (x.radios_sender _ _) rfl hroute hlast
  refine ⟨mid, hs, ?_⟩
  rw [seen_after_sender rfl rfl] at hmid
  simpa [view, seen, Effect.reschedule, Agenda.drop, Agenda.post, View.setting, agenda, handed, clock,
    senderAt, receiverAt, starts, hf, h.timing, Radio.atRest] using hmid

end Hosts

/-- Of two interfaces that hear each other, the one sends directly to the other. -/
lemma route_of_couple {topo : Topology Float} (h : topo.Couple i j y) :
    topo.route i y = .ok (.ok (some j)) := by
  obtain ⟨site, hsite, hj⟩ := h.site
  cases hm : topo.mediumOf i with
  | error halt =>
    have hhears := h.hears
    simp [Topology.listeners, hm] at hhears
  | ok medium =>
    have hhears := h.hears
    rw [Topology.listeners_eq hm] at hhears
    simp only [Topology.mediumOf, bind_eq_ok] at hm
    obtain ⟨iface, hi, hm⟩ := hm
    have hmem : medium.contains j = true := by simpa [Medium.contains] using hhears
    have hsome : medium.isEmpty = false := by
      cases hl : medium.members with
      | nil => rw [hl] at hhears; cases hhears
      | cons => simp [Medium.isEmpty, hl]
    have hdirect : Option.filter medium.contains (some j) = some j := by simp [Option.filter, hmem]
    simp [Topology.route, hi, hm, hsome, hsite, hj, hdirect]

/-- An idle radio of a reachable network is at rest. -/
lemma Reachable.atRest (h : net.Reachable) (hr : net.radio i = .ok r) (hs : r.status = .idle) :
    r = { r.atRest with timers := r.timers } := by
  obtain ⟨timing, seed, laws, log, hrun⟩ := h
  have ho := hrun.overheard
  have hl := ho.attends.listens hr
  have horder := (ho.sound.radio hr).orderly
  simp only [Radio.Orderly, hs] at horder
  obtain ⟨hu, hq, hin⟩ := horder
  have hc : r.collision = false := by
    by_contra hc
    have hat := hl.clear (hl.incoming_eq_none.1 hin) (by simpa using hc)
    simp [Radio.isAttempting, hs] at hat
  obtain ⟨hacks, hw, hre, hp⟩ := hu
  cases r
  simp_all [Radio.atRest]

/-- A network in which nothing is pending and the two interfaces are idle is ready for an exchange. -/
lemma Reachable.shows_rest (hnet : net.Reachable) (hnear : net.radio x.sender = .ok x.near)
    (hfar : net.radio x.receiver = .ok x.far) (hidle : x.near.status = .idle)
    (hidle' : x.far.status = .idle) (hnone : net.scheduler.nextTime? = none) :
    Shows net (x.seen net.now x.near.atRest x.far.atRest [] 0) net := by
  have hsound := hnet.sound
  refine ⟨hsound.coherent, hsound.onTime, rfl, rfl, rfl, fun {a r} ha => ?_, ?_, fun n => ?_, fun _ => rfl⟩
  · simp only [Exchange.seen, Exchange.radios] at ha
    split at ha
    · rename_i hai
      cases ha
      exact ⟨x.near.timers, hai ▸ hnear.trans (congrArg _ (hnet.atRest hnear hidle))⟩
    · split at ha
      · rename_i haj
        cases ha
        exact ⟨x.far.timers, haj ▸ hfar.trans (congrArg _ (hnet.atRest hfar hidle'))⟩
      · cases ha
  · exact Scheduler.agenda_eq_nil.2 (Scheduler.nextTime?_eq_none.1 hnone)
  · simp only [Exchange.seen, ite_self]
    cases net.endpoint n <;> rfl

/-- The frame that was queued at the interface `i` has been taken once by the node `y`, and acknowledged
to the interface `j`; nothing has gone wrong, and both radios are idle. -/
structure Exchanged (net : Network) (i j : InterfaceId) (y : NodeId) (net' : Network) : Prop where
  queue : net'.queue i = []
  consumed : ∀ n, net'.endpoint n = (net.endpoint n).map (Endpoint.took · (if n = y then 1 else 0))
  faultless : ∀ {c : Counter}, c.isFault = true → net'.counters.get c = net.counters.get c
  sender : ∃ r, net'.radio i = .ok r ∧ r.status = .idle
  receiver : ∃ r, net'.radio j = .ok r ∧ r.status = .idle
  idle : net'.scheduler.nextTime? = none

/-- A frame that is sent between two idle interfaces, with nobody else about, goes through in one attempt:
the network comes to rest when the acknowledgement has ended. -/
theorem Reachable.isolated_exchange {ri rj : Radio} (hnet : net.Reachable)
    (hc : net.topology.Couple i j y) (hslot : 1 ≤ net.timing.slot)
    (hri : net.radio i = .ok ri) (hrj : net.radio j = .ok rj) (hidle : ri.status = .idle)
    (hidle' : rj.status = .idle) (hnone : net.scheduler.nextTime? = none) (hdata : f.isAck = false)
    (hdest : f.destination = y)
    (hlast : net.now + net.timing.difs + f.airtime + net.timing.ackTimeout ≤ Clock.last) :
    ∃ mid net', net.send i f = .ok (.ok (), mid) ∧ mid.queue i = [f.onHop i j] ∧
      (∀ fuel, 6 < fuel → mid.runUntilIdle fuel = .ok (.ok (net.now + net.timing.difs + f.airtime +
        net.timing.sifs + net.timing.ackDuration), net')) ∧ net.Exchanged i j y net' := by
  let x : Exchange :=
    { timing := net.timing, began := net.now, sender := i, receiver := j, home := y,
      frame := f.onHop i j, near := ri, far := rj }
  have hhosts : net.Hosts x :=
    ⟨hnet.matched, hnet.distinct, rfl, hc, hdata, rfl, rfl, hdest, hslot, hlast⟩
  have hshows : Shows net (x.seen x.began x.near.atRest x.far.atRest [] 0) net :=
    hnet.shows_rest hri hrj hidle hidle' hnone
  obtain ⟨mid, hsend, hmid⟩ := hhosts.begins rfl (hdest ▸ route_of_couple hc) hshows
  obtain ⟨net', hplays, hend⟩ := hhosts.leadsIn mid hmid
  obtain ⟨timers, hwaiting⟩ := hmid.radio (x.radios_sender _ _)
  obtain ⟨timers', hsender⟩ := hend.radio (x.radios_sender _ _)
  obtain ⟨timers'', hreceiver⟩ := hend.radio (x.radios_receiver hc.distinct _ _)
  have hqueue : ∀ {net : Network} {r : Radio}, net.radio i = .ok r → net.queue i = r.outgoing :=
    fun hr => by simp only [queue, hr]
  refine ⟨mid, net', hsend, hqueue hwaiting, fun fuel hfuel => ?_, hqueue hsender, hend.endpoint,
    hend.faultless, ⟨_, hsender, rfl⟩, ⟨_, hreceiver, rfl⟩, ?_⟩
  · rw [hplays.runUntilIdle hfuel, hend.now]
    rfl
  · rw [Scheduler.nextTime?_eq_head?, hend.agenda]
    rfl

/-- Whether a frame of length 5 can be sent in a network from the first to the second of two interfaces that
are idle and alone. -/
def isReady (net : Network) : Bool :=
  net.topology.isCouple ⟨0⟩ ⟨1⟩ ⟨1⟩ && net.scheduler.nextTime? = none && net.now = 0 &&
    match net.radio ⟨0⟩, net.radio ⟨1⟩ with
    | .ok ri, .ok rj => ri.status = .idle && rj.status = .idle
    | _, _ => false

/-- A frame of length 5, with the standard timing. -/
theorem exchange_of_couple : ∃ net : Network, ∃ ri rj, net.Reachable ∧ net.topology.Couple ⟨0⟩ ⟨1⟩ ⟨1⟩ ∧
    1 ≤ net.timing.slot ∧ net.radio ⟨0⟩ = .ok ri ∧ net.radio ⟨1⟩ = .ok rj ∧ ri.status = .idle ∧
    rj.status = .idle ∧ net.scheduler.nextTime? = none ∧ (Frame.data 1 5 ⟨0⟩ ⟨1⟩).isAck = false ∧
    net.now + net.timing.difs + 5 + net.timing.ackTimeout ≤ Clock.last ∧
    ∃ mid net', net.send ⟨0⟩ (Frame.data 1 5 ⟨0⟩ ⟨1⟩) = .ok (.ok (), mid) ∧
      mid.queue ⟨0⟩ = [(Frame.data 1 5 ⟨0⟩ ⟨1⟩).onHop ⟨0⟩ ⟨1⟩] ∧
      (∀ fuel, 6 < fuel → mid.runUntilIdle fuel = .ok (.ok (net.now + net.timing.difs + 5 +
        net.timing.sifs + net.timing.ackDuration), net')) ∧ net.Exchanged ⟨0⟩ ⟨1⟩ ⟨1⟩ net' := by
  have hend : endsWith (Op.applyAll 100 Op.couple [] (.new {} 7 []))
      (fun _ net => net.isReady && net.timing = {}) = true := by
    decide +kernel
  obtain ⟨log, net, hok, htest⟩ := endsWith_iff.1 hend
  have hrun : Run (fun _ _ => True) (Network.new {} 7 []) log net :=
    Run.of_applyAll .start hok fun _ _ => trivial
  have hreach : net.Reachable := ⟨_, _, _, log, hrun⟩
  simp only [isReady, Bool.and_eq_true, decide_eq_true_eq] at htest
  obtain ⟨⟨⟨⟨hcouple, hnone⟩, hnow⟩, hidle⟩, htiming⟩ := htest
  have hc := Topology.couple_of_isCouple hcouple
  split at hidle
  · rename_i ri rj hri hrj
    simp only [Bool.and_eq_true, decide_eq_true_eq] at hidle
    have hslot : 1 ≤ net.timing.slot := by rw [htiming]; decide
    have hlast : net.now + net.timing.difs + 5 + net.timing.ackTimeout ≤ Clock.last := by
      rw [htiming, hnow]
      decide
    exact ⟨net, ri, rj, hreach, hc, hslot, hri, hrj, hidle.1, hidle.2, hnone, rfl, hlast,
      hreach.isolated_exchange hc hslot hri hrj hidle.1 hidle.2 hnone rfl rfl hlast⟩
  · cases hidle

/-- Without a slot, which passes the check of a timing, the sender gives the acknowledgement up in the tick
in which it ends, and keeps the frame to send it again. -/
theorem exchange_fails_without_slot : ∃ net mid net' : Network, net.Reachable ∧
    net.topology.Couple ⟨0⟩ ⟨1⟩ ⟨1⟩ ∧ net.timing.check = .ok () ∧ net.timing.slot = 0 ∧
    net.scheduler.nextTime? = none ∧ net.now = 0 ∧
    net.send ⟨0⟩ (Frame.data 1 5 ⟨0⟩ ⟨1⟩) = .ok (.ok (), mid) ∧
    mid.runTo 100 (net.timing.difs + 5 + net.timing.sifs + net.timing.ackDuration) = .ok (.ok 35, net') ∧
    net'.counters.ackTimeouts = 1 ∧ net'.queue ⟨0⟩ = [(Frame.data 1 5 ⟨0⟩ ⟨1⟩).onHop ⟨0⟩ ⟨1⟩] ∧
    net'.scheduler.nextTime? = some 49 := by
  have hend : endsWith (Op.applyAll 100 Op.couple [] (.new { slot := 0 } 7 []))
      (fun _ net => net.isReady && net.timing = { slot := 0 } &&
        endsWith (net.send ⟨0⟩ (Frame.data 1 5 ⟨0⟩ ⟨1⟩)) fun _ mid =>
          endsWith (mid.runTo 100 35) fun time net' => time = 35 && net'.counters.ackTimeouts = 1 &&
            net'.queue ⟨0⟩ = [(Frame.data 1 5 ⟨0⟩ ⟨1⟩).onHop ⟨0⟩ ⟨1⟩] &&
            net'.scheduler.nextTime? = some 49) = true := by
    decide +kernel
  obtain ⟨log, net, hok, htest⟩ := endsWith_iff.1 hend
  have hrun : Run (fun _ _ => True) (Network.new { slot := 0 } 7 []) log net :=
    Run.of_applyAll .start hok fun _ _ => trivial
  simp only [isReady, Bool.and_eq_true, decide_eq_true_eq] at htest
  obtain ⟨⟨⟨⟨⟨hcouple, hnone⟩, hnow⟩, -⟩, htiming⟩, htest⟩ := htest
  obtain ⟨_, mid, hsend, htest⟩ := endsWith_iff.1 htest
  obtain ⟨time, net', hto, htest⟩ := endsWith_iff.1 htest
  simp only [Bool.and_eq_true, decide_eq_true_eq] at htest
  obtain ⟨⟨⟨rfl, htimeouts⟩, hqueue⟩, hnext⟩ := htest
  refine ⟨net, mid, net', ⟨_, _, _, log, hrun⟩, Topology.couple_of_isCouple hcouple, ?_, ?_, hnone, hnow,
    hsend, ?_, htimeouts, hqueue, hnext⟩
  · rw [htiming]
    rfl
  · rw [htiming]
  · rw [htiming]
    exact hto

end Network

end CarrierSense
