import CarrierSense.Proofs.Topology.Joining

/-!
# Joining the media of a network

In a reachable network every interface has a medium of its own, so that the closed form of what joins the media
applies: it is exact, nothing else changes, and whoever joins again changes nothing more.
-/

namespace CarrierSense.Network

variable {net : Network}

/-- In every reachable network each interface has its own medium. -/
lemma Reachable.ownMedia (h : net.Reachable) : net.topology.OwnMedia :=
  h.lasting Topology.ownMedia_lasting .empty

/-- Interfaces in range join again, or a member of a medium does. -/
def Op.JoinsAgain (net : Network) : Op → Prop
  | connectInRange => True
  | addMember m j => ∃ medium, net.topology.medium m = .ok medium ∧ j ∈ medium.members
  | _ => False

/-- To let those in range join changes the topology alone. -/
lemma connectInRange_eq (h : net.topology.OwnMedia) :
    net.connectInRange = { net with topology := net.topology.joined } := by
  rw [connectInRange, Topology.connectInRange_eq h]

/-- To let those in range join once more changes nothing. -/
lemma connectInRange_again (h : net.topology.OwnMedia) : net.connectInRange.connectInRange = net.connectInRange := by
  have hjoined : net.connectInRange.topology.OwnMedia := Topology.ownMedia_lasting.connectInRange h
  rw [connectInRange_eq hjoined, connectInRange_eq h]
  simp only [Topology.joined_joined]

/-- Once all in range have joined, calls that let them join again change nothing. -/
lemma apply_of_joinsAgain {op : Op} (h : net.topology.OwnMedia) (hop : op.JoinsAgain net.connectInRange) (fuel : ℕ) :
    op.apply fuel net.connectInRange = .ok (.ok (), net.connectInRange) := by
  cases op with
  | connectInRange => simp only [Op.apply, connectInRange_again h]
  | addMember m j =>
    obtain ⟨medium, hm, hj⟩ := hop
    simp [Op.apply, addMember, Topology.addMember_of_mem hm hj]
  | _ => exact hop.elim

/-- Such calls in a row change nothing, either, by induction over them. -/
lemma applyAll_of_joinsAgain {ops : List Op} (h : net.topology.OwnMedia)
    (hops : ∀ op ∈ ops, op.JoinsAgain net.connectInRange) (fuel : ℕ) (log : List Moment) :
    ∃ log', Op.applyAll fuel ops log net.connectInRange = .ok (.ok log', net.connectInRange) := by
  induction ops generalizing log with
  | nil => exact ⟨log, rfl⟩
  | cons op rest ih =>
    obtain ⟨hop, hrest⟩ := List.forall_mem_cons.1 hops
    obtain ⟨log', hlog'⟩ := ih hrest (log ++ op.moments fuel net.connectInRange)
    refine ⟨log', ?_⟩
    rw [Op.applyAll, apply_of_joinsAgain h hop]
    exact hlog'

/-- Every interface of a reachable network has a medium. When all interfaces in range of each other join, its members
stay what they are, and behind them come, in the order of their numbers, exactly the other interfaces within its radius
that were no members. No member is there twice, before or after, and nothing else in the network changes. Further calls
that let the interfaces in range join, or a member, change nothing at all. -/
theorem Reachable.joins_exactly (h : net.Reachable) :
    (∀ i iface, net.topology.interface i = .ok iface → ∃ medium, net.topology.mediumOf i = .ok medium ∧
      net.connectInRange.topology.mediumOf i = .ok { medium with
        members := medium.members ++ ((List.range net.topology.interfaces.size).map InterfaceId.mk).filter fun j =>
          j ≠ i ∧ j ∉ medium.members ∧ net.topology.reaches i j }) ∧
      net.topology.Distinct ∧ net.connectInRange.topology.Distinct ∧
      net.connectInRange = { net with topology := net.topology.joined } ∧
      ∀ fuel ops log, (∀ op ∈ ops, op.JoinsAgain net.connectInRange) →
        ∃ log', Op.applyAll fuel ops log net.connectInRange = .ok (.ok log', net.connectInRange) := by
  have hown := h.ownMedia
  refine ⟨fun i iface hi => ?_, h.distinct, h.distinct.connectInRange, connectInRange_eq hown,
    fun fuel ops log hops => applyAll_of_joinsAgain hown hops fuel log⟩
  obtain ⟨medium, hm⟩ := hown.exists_mediumOf hi
  refine ⟨medium, hm, ?_⟩
  rw [hown.mediumOf_eq hi] at hm
  rw [connectInRange_eq hown, hown.joined.mediumOf_eq hi, Topology.medium_joined, hm]
  rfl

/-- Two interfaces on one node, and a third one far off that only one of them reaches, but that was let in by hand. -/
theorem joins_exactly_twins : ∃ net : Network, net.Reachable ∧
    (net.topology.media.map Medium.members) = #[[⟨2⟩], [], []] ∧
    (net.connectInRange.topology.media.map Medium.members) = #[[⟨2⟩, ⟨1⟩], [⟨0⟩, ⟨2⟩], []] ∧
    net.connectInRange = { net with topology := net.topology.joined } ∧
    ∃ log, Op.applyAll 1 [.connectInRange, .addMember ⟨1⟩ ⟨2⟩, .connectInRange] [] net.connectInRange =
      .ok (.ok log, net.connectInRange) := by
  have hend : endsWith (Op.applyAll 1 [.addNode "a" ⟨0, 0⟩, .addNode "b" ⟨3, 0⟩, .addInterface ⟨0⟩ "short" 2,
      .addInterface ⟨0⟩ "long" 4, .addInterface ⟨1⟩ "far" 2, .addMember ⟨0⟩ ⟨2⟩] [] (.new {} 7 []))
      (fun _ net => net.topology.media.map Medium.members = #[[⟨2⟩], [], []] &&
        net.connectInRange.topology.media.map Medium.members = #[[⟨2⟩, ⟨1⟩], [⟨0⟩, ⟨2⟩], []]) = true := by
    decide +kernel
  obtain ⟨log, net, hok, htest⟩ := endsWith_iff.1 hend
  have hreachable : net.Reachable := ⟨{}, 7, [], log, .of_applyAll .start hok fun _ _ => trivial⟩
  simp only [Bool.and_eq_true, decide_eq_true_eq] at htest
  obtain ⟨hbefore, hafter⟩ := htest
  obtain ⟨-, -, -, hjoined, hagain⟩ := hreachable.joins_exactly
  have hmember : ∃ medium, net.connectInRange.topology.medium ⟨1⟩ = .ok medium ∧ ⟨2⟩ ∈ medium.members := by
    have hget := congrArg (fun lists => lists[1]?) hafter
    simp only [Array.getElem?_map] at hget
    obtain ⟨medium, hm, hmembers⟩ := Option.map_eq_some_iff.1 hget
    exact ⟨medium, Topology.medium_eq_ok.2 hm, by simp [hmembers]⟩
  exact ⟨net, hreachable, hbefore, hafter, hjoined,
    hagain 1 _ [] (by simp [Op.JoinsAgain, hmember])⟩

end CarrierSense.Network
