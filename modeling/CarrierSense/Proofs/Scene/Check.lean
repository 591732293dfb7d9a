import CarrierSense.Proofs.Outcome
import CarrierSense.Scene.Basic

/-!
# Scenes that were checked

What the check of a scene is good for: the nodes of a scene that passes it have different numbers, and every
source knows how long to wait for its first frame, and sends to other nodes of the scene, one at least.
-/

namespace CarrierSense.Scene

variable {scene : Scene} {node : SceneNode} {traffic : SceneTraffic} {ids : List Nat}

/-- The traffic of a node has somewhere to go, and a law for its first delay. -/
structure Supplied (scene : Scene) (node : SceneNode) (traffic : SceneTraffic) : Prop where
  some_destination : traffic.destinations ≠ []
  known : ∀ id ∈ traffic.destinations, id ∈ scene.nodes.map (·.id)
  others : node.id ∉ traffic.destinations
  arrival : traffic.arrival = none → ∃ law, scene.defaultArrival = some law

/-- Nodes have different numbers, and all traffic is supplied. -/
structure Consistent (scene : Scene) : Prop where
  distinct : (scene.nodes.map (·.id)).Nodup
  supplied : ∀ node ∈ scene.nodes, ∀ traffic, node.traffic = some traffic → scene.Supplied node traffic

/-- If no number stands twice, the numbers differ from each other and from those before them. -/
lemma firstRepeated?_eq_none {seen : Std.TreeSet Nat} (h : firstRepeated? seen ids = none) :
    ids.Nodup ∧ ∀ id ∈ ids, seen.contains id = false := by
  induction ids generalizing seen with
  | nil => simp
  | cons id rest ih =>
    unfold firstRepeated? at h
    split at h
    · cases h
    rename_i hnew
    obtain ⟨hnodup, hunseen⟩ := ih h
    have hother : ∀ id' ∈ rest, id' ≠ id ∧ seen.contains id' = false := by
      intro id' hid'
      have hlater := hunseen id' hid'
      rw [Std.TreeSet.contains_insert, Bool.or_eq_false_iff] at hlater
      refine ⟨?_, hlater.2⟩
      rintro rfl
      simp at hlater
    refine ⟨List.nodup_cons.2 ⟨fun hmem => (hother id hmem).1 rfl, hnodup⟩, ?_⟩
    rw [List.forall_mem_cons]
    exact ⟨eq_false_of_ne_true hnew, fun id' hid' => (hother id' hid').2⟩

/-- Destinations that pass the check are other nodes of the scene. -/
lemma checkDestinations_eq_ok {set : Std.TreeSet Nat} {n : Nat} {destinations : List Nat}
    (h : checkDestinations set n destinations = .ok ()) :
    ∀ id ∈ destinations, id ≠ n ∧ set.contains id = true := by
  induction destinations with
  | nil => simp
  | cons id rest ih =>
    unfold checkDestinations at h
    split at h
    · cases h
    rename_i hother
    split at h
    · cases h
    rename_i hknown
    rw [List.forall_mem_cons]
    exact ⟨⟨hother, by simpa using hknown⟩, ih h⟩

/-- A source that passes the check is supplied. -/
lemma checkTraffic_eq_ok
    (h : checkTraffic (Std.TreeSet.ofList (scene.nodes.map (·.id))) scene.defaultArrival node.id traffic = .ok ()) :
    scene.Supplied node traffic := by
  simp only [checkTraffic] at h
  split at h
  · cases h
  rename_i hsome
  obtain ⟨_, hdestinations, harrival⟩ := bind_eq_ok.1 h
  have hsent := checkDestinations_eq_ok hdestinations
  refine ⟨?_, ?_, ?_, ?_⟩
  · intro hnone
    exact hsome (by simp [hnone])
  · intro id hid
    simpa using (hsent id hid).2
  · intro hself
    exact (hsent node.id hself).1 rfl
  · intro hnone
    rw [hnone] at harrival
    cases hdefault : scene.defaultArrival with
    | some law => exact ⟨law, rfl⟩
    | none =>
      rw [hdefault] at harrival
      cases harrival

/-- The check of a node includes that of its traffic. -/
lemma checkNode_eq_ok {set : Std.TreeSet Nat} {default : Option Law} (h : checkNode set default node = .ok ())
    (ht : node.traffic = some traffic) : checkTraffic set default node.id traffic = .ok () := by
  simp only [checkNode] at h
  split at h
  · cases h
  split at h
  · cases h
  rw [ht] at h
  exact h

/-- If an action succeeds for all members of a list, it succeeds for each. -/
lemma forM_eq_ok {ε α : Type} {action : α → Except ε PUnit} {xs : List α} (h : xs.forM action = .ok ()) :
    ∀ x ∈ xs, action x = .ok () := by
  induction xs with
  | nil => simp
  | cons x rest ih =>
    obtain ⟨_, hx, hrest⟩ := bind_eq_ok.1 h
    rw [List.forall_mem_cons]
    exact ⟨hx, ih hrest⟩

/-- A scene that passes its check is consistent. -/
theorem consistent_of_check (h : scene.check = .ok ()) : scene.Consistent := by
  simp only [check] at h
  split at h
  · cases h
  split at h
  · cases h
  split at h
  · cases h
  rename_i hrepeated
  split at h
  · cases h
  refine ⟨(firstRepeated?_eq_none hrepeated).1, ?_⟩
  intro node hmem traffic htraffic
  exact checkTraffic_eq_ok (checkNode_eq_ok (forM_eq_ok h node hmem) htraffic)

end CarrierSense.Scene
