import CarrierSense.Proofs.Exact
import CarrierSense.Proofs.Topology.Assembly
import Mathlib.Data.List.ProdSigma
import Mathlib.Tactic.Linarith
import Mathlib.Tactic.NormNum
import Mathlib.Tactic.Ring

/-!
# Forwarding along a grid

On a grid with one interface at each integer point, whose radius reaches the four neighbours and no further, a frame
comes one point nearer to its destination with each hop, within a row to the right and within a column down.

Coordinates and radii are exact numbers.
-/

namespace CarrierSense

/-- The point with integer coordinates. -/
def Point.ofNat (x y : ℕ) : Point ℚ := ⟨x, y⟩

namespace Point

variable {x y x' y' : ℕ} {r : ℚ}

/-- Points with different coordinates are different. -/
lemma ofNat_inj : ofNat x y = ofNat x' y' ↔ x = x' ∧ y = y' := by
  simp [ofNat]

/-- Squared distances of grid points are whole numbers. -/
lemma distanceSquared_ofNat : (ofNat x y).distanceSquared (ofNat x' y') =
    (((x : ℤ) - x') * (x - x') + ((y : ℤ) - y') * (y - y') : ℤ) := by
  simp [distanceSquared, ofNat]

/-- A radius beyond one, but not as far as a diagonal, reaches the points at a distance of at most one. -/
lemma inRange_ofNat (h : 1 < r * r) (h' : r * r < 2) : (ofNat x y).inRange (ofNat x' y') r = true ↔
    ((x : ℤ) - x') * (x - x') + ((y : ℤ) - y') * (y - y') ≤ 1 := by
  have hrange : (ofNat x y).inRange (ofNat x' y') r = true ↔
      ((((x : ℤ) - x') * (x - x') + ((y : ℤ) - y') * (y - y') : ℤ) : ℚ) < r * r := by
    rw [← distanceSquared_ofNat]
    exact decide_eq_true_iff
  rw [hrange]
  generalize ((x : ℤ) - x') * (x - x') + ((y : ℤ) - y') * (y - y') = d
  constructor
  · intro hd
    have hlt : (d : ℚ) < (2 : ℤ) := by
      push_cast
      linarith
    have := Int.cast_lt.1 hlt
    omega
  · intro hd
    have hle : (d : ℚ) ≤ (1 : ℤ) := Int.cast_le.2 hd
    push_cast at hle
    linarith

/-- Different integers lie further apart than what counts as one. -/
lemma abs_sub_lt_epsilon {a b : ℕ} : Scalar.lt (Scalar.abs ((a : ℚ) - b)) Scalar.epsilon = true ↔ a = b := by
  have hlt : Scalar.lt (Scalar.abs ((a : ℚ) - b)) Scalar.epsilon = true ↔ |(a : ℚ) - b| < 2⁻¹ ^ 52 := decide_eq_true_iff
  rw [hlt]
  constructor
  · intro h
    have hone : |(((a : ℤ) - b : ℤ) : ℚ)| < 1 := by
      push_cast
      exact h.trans (by norm_num)
    have hzero : |(a : ℤ) - b| < 1 := by exact_mod_cast hone
    have := Int.abs_lt_one_iff.1 hzero
    omega
  · rintro rfl
    norm_num

/-- Grid points are in the same row if they have the same height. -/
lemma sameRow_ofNat : (ofNat x y).sameRow (ofNat x' y') = true ↔ y = y' := abs_sub_lt_epsilon

/-- Grid points are in the same column if they lie equally far to the right. -/
lemma sameColumn_ofNat : (ofNat x y).sameColumn (ofNat x' y') = true ↔ x = x' := abs_sub_lt_epsilon

/-- One step right, left, down or up. -/
def Adjacent (x y x' y' : ℕ) : Prop :=
  y' = y ∧ (x' = x + 1 ∨ x = x' + 1) ∨ x' = x ∧ (y' = y + 1 ∨ y = y' + 1)

/-- Points are adjacent if they differ by one step. -/
lemma adjacent_iff : Adjacent x y x' y' ↔
    ofNat x y ≠ ofNat x' y' ∧ ((x : ℤ) - x') * (x - x') + ((y : ℤ) - y') * (y - y') ≤ 1 := by
  rw [Ne, ofNat_inj, Adjacent]
  generalize ha : (x : ℤ) - x' = a
  generalize hb : (y : ℤ) - y' = b
  constructor
  · intro h
    have hcases : a * a + b * b = 1 := by
      have : (b = 0 ∧ (a = -1 ∨ a = 1)) ∨ (a = 0 ∧ (b = -1 ∨ b = 1)) := by omega
      rcases this with ⟨rfl, rfl | rfl⟩ | ⟨rfl, rfl | rfl⟩ <;> rfl
    omega
  · rintro ⟨hne, hle⟩
    have ha' : -1 ≤ a ∧ a ≤ 1 := by constructor <;> nlinarith [mul_self_nonneg b, mul_self_nonneg a]
    have hb' : -1 ≤ b ∧ b ≤ 1 := by constructor <;> nlinarith [mul_self_nonneg b, mul_self_nonneg a]
    -- one of the differences is zero, or the sum of their squares would be two
    have hzero : a = 0 ∨ b = 0 := by
      by_contra hno
      rw [not_or] at hno
      have hapos := mul_self_pos.2 hno.1
      have hbpos := mul_self_pos.2 hno.2
      omega
    omega

end Point

namespace Medium

variable {find : InterfaceId → Except Halt ℚ} {key : InterfaceId → ℚ} {j : InterfaceId}

/-- The first candidate that is measured leads. -/
lemma better_none {next : InterfaceId} (h : find next = .ok (key next)) :
    better find none next = .ok (some (next, key next)) := by
  simp [better, h]

/-- The next candidate leads only if it is strictly better. -/
lemma better_some {next leader : InterfaceId} {top : ℚ} (h : find next = .ok (key next)) :
    better find (some (leader, top)) next =
      .ok (some (if key next ≤ top then (leader, top) else (next, key next))) := by
  simp [better, h, Scalar.le]

/-- A member that is farther than all others takes the lead, and keeps it. -/
lemma foldlM_better_of_greatest {rest : List InterfaceId} {best : Option (InterfaceId × ℚ)}
    (hfind : ∀ m ∈ rest, find m = .ok (key m)) (hless : ∀ m ∈ rest, m ≠ j → key m < key j)
    (hbest : best = some (j, key j) ∨ j ∈ rest ∧ ∀ leader ∈ best, leader.2 < key j) :
    rest.foldlM (better find) best = .ok (some (j, key j)) := by
  induction rest generalizing best with
  | nil =>
    rcases hbest with rfl | ⟨hj, -⟩
    · rfl
    · cases hj
  | cons next rest ih =>
    obtain ⟨hnext, hfind⟩ := List.forall_mem_cons.1 hfind
    obtain ⟨hnextless, hless⟩ := List.forall_mem_cons.1 hless
    have hbetter : ∃ best', better find best next = .ok best' ∧
        (best' = some (j, key j) ∨ j ∈ rest ∧ ∀ leader ∈ best', leader.2 < key j) := by
      rcases eq_or_ne next j with rfl | hne
      · refine ⟨some (next, key next), ?_, .inl rfl⟩
        cases best with
        | none => exact better_none hnext
        | some leader =>
          rw [better_some hnext]
          rcases hbest with hlead | ⟨-, hbest⟩
          · cases hlead
            rw [if_pos le_rfl]
          · rw [if_neg (not_le.2 (hbest leader rfl))]
      · have hlt := hnextless hne
        rcases hbest with rfl | ⟨hj, hbest⟩
        · exact ⟨some (j, key j), by rw [better_some hnext, if_pos hlt.le], .inl rfl⟩
        · have hj : j ∈ rest := (List.mem_cons.1 hj).resolve_left hne.symm
          cases best with
          | none => exact ⟨_, better_none hnext, .inr ⟨hj, by simpa using hlt⟩⟩
          | some leader =>
            refine ⟨_, better_some hnext, .inr ⟨hj, fun leader' hleader' => ?_⟩⟩
            obtain rfl := Option.some.inj hleader'
            split
            · exact hbest leader rfl
            · exact hlt
    obtain ⟨best', hbetter, hbest'⟩ := hbetter
    rw [List.foldlM_cons, hbetter]
    exact ih hfind hless hbest'

/-- A member that is farther than all others is found. -/
lemma extreme?_eq_of_greatest (key : InterfaceId → ℚ) {medium : Medium}
    (hfind : ∀ m ∈ medium.members, find m = .ok (key m)) (hj : j ∈ medium.members)
    (hless : ∀ m ∈ medium.members, m ≠ j → key m < key j) : medium.extreme? find = .ok (some j) := by
  rw [extreme?, foldlM_better_of_greatest hfind hless (.inr ⟨hj, by simp⟩)]
  rfl

end Medium

namespace Topology

section Route

variable {κ : Type} [Scalar κ] {topo : Topology κ} {i j : InterfaceId} {d : NodeId} {medium : Medium} {here : Point κ}
  {target : Site κ}

/-- A destination that hears the interface gets the frame at once. -/
lemma route_of_mem (hm : topo.mediumOf i = .ok medium) (hd : topo.node d = .ok target) (hj : target.iface = some j)
    (hmem : j ∈ medium.members) : topo.route i d = .ok (.ok (some j)) := by
  obtain ⟨iface, hi, hmedium⟩ := bind_eq_ok.1 hm
  have hne : medium.isEmpty = false := by simpa [Medium.isEmpty] using List.ne_nil_of_mem hmem
  have hdirect : target.iface.filter medium.contains = some j := by simp [hj, Medium.contains, hmem]
  simp [route, hi, hmedium, hne, hd, hdirect]

/-- Out of reach, the frame goes to the member farthest along the line that it shares with its destination. -/
lemma route_of_not_mem (hm : topo.mediumOf i = .ok medium) (hne : medium.members ≠ [])
    (hd : topo.node d = .ok target) (hout : ∀ j ∈ target.iface, j ∉ medium.members)
    (hi : topo.positionOf i = .ok here) : topo.route i d =
      if here.sameRow target.position then .ok <$> medium.extreme? fun m => Point.x <$> topo.positionOf m
      else if here.sameColumn target.position then .ok <$> medium.extreme? fun m => Point.y <$> topo.positionOf m
      else .ok (.ok none) := by
  obtain ⟨iface, hiface, hmedium⟩ := bind_eq_ok.1 hm
  obtain ⟨_, hiface', hi⟩ := bind_eq_ok.1 hi
  cases hiface.symm.trans hiface'
  obtain ⟨home, hhome, hi⟩ := bind_eq_ok.1 hi
  cases hi
  have hfull : medium.isEmpty = false := by simpa [Medium.isEmpty] using hne
  have hnone : target.iface.filter medium.contains = none := Option.filter_eq_none_iff.2 fun j hj => by
    simpa [Medium.contains] using hout j hj
  simp [route, hiface, hmedium, hfull, hd, hnone, hhome, map_eq_pure_bind]

end Route

variable {topo : Topology ℚ} {w h k x y x' y' a b : ℕ} {i j : InterfaceId} {d : NodeId} {target : Site ℚ}

/-- At each point of a grid there is one interface, which exactly those at the adjacent points hear, and every node
sends with an interface of its own. -/
structure Mesh (w h : ℕ) (topo : Topology ℚ) : Prop where
  covered : ∀ {x y : ℕ}, x < w → y < h → ∃ i, topo.positionOf i = .ok (.ofNat x y)
  unique : ∀ {i j p}, topo.positionOf i = .ok p → topo.positionOf j = .ok p → i = j
  own : ∀ {n site}, topo.node n = .ok site → ∃ i, site.iface = some i ∧ topo.positionOf i = .ok site.position
  point : ∀ {n site}, topo.node n = .ok site → ∃ x < w, ∃ y < h, site.position = .ofNat x y
  medium : ∀ {i x y}, topo.positionOf i = .ok (.ofNat x y) → ∃ medium, topo.mediumOf i = .ok medium ∧
    ∀ j, j ∈ medium.members ↔ ∃ x' y', topo.positionOf j = .ok (.ofNat x' y') ∧ Point.Adjacent x y x' y'

/-- The member farthest along an axis is found. -/
lemma extreme?_of_farthest {medium : Medium} {axis : Point ℚ → ℚ} {place : Point ℚ} (hmem : j ∈ medium.members)
    (hj : topo.positionOf j = .ok place)
    (hless : ∀ m ∈ medium.members, ∃ p, topo.positionOf m = .ok p ∧ (m ≠ j → axis p < axis place)) :
    (medium.extreme? fun m => axis <$> topo.positionOf m) = .ok (some j) := by
  let key : InterfaceId → ℚ := fun m => match topo.positionOf m with
    | .ok p => axis p
    | .error _ => 0
  have hkey : ∀ {m p}, topo.positionOf m = .ok p → key m = axis p := fun hm => by simp only [key, hm]
  refine Medium.extreme?_eq_of_greatest key (fun m hm => ?_) hmem fun m hm hne => ?_
  · obtain ⟨p, hp, -⟩ := hless m hm
    rw [hp, hkey hp]
    rfl
  · obtain ⟨p, hp, hlt⟩ := hless m hm
    rw [hkey hp, hkey hj]
    exact hlt hne

namespace Mesh

/-- The next hop is the interface at an adjacent point, if this is farther along an axis than the other adjacent points,
is the only one of them where the destination can be, and routing looks along this axis. -/
lemma route_towards (hmesh : topo.Mesh w h) (axis : Point ℚ → ℚ) (hi : topo.positionOf i = .ok (.ofNat x y))
    (hj : topo.positionOf j = .ok (.ofNat x' y')) (hadjacent : Point.Adjacent x y x' y')
    (hd : topo.node d = .ok target) (hplace : target.position = .ofNat a b)
    (hdirect : Point.Adjacent x y a b → a = x' ∧ b = y')
    (hfar : ∀ {u v}, Point.Adjacent x y u v → ¬ (u = x' ∧ v = y') → axis (.ofNat u v) < axis (.ofNat x' y'))
    (hline : ∀ {medium}, topo.mediumOf i = .ok medium → medium.members ≠ [] →
      (∀ j ∈ target.iface, j ∉ medium.members) →
        topo.route i d = .ok <$> medium.extreme? fun m => axis <$> topo.positionOf m) :
    topo.route i d = .ok (.ok (some j)) := by
  obtain ⟨last, hlast, hat⟩ := hmesh.own hd
  obtain ⟨medium, hm, hmembers⟩ := hmesh.medium hi
  have hmem : j ∈ medium.members := (hmembers j).2 ⟨x', y', hj, hadjacent⟩
  rw [hplace] at hat
  rcases Classical.em (last ∈ medium.members) with hin | hout
  · obtain ⟨u, v, hat', hnear⟩ := (hmembers last).1 hin
    obtain ⟨rfl, rfl⟩ := Point.ofNat_inj.1 (Except.ok.inj (hat'.symm.trans hat))
    obtain ⟨rfl, rfl⟩ := hdirect hnear
    rw [hmesh.unique hj hat]
    exact route_of_mem hm hd hlast hin
  · have hout' : ∀ l ∈ target.iface, l ∉ medium.members := fun l hl => by
      rw [hlast] at hl
      cases hl
      exact hout
    have hfarthest : (medium.extreme? fun m => axis <$> topo.positionOf m) = .ok (some j) :=
      extreme?_of_farthest hmem hj fun m hm => by
        obtain ⟨u, v, hat, hnear⟩ := (hmembers m).1 hm
        refine ⟨_, hat, fun hne => hfar hnear fun hsame => hne (hmesh.unique hat ?_)⟩
        rw [hsame.1, hsame.2, hj]
    rw [hline hm (List.ne_nil_of_mem hmem) hout', hfarthest]
    rfl

/-- Towards a destination to the right, the next hop is the interface one point to the right. -/
lemma route_right (hmesh : topo.Mesh w h) (hi : topo.positionOf i = .ok (.ofNat x y))
    (hj : topo.positionOf j = .ok (.ofNat (x + 1) y)) (hd : topo.node d = .ok target)
    (hplace : target.position = .ofNat (x + k + 1) y) : topo.route i d = .ok (.ok (some j)) := by
  refine hmesh.route_towards Point.x hi hj (.inl ⟨rfl, .inl rfl⟩) hd hplace ?_ ?_ ?_
  · rintro (⟨-, hx⟩ | ⟨hx, -⟩) <;> omega
  · rintro u v (hrow | hcolumn) hother <;> exact Nat.cast_lt.2 (by omega)
  · intro medium hm hne hout
    rw [route_of_not_mem hm hne hd hout hi, if_pos]
    rw [hplace, Point.sameRow_ofNat]

/-- Towards a destination further down, the next hop is the interface one point down. -/
lemma route_down (hmesh : topo.Mesh w h) (hi : topo.positionOf i = .ok (.ofNat x y))
    (hj : topo.positionOf j = .ok (.ofNat x (y + 1))) (hd : topo.node d = .ok target)
    (hplace : target.position = .ofNat x (y + k + 1)) : topo.route i d = .ok (.ok (some j)) := by
  refine hmesh.route_towards Point.y hi hj (.inr ⟨rfl, .inl rfl⟩) hd hplace ?_ ?_ ?_
  · rintro (⟨hy, -⟩ | ⟨-, hy⟩) <;> omega
  · rintro u v (hrow | hcolumn) hother <;> exact Nat.cast_lt.2 (by omega)
  · intro medium hm hne hout
    rw [route_of_not_mem hm hne hd hout hi, if_neg, if_pos]
    · rw [hplace, Point.sameColumn_ofNat]
    · rw [hplace, Point.sameRow_ofNat]
      omega

end Mesh

/-- A path of `k` hops towards a node, along which no interface occurs twice. -/
structure Path (topo : Topology ℚ) (d : NodeId) (k : ℕ) (hops : ℕ → InterfaceId) : Prop where
  route : ∀ m < k, topo.route (hops m) d = .ok (.ok (some (hops (m + 1))))
  distinct : ∀ m ≤ k, ∀ n ≤ k, hops m = hops n → m = n

/-- If each hop leads from one point of a line to the next, then the hops make a path. -/
lemma exists_path (line : ℕ → Point ℚ) (hline : Function.Injective line)
    (hcovered : ∀ m ≤ k, ∃ i, topo.positionOf i = .ok (line m))
    (hroute : ∀ m < k, ∀ i j, topo.positionOf i = .ok (line m) → topo.positionOf j = .ok (line (m + 1)) →
      topo.route i d = .ok (.ok (some j))) :
    ∃ hops, topo.Path d k hops ∧ ∀ m ≤ k, topo.positionOf (hops m) = .ok (line m) := by
  choose! hops hhops using hcovered
  refine ⟨hops, ⟨fun m hm => hroute m hm _ _ (hhops m hm.le) (hhops (m + 1) hm), fun m hm n hn hsame => ?_⟩, hhops⟩
  have hm' := hhops m hm
  rw [hsame, hhops n hn] at hm'
  exact (hline (Except.ok.inj hm')).symm

namespace Mesh

/-- Hops lead to every destination to the right. -/
lemma path_right (hmesh : topo.Mesh w h) (hd : topo.node d = .ok target) (hplace : target.position = .ofNat (x + k) y)
    (hx : x + k < w) (hy : y < h) :
    ∃ hops, topo.Path d k hops ∧ ∀ m ≤ k, topo.positionOf (hops m) = .ok (.ofNat (x + m) y) := by
  refine exists_path (fun m => .ofNat (x + m) y) (fun l m hlm => ?_) (fun m hm => ?_) fun m hm i j hi hj => ?_
  · have := (Point.ofNat_inj.1 hlm).1
    omega
  · exact hmesh.covered (by omega) hy
  · refine hmesh.route_right (k := k - m - 1) hi hj hd ?_
    rw [hplace, Point.ofNat_inj]
    omega

/-- Hops lead to every destination further down. -/
lemma path_down (hmesh : topo.Mesh w h) (hd : topo.node d = .ok target) (hplace : target.position = .ofNat x (y + k))
    (hx : x < w) (hy : y + k < h) :
    ∃ hops, topo.Path d k hops ∧ ∀ m ≤ k, topo.positionOf (hops m) = .ok (.ofNat x (y + m)) := by
  refine exists_path (fun m => .ofNat x (y + m)) (fun l m hlm => ?_) (fun m hm => ?_) fun m hm i j hi hj => ?_
  · have := (Point.ofNat_inj.1 hlm).2
    omega
  · exact hmesh.covered hx (by omega)
  · refine hmesh.route_down (k := k - m - 1) hi hj hd ?_
    rw [hplace, Point.ofNat_inj]
    omega

end Mesh

/-- The points of a grid with `w` columns and `h` rows. -/
def gridPoints (w h : ℕ) : List (Point ℚ) :=
  (List.range w ×ˢ List.range h).map fun p => .ofNat p.1 p.2

/-- A grid has all points to the right and below its corner, as far as it reaches. -/
lemma mem_gridPoints {p : Point ℚ} : p ∈ gridPoints w h ↔ ∃ x < w, ∃ y < h, p = .ofNat x y := by
  simp only [gridPoints, List.mem_map]
  constructor
  · rintro ⟨q, hq, rfl⟩
    obtain ⟨hx, hy⟩ := List.mem_product.1 hq
    exact ⟨q.1, List.mem_range.1 hx, q.2, List.mem_range.1 hy, rfl⟩
  · rintro ⟨x, hx, y, hy, rfl⟩
    exact ⟨(x, y), List.mem_product.2 ⟨List.mem_range.2 hx, List.mem_range.2 hy⟩, rfl⟩

/-- A grid has each of its points once. -/
lemma gridPoints_nodup (w h : ℕ) : (gridPoints w h).Nodup := by
  refine (List.nodup_range.product List.nodup_range).map fun p q hpq => ?_
  exact Prod.ext_iff.2 (Point.ofNat_inj.1 hpq)

/-- Nodes and interfaces have been added, in any order, such that there is one node at each point of the grid and one
interface on each node, whose radius reaches further than one but not as far as a diagonal. -/
structure Grid (w h : ℕ) (topo : Topology ℚ) : Prop where
  assembled : Assembled topo
  places : (topo.nodes.toList.map Site.position).Perm (gridPoints w h)
  homes : (topo.interfaces.toList.map Interface.node).Perm ((List.range topo.nodes.size).map NodeId.mk)
  radius : ∀ {i iface}, topo.interface i = .ok iface →
    1 < iface.radius * iface.radius ∧ iface.radius * iface.radius < 2

/-- In whatever order the points are taken, stations on them make a grid. -/
lemma grid_stations {places : List (Point ℚ)} {r : ℚ} (hplaces : places.Perm (gridPoints w h)) (hr : 1 < r * r)
    (hr' : r * r < 2) : (stations r places).Grid w h where
  assembled := assembled_stations r places
  places := by rwa [places_stations]
  homes := by rw [homes_stations]
  radius := fun hi => by
    rw [radius_stations hi]
    exact ⟨hr, hr'⟩

/-- Where no value occurs twice, it tells the place in an array. -/
lemma index_unique {α β : Type} {xs : Array α} {f : α → β} {k l : ℕ} {a b : α} (h : (xs.toList.map f).Nodup)
    (hk : xs[k]? = some a) (hl : xs[l]? = some b) (hf : f a = f b) : k = l := by
  have hlt : k < (xs.toList.map f).length := by simpa using (Array.getElem?_eq_some_iff.1 hk).1
  refine (List.getElem?_inj hlt h).1 ?_
  simp [hk, hl, hf]

namespace Grid

variable {n m : NodeId} {site site' : Site ℚ} {iface iface' : Interface ℚ} {p : Point ℚ}

/-- There is one node at each point. -/
lemma node_unique (hgrid : topo.Grid w h) (hn : topo.node n = .ok site) (hm : topo.node m = .ok site')
    (hplace : site.position = site'.position) : n = m := by
  have hnodup := hgrid.places.nodup_iff.2 (gridPoints_nodup w h)
  have hindex := index_unique hnodup (node_eq_ok.1 hn) (node_eq_ok.1 hm) hplace
  cases n
  cases m
  exact congrArg NodeId.mk hindex

/-- There is one interface on each node. -/
lemma interface_unique (hgrid : topo.Grid w h) (hi : topo.interface i = .ok iface) (hj : topo.interface j = .ok iface')
    (hhome : iface.node = iface'.node) : i = j := by
  have hinj : Function.Injective NodeId.mk := fun _ _ h => NodeId.mk.inj h
  have hnodup := hgrid.homes.nodup_iff.2 (List.nodup_range.map hinj)
  have hindex := index_unique hnodup (interface_eq_ok.1 hi) (interface_eq_ok.1 hj) hhome
  cases i
  cases j
  exact congrArg InterfaceId.mk hindex

/-- There is a node at each point. -/
lemma exists_node (hgrid : topo.Grid w h) (hx : x < w) (hy : y < h) :
    ∃ n site, topo.node n = .ok site ∧ site.position = .ofNat x y := by
  obtain ⟨site, hsite, hplace⟩ := List.mem_map.1 (hgrid.places.mem_iff.2 (mem_gridPoints.2 ⟨x, hx, y, hy, rfl⟩))
  obtain ⟨k, hk⟩ := List.mem_iff_getElem?.1 hsite
  exact ⟨⟨k⟩, site, node_eq_ok.2 (by simpa using hk), hplace⟩

/-- Each node is at one of the points. -/
lemma point (hgrid : topo.Grid w h) (hn : topo.node n = .ok site) :
    ∃ x < w, ∃ y < h, site.position = .ofNat x y := by
  have hmem : site ∈ topo.nodes.toList := Array.mem_toList_iff.2 (Array.mem_of_getElem? (node_eq_ok.1 hn))
  exact mem_gridPoints.1 (hgrid.places.mem_iff.1 (List.mem_map_of_mem hmem))

/-- Every node sends with an interface of its own. -/
lemma own (hgrid : topo.Grid w h) (hn : topo.node n = .ok site) :
    ∃ i, site.iface = some i ∧ topo.positionOf i = .ok site.position := by
  have hlt := (Array.getElem?_eq_some_iff.1 (node_eq_ok.1 hn)).1
  have hmem : n ∈ (List.range topo.nodes.size).map NodeId.mk := List.mem_map.2 ⟨n.index, List.mem_range.2 hlt, rfl⟩
  obtain ⟨iface, hiface, rfl⟩ := List.mem_map.1 (hgrid.homes.mem_iff.2 hmem)
  obtain ⟨k, hk⟩ := List.mem_iff_getElem?.1 hiface
  have hi : topo.interface ⟨k⟩ = .ok iface := interface_eq_ok.2 (by simpa using hk)
  obtain ⟨j, hj⟩ := hgrid.assembled.iface_of_home hi hn
  obtain ⟨iface', hj', hhome⟩ := hgrid.assembled.home_of_iface hn hj
  refine ⟨j, hj, bind_eq_ok.2 ⟨iface', hj', ?_⟩⟩
  rw [hhome, hn]
  rfl

/-- An interface is known by its place. -/
lemma unique (hgrid : topo.Grid w h) (hi : topo.positionOf i = .ok p) (hj : topo.positionOf j = .ok p) : i = j := by
  obtain ⟨iface, hiface, hplace⟩ := bind_eq_ok.1 hi
  obtain ⟨site, hsite, hplace⟩ := bind_eq_ok.1 hplace
  obtain ⟨iface', hiface', hplace'⟩ := bind_eq_ok.1 hj
  obtain ⟨site', hsite', hplace'⟩ := bind_eq_ok.1 hplace'
  have hsame : site.position = site'.position := (Except.ok.inj hplace).trans (Except.ok.inj hplace').symm
  exact hgrid.interface_unique hiface hiface' (hgrid.node_unique hsite hsite' hsame)

/-- In a grid an interface reaches those at adjacent points. -/
lemma reaches_iff (hgrid : topo.Grid w h) (hi : topo.positionOf i = .ok (.ofNat x y)) :
    j ≠ i ∧ topo.reaches i j = true ↔ ∃ x' y', topo.positionOf j = .ok (.ofNat x' y') ∧ Point.Adjacent x y x' y' := by
  obtain ⟨iface, hiface, -⟩ := bind_eq_ok.1 hi
  obtain ⟨hr, hr'⟩ := hgrid.radius hiface
  constructor
  · rintro ⟨hne, hreaches⟩
    cases hj : topo.positionOf j with
    | error => simp [reaches, hiface, hi, hj] at hreaches
    | ok p =>
      obtain ⟨_, -, hp⟩ := bind_eq_ok.1 hj
      obtain ⟨site, hsite, hp⟩ := bind_eq_ok.1 hp
      cases hp
      obtain ⟨x', -, y', -, hp⟩ := hgrid.point hsite
      rw [hp] at hj ⊢
      simp only [reaches, hiface, hi, hj, Point.inRange_ofNat hr hr'] at hreaches
      refine ⟨x', y', rfl, Point.adjacent_iff.2 ⟨fun hsame => hne ?_, hreaches⟩⟩
      exact hgrid.unique hj (hsame ▸ hi)
  · rintro ⟨x', y', hj, hadjacent⟩
    obtain ⟨hne, hnear⟩ := Point.adjacent_iff.1 hadjacent
    refine ⟨?_, ?_⟩
    · rintro rfl
      exact hne (Except.ok.inj (hi.symm.trans hj))
    · simp only [reaches, hiface, hi, hj, Point.inRange_ofNat hr hr']
      exact hnear

/-- Once all interfaces in range have joined, a grid is a mesh. -/
lemma mesh (hgrid : topo.Grid w h) : topo.connectInRange.Mesh w h := by
  have hown := hgrid.assembled.ownMedia
  rw [connectInRange_eq hown]
  refine ⟨fun hx hy => ?_, fun hi hj => hgrid.unique hi hj, fun hn => hgrid.own hn, fun hn => hgrid.point hn, ?_⟩
  · obtain ⟨n, site, hn, hplace⟩ := hgrid.exists_node hx hy
    obtain ⟨i, -, hi⟩ := hgrid.own hn
    exact ⟨i, hplace ▸ hi⟩
  · intro i x y hi
    have hi : topo.positionOf i = .ok (.ofNat x y) := hi
    obtain ⟨iface, hiface, -⟩ := bind_eq_ok.1 hi
    obtain ⟨medium, hm⟩ := hown.exists_mediumOf hiface
    rw [hown.mediumOf_eq hiface] at hm
    refine ⟨topo.welcome i medium, ?_, fun j => ?_⟩
    · rw [hown.joined.mediumOf_eq hiface, medium_joined, hm]
      rfl
    · rw [welcome, hgrid.assembled.unheard hm, List.nil_append, mem_newcomers, hgrid.assembled.unheard hm]
      simp only [List.not_mem_nil, not_false_iff, true_and]
      exact hgrid.reaches_iff hi

/-- Let all interfaces in range join the media of a grid, and let a destination lie `k` points to the right of a node,
or `k` points below it. Then the hops that routing finds, one after the other, lead from the interface of the node to
that of the destination: there are exactly `k` of them, and no interface is visited twice. -/
theorem forwards (hgrid : topo.Grid w h) {source : Site ℚ} (hn : topo.node n = .ok source)
    (hd : topo.node d = .ok target)
    (hline : target.position.y = source.position.y ∧ target.position.x = source.position.x + k ∨
      target.position.x = source.position.x ∧ target.position.y = source.position.y + k) :
    ∃ first last, ∃ hops : ℕ → InterfaceId, source.iface = some first ∧ target.iface = some last ∧ hops 0 = first ∧
      hops k = last ∧ (∀ m < k, topo.connectInRange.route (hops m) d = .ok (.ok (some (hops (m + 1))))) ∧
      ∀ l ≤ k, ∀ m ≤ k, hops l = hops m → l = m := by
  have hmesh := hgrid.mesh
  have hd' : topo.connectInRange.node d = .ok target := by rwa [(connectInRange_joins topo).node]
  obtain ⟨first, hfirst, hstart⟩ := hmesh.own ((connectInRange_joins topo).node ▸ hn)
  obtain ⟨last, hlast, hend⟩ := hmesh.own hd'
  obtain ⟨x, hx, y, hy, hsource⟩ := hgrid.point hn
  obtain ⟨a, ha, b, hb, htarget⟩ := hgrid.point hd
  rw [hsource] at hstart
  rw [htarget] at hend
  have hline : b = y ∧ a = x + k ∨ a = x ∧ b = y + k := by
    rw [hsource, htarget] at hline
    simp only [Point.ofNat] at hline
    exact_mod_cast hline
  obtain ⟨hops, hpath, hzero, hlasthop⟩ : ∃ hops, topo.connectInRange.Path d k hops ∧
      topo.connectInRange.positionOf (hops 0) = .ok (.ofNat x y) ∧
        topo.connectInRange.positionOf (hops k) = .ok (.ofNat a b) := by
    rcases hline with ⟨rfl, rfl⟩ | ⟨rfl, rfl⟩
    · obtain ⟨hops, hpath, hhops⟩ := hmesh.path_right hd' htarget ha hb
      exact ⟨hops, hpath, hhops 0 (Nat.zero_le k), hhops k le_rfl⟩
    · obtain ⟨hops, hpath, hhops⟩ := hmesh.path_down hd' htarget ha hb
      exact ⟨hops, hpath, hhops 0 (Nat.zero_le k), hhops k le_rfl⟩
  exact ⟨first, last, hops, hfirst, hlast, hmesh.unique hzero hstart, hmesh.unique hlasthop hend, hpath.route,
    hpath.distinct⟩

/-- Stations on two rows of three points, the last point first: two hops lead along the first row. -/
theorem forwards_backwards_stations : ∃ (topo : Topology ℚ) (hops : ℕ → InterfaceId),
    topo = stations (5 / 4) (gridPoints 3 2).reverse ∧ topo.Grid 3 2 ∧ hops 0 = ⟨5⟩ ∧ hops 2 = ⟨1⟩ ∧
      topo.connectInRange.route ⟨5⟩ ⟨1⟩ = .ok (.ok (some (hops 1))) ∧
      topo.connectInRange.route (hops 1) ⟨1⟩ = .ok (.ok (some ⟨1⟩)) := by
  let topo : Topology ℚ := stations (5 / 4) (gridPoints 3 2).reverse
  have hgrid : topo.Grid 3 2 := grid_stations (List.reverse_perm _) (by norm_num) (by norm_num)
  have hn : topo.node ⟨5⟩ = .ok { name := "station", position := .ofNat 0 0, iface := some ⟨5⟩ } := by
    rw [node_eq_ok, node_stations]
    rfl
  have hd : topo.node ⟨1⟩ = .ok { name := "station", position := .ofNat 2 0, iface := some ⟨1⟩ } := by
    rw [node_eq_ok, node_stations]
    rfl
  obtain ⟨first, last, hops, hfirst, hlast, hzero, htwo, hroute, -⟩ :=
    hgrid.forwards (k := 2) hn hd (.inl (by norm_num [Point.ofNat]))
  cases hfirst
  cases hlast
  refine ⟨topo, hops, rfl, hgrid, hzero, htwo, ?_, ?_⟩
  · rw [← hzero]
    exact hroute 0 (by decide)
  · rw [hroute 1 (by decide), htwo]

end Grid

end Topology

end CarrierSense
