import CarrierSense.Proofs.Network.Media
import Mathlib.Data.Prod.Lex

/-!
# Routing

Which member of its medium an interface sends a frame to. The search for a farthest member compares coordinates as
doubles, which are in a linear order as long as none of them is NaN; it then ends with the first of the members that
are farthest.
-/

namespace CarrierSense

open Float.Model (UnpackedFloat)

/-- Where a number stands among the doubles: first by its sign and whether it is infinite, then by its exponent and
its mantissa, which count backwards below zero. Both zeros stand at one place. -/
def rank : UnpackedFloat → ℤ ×ₗ ℤ ×ₗ ℤ
  | .infinity .negative => toLex (-2, toLex (0, 0))
  | .finite .negative mantissa exponent _ => toLex (-1, toLex (-exponent, -mantissa))
  | .zero _ => toLex (0, toLex (0, 0))
  | .finite .positive mantissa exponent _ => toLex (1, toLex (exponent, mantissa))
  | .infinity .positive => toLex (2, toLex (0, 0))
  | .notANumber => toLex (0, toLex (0, 0))

/-- Triples are compared by their first components, then by the second and then by the third ones. -/
lemma compare_toLex (a b c a' b' c' : ℤ) : compare (toLex (a, toLex (b, c))) (toLex (a', toLex (b', c'))) =
    (compare a a').then ((compare b b').then (compare c c')) := by
  simp only [Prod.Lex.compare_def, compareLex, compareOn, ofLex_toLex]

/-- The order of integers is turned round by the sign. -/
lemma compare_neg_neg (a b : ℤ) : compare (-a) (-b) = (compare a b).swap := by
  rw [← Std.OrientedOrd.eq_swap]
  rcases lt_trichotomy a b with h | rfl | h
  · rw [compare_gt_iff_gt.2 (Int.neg_lt_neg h), compare_gt_iff_gt.2 h]
  · simp
  · rw [compare_lt_iff_lt.2 (Int.neg_lt_neg h), compare_lt_iff_lt.2 h]

/-- Naturals are compared as integers are. -/
lemma compare_natCast (m n : ℕ) : compare (m : ℤ) (n : ℤ) = compare m n := by
  rcases lt_trichotomy m n with h | rfl | h
  · rw [compare_lt_iff_lt.2 (Int.ofNat_lt.2 h), compare_lt_iff_lt.2 h]
  · simp
  · rw [compare_gt_iff_gt.2 (Int.ofNat_lt.2 h), compare_gt_iff_gt.2 h]

/-- Doubles that are not NaN compare as their places do. -/
lemma compare_eq_rank {a b : UnpackedFloat} (ha : a.isNaN = false) (hb : b.isNaN = false) :
    a.compare b = some (compare (rank a) (rank b)) := by
  cases a with
  | notANumber => cases ha
  | zero s =>
    cases b with
    | notANumber => cases hb
    | zero t => rfl
    | infinity t => cases t <;> rfl
    | finite t => cases t <;> rfl
  | infinity s =>
    cases b with
    | notANumber => cases hb
    | zero t => cases s <;> rfl
    | infinity t => cases s <;> cases t <;> rfl
    | finite t => cases s <;> cases t <;> rfl
  | finite s m e =>
    cases b with
    | notANumber => cases hb
    | zero t => cases s <;> rfl
    | infinity t => cases s <;> cases t <;> rfl
    | finite t m' e' =>
      -- of two numbers of one sign the exponents decide first
      cases s <;> cases t
      · show some ((compare e e').then (compare m m')).swap =
          some (compare (toLex ((-1 : ℤ), toLex (-e, -(m : ℤ)))) (toLex (-1, toLex (-e', -(m' : ℤ)))))
        simp [compare_toLex, compare_neg_neg, compare_natCast, Ordering.swap_then]
      · rfl
      · rfl
      · show some ((compare e e').then (compare m m')) =
          some (compare (toLex ((1 : ℤ), toLex (e, (m : ℤ)))) (toLex (1, toLex (e', (m' : ℤ)))))
        simp [compare_toLex, compare_natCast]

/-- Where a double stands among the doubles. -/
def place (x : Float) : ℤ ×ₗ ℤ ×ₗ ℤ := rank x.toModel.unpack

/-- Where there is no NaN, floats are ordered by their places. -/
lemma le_iff_place {x y : Float} (hx : x.isNaN = false) (hy : y.isNaN = false) : x ≤ y ↔ place x ≤ place y := by
  have hcompare := compare_eq_rank (a := x.toModel.unpack) (b := y.toModel.unpack) hx hy
  have hle : x ≤ y ↔ x.toModel.unpack.le y.toModel.unpack = true := decide_eq_true_iff
  rw [hle, UnpackedFloat.le, hcompare, Option.any_some, ← compare_le_iff_le, Ordering.isLE_iff_ne_gt]
  rfl

/-- Where there is no NaN, floats are strictly ordered by their places. -/
lemma lt_iff_place {x y : Float} (hx : x.isNaN = false) (hy : y.isNaN = false) : x < y ↔ place x < place y := by
  have hcompare := compare_eq_rank (a := x.toModel.unpack) (b := y.toModel.unpack) hx hy
  have hlt : x < y ↔ x.toModel.unpack.lt y.toModel.unpack = true := decide_eq_true_iff
  rw [hlt, UnpackedFloat.lt, hcompare, ← compare_lt_iff_lt]
  simp [place]

/-- Of the members, `j` is the first one with the greatest key: those before it have a smaller one, and none of
those after it has a greater one. -/
def FirstGreatest (key : InterfaceId → Float) (members : List InterfaceId) (j : InterfaceId) : Prop :=
  ∃ earlier later, members = earlier ++ j :: later ∧ (∀ m ∈ earlier, key m < key j) ∧ ∀ m ∈ later, key m ≤ key j

namespace FirstGreatest

variable {key : InterfaceId → Float} {members : List InterfaceId} {i j next : InterfaceId}

/-- The first greatest member is a member. -/
lemma mem (h : FirstGreatest key members j) : j ∈ members := by
  obtain ⟨earlier, later, rfl, -⟩ := h
  simp

/-- There is only one such member. -/
lemma unique (hi : FirstGreatest key members i) (hj : FirstGreatest key members j)
    (hnan : ∀ m ∈ members, (key m).isNaN = false) : i = j := by
  have hni := hnan i hi.mem
  have hnj := hnan j hj.mem
  obtain ⟨earlier, later, rfl, hless, hmost⟩ := hi
  obtain ⟨earlier', later', hsplit, hless', hmost'⟩ := hj
  -- of two different ones, the later would be both greater and no greater
  rcases List.append_eq_append_iff.1 hsplit with ⟨mid, rfl, hrest⟩ | ⟨mid, rfl, hrest⟩
  · cases mid with
    | nil => exact (List.cons.inj hrest).1
    | cons k mid =>
      obtain ⟨rfl, rfl⟩ := List.cons.inj hrest
      have hlt := (lt_iff_place hni hnj).1 (hless' i (by simp))
      have hle := (le_iff_place hnj hni).1 (hmost j (by simp))
      exact absurd hlt (not_lt_of_ge hle)
  · cases mid with
    | nil => exact (List.cons.inj hrest).1.symm
    | cons k mid =>
      obtain ⟨rfl, rfl⟩ := List.cons.inj hrest
      have hlt := (lt_iff_place hnj hni).1 (hless j (by simp))
      have hle := (le_iff_place hni hnj).1 (hmost' i (by simp))
      exact absurd hlt (not_lt_of_ge hle)

/-- Only the keys of the members matter. -/
lemma congr {key' : InterfaceId → Float} (h : FirstGreatest key members j) (hkey : ∀ m ∈ members, key m = key' m) :
    FirstGreatest key' members j := by
  have hj := hkey j h.mem
  obtain ⟨earlier, later, rfl, hless, hmost⟩ := h
  refine ⟨earlier, later, rfl, fun m hm => ?_, fun m hm => ?_⟩
  · rw [← hj, ← hkey m (by simp [hm])]
    exact hless m hm
  · rw [← hj, ← hkey m (by simp [hm])]
    exact hmost m hm

/-- A single member is the first greatest one. -/
lemma singleton (key : InterfaceId → Float) (j : InterfaceId) : FirstGreatest key [j] j :=
  ⟨[], [], rfl, nofun, nofun⟩

/-- A member that is no greater comes too late. -/
lemma keep (h : FirstGreatest key members j) (hle : key next ≤ key j) :
    FirstGreatest key (members ++ [next]) j := by
  obtain ⟨earlier, later, rfl, hless, hmost⟩ := h
  refine ⟨earlier, later ++ [next], by simp, hless, fun m hm => ?_⟩
  rcases List.mem_append.1 hm with hm | hm
  · exact hmost m hm
  · obtain rfl := List.mem_singleton.1 hm
    exact hle

/-- A member that is greater takes the lead. -/
lemma replace (h : FirstGreatest key members j) (hgt : ¬ key next ≤ key j)
    (hnan : ∀ m ∈ members ++ [next], (key m).isNaN = false) : FirstGreatest key (members ++ [next]) next := by
  have hnext := hnan next (by simp)
  have hj := hnan j (by simp [h.mem])
  rw [le_iff_place hnext hj, not_le] at hgt
  refine ⟨members, [], rfl, fun m hm => ?_, nofun⟩
  have hm' := hnan m (by simp [hm])
  have hle : place (key m) ≤ place (key j) := by
    obtain ⟨earlier, later, rfl, hless, hmost⟩ := h
    rcases List.mem_append.1 hm with hm | hm
    · exact le_of_lt ((lt_iff_place hm' hj).1 (hless m hm))
    · rcases List.mem_cons.1 hm with rfl | hm
      · exact le_refl _
      · exact (le_iff_place hm' hj).1 (hmost m hm)
  exact (lt_iff_place hm' hnext).2 (lt_of_le_of_lt hle hgt)

/-- The search goes on from the first of the greatest so far. -/
lemma foldlM_better {find : InterfaceId → Except Halt Float} {rest : List InterfaceId}
    (h : FirstGreatest key members j) (hfind : ∀ m ∈ rest, find m = .ok (key m))
    (hnan : ∀ m ∈ members ++ rest, (key m).isNaN = false) :
    ∃ k, rest.foldlM (Medium.better find) (some (j, key j)) = .ok (some (k, key k)) ∧
      FirstGreatest key (members ++ rest) k := by
  induction rest generalizing members j with
  | nil => exact ⟨j, rfl, by simpa using h⟩
  | cons next rest ih =>
    obtain ⟨hnext, hrest⟩ := List.forall_mem_cons.1 hfind
    have hsplit : members ++ next :: rest = members ++ [next] ++ rest := by simp
    rw [hsplit] at hnan ⊢
    have hsofar : ∀ m ∈ members ++ [next], (key m).isNaN = false :=
      fun m hm => hnan m (List.mem_append_left _ hm)
    by_cases hle : key next ≤ key j
    · obtain ⟨k, hfold, hk⟩ := ih (h.keep hle) hrest hnan
      refine ⟨k, ?_, hk⟩
      rw [List.foldlM_cons, Medium.better, hnext]
      have hbetter : Scalar.le (key next) (key j) = true := decide_eq_true hle
      simp only [ok_bind, pure_eq_ok, hbetter, if_true]
      exact hfold
    · obtain ⟨k, hfold, hk⟩ := ih (h.replace hle hsofar) hrest hnan
      refine ⟨k, ?_, hk⟩
      rw [List.foldlM_cons, Medium.better, hnext]
      have hbetter : ¬ Scalar.le (key next) (key j) = true := fun h => hle (of_decide_eq_true h)
      simp only [ok_bind, pure_eq_ok, hbetter]
      exact hfold

end FirstGreatest

/-- The farthest member is the first of the greatest, if there is any member. -/
lemma Medium.extreme?_eq {medium : Medium} {find : InterfaceId → Except Halt Float} {key : InterfaceId → Float}
    (hne : medium.members ≠ []) (hfind : ∀ m ∈ medium.members, find m = .ok (key m))
    (hnan : ∀ m ∈ medium.members, (key m).isNaN = false) :
    ∃ j, medium.extreme? find = .ok (some j) ∧ FirstGreatest key medium.members j := by
  obtain ⟨first, rest, hmembers⟩ := List.exists_cons_of_ne_nil hne
  unfold Medium.extreme?
  rw [hmembers] at hfind hnan ⊢
  obtain ⟨hfirst, hrest⟩ := List.forall_mem_cons.1 hfind
  obtain ⟨j, hfold, hj⟩ := (FirstGreatest.singleton key first).foldlM_better hrest hnan
  refine ⟨j, ?_, hj⟩
  rw [List.foldlM_cons, Medium.better, hfirst]
  simp only [ok_bind, pure_eq_ok, hfold, Option.map_some]

namespace Topology

variable {topo : Topology Float} {i j k : InterfaceId} {d : NodeId}

/-- The destination sends with the interface `j`, which hears the interface `i`. -/
def Direct (topo : Topology Float) (i : InterfaceId) (d : NodeId) (j : InterfaceId) : Prop :=
  ∃ target, topo.node d = .ok target ∧ target.iface = some j ∧ j ∈ topo.listeners i

/-- The node of the interface `i` and the destination lie on one line of the grid. -/
def Aligned (topo : Topology Float) (line : Point Float → Point Float → Bool) (i : InterfaceId) (d : NodeId) : Prop :=
  ∃ here target, topo.positionOf i = .ok here ∧ topo.node d = .ok target ∧ line here target.position = true

/-- Of the interfaces that hear `i`, in the order in which they joined, `j` is the first one whose node lies
farthest along an axis. -/
def Farthest (topo : Topology Float) (axis : Point Float → Float) (i j : InterfaceId) : Prop :=
  ∃ position : InterfaceId → Point Float, (∀ m ∈ topo.listeners i, topo.positionOf m = .ok (position m)) ∧
    FirstGreatest (fun m => axis (position m)) (topo.listeners i) j

/-- The next hop from the interface `i` towards a node: the interface of the node if it is in reach, otherwise the
farthest one to the right if the node lies in the same row, and otherwise the farthest one down if it lies in the
same column. -/
inductive NextHop (topo : Topology Float) (i : InterfaceId) (d : NodeId) (j : InterfaceId) : Prop where
  | direct (reached : topo.Direct i d j)
  | row (out : ∀ k, ¬ topo.Direct i d k) (line : topo.Aligned Point.sameRow i d) (hop : topo.Farthest Point.x i j)
  | column (out : ∀ k, ¬ topo.Direct i d k) (off : ¬ topo.Aligned Point.sameRow i d)
      (line : topo.Aligned Point.sameColumn i d) (hop : topo.Farthest Point.y i j)

/-- The interfaces that hear `i` have places, and no coordinate of a place is NaN. -/
def Surveyed (topo : Topology Float) (i : InterfaceId) : Prop :=
  ∀ m ∈ topo.listeners i, ∃ p, topo.positionOf m = .ok p ∧ p.x.isNaN = false ∧ p.y.isNaN = false

/-- In a surveyed topology all who hear an interface have places with numbers for coordinates. -/
lemma Surveyed.places (h : topo.Surveyed i) : ∃ position : InterfaceId → Point Float,
    ∀ m ∈ topo.listeners i, topo.positionOf m = .ok (position m) ∧ (position m).x.isNaN = false ∧
      (position m).y.isNaN = false := by
  have hall : ∀ m, ∃ p : Point Float, m ∈ topo.listeners i →
      topo.positionOf m = .ok p ∧ p.x.isNaN = false ∧ p.y.isNaN = false := by
    intro m
    by_cases hm : m ∈ topo.listeners i
    · obtain ⟨p, hp⟩ := h m hm
      exact ⟨p, fun _ => hp⟩
    · exact ⟨default, fun hin => absurd hin hm⟩
  choose position hposition using hall
  exact ⟨position, hposition⟩

/-- There is one direct hop at most. -/
lemma Direct.unique (hj : topo.Direct i d j) (hk : topo.Direct i d k) : j = k := by
  obtain ⟨target, htarget, hj, -⟩ := hj
  obtain ⟨target', htarget', hk, -⟩ := hk
  cases htarget.symm.trans htarget'
  exact Option.some.inj (hj.symm.trans hk)

/-- There is only one farthest member along an axis. -/
lemma Farthest.unique {axis : Point Float → Float} (hj : topo.Farthest axis i j) (hk : topo.Farthest axis i k)
    (hnan : ∀ m ∈ topo.listeners i, ∀ p, topo.positionOf m = .ok p → (axis p).isNaN = false) : j = k := by
  obtain ⟨position, hposition, hj⟩ := hj
  obtain ⟨position', hposition', hk⟩ := hk
  have hsame : ∀ m ∈ topo.listeners i, position' m = position m := fun m hm =>
    Except.ok.inj ((hposition' m hm).symm.trans (hposition m hm))
  refine hj.unique (hk.congr fun m hm => ?_) fun m hm => hnan m hm _ (hposition m hm)
  rw [hsame m hm]

/-- There is only one next hop. -/
lemma NextHop.unique (h : topo.Surveyed i) (hj : topo.NextHop i d j) (hk : topo.NextHop i d k) : j = k := by
  have hx : ∀ m ∈ topo.listeners i, ∀ p, topo.positionOf m = .ok p → p.x.isNaN = false := by
    intro m hm p hp
    obtain ⟨p', hp', hnan, -⟩ := h m hm
    cases hp.symm.trans hp'
    exact hnan
  have hy : ∀ m ∈ topo.listeners i, ∀ p, topo.positionOf m = .ok p → p.y.isNaN = false := by
    intro m hm p hp
    obtain ⟨p', hp', -, hnan⟩ := h m hm
    cases hp.symm.trans hp'
    exact hnan
  cases hj with
  | direct hj =>
    cases hk with
    | direct hk => exact hj.unique hk
    | row out => exact absurd hj (out j)
    | column out => exact absurd hj (out j)
  | row out line hop =>
    cases hk with
    | direct hk => exact absurd hk (out k)
    | row _ _ hop' => exact hop.unique hop' hx
    | column _ off => exact absurd line off
  | column out off line hop =>
    cases hk with
    | direct hk => exact absurd hk (out k)
    | row _ line' => exact absurd line' off
    | column _ _ _ hop' => exact hop.unique hop' hy

/-- The search for the farthest member along an axis finds it. -/
lemma farthest_eq (axis : Point Float → Float) {medium : Medium} {position : InterfaceId → Point Float}
    (hm : topo.listeners i = medium.members) (hne : medium.members ≠ [])
    (hposition : ∀ m ∈ topo.listeners i, topo.positionOf m = .ok (position m))
    (hnan : ∀ m ∈ topo.listeners i, (axis (position m)).isNaN = false) :
    ∃ j, (medium.extreme? fun m => topo.positionOf m >>= fun p => .ok (axis p)) = .ok (some j) ∧
      topo.Farthest axis i j := by
  have hfind : ∀ m ∈ medium.members, (topo.positionOf m >>= fun p => .ok (axis p)) = .ok (axis (position m)) := by
    intro m hmem
    rw [hposition m (hm ▸ hmem), ok_bind]
  have hkeys : ∀ m ∈ medium.members, (axis (position m)).isNaN = false := hm ▸ hnan
  obtain ⟨j, hj, hfirst⟩ := Medium.extreme?_eq hne hfind hkeys
  exact ⟨j, hj, position, hposition, hm ▸ hfirst⟩

/-- A next hop hears the interface. -/
lemma NextHop.mem (h : topo.NextHop i d j) : j ∈ topo.listeners i := by
  cases h with
  | direct reached =>
    obtain ⟨-, -, -, hmem⟩ := reached
    exact hmem
  | row _ _ hop =>
    obtain ⟨_, _, hfirst⟩ := hop
    exact hfirst.mem
  | column _ _ _ hop =>
    obtain ⟨_, _, hfirst⟩ := hop
    exact hfirst.mem

/-- There is no next hop out of reach and off both lines. -/
lemma not_nextHop (hout : ∀ k, ¬ topo.Direct i d k) (hrow : ¬ topo.Aligned Point.sameRow i d)
    (hcolumn : ¬ topo.Aligned Point.sameColumn i d) : ¬ topo.NextHop i d j := by
  rintro (hj | ⟨-, hline⟩ | ⟨-, -, hline⟩)
  · exact hout j hj
  · exact hrow hline
  · exact hcolumn hline

/-- A search for a farthest member ends with a member. -/
lemma mem_of_extreme? {medium : Medium} {find : InterfaceId → Except Halt Float}
    (h : medium.extreme? find = .ok (some j)) : j ∈ medium.members := by
  have hfold : ∀ (rest : List InterfaceId) {best final : Option (InterfaceId × Float)},
      rest.foldlM (Medium.better find) best = .ok final → ∀ x ∈ final, x.1 ∈ rest ∨ x ∈ best := by
    intro rest
    induction rest with
    | nil =>
      intro best final h x hx
      cases h
      exact .inr hx
    | cons next rest ih =>
      intro best final h x hx
      rw [List.foldlM_cons] at h
      obtain ⟨better, hbetter, h⟩ := bind_eq_ok.1 h
      rcases ih h x hx with hrest | hmem
      · exact .inl (List.mem_cons_of_mem _ hrest)
      -- the better one is the old one or the next one
      obtain ⟨value, -, hbetter⟩ := bind_eq_ok.1 hbetter
      cases best with
      | none =>
        cases hbetter
        cases hmem
        exact .inl List.mem_cons_self
      | some leader =>
        simp only [pure_eq_ok, Except.ok.injEq] at hbetter
        subst hbetter
        split at hmem
        · exact .inr hmem
        · cases hmem
          exact .inl List.mem_cons_self
  obtain ⟨final, hfinal, h⟩ := bind_eq_ok.1 h
  have h : final.map (·.1) = some j := Except.ok.inj h
  obtain ⟨x, rfl, rfl⟩ := Option.map_eq_some_iff.1 h
  rcases hfold _ hfinal x rfl with hmem | hmem
  · exact hmem
  · cases hmem

/-- Where a frame is sent to, somebody hears it. -/
lemma mem_of_route (h : topo.route i d = .ok (.ok (some j))) : j ∈ topo.listeners i := by
  simp only [route, bind_eq_ok] at h
  obtain ⟨iface, hi, medium, hm, h⟩ := h
  rw [listeners_eq (bind_eq_ok.2 ⟨iface, hi, hm⟩)]
  split at h
  · cases h
  obtain ⟨target, -, h⟩ := bind_eq_ok.1 h
  split at h
  · rename_i direct hdirect
    cases h
    obtain ⟨-, hmem⟩ := Option.filter_eq_some_iff.1 hdirect
    simpa [Medium.contains] using hmem
  obtain ⟨here, -, h⟩ := bind_eq_ok.1 h
  split at h
  · obtain ⟨best, hbest, h⟩ := bind_eq_ok.1 h
    cases h
    exact mem_of_extreme? hbest
  split at h
  · obtain ⟨best, hbest, h⟩ := bind_eq_ok.1 h
    cases h
    exact mem_of_extreme? hbest
  · cases h

/-- What routing from an interface to a node answers. -/
lemma route_answers {iface : Interface Float} {medium : Medium} {home target : Site Float}
    (hi : topo.interface i = .ok iface) (hm : topo.medium iface.medium = .ok medium)
    (hh : topo.node iface.node = .ok home) (hd : topo.node d = .ok target) (hs : topo.Surveyed i) :
    (topo.listeners i = [] ∧ topo.route i d = .ok (.error (.emptyMedium medium.name))) ∨
      topo.listeners i ≠ [] ∧ ((∃ j, topo.NextHop i d j ∧ topo.route i d = .ok (.ok (some j))) ∨
        ((∀ j, ¬ topo.Direct i d j) ∧ ¬ topo.Aligned Point.sameRow i d ∧ ¬ topo.Aligned Point.sameColumn i d) ∧
          topo.route i d = .ok (.ok none)) := by
  have hlisteners : topo.listeners i = medium.members :=
    listeners_eq (by simp only [mediumOf, hi, ok_bind, hm])
  have hplace : topo.positionOf i = .ok home.position := by
    simp only [positionOf, hi, hh, ok_bind, pure_eq_ok]
  have haligned : ∀ line, topo.Aligned line i d ↔ line home.position target.position = true := by
    intro line
    constructor
    · rintro ⟨here, target', hhere, htarget, hline⟩
      cases hplace.symm.trans hhere
      cases hd.symm.trans htarget
      exact hline
    · exact fun hline => ⟨_, _, hplace, hd, hline⟩
  obtain ⟨position, hposition⟩ := hs.places
  have hpositions : ∀ m ∈ topo.listeners i, topo.positionOf m = .ok (position m) :=
    fun m hm => (hposition m hm).1
  unfold route
  simp only [hi, hm, hh, hd, ok_bind, pure_eq_ok]
  cases hempty : medium.isEmpty with
  | true =>
    have hnone : medium.members = [] := List.isEmpty_iff.1 hempty
    exact .inl ⟨hlisteners.trans hnone, by simp⟩
  | false =>
    have hne : medium.members ≠ [] := by simpa [Medium.isEmpty] using hempty
    refine .inr ⟨hlisteners ▸ hne, ?_⟩
    simp only [Bool.false_eq_true, if_false]
    cases hdirect : target.iface.filter medium.contains with
    | some j =>
      obtain ⟨htarget, hmem⟩ := Option.filter_eq_some_iff.1 hdirect
      have hmem : j ∈ topo.listeners i := by
        rw [hlisteners]
        simpa [Medium.contains] using hmem
      exact .inl ⟨j, .direct ⟨target, hd, htarget, hmem⟩, rfl⟩
    | none =>
      have hout : ∀ k, ¬ topo.Direct i d k := by
        rintro k ⟨target', htarget', hk, hmem⟩
        cases hd.symm.trans htarget'
        rw [hlisteners] at hmem
        simp [hk, Medium.contains, hmem] at hdirect
      dsimp only
      split
      · rename_i hrow
        obtain ⟨j, hj, hfar⟩ := farthest_eq Point.x hlisteners hne hpositions
          fun m hm => (hposition m hm).2.1
        refine .inl ⟨j, .row hout ((haligned _).2 hrow) hfar, ?_⟩
        rw [hj, ok_bind]
      · rename_i hrow
        have hoff : ¬ topo.Aligned Point.sameRow i d := fun h => hrow ((haligned _).1 h)
        split
        · rename_i hcolumn
          obtain ⟨j, hj, hfar⟩ := farthest_eq Point.y hlisteners hne hpositions
            fun m hm => (hposition m hm).2.2
          refine .inl ⟨j, .column hout hoff ((haligned _).2 hcolumn) hfar, ?_⟩
          rw [hj, ok_bind]
        · rename_i hcolumn
          exact .inr ⟨⟨hout, hoff, fun h => hcolumn ((haligned _).1 h)⟩, rfl⟩

/-- Routing from an interface to a node does as it should. -/
structure Routes (topo : Topology Float) (medium : Medium) (i : InterfaceId) (d : NodeId) : Prop where
  answers : ∃ answer, topo.route i d = .ok answer
  fails : ∀ e, topo.route i d = .ok (.error e) ↔ topo.listeners i = [] ∧ e = .emptyMedium medium.name
  finds : ∀ j, topo.route i d = .ok (.ok (some j)) ↔ topo.NextHop i d j
  lost : topo.route i d = .ok (.ok none) ↔ topo.listeners i ≠ [] ∧ (∀ j, ¬ topo.Direct i d j) ∧
    ¬ topo.Aligned Point.sameRow i d ∧ ¬ topo.Aligned Point.sameColumn i d

/-- Routing always answers. It fails with the name of the medium exactly if nobody hears the interface; it finds an
interface exactly if this is the next hop; and it finds none exactly if there are members, of which none is the
interface of the node, and the node lies neither in the same row nor in the same column. -/
theorem routes {iface : Interface Float} {medium : Medium} {home target : Site Float}
    (hi : topo.interface i = .ok iface) (hm : topo.medium iface.medium = .ok medium)
    (hh : topo.node iface.node = .ok home) (hd : topo.node d = .ok target) (hs : topo.Surveyed i) :
    topo.Routes medium i d := by
  rcases route_answers hi hm hh hd hs with ⟨hnone, hroute⟩ | ⟨hne, ⟨j, hj, hroute⟩ | ⟨hno, hroute⟩⟩
  · refine ⟨⟨_, hroute⟩, fun e => ?_, fun j => ?_, ?_⟩ <;> rw [hroute]
    · refine ⟨fun h => ?_, ?_⟩
      · cases h
        exact ⟨hnone, rfl⟩
      · rintro ⟨-, rfl⟩
        rfl
    · refine ⟨nofun, fun hj => ?_⟩
      have hmem := hj.mem
      rw [hnone] at hmem
      cases hmem
    · exact ⟨nofun, fun hlost => absurd hnone hlost.1⟩
  · refine ⟨⟨_, hroute⟩, fun e => ?_, fun k => ?_, ?_⟩ <;> rw [hroute]
    · exact ⟨nofun, fun hnone => absurd hnone.1 hne⟩
    · refine ⟨fun h => ?_, fun hk => ?_⟩
      · cases h
        exact hj
      · rw [hj.unique hs hk]
    · refine ⟨nofun, ?_⟩
      rintro ⟨-, hout, hrow, hcolumn⟩
      exact absurd hj (not_nextHop hout hrow hcolumn)
  · refine ⟨⟨_, hroute⟩, fun e => ?_, fun k => ?_, ?_⟩ <;> rw [hroute]
    · exact ⟨nofun, fun hnone => absurd hnone.1 hne⟩
    · obtain ⟨hout, hrow, hcolumn⟩ := hno
      exact ⟨nofun, fun hk => absurd hk (not_nextHop hout hrow hcolumn)⟩
    · exact ⟨fun _ => ⟨hne, hno⟩, fun _ => rfl⟩

end Topology

end CarrierSense
