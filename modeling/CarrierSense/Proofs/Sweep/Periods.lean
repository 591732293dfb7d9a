import CarrierSense.Proofs.Exact
import CarrierSense.Sweep.Periods
import Mathlib.Algebra.Order.Archimedean.Basic
import Mathlib.Tactic.Common
import Mathlib.Tactic.Linarith
import Mathlib.Tactic.NormNum

/-!
# The periods of a sweep

Over exact numbers, the periods that a checked sweep visits are the least one and all that follow it in even steps
up to the limit, as long as they can be numbered. A check does not bound their number, and a sweep with too many of
them halts.
-/

namespace CarrierSense.Periods

section Walk

variable {κ : Type} [Scalar κ] {p : Periods κ} {found : List κ} {left n : ℕ}

/-- The walk stops at the first period beyond the limit, with all periods before it. -/
lemma visitFrom_of_end (hcount : left ≤ countLimit) (hleft : countLimit - left ≤ n) (hn : n < countLimit)
    (hbefore : ∀ k < n, Scalar.lt p.limit (p.nth k) = false) (hend : Scalar.lt p.limit (p.nth n) = true) :
    p.visitFrom found left =
      .ok (found.reverse ++ (List.range' (countLimit - left) (n - (countLimit - left))).map p.nth) := by
  induction left generalizing found with
  | zero => omega
  | succ left ih =>
    rw [visitFrom]
    rcases Nat.eq_or_lt_of_le hleft with heq | hlt
    · -- the walk has come to its end
      rw [heq, if_pos hend, Nat.sub_self]
      simp
    · have hlength : n - (countLimit - (left + 1)) = n - (countLimit - left) + 1 := by omega
      have hnext : countLimit - (left + 1) + 1 = countLimit - left := by omega
      rw [hbefore _ hlt, if_neg Bool.false_ne_true, ih (by omega) (by omega), hlength, List.range'_succ, hnext]
      simp

/-- If no period lies beyond the limit, then the numbers run out. -/
lemma visitFrom_of_no_end (h : ∀ k < countLimit, Scalar.lt p.limit (p.nth k) = false) :
    p.visitFrom found left = .error .overflow := by
  induction left generalizing found with
  | zero => rfl
  | succ left ih =>
    have hlt : countLimit - (left + 1) < countLimit := by
      have hpos : 0 < countLimit := by decide
      omega
    rw [visitFrom, h _ hlt, if_neg Bool.false_ne_true, ih]

end Walk

variable {p : Periods ℚ} {n : ℕ}

/-- The period with a number, in the rationals. -/
lemma nth_eq (p : Periods ℚ) (k : ℕ) : p.nth k = p.min + k * p.step := by
  rw [mul_comm]
  rfl

/-- The limit of the periods, in the rationals. -/
lemma limit_eq (p : Periods ℚ) : p.limit = p.max + 2⁻¹ ^ 52 * Max.max |p.max| 1 := by
  have hsize : (if decide (|p.max| < 1) = true then (1 : ℚ) else |p.max|) = Max.max |p.max| 1 := by
    rw [max_def_lt]
    simp
  rw [← hsize]
  rfl

/-- What the check asks of periods. -/
lemma check_eq_ok_iff : p.check = .ok () ↔ 0 ≤ p.min ∧ 0 < p.step ∧ p.min ≤ p.max := by
  have hcheck : p.check =
      if ¬ 0 ≤ p.min then .error (.min p.min)
      else if ¬ 0 < p.step then .error (.step p.step)
      else if p.max < p.min then .error (.inverted p.max p.min)
      else .ok () := by
    simp [check, Scalar.isFinite, Scalar.le, Scalar.lt, Scalar.ofNat]
  rw [hcheck]
  split
  · rename_i hmin
    exact ⟨nofun, fun h => absurd h.1 hmin⟩
  split
  · rename_i hstep
    exact ⟨nofun, fun h => absurd h.2.1 hstep⟩
  split
  · rename_i hinverted
    exact ⟨nofun, fun h => absurd hinverted (not_lt.2 h.2.2)⟩
  · rename_i hmin hstep hmax
    exact ⟨fun _ => ⟨not_not.1 hmin, not_not.1 hstep, not_lt.1 hmax⟩, fun _ => rfl⟩

/-- When a period is beyond the limit. -/
lemma lt_limit_iff (p : Periods ℚ) (k : ℕ) :
    Scalar.lt p.limit (p.nth k) = true ↔ p.limit < p.min + k * p.step := by
  rw [← nth_eq]
  exact decide_eq_true_iff

/-- The least period is not beyond the limit. -/
lemma min_le_limit (h : p.check = .ok ()) : p.min ≤ p.limit := by
  obtain ⟨-, -, hmax⟩ := check_eq_ok_iff.1 h
  have hround : (0 : ℚ) ≤ 2⁻¹ ^ 52 * Max.max |p.max| 1 := by positivity
  rw [limit_eq]
  linarith

/-- There is a last period that is not beyond the limit: all up to it are not, and none after it is. -/
lemma exists_last (h : p.check = .ok ()) : ∃ n : ℕ, ∀ k : ℕ, p.min + k * p.step ≤ p.limit ↔ k ≤ n := by
  obtain ⟨-, hstep, -⟩ := check_eq_ok_iff.1 h
  have hmin := min_le_limit h
  refine ⟨⌊(p.limit - p.min) / p.step⌋₊, fun k => ?_⟩
  have hquotient : 0 ≤ (p.limit - p.min) / p.step := div_nonneg (by linarith) hstep.le
  rw [Nat.le_floor_iff hquotient, le_div_iff₀ hstep]
  constructor <;> intro hk <;> linarith

/-- The first and the last period that can be numbered tell of all. -/
lemma isUnending_iff (p : Periods ℚ) :
    p.isUnending = true ↔ ∀ k < countLimit, Scalar.lt p.limit (p.nth k) = false := by
  have hbeyond : ∀ k : ℕ, Scalar.lt p.limit (p.nth k) = false ↔ p.min + k * p.step ≤ p.limit := fun k => by
    rw [← not_lt, ← lt_limit_iff, Bool.not_eq_true]
  simp only [isUnending, Bool.and_eq_true, Bool.not_eq_true', hbeyond]
  constructor
  · rintro ⟨hfirst, hlast⟩ k hk
    -- the periods either rise or fall
    rcases le_total 0 p.step with hrise | hfall
    · have hle : (k : ℚ) ≤ (countLimit - 1 : ℕ) := Nat.cast_le.2 (by omega)
      have hstep := mul_le_mul_of_nonneg_right hle hrise
      linarith
    · have hstep : (k : ℚ) * p.step ≤ 0 := mul_nonpos_of_nonneg_of_nonpos k.cast_nonneg hfall
      rw [Nat.cast_zero, zero_mul] at hfirst
      linarith
  · exact fun h => ⟨h 0 (by decide), h (countLimit - 1) (by decide)⟩

/-- What a sweep visits is what the walk along its periods finds. -/
lemma visited_eq_visitFrom (p : Periods ℚ) : p.visited = p.visitFrom [] countLimit := by
  rw [visited]
  split
  · rename_i hunending
    rw [visitFrom_of_no_end ((isUnending_iff p).1 hunending)]
  · rfl

/-- The periods up to the one with the number `n`. -/
def upTo (p : Periods ℚ) (n : ℕ) : List ℚ := (List.range (n + 1)).map fun k : ℕ => p.min + k * p.step

/-- The first period is the least one. -/
lemma head?_upTo (p : Periods ℚ) (n : ℕ) : (p.upTo n).head? = some p.min := by
  simp [upTo, List.range_succ_eq_map]

/-- Periods increase if their step is positive. -/
lemma pairwise_upTo (h : 0 < p.step) (n : ℕ) : (p.upTo n).Pairwise (· < ·) := by
  rw [upTo, List.pairwise_map]
  refine List.pairwise_lt_range.imp fun {j k} hjk => ?_
  have hstep := mul_lt_mul_of_pos_right (Nat.cast_lt.2 hjk : (j : ℚ) < k) h
  linarith

/-- The periods up to the last one that is not beyond the limit are visited, if they can be numbered, and one more. -/
lemma visited_of_last (hlast : ∀ k : ℕ, p.min + k * p.step ≤ p.limit ↔ k ≤ n) :
    p.visited = if n + 1 < countLimit then .ok (p.upTo n) else .error .overflow := by
  have hbeyond : ∀ k : ℕ, Scalar.lt p.limit (p.nth k) = decide (n < k) := fun k => by
    rw [Bool.eq_iff_iff, lt_limit_iff, decide_eq_true_iff, ← not_le, ← not_le, hlast]
  rw [visited_eq_visitFrom]
  split
  · rename_i hfew
    have hbefore : ∀ k < n + 1, Scalar.lt p.limit (p.nth k) = false := fun k hk => by
      rw [hbeyond, decide_eq_false_iff_not]
      omega
    have hend : Scalar.lt p.limit (p.nth (n + 1)) = true := by
      rw [hbeyond, decide_eq_true_iff]
      omega
    have hupTo : p.upTo n = (List.range (n + 1)).map p.nth :=
      List.map_congr_left fun k _ => (p.nth_eq k).symm
    rw [visitFrom_of_end le_rfl (by simp) hfew hbefore hend, hupTo, List.range_eq_range']
    simp
  · rename_i hmany
    refine visitFrom_of_no_end fun k hk => ?_
    rw [hbeyond, decide_eq_false_iff_not]
    omega

/-- There is a last period, with the number `n`, that is not beyond the greatest one and the tolerance for its rounding.
If all up to it and one more can be numbered with 32 bits, then these are what the sweep visits: at least one period, in
strictly increasing order, of which the first is the least one. Otherwise the sweep halts, for a check does not bound
their number. -/
theorem visited_of_check (h : p.check = .ok ()) : ∃ n : ℕ,
    (∀ k : ℕ, p.min + k * p.step ≤ p.max + 2⁻¹ ^ 52 * Max.max |p.max| 1 ↔ k ≤ n) ∧
      p.visited = (if n + 1 < 2 ^ 32 then .ok (p.upTo n) else .error .overflow) ∧
      (p.upTo n).head? = some p.min ∧ (p.upTo n).Pairwise (· < ·) := by
  obtain ⟨-, hstep, -⟩ := check_eq_ok_iff.1 h
  obtain ⟨n, hlast⟩ := exists_last h
  refine ⟨n, fun k => ?_, visited_of_last hlast, p.head?_upTo n, pairwise_upTo hstep n⟩
  rw [← limit_eq]
  exact hlast k

/-- Three steps of a third reach beyond a greatest period that has been rounded down, and are visited. -/
theorem visited_thirds :
    let p : Periods ℚ := { min := 0, max := 1 - 2⁻¹ ^ 53, step := 1 / 3 }
    p.check = .ok () ∧ p.visited = .ok [0, 1 / 3, 2 / 3, 1] := by
  intro p
  have hcheck : p.check = .ok () := check_eq_ok_iff.2 (by norm_num [p])
  obtain ⟨n, hlast, hvisited, -⟩ := visited_of_check hcheck
  have hsize : Max.max |p.max| 1 = 1 := by norm_num [p, abs_le]
  rw [hsize] at hlast
  have hn : n = 3 := by
    have hthird := (hlast 3).1 (by norm_num [p])
    have hfourth := (hlast 4).not.1 (by norm_num [p])
    omega
  subst hn
  refine ⟨hcheck, hvisited.trans ?_⟩
  norm_num [upTo, List.range_succ, p]

/-- One period more than can be numbered: the sweep passes its check, and halts. -/
theorem sweep_of_too_many_periods :
    let p : Periods ℚ := { min := 0, max := 2 ^ 32, step := 1 }
    p.check = .ok () ∧ p.visited = .error .overflow := by
  intro p
  have hcheck : p.check = .ok () := check_eq_ok_iff.2 (by norm_num [p])
  obtain ⟨n, hlast⟩ := exists_last hcheck
  have hmany : countLimit ≤ n := by
    refine (hlast countLimit).1 ?_
    have hround : (0 : ℚ) ≤ 2⁻¹ ^ 52 * Max.max |p.max| 1 := by positivity
    have hcount : p.min + countLimit * p.step = p.max := by norm_num [p, countLimit]
    rw [limit_eq]
    linarith
  refine ⟨hcheck, ?_⟩
  rw [visited_of_last hlast, if_neg (by omega)]

end CarrierSense.Periods
