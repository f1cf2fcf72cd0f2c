/-
# Rounding half to even, once and twice

A rational number is rounded to the nearest integer, and to the even one if two are nearest.
A number that is rounded on a fine grid first and to the integers after that may come out
differently: exactly if the first rounding takes it to the middle between two integers from
the side of the one that the second rounding leaves (`halfEven_twice_iff`).
-/
import Mathlib.Data.Int.Log
import Mathlib.Data.Rat.Floor
import Mathlib.Tactic.Linarith
import Mathlib.Tactic.FieldSimp
import Mathlib.Tactic.Ring

namespace Transact

/-- The integer nearest to `x`; of two that are equally near, the even one. -/
def halfEven (x : ℚ) : ℤ :=
  if x - ⌊x⌋ < 1 / 2 then ⌊x⌋
  else if 1 / 2 < x - ⌊x⌋ then ⌊x⌋ + 1
  else if Even ⌊x⌋ then ⌊x⌋
  else ⌊x⌋ + 1

lemma halfEven_of_abs_lt {x : ℚ} {n : ℤ} (h : |x - n| < 1 / 2) : halfEven x = n := by
  obtain ⟨hlo, hhi⟩ := abs_lt.1 h
  rcases le_or_gt (n : ℚ) x with hge | hlt
  · have hfloor : ⌊x⌋ = n := Int.floor_eq_iff.2 ⟨hge, by linarith⟩
    rw [halfEven, hfloor, if_pos (by linarith)]
  · have hfloor : ⌊x⌋ = n - 1 := Int.floor_eq_iff.2 ⟨by push_cast; linarith, by push_cast; linarith⟩
    rw [halfEven, hfloor, if_neg (by push_cast; linarith), if_pos (by push_cast; linarith)]
    omega

/-- In the middle between two integers. -/
lemma halfEven_tie (n : ℤ) : halfEven (n + 1 / 2) = if Even n then n else n + 1 := by
  have hfloor : ⌊(n + 1 / 2 : ℚ)⌋ = n := Int.floor_eq_iff.2 ⟨by linarith, by linarith⟩
  rw [halfEven, hfloor, if_neg (by linarith), if_neg (by linarith)]

@[simp] lemma halfEven_intCast (n : ℤ) : halfEven n = n := halfEven_of_abs_lt (by norm_num)

/-- The integers that a number is nearest to. -/
lemma halfEven_cases (x : ℚ) :
    (∃ n : ℤ, |x - n| < 1 / 2) ∨ ∃ n : ℤ, x = n + 1 / 2 := by
  have hlo := Int.floor_le x
  have hhi := Int.lt_floor_add_one x
  rcases lt_trichotomy (x - ⌊x⌋) (1 / 2) with hlt | heq | hgt
  · exact Or.inl ⟨⌊x⌋, abs_lt.2 ⟨by linarith, hlt⟩⟩
  · exact Or.inr ⟨⌊x⌋, by linarith⟩
  · exact Or.inl ⟨⌊x⌋ + 1, abs_lt.2 ⟨by push_cast; linarith, by push_cast; linarith⟩⟩

lemma abs_sub_halfEven_le (x : ℚ) : |x - halfEven x| ≤ 1 / 2 := by
  obtain ⟨n, hn⟩ | ⟨n, rfl⟩ := halfEven_cases x
  · rw [halfEven_of_abs_lt hn]
    exact hn.le
  · rw [halfEven_tie]
    split
    · rw [abs_le]
      constructor <;> linarith
    · rw [abs_le]
      push_cast
      constructor <;> linarith

lemma even_halfEven_tie (n : ℤ) : Even (halfEven (n + 1 / 2)) := by
  rw [halfEven_tie]
  split
  · assumption
  · rename_i hn
    exact Int.even_add_one.2 hn

/-- The numbers that are rounded to `n`. -/
lemma halfEven_eq_iff {x : ℚ} {n : ℤ} :
    halfEven x = n ↔ |x - n| < 1 / 2 ∨ |x - n| = 1 / 2 ∧ Even n := by
  constructor
  · rintro rfl
    rcases (abs_sub_halfEven_le x).lt_or_eq with hlt | heq
    · exact Or.inl hlt
    · obtain ⟨m, hm⟩ | ⟨m, rfl⟩ := halfEven_cases x
      · rw [halfEven_of_abs_lt hm] at heq
        exact absurd heq hm.ne
      · exact Or.inr ⟨heq, even_halfEven_tie m⟩
  · rintro (hlt | ⟨heq, hn⟩)
    · exact halfEven_of_abs_lt hlt
    · rcases (abs_eq (by norm_num)).1 heq with hup | hdown
      · rw [show x = n + 1 / 2 by linarith, halfEven_tie, if_pos hn]
      · have hx : x = ((n - 1 : ℤ) : ℚ) + 1 / 2 := by
          push_cast
          linarith
        rw [hx, halfEven_tie, if_neg (by simp [hn])]
        ring

lemma halfEven_neg (x : ℚ) : halfEven (-x) = -halfEven x := by
  obtain ⟨n, hn⟩ | ⟨n, rfl⟩ := halfEven_cases x
  · rw [halfEven_of_abs_lt hn, halfEven_of_abs_lt]
    rw [abs_sub_comm] at hn
    push_cast
    rwa [show -x - -(n : ℚ) = n - x by ring]
  · have hneg : -(n + 1 / 2 : ℚ) = ((-n - 1 : ℤ) : ℚ) + 1 / 2 := by
      push_cast
      ring
    rw [hneg, halfEven_tie, halfEven_tie]
    by_cases hn : Even n
    · rw [if_pos hn, if_neg (by simp [hn])]
      ring
    · rw [if_neg hn, if_pos (by simpa [Int.even_sub] using hn)]
      ring

lemma halfEven_nonneg {x : ℚ} (hx : 0 ≤ x) : 0 ≤ halfEven x := by
  have hfloor := Int.floor_nonneg.2 hx
  rw [halfEven]
  split_ifs <;> omega

/-! ## A coarser grid -/

/-- A number that is nearer to a multiple of `2 * h` than half of it. -/
lemma halfEven_div_of_abs_lt {h n : ℤ} {t : ℚ} (hh : 0 < h) (ht : |t - 2 * h * n| < h) :
    halfEven (t / (2 * h)) = n := by
  have hpos : (0 : ℚ) < 2 * h := by exact_mod_cast (by omega : 0 < 2 * h)
  refine halfEven_of_abs_lt ?_
  have hdiv : t / (2 * h) - n = (t - 2 * h * n) / (2 * h) := by
    field_simp
  rw [hdiv, abs_div, abs_of_pos hpos, div_lt_iff₀ hpos]
  linarith

/-- In the middle between two multiples of `2 * h`. -/
lemma halfEven_div_tie {h n : ℤ} (hh : 0 < h) :
    halfEven ((2 * h * n + h : ℚ) / (2 * h)) = if Even n then n else n + 1 := by
  have hpos : (0 : ℚ) < h := by exact_mod_cast hh
  have hdiv : (2 * h * n + h : ℚ) / (2 * h) = n + 1 / 2 := by
    field_simp
  rw [hdiv, halfEven_tie]

/-- The first rounding takes `t` to the middle between two multiples of `2 * h`, and the
second one takes it further away. -/
def RoundsAway (h : ℤ) (t : ℚ) : Prop :=
  ∃ q : ℤ, halfEven t = 2 * h * q + h ∧
    (t < 2 * h * q + h ∧ Odd q ∨ 2 * h * q + h < t ∧ Even q)

/-- A middle is the middle of one pair of neighbours. -/
lemma middle_unique {h q q' r : ℤ} (hr0 : 0 ≤ r) (hr : r < 2 * h)
    (heq : 2 * h * q + r = 2 * h * q' + h) : q' = q ∧ r = h := by
  have hdiff : 2 * h * (q' - q) = r - h := by
    rw [mul_sub]
    omega
  have hzero : q' - q = 0 := by
    by_contra hne
    rcases lt_or_gt_of_ne hne with hneg | hpos <;> nlinarith
  rw [hzero, mul_zero] at hdiff
  omega

/-- The first rounding does not take the number to a middle: both stay on one side of it. -/
lemma halfEven_twice_of_ne {h q r : ℤ} {t : ℚ} (hh : 0 < h) (hqr : halfEven t = 2 * h * q + r)
    (hr0 : 0 ≤ r) (hr : r < 2 * h) (hne : r ≠ h) :
    halfEven ((halfEven t : ℚ) / (2 * h)) = halfEven (t / (2 * h)) := by
  have hnear := abs_le.1 (abs_sub_halfEven_le t)
  rw [hqr] at hnear ⊢
  push_cast at hnear ⊢
  obtain ⟨hlo, hhi⟩ := hnear
  have hr0' : (0 : ℚ) ≤ r := by exact_mod_cast hr0
  have hr' : (r : ℚ) + 1 ≤ 2 * h := by exact_mod_cast hr
  rcases lt_or_gt_of_ne hne with hlt | hgt
  · have hlt' : (r : ℚ) + 1 ≤ h := by exact_mod_cast hlt
    have hdown : ∀ {x : ℚ}, |x - (2 * h * q + r)| ≤ 1 / 2 → halfEven (x / (2 * h)) = q := by
      intro x hx
      obtain ⟨hxlo, hxhi⟩ := abs_le.1 hx
      exact halfEven_div_of_abs_lt hh (abs_lt.2 ⟨by linarith, by linarith⟩)
    rw [hdown (by norm_num), hdown (abs_le.2 ⟨hlo, hhi⟩)]
  · have hgt' : (h : ℚ) + 1 ≤ r := by exact_mod_cast hgt
    have hup : ∀ {x : ℚ}, |x - (2 * h * q + r)| ≤ 1 / 2 → halfEven (x / (2 * h)) = q + 1 := by
      intro x hx
      obtain ⟨hxlo, hxhi⟩ := abs_le.1 hx
      refine halfEven_div_of_abs_lt hh (abs_lt.2 ⟨?_, ?_⟩) <;> push_cast <;> linarith
    rw [hup (by norm_num), hup (abs_le.2 ⟨hlo, hhi⟩)]

/-- The first rounding takes the number to a middle: the second one takes it to the even
neighbour, whichever it came from. -/
lemma halfEven_twice_of_middle {h q : ℤ} {t : ℚ} (hh : 0 < h)
    (hmiddle : halfEven t = 2 * h * q + h) :
    halfEven ((halfEven t : ℚ) / (2 * h)) = halfEven (t / (2 * h)) ↔
      ¬ (t < 2 * h * q + h ∧ Odd q ∨ 2 * h * q + h < t ∧ Even q) := by
  have hnear := abs_le.1 (abs_sub_halfEven_le t)
  rw [hmiddle] at hnear ⊢
  push_cast at hnear ⊢
  obtain ⟨hlo, hhi⟩ := hnear
  have h1 : (1 : ℚ) ≤ h := by exact_mod_cast hh
  rw [halfEven_div_tie hh]
  rcases lt_trichotomy t (2 * h * q + h) with hbelow | rfl | habove
  · rw [halfEven_div_of_abs_lt hh (abs_lt.2 ⟨by linarith, by linarith⟩ : |t - 2 * h * q| < h)]
    by_cases hq : Even q
    · simp [hq, hbelow.le]
    · simp [hq, hbelow, Int.not_even_iff_odd.1 hq]
  · rw [halfEven_div_tie hh]
    simp
  · have hup : |t - 2 * h * (q + 1 : ℤ)| < h := by
      push_cast
      exact abs_lt.2 ⟨by linarith, by linarith⟩
    rw [halfEven_div_of_abs_lt hh hup]
    by_cases hq : Even q
    · simp [hq, habove]
    · simp [hq, habove.le]

/-- **Rounding twice**, to an integer and that to a multiple of `2 * h`, is rounding once
unless the first rounding hides on which side of the middle the number is. -/
theorem halfEven_twice_iff {h : ℤ} (hh : 0 < h) (t : ℚ) :
    halfEven ((halfEven t : ℚ) / (2 * h)) = halfEven (t / (2 * h)) ↔ ¬ RoundsAway h t := by
  obtain ⟨q, r, hqr, hr0, hr⟩ : ∃ q r : ℤ, halfEven t = 2 * h * q + r ∧ 0 ≤ r ∧ r < 2 * h :=
    ⟨halfEven t / (2 * h), halfEven t % (2 * h), (Int.mul_ediv_add_emod _ _).symm,
      Int.emod_nonneg _ (by omega), Int.emod_lt_of_pos _ (by omega)⟩
  by_cases hmiddle : r = h
  · rw [hmiddle] at hqr
    rw [halfEven_twice_of_middle hh hqr]
    refine not_congr ⟨fun hside => ⟨q, hqr, hside⟩, fun ⟨q', hq', hside⟩ => ?_⟩
    obtain ⟨rfl, -⟩ := middle_unique hh.le (by omega) (hqr.symm.trans hq')
    exact hside
  · refine iff_of_true (halfEven_twice_of_ne hh hqr hr0 hr hmiddle) fun ⟨q', hq', _⟩ => ?_
    exact hmiddle (middle_unique hr0 hr (hqr.symm.trans hq')).2

/-- The numbers that the first rounding takes across a middle, by their distance from it. -/
lemma roundsAway_iff {h : ℤ} (hh : 0 < h) (x : ℚ) :
    RoundsAway h (x * (2 * h)) ↔
      ∃ q : ℤ, (|x - (q + 1 / 2)| < 1 / (4 * h) ∨ |x - (q + 1 / 2)| = 1 / (4 * h) ∧ Even h) ∧
        (x < q + 1 / 2 ∧ Odd q ∨ q + 1 / 2 < x ∧ Even q) := by
  have hpos : (0 : ℚ) < 2 * h := by exact_mod_cast (by omega : 0 < 2 * h)
  have hquarter : (1 / 2 : ℚ) = 1 / (4 * h) * (2 * h) := by
    have hne : (h : ℚ) ≠ 0 := by exact_mod_cast hh.ne'
    field_simp
    norm_num
  have hmiddle : ∀ q : ℤ, (2 * h * q + h : ℚ) = (q + 1 / 2) * (2 * h) := fun q => by ring
  refine exists_congr fun q => and_congr ?_ ?_
  · have hdist : |x * (2 * h) - ((2 * h * q + h : ℤ) : ℚ)| = |x - (q + 1 / 2)| * (2 * h) := by
      push_cast
      rw [hmiddle, ← sub_mul, abs_mul, abs_of_pos hpos]
    have heven : Even (2 * h * q + h) ↔ Even h := by
      rw [Int.even_add, mul_assoc]
      simp
    rw [halfEven_eq_iff, hdist, heven, hquarter, mul_lt_mul_iff_left₀ hpos,
      mul_left_inj' hpos.ne']
  · rw [hmiddle, mul_lt_mul_iff_left₀ hpos, mul_lt_mul_iff_left₀ hpos]

/-! ## Binary floating point -/

/-- The nearest number of 53 binary digits. -/
def toDouble (x : ℚ) : ℚ :=
  let k := Int.log 2 |x| - 52
  halfEven (x / 2 ^ k) * 2 ^ k

/-- Half of a number is too far away to be rounded to nothing less than twice it. -/
lemma abs_halfEven_le (x : ℚ) : |(halfEven x : ℚ)| ≤ 2 * |x| := by
  rcases lt_or_ge |x| (1 / 2) with hlt | hge
  · have hzero : halfEven x = 0 := halfEven_of_abs_lt (by rwa [Int.cast_zero, sub_zero])
    rw [hzero, Int.cast_zero, abs_zero]
    positivity
  · have hnear := abs_sub_halfEven_le x
    have htriangle := abs_sub_abs_le_abs_sub (halfEven x : ℚ) x
    rw [abs_sub_comm] at htriangle
    linarith

lemma toDouble_nonneg {x : ℚ} (hx : 0 ≤ x) : 0 ≤ toDouble x := by
  have hpos : (0 : ℚ) < 2 ^ (Int.log 2 |x| - 52) := zpow_pos (by norm_num) _
  have hint : (0 : ℚ) ≤ halfEven (x / 2 ^ (Int.log 2 |x| - 52)) := by
    exact_mod_cast halfEven_nonneg (div_nonneg hx hpos.le)
  exact mul_nonneg hint hpos.le

lemma abs_toDouble_le (x : ℚ) : |toDouble x| ≤ 2 * |x| := by
  have hpos : (0 : ℚ) < 2 ^ (Int.log 2 |x| - 52) := zpow_pos (by norm_num) _
  have hle := mul_le_mul_of_nonneg_right (abs_halfEven_le (x / 2 ^ (Int.log 2 |x| - 52))) hpos.le
  rw [abs_div, abs_of_pos hpos, mul_assoc, div_mul_cancel₀ _ hpos.ne'] at hle
  rw [toDouble, abs_mul, abs_of_pos hpos]
  exact hle

end Transact
