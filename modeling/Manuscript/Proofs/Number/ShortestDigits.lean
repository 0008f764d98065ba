import Manuscript.Proofs.Number.Rounding

/-!
# The digits of a number

The digits that are written for a value lie in the interval of numbers that are rounded to it, so
they are read back as the value. They are looked for on finer and finer decimal grids. On the
eighteenth the next place is less than a quarter of the last place of any value, and the grid point
below the value is near enough.

## Main results

* `ratio_toRatio` — a value as a quotient
* `contains_iff` — comparing by whole numbers
* `le_decimalPosition` — where the decimal point stands
* `roundsTo_shortestDigits` — the digits are rounded to the value
-/

namespace Manuscript.Binary64

variable {num den m a b c d : Nat} {e : Int} {x : ℚ}

theorem ten_zpow_pos (e : Int) : (0 : ℚ) < 10 ^ e := zpow_pos (by norm_num) e

/-- A finite value is the quotient that stands for it. -/
theorem ratio_toRatio (m : Nat) (e : Int) :
    ∃ a b, toRatio m e = (a, b) ∧ 0 < b ∧ (a / b : ℚ) = m * 2 ^ e := by
  cases e with
  | ofNat k => exact ⟨_, _, rfl, Nat.one_pos, by simp⟩
  | negSucc k =>
    refine ⟨_, _, rfl, Nat.pow_pos two_pos, ?_⟩
    rw [zpow_negSucc, Nat.pow_eq, div_eq_mul_inv]
    push_cast
    rfl

/-- Numbers are compared with the ends of an interval by multiplying out. -/
theorem contains_iff (i : Interval) (hb : 0 < b) (hd : 0 < d) :
    i.contains a b c d = true ↔ i.Holds (c / d) (a / b) := by
  have hb' : (0 : ℚ) < b := by exact_mod_cast hb
  have hd' : (0 : ℚ) < d := by exact_mod_cast hd
  have hlow : (i.low * (c / d) : ℚ) ≤ a / b ↔ i.low * c * b ≤ a * d := by
    rw [← mul_div_assoc, div_le_div_iff₀ hd' hb']
    exact_mod_cast Iff.rfl
  have hlow' : (i.low * (c / d) : ℚ) < a / b ↔ i.low * c * b < a * d := by
    rw [← mul_div_assoc, div_lt_div_iff₀ hd' hb']
    exact_mod_cast Iff.rfl
  have hhigh : (a / b : ℚ) ≤ i.high * (c / d) ↔ a * d ≤ i.high * c * b := by
    rw [← mul_div_assoc, div_le_div_iff₀ hb' hd']
    exact_mod_cast Iff.rfl
  have hhigh' : (a / b : ℚ) < i.high * (c / d) ↔ a * d < i.high * c * b := by
    rw [← mul_div_assoc, div_lt_div_iff₀ hb' hd']
    exact_mod_cast Iff.rfl
  rw [Interval.Holds, Interval.contains, hlow, hlow', hhigh, hhigh']
  split <;> simp

/-! ### The decimal point -/

/-- The digits of a natural number bound it. -/
theorem length_toDigits_bounds (h : num ≠ 0) :
    (10 : ℚ) ^ ((Nat.toDigits 10 num).length - 1 : Int) ≤ num ∧
      (num : ℚ) < 10 ^ ((Nat.toDigits 10 num).length : Int) := by
  have hlength : 0 < (Nat.toDigits 10 num).length := Nat.length_toDigits_pos
  constructor
  · obtain ⟨k, hk⟩ := Nat.exists_eq_succ_of_ne_zero hlength.ne'
    rw [hk]
    push_cast
    rw [add_sub_cancel_right, zpow_natCast]
    rcases Nat.eq_zero_or_pos k with rfl | hpos
    · exact_mod_cast Nat.one_le_iff_ne_zero.mpr h
    · have hnot : ¬num < 10 ^ k := by
        rw [← Nat.length_toDigits_le_iff (by norm_num) hpos, hk]
        omega
      exact_mod_cast not_lt.mp hnot
  · rw [zpow_natCast]
    exact_mod_cast (Nat.length_toDigits_le_iff (by norm_num) hlength).mp le_rfl

/-- A quotient is compared with a power of ten by multiplying out. -/
theorem ten_zpow_mul_le_iff (num den : Nat) (p : Int) :
    (10 : ℚ) ^ p * den ≤ num ↔
      if p ≥ 0 then num ≥ den * Nat.pow 10 p.toNat else num * Nat.pow 10 (-p).toNat ≥ den := by
  cases p with
  | ofNat k =>
    simp only [Int.ofNat_eq_natCast, zpow_natCast, ge_iff_le, Nat.cast_nonneg, if_true,
      Int.toNat_natCast, Nat.pow_eq, mul_comm den]
    exact_mod_cast Iff.rfl
  | negSucc k =>
    have hpow : (0 : ℚ) < 10 ^ (k + 1) := by positivity
    rw [if_neg (by simp), zpow_negSucc, inv_mul_le_iff₀ hpow, mul_comm _ (num : ℚ)]
    exact_mod_cast Iff.rfl

/-- The position of the decimal point is not too far to the right. -/
theorem le_decimalPosition (hnum : num ≠ 0) (hden : 0 < den) :
    (10 : ℚ) ^ (decimalPosition num den - 1) ≤ num / den := by
  have hden' : (0 : ℚ) < den := by exact_mod_cast hden
  obtain ⟨hnumLower, -⟩ := length_toDigits_bounds hnum
  obtain ⟨-, hdenUpper⟩ := length_toDigits_bounds hden.ne'
  rw [le_div_iff₀ hden']
  unfold decimalPosition
  dsimp only
  set n : Int := ((Nat.toDigits 10 num).length : Int)
  set d : Int := ((Nat.toDigits 10 den).length : Int)
  by_cases h : (10 : ℚ) ^ (n - d) * den ≤ num
  · rwa [if_pos ((ten_zpow_mul_le_iff num den _).mp h), add_sub_cancel_right]
  · rw [if_neg (mt (ten_zpow_mul_le_iff num den _).mpr h)]
    calc (10 : ℚ) ^ (n - d - 1) * den ≤ 10 ^ (n - d - 1) * 10 ^ d := by gcongr
      _ = 10 ^ (n - 1) := by
        rw [← zpow_add₀ (by norm_num)]
        congr 1
        ring
      _ ≤ num := hnumLower

/-! ### The search -/

/-- A power of ten as a quotient. -/
def gridUnit (power : Int) : Nat × Nat :=
  if power ≥ 0 then (Nat.pow 10 power.toNat, 1) else (1, Nat.pow 10 (-power).toNat)

theorem exists_gridUnit (power : Int) :
    ∃ up down, gridUnit power = (up, down) ∧ 0 < up ∧ 0 < down ∧ (up / down : ℚ) = 10 ^ power := by
  cases power with
  | ofNat k => exact ⟨10 ^ k, 1, by simp [gridUnit], by positivity, Nat.one_pos, by simp⟩
  | negSucc k =>
    refine ⟨1, 10 ^ (k + 1), if_neg (by simp), Nat.one_pos, by positivity, ?_⟩
    rw [zpow_negSucc, Nat.cast_one, one_div]
    push_cast
    rfl

/-- The grid point below a number is not above it, and is less than the grid away. -/
theorem gridPoint_bounds {up down : Nat} (num : Nat) (hden : 0 < den) (hup : 0 < up)
    (hdown : 0 < down) :
    (num * down / (den * up) : Nat) * (up / down : ℚ) ≤ num / den ∧
      (num / den : ℚ) < ((num * down / (den * up) : Nat) + 1) * (up / down) := by
  have hden' : (0 : ℚ) < den := by exact_mod_cast hden
  have hup' : (0 : ℚ) < up := by exact_mod_cast hup
  have hdown' : (0 : ℚ) < down := by exact_mod_cast hdown
  have hle : (num * down / (den * up) : Nat) * (den * up) ≤ num * down := Nat.div_mul_le_self _ _
  have hlt : num * down < (num * down / (den * up) + 1) * (den * up) :=
    (Nat.div_lt_iff_lt_mul (by positivity)).mp (Nat.lt_succ_self _)
  constructor
  · rw [← mul_div_assoc, div_le_div_iff₀ hdown' hden']
    have : ((num * down / (den * up) : Nat) * (den * up) : ℚ) ≤ num * down := by exact_mod_cast hle
    linarith
  · rw [← mul_div_assoc, div_lt_div_iff₀ hden' hdown']
    have : (num * down : ℚ) < ((num * down / (den * up) : Nat) + 1) * (den * up) := by
      exact_mod_cast hlt
    linarith

section Search

variable {i : Interval} {position : Int} {up down : Nat}

/-- On one grid a point is found that lies in the interval, or the search goes on and the point below
the number does not. -/
theorem shortestFrom_step (count fuel : Nat) (hgrid : gridUnit (position - count) = (up, down)) :
    (∃ n, shortestFrom i num den c d position count (fuel + 1) = (n, position - count) ∧
        i.contains (n * up) down c d = true) ∨
      (i.contains (num * down / (den * up) * up) down c d = false ∧
        shortestFrom i num den c d position count (fuel + 1) =
          shortestFrom i num den c d position (count + 1) fuel) := by
  rw [gridUnit] at hgrid
  rw [shortestFrom]
  simp only [hgrid]
  split
  · rename_i hfits
    refine .inl ?_
    split
    · rename_i hbelow
      exact ⟨_, rfl, (Bool.and_eq_true_iff.mp hbelow).1⟩
    · rename_i hbelow
      refine ⟨_, rfl, ?_⟩
      by_contra habove
      simp_all
  · rename_i hfits
    exact .inr ⟨(Bool.or_eq_false_iff.mp (Bool.eq_false_of_not_eq_true hfits)).1, rfl⟩

/-- The search succeeds if the last grid has the point below the number in the interval. -/
theorem holds_shortestFrom (hd : 0 < d)
    (hlast : ∀ up down, gridUnit (position - 18) = (up, down) →
      i.contains (num * down / (den * up) * up) down c d = true)
    (count fuel : Nat) (hcount : count + fuel = 18) :
    i.Holds (c / d) ((shortestFrom i num den c d position count (fuel + 1)).1 *
      10 ^ (shortestFrom i num den c d position count (fuel + 1)).2) := by
  obtain ⟨up, down, hgrid, -, hdown, hunit⟩ := exists_gridUnit (position - count)
  have hfound (n : Nat) (h : i.contains (n * up) down c d = true) :
      i.Holds (c / d) (n * 10 ^ (position - count : Int)) := by
    rw [← hunit, ← mul_div_assoc, ← Nat.cast_mul]
    exact (contains_iff i hdown hd).mp h
  rcases shortestFrom_step count fuel hgrid with ⟨n, heq, h⟩ | ⟨hnot, heq⟩
  · rw [heq]
    exact hfound n h
  · rw [heq]
    cases fuel with
    | zero =>
      obtain rfl : count = 18 := by omega
      rw [hlast up down hgrid] at hnot
      cases hnot
    | succ fuel => exact holds_shortestFrom hd hlast (count + 1) fuel (by omega)

end Search

/-- The eighteenth place of a value is less than a quarter of its last place, so that the point below
it on that grid is rounded to it. -/
theorem roundsTo_gridPoint (hlegal : IsLegal m e) (hpos : 0 < m) {grid below : ℚ}
    (hgrid : 10 ^ 17 * grid ≤ m * 2 ^ e) (hle : below ≤ m * 2 ^ e) (hlt : m * 2 ^ e < below + grid) :
    RoundsTo below m e := by
  have hunit := two_zpow_pos e
  have hm : (m : ℚ) * 2 ^ e < 2 ^ 53 * 2 ^ e := by
    have : (m : ℚ) < 2 ^ 53 := by exact_mod_cast hlegal.lt
    gcongr
  exact roundsTo_of_near hpos (by linarith) (by linarith)

/-- The digits of a value are rounded to it. -/
theorem roundsTo_shortestDigits (hlegal : IsLegal m e) (hpos : 0 < m) :
    RoundsTo ((shortestDigits m e).1 * 10 ^ (shortestDigits m e).2) m e := by
  obtain ⟨num, den, hratio, hden, hvalue⟩ := ratio_toRatio m e
  obtain ⟨c, d, hquarter, hd, hunit⟩ := ratio_toRatio 1 (e - 2)
  have hnum : num ≠ 0 := by
    rintro rfl
    rw [Nat.cast_zero, zero_div] at hvalue
    exact (mul_pos (by exact_mod_cast hpos) (two_zpow_pos e)).ne hvalue
  rw [Nat.cast_one, one_mul] at hunit
  have heq : shortestDigits m e =
      shortestFrom (interval m e) num den c d (decimalPosition num den) 1 18 := by
    rw [shortestDigits, hratio, hquarter]
  rw [heq, RoundsTo, ← hunit]
  refine holds_shortestFrom hd (fun up down hgrid => ?_) 1 17 rfl
  obtain ⟨up', down', hgrid', hup, hdown, hpower⟩ := exists_gridUnit (decimalPosition num den - 18)
  obtain ⟨rfl, rfl⟩ := Prod.mk.inj (hgrid.symm.trans hgrid')
  obtain ⟨hle, hlt⟩ := gridPoint_bounds num hden hup hdown
  rw [contains_iff _ hdown hd, hunit, Nat.cast_mul, mul_div_assoc]
  rw [hvalue] at hle hlt
  refine roundsTo_gridPoint hlegal hpos ?_ hle (by rwa [add_mul, one_mul] at hlt)
  rw [hpower, ← hvalue]
  refine le_trans (le_of_eq ?_) (le_decimalPosition hnum hden)
  rw [← zpow_natCast, ← zpow_add₀ (by norm_num)]
  congr 1
  push_cast
  ring

end Manuscript.Binary64
