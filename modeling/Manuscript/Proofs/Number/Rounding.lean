import Mathlib.Algebra.Order.Field.Power
import Mathlib.Data.Rat.Floor
import Mathlib.Tactic.FieldSimp
import Mathlib.Tactic.Linarith
import Mathlib.Tactic.NormNum
import Mathlib.Tactic.Positivity
import Mathlib.Tactic.Ring
import Manuscript.Number.Shortest

/-!
# Rounding to double precision

A quotient is scaled to a significand of 53 bits, or as far as the least exponent allows, and the
significand is rounded. So every quotient between the middles to the neighbours of a value is
rounded to the value, and nothing but values of the format comes out.

## Main definitions

* `IsLegal`, `IsCanonical` — the significands and exponents of the format
* `Interval.Holds`, `RoundsTo` — the numbers that are rounded to a value

## Main results

* `exponentFor_eq` — the exponent of a quotient
* `roundHalfEven_eq` — the rounded significand
* `ofRatio_eq` — a number in the interval of a value is rounded to it
* `isCanonical_ofRatio`, `isCanonical_ofScientific` — rounding gives values of the format
-/

namespace Manuscript.Binary64

variable {num den m q r d : Nat} {e f : Int} {x : ℚ} {negative : Bool}

theorem two_zpow_pos (e : Int) : (0 : ℚ) < 2 ^ e := zpow_pos (by norm_num) e

theorem two_zpow_succ (e : Int) : (2 : ℚ) ^ (e + 1) = 2 * 2 ^ e := by
  rw [zpow_add_one₀ (by norm_num), mul_comm]

/-! ### Scaling -/

/-- Division by a power of two leaves a quotient and less than one more. -/
theorem exists_scaleDown (num : Nat) (hden : 0 < den) (e : Int) :
    ∃ q r d, scaleDown num den e = (q, r, d) ∧ r < d ∧
      (num / den : ℚ) = (q + r / d) * 2 ^ e := by
  cases e with
  | ofNat k =>
    have hd : 0 < den * 2 ^ k := by positivity
    refine ⟨_, _, _, rfl, Nat.mod_lt _ hd, ?_⟩
    have hsplit : (num : ℚ) =
        den * 2 ^ k * (num / (den * 2 ^ k) : Nat) + (num % (den * 2 ^ k) : Nat) := by
      exact_mod_cast (Nat.div_add_mod num (den * 2 ^ k)).symm
    simp only [Nat.pow_eq, Int.ofNat_eq_natCast, zpow_natCast]
    push_cast
    field_simp
    linarith
  | negSucc k =>
    refine ⟨_, _, _, rfl, Nat.mod_lt _ hden, ?_⟩
    have hsplit : (num : ℚ) * 2 ^ (k + 1) =
        den * (num * 2 ^ (k + 1) / den : Nat) + (num * 2 ^ (k + 1) % den : Nat) := by
      exact_mod_cast (Nat.div_add_mod (num * 2 ^ (k + 1)) den).symm
    simp only [Nat.pow_eq, zpow_negSucc]
    field_simp
    linarith

/-- What is left over is less than one. -/
theorem leftover_bounds (h : r < d) : (0 : ℚ) ≤ r / d ∧ (r : ℚ) / d < 1 := by
  have hd : (0 : ℚ) < d := by exact_mod_cast Nat.zero_lt_of_lt h
  refine ⟨by positivity, (div_lt_one hd).mpr ?_⟩
  exact_mod_cast h

theorem scaleDown_lt_iff (hden : 0 < den) (e : Int) (n : Nat) :
    (scaleDown num den e).1 < n ↔ (num / den : ℚ) < n * 2 ^ e := by
  obtain ⟨q, r, d, hscale, hr, hx⟩ := exists_scaleDown num hden e
  obtain ⟨hzero, hone⟩ := leftover_bounds hr
  rw [hscale, hx, mul_lt_mul_iff_of_pos_right (two_zpow_pos e)]
  constructor
  · intro h
    have hq : ((q + 1 : Nat) : ℚ) ≤ n := by exact_mod_cast h
    push_cast at hq
    linarith
  · intro h
    have hq : (q : ℚ) < n := by linarith
    exact_mod_cast hq

/-- The bits of a natural number bound it. -/
theorem log2_bounds (h : num ≠ 0) :
    (2 : ℚ) ^ (num.log2 : Int) ≤ num ∧ (num : ℚ) < 2 ^ ((num.log2 : Int) + 1) := by
  constructor
  · rw [zpow_natCast]
    exact_mod_cast Nat.log2_self_le h
  · rw [← Nat.cast_add_one, zpow_natCast]
    exact_mod_cast Nat.lt_log2_self

/-- The lengths of numerator and denominator give the exponent up to one. -/
theorem log2_quotient_bounds (hnum : num ≠ 0) (hden : 0 < den) :
    (num / den : ℚ) < 2 ^ 53 * 2 ^ ((num.log2 : Int) - den.log2 - 52) ∧
      2 ^ 52 * 2 ^ ((num.log2 : Int) - den.log2 - 52 - 1) ≤ (num / den : ℚ) := by
  obtain ⟨hnumLower, hnumUpper⟩ := log2_bounds hnum
  obtain ⟨hdenLower, hdenUpper⟩ := log2_bounds hden.ne'
  have hden' : (0 : ℚ) < den := by exact_mod_cast hden
  constructor
  · rw [div_lt_iff₀ hden']
    calc (num : ℚ) < 2 ^ ((num.log2 : Int) + 1) := hnumUpper
      _ = 2 ^ 53 * 2 ^ ((num.log2 : Int) - den.log2 - 52) * 2 ^ (den.log2 : Int) := by
        rw [← zpow_natCast, ← zpow_add₀ (by norm_num), ← zpow_add₀ (by norm_num)]
        congr 1
        push_cast
        ring
      _ ≤ 2 ^ 53 * 2 ^ ((num.log2 : Int) - den.log2 - 52) * den := by gcongr
  · rw [le_div_iff₀ hden']
    calc 2 ^ 52 * 2 ^ ((num.log2 : Int) - den.log2 - 52 - 1) * (den : ℚ)
        ≤ 2 ^ 52 * 2 ^ ((num.log2 : Int) - den.log2 - 52 - 1) * 2 ^ ((den.log2 : Int) + 1) := by
          gcongr
      _ = 2 ^ (num.log2 : Int) := by
        rw [← zpow_natCast, ← zpow_add₀ (by norm_num), ← zpow_add₀ (by norm_num)]
        congr 1
        push_cast
        ring
      _ ≤ num := hnumLower

/-- At the exponent of a quotient its significand has at most 53 bits, and fewer only at the least
exponent. -/
theorem exponentFor_bounds (hnum : num ≠ 0) (hden : 0 < den) :
    minExponent ≤ exponentFor num den ∧
      (num / den : ℚ) < 2 ^ 53 * 2 ^ exponentFor num den ∧
      (2 ^ 52 * 2 ^ exponentFor num den ≤ (num / den : ℚ) ∨ exponentFor num den = minExponent) := by
  obtain ⟨hupper, hlower⟩ := log2_quotient_bounds hnum hden
  unfold exponentFor
  set e : Int := (num.log2 : Int) - den.log2 - 52
  set e' : Int := if (scaleDown num den e).1 < Nat.pow 2 52 then e - 1 else e with he'
  have hbounds : (num / den : ℚ) < 2 ^ 53 * 2 ^ e' ∧ 2 ^ 52 * 2 ^ e' ≤ (num / den : ℚ) := by
    have hdouble : (2 : ℚ) ^ e = 2 * 2 ^ (e - 1) := by
      rw [← two_zpow_succ, sub_add_cancel]
    have hsmall : (scaleDown num den e).1 < 2 ^ 52 ↔ (num / den : ℚ) < (2 ^ 52 : Nat) * 2 ^ e :=
      scaleDown_lt_iff hden e _
    push_cast at hsmall
    rw [he']
    split
    · rename_i h
      have := hsmall.mp h
      exact ⟨by linarith, hlower⟩
    · rename_i h
      exact ⟨hupper, not_lt.mp (mt hsmall.mpr h)⟩
  rcases le_total minExponent e' with hmin | hmin
  · rw [max_eq_left hmin]
    exact ⟨hmin, hbounds.1, .inl hbounds.2⟩
  · rw [max_eq_right hmin]
    refine ⟨le_rfl, hbounds.1.trans_le ?_, .inr rfl⟩
    gcongr
    norm_num

/-- No other exponent has that property. -/
theorem exponentFor_eq (hnum : num ≠ 0) (hden : 0 < den) (hmin : minExponent ≤ e)
    (hupper : (num / den : ℚ) < 2 ^ 53 * 2 ^ e)
    (hlower : 2 ^ 52 * 2 ^ e ≤ (num / den : ℚ) ∨ e = minExponent) : exponentFor num den = e := by
  obtain ⟨hmin', hupper', hlower'⟩ := exponentFor_bounds hnum hden
  -- the powers of two from one exponent to the next are disjoint
  have hdisjoint {j k : Int} (hjk : j < k) : (2 : ℚ) ^ 53 * 2 ^ j ≤ 2 ^ 52 * 2 ^ k := by
    calc (2 : ℚ) ^ 53 * 2 ^ j = 2 ^ 52 * 2 ^ (j + 1) := by rw [two_zpow_succ]; ring
      _ ≤ 2 ^ 52 * 2 ^ k := by
        have : (2 : ℚ) ^ (j + 1) ≤ 2 ^ k := zpow_le_zpow_right₀ (by norm_num) hjk
        gcongr
  rcases lt_trichotomy (exponentFor num den) e with hlt | heq | hgt
  · have hlower := hlower.resolve_right (by omega)
    linarith [hdisjoint hlt]
  · exact heq
  · have hlower' := hlower'.resolve_right (by omega)
    linarith [hdisjoint hgt]

/-! ### Rounding to an integer -/

theorem leftover_lt_half_iff (h : r < d) : (r : ℚ) / d < 1 / 2 ↔ 2 * r < d := by
  have hd : (0 : ℚ) < d := by exact_mod_cast Nat.zero_lt_of_lt h
  rw [div_lt_div_iff₀ hd two_pos, one_mul, mul_comm]
  exact_mod_cast Iff.rfl

theorem half_lt_leftover_iff (h : r < d) : 1 / 2 < (r : ℚ) / d ↔ d < 2 * r := by
  have hd : (0 : ℚ) < d := by exact_mod_cast Nat.zero_lt_of_lt h
  rw [div_lt_div_iff₀ two_pos hd, one_mul, mul_comm]
  exact_mod_cast Iff.rfl

/-- A number is rounded to the integer that is at most one half away; of two such integers to the
even one. -/
theorem roundHalfEven_eq (hr : r < d)
    (hlower : (m : ℚ) - 1 / 2 < q + r / d ∨ (m : ℚ) - 1 / 2 = q + r / d ∧ m % 2 = 0)
    (hupper : (q : ℚ) + r / d < m + 1 / 2 ∨ (q : ℚ) + r / d = m + 1 / 2 ∧ m % 2 = 0) :
    roundHalfEven q r d = m := by
  obtain ⟨hzero, hone⟩ := leftover_bounds hr
  have hneighbours : m = q ∨ m = q + 1 := by
    have hle : (m : ℚ) - 1 / 2 ≤ q + r / d := hlower.elim le_of_lt fun h => h.1.le
    have hge : (q : ℚ) + r / d ≤ m + 1 / 2 := hupper.elim le_of_lt fun h => h.1.le
    have hqm : (q : ℚ) < (m + 1 : Nat) := by push_cast; linarith
    have hmq : (m : ℚ) < (q + 2 : Nat) := by push_cast; linarith
    have hqm : q < m + 1 := by exact_mod_cast hqm
    have hmq : m < q + 2 := by exact_mod_cast hmq
    omega
  rw [roundHalfEven]
  rcases hneighbours with rfl | rfl
  · have hdown : 2 * r < d ∨ 2 * r ≤ d ∧ m % 2 = 0 := by
      rcases hupper with h | ⟨h, heven⟩
      · exact .inl ((leftover_lt_half_iff hr).mp (by linarith))
      · exact .inr ⟨not_lt.mp (mt (half_lt_leftover_iff hr).mpr (by linarith)), heven⟩
    refine if_neg ?_
    simp only [Bool.or_eq_true, Bool.and_eq_true, decide_eq_true_eq, beq_iff_eq]
    omega
  · push_cast at hlower
    have hup : d < 2 * r ∨ d ≤ 2 * r ∧ (q + 1) % 2 = 0 := by
      rcases hlower with h | ⟨h, heven⟩
      · exact .inl ((half_lt_leftover_iff hr).mp (by linarith))
      · exact .inr ⟨not_lt.mp (mt (leftover_lt_half_iff hr).mpr (by linarith)), heven⟩
    refine if_pos ?_
    simp only [Bool.or_eq_true, Bool.and_eq_true, decide_eq_true_eq, beq_iff_eq]
    omega

/-- Rounding does not leave the neighbours. -/
theorem roundHalfEven_cases (q r d : Nat) :
    roundHalfEven q r d = q ∨ roundHalfEven q r d = q + 1 := by
  rw [roundHalfEven]
  split
  · exact .inr rfl
  · exact .inl rfl

/-! ### Rounding a quotient -/

/-- The significands and exponents of the format: no more than 53 bits, and fewer only at the least
exponent. -/
structure IsLegal (m : Nat) (e : Int) : Prop where
  /-- The significand has at most 53 bits. -/
  lt : m < 2 ^ 53
  /-- The exponent is not below the least one. -/
  ge : minExponent ≤ e
  /-- The exponent is not above the greatest one. -/
  le : e ≤ maxExponent
  /-- The significand has no fewer bits if the exponent could be lower. -/
  full : 2 ^ 52 ≤ m ∨ e = minExponent

/-- A value of the format. -/
def IsCanonical : Binary64 → Prop
  | .finite _ m e => IsLegal m e
  | _ => True

/-- A number lies in an interval whose quarters are worth `unit`. -/
def Interval.Holds (i : Interval) (unit x : ℚ) : Prop :=
  if i.closed then i.low * unit ≤ x ∧ x ≤ i.high * unit
  else i.low * unit < x ∧ x < i.high * unit

/-- The numbers that are rounded to `m * 2 ^ e`. -/
def RoundsTo (x : ℚ) (m : Nat) (e : Int) : Prop :=
  (interval m e).Holds (2 ^ (e - 2)) x

/-- How far the interval of a value reaches down, in its last place: halfway to its neighbour, which
is twice as near below a power of two. -/
def gapBelow (m : Nat) (e : Int) : ℚ :=
  if m = 2 ^ 52 ∧ e > minExponent then 1 / 4 else 1 / 2

theorem gapBelow_cases (m : Nat) (e : Int) :
    (m = 2 ^ 52 ∧ minExponent < e ∧ gapBelow m e = 1 / 4) ∨
      ((m = 2 ^ 52 → e ≤ minExponent) ∧ gapBelow m e = 1 / 2) := by
  rw [gapBelow]
  split
  · rename_i h
    exact .inl ⟨h.1, h.2, rfl⟩
  · rename_i h
    exact .inr ⟨fun hm => not_lt.mp fun he => h ⟨hm, he⟩, rfl⟩

theorem interval_low_mul (hpos : 0 < m) :
    ((interval m e).low : ℚ) * 2 ^ (e - 2) = (m - gapBelow m e) * 2 ^ e := by
  have hunit : (2 : ℚ) ^ e = 4 * 2 ^ (e - 2) := by
    rw [zpow_sub₀ (by norm_num)]
    ring
  simp only [interval, gapBelow, Nat.pow_eq]
  split
  · rw [Nat.cast_sub (by omega), hunit]
    push_cast
    ring
  · rw [Nat.cast_sub (by omega), hunit]
    push_cast
    ring

theorem interval_high_mul : ((interval m e).high : ℚ) * 2 ^ (e - 2) = (m + 1 / 2) * 2 ^ e := by
  have hunit : (2 : ℚ) ^ e = 4 * 2 ^ (e - 2) := by
    rw [zpow_sub₀ (by norm_num)]
    ring
  simp only [interval]
  rw [hunit]
  push_cast
  ring

/-- The ends of the interval are rounded to the value if it is even. -/
theorem roundsTo_iff (hpos : 0 < m) :
    RoundsTo x m e ↔
      ((m - gapBelow m e) * 2 ^ e < x ∨ (m - gapBelow m e) * 2 ^ e = x ∧ m % 2 = 0) ∧
        (x < (m + 1 / 2) * 2 ^ e ∨ x = (m + 1 / 2) * 2 ^ e ∧ m % 2 = 0) := by
  have hclosed : (interval m e).closed = (m % 2 == 0) := rfl
  rw [RoundsTo, Interval.Holds, interval_low_mul hpos, interval_high_mul, hclosed]
  by_cases heven : m % 2 = 0
  · simp only [heven, beq_self_eq_true, if_true, and_true, le_iff_lt_or_eq]
  · simp [heven]

/-- Numbers that are less than a quarter of the last place below a value, or less than half of it
above, are rounded to the value wherever its neighbour stands. -/
theorem roundsTo_of_near (hpos : 0 < m) (hlower : (m - 1 / 4) * 2 ^ e < x)
    (hupper : x < (m + 1 / 2) * 2 ^ e) : RoundsTo x m e := by
  have hunit := two_zpow_pos e
  rw [roundsTo_iff hpos]
  refine ⟨.inl ?_, .inl hupper⟩
  rcases gapBelow_cases m e with ⟨-, -, hgap⟩ | ⟨-, hgap⟩ <;> rw [hgap] <;> linarith

/-- A value is rounded to itself. -/
theorem roundsTo_self (hpos : 0 < m) : RoundsTo (m * 2 ^ e) m e := by
  have hunit := two_zpow_pos e
  exact roundsTo_of_near hpos (by linarith) (by linarith)

/-- The significand that is rounded to, which may need one bit more, gives the value. -/
theorem ofRatio_of_round (hnum : num ≠ 0) (he : exponentFor num den = e)
    (hscale : scaleDown num den e = (q, r, d)) :
    ofRatio negative num den =
      if roundHalfEven q r d = 2 ^ 53 then
        if e + 1 > maxExponent then .infinite negative else .finite negative (2 ^ 52) (e + 1)
      else if e > maxExponent then .infinite negative
      else .finite negative (roundHalfEven q r d) e := by
  rw [ofRatio, if_neg hnum]
  simp only [he, hscale, Nat.pow_eq]
  split <;> rfl

/-- Numbers below a power of two are rounded up to it at the exponent before. -/
theorem ofRatio_eq_of_lt (hnum : num ≠ 0) (hden : 0 < den) (hmin : minExponent < e)
    (hmax : e ≤ maxExponent) (hlower : (2 ^ 52 - 1 / 4 : ℚ) * 2 ^ e ≤ num / den)
    (hupper : (num / den : ℚ) < 2 ^ 52 * 2 ^ e) :
    ofRatio negative num den = .finite negative (2 ^ 52) e := by
  have hunit := two_zpow_pos (e - 1)
  have hdouble : (2 : ℚ) ^ e = 2 * 2 ^ (e - 1) := by rw [← two_zpow_succ, sub_add_cancel]
  rw [hdouble] at hlower hupper
  have he : exponentFor num den = e - 1 :=
    exponentFor_eq hnum hden (by omega) (by linarith) (.inl (by linarith))
  obtain ⟨q, r, d, hscale, hr, hx⟩ := exists_scaleDown num hden (e - 1)
  rw [hx] at hlower hupper
  have hle : (2 ^ 53 : Nat) - (1 / 2 : ℚ) ≤ q + r / d := by
    refine le_of_mul_le_mul_right ?_ hunit
    push_cast
    linarith
  have hlt : (q + r / d : ℚ) < (2 ^ 53 : Nat) + 1 / 2 := by
    refine lt_of_mul_lt_mul_right ?_ hunit.le
    push_cast
    linarith
  have hround : roundHalfEven q r d = 2 ^ 53 :=
    roundHalfEven_eq hr (hle.lt_or_eq.imp_right fun h => ⟨h, by decide⟩) (.inl hlt)
  rw [ofRatio_of_round hnum he hscale, if_pos hround, sub_add_cancel, if_neg (by omega)]

/-- Numbers at the exponent of a value that are at most half of the last place away are rounded to
it. -/
theorem ofRatio_eq_of_ge (hnum : num ≠ 0) (hden : 0 < den) (hlegal : IsLegal m e)
    (hfull : 2 ^ 52 * 2 ^ e ≤ (num / den : ℚ) ∨ e = minExponent)
    (hlower : (m - 1 / 2 : ℚ) * 2 ^ e < num / den ∨
      (m - 1 / 2 : ℚ) * 2 ^ e = num / den ∧ m % 2 = 0)
    (hupper : (num / den : ℚ) < (m + 1 / 2) * 2 ^ e ∨
      (num / den : ℚ) = (m + 1 / 2) * 2 ^ e ∧ m % 2 = 0) :
    ofRatio negative num den = .finite negative m e := by
  have hunit := two_zpow_pos e
  have hm : (m : ℚ) + 1 ≤ 2 ^ 53 := by exact_mod_cast hlegal.lt
  have hlt : (num / den : ℚ) < 2 ^ 53 * 2 ^ e := by
    refine (hupper.elim le_of_lt fun h => h.1.le).trans_lt ?_
    gcongr
    linarith
  have he : exponentFor num den = e := exponentFor_eq hnum hden hlegal.ge hlt hfull
  obtain ⟨q, r, d, hscale, hr, hx⟩ := exists_scaleDown num hden e
  rw [hx, mul_lt_mul_iff_of_pos_right hunit, mul_left_inj' hunit.ne'] at hlower hupper
  have hround : roundHalfEven q r d = m := roundHalfEven_eq hr hlower hupper
  rw [ofRatio_of_round hnum he hscale, hround, if_neg hlegal.lt.ne, if_neg hlegal.le.not_gt]

/-- A number in the interval of a value is rounded to it. -/
theorem ofRatio_eq (hnum : num ≠ 0) (hden : 0 < den) (hlegal : IsLegal m e) (hpos : 0 < m)
    (h : RoundsTo (num / den) m e) : ofRatio negative num den = .finite negative m e := by
  have hunit := two_zpow_pos e
  obtain ⟨hlower, hupper⟩ := (roundsTo_iff hpos).mp h
  rcases gapBelow_cases m e with ⟨rfl, hmin, hgap⟩ | ⟨hmin, hgap⟩ <;> rw [hgap] at hlower
  · -- a power of two, which numbers on its two sides reach at different exponents
    push_cast at hlower hupper
    by_cases hlt : (num / den : ℚ) < 2 ^ 52 * 2 ^ e
    · exact ofRatio_eq_of_lt hnum hden hmin hlegal.le (hlower.elim le_of_lt fun h => h.1.le) hlt
    · refine ofRatio_eq_of_ge hnum hden hlegal (.inl (not_lt.mp hlt)) (.inl ?_) ?_
      · push_cast
        linarith
      · push_cast
        exact hupper
  · refine ofRatio_eq_of_ge hnum hden hlegal ?_ hlower hupper
    refine hlegal.full.elim (fun hfull => ?_) .inr
    rcases hfull.eq_or_lt with heq | hlt
    · exact .inr (le_antisymm (hmin heq.symm) hlegal.ge)
    · have hm : (2 ^ 52 : ℚ) + 1 ≤ m := by exact_mod_cast hlt
      refine .inl (le_trans ?_ (hlower.elim le_of_lt fun h => h.1.le))
      gcongr
      linarith

/-! ### Values of the format -/

theorem isCanonical_zero (negative : Bool) : (zero negative).IsCanonical :=
  ⟨by decide, le_rfl, by decide, .inr rfl⟩

/-- Rounding a quotient gives a value of the format. -/
theorem isCanonical_ofRatio (negative : Bool) (num : Nat) (hden : 0 < den) :
    (ofRatio negative num den).IsCanonical := by
  by_cases hnum : num = 0
  · rw [ofRatio, if_pos hnum]
    exact isCanonical_zero negative
  · obtain ⟨hmin, hupper, hlower⟩ := exponentFor_bounds hnum hden
    set e := exponentFor num den with he
    obtain ⟨q, r, d, hscale, hr, -⟩ := exists_scaleDown num hden e
    have hbits (n : Nat) : (scaleDown num den e).1 < n ↔ (num / den : ℚ) < n * 2 ^ e :=
      scaleDown_lt_iff hden e n
    rw [hscale] at hbits
    have hq : q < 2 ^ 53 := (hbits (2 ^ 53)).mpr (by push_cast; exact hupper)
    have hfull : 2 ^ 52 ≤ q ∨ e = minExponent := by
      refine hlower.imp_left fun h => not_lt.mp (mt (hbits (2 ^ 52)).mp ?_)
      push_cast
      exact h.not_gt
    rw [ofRatio_of_round hnum he.symm hscale]
    split_ifs with hcarry hmax hmax
    · trivial
    · exact ⟨by decide, by omega, by omega, .inl le_rfl⟩
    · trivial
    · have hcases := roundHalfEven_cases q r d
      exact ⟨by omega, hmin, by omega, hfull.imp_left fun h => by omega⟩

theorem isCanonical_ofScientific (negative : Bool) (digits : Nat) (exponent : Int) :
    (ofScientific negative digits exponent).IsCanonical := by
  unfold ofScientific
  dsimp only
  split_ifs
  · exact isCanonical_zero negative
  · trivial
  · exact isCanonical_zero negative
  · split
    · exact isCanonical_ofRatio negative _ Nat.one_pos
    · exact isCanonical_ofRatio negative _ (Nat.pow_pos (by norm_num))

theorem isCanonical_ofInt (n : Int) : (ofInt n).IsCanonical :=
  isCanonical_ofRatio _ _ Nat.one_pos

end Manuscript.Binary64
