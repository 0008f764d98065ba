import Mathlib.Data.List.Basic
import Mathlib.Data.List.DropRight
import Manuscript.Number.Numeral
import Manuscript.Proofs.Number.ShortestDigits

/-!
# Numerals without sign and exponent

Numbers in positional notation are digits, and perhaps a point with more digits behind it. Such a
numeral is read as the value that its number is rounded to. So the text that is written for a value,
whose digits are rounded to it, is read back as the value.

## Main definitions

* `PlainNumeral` — digits, and perhaps a point and more digits
* `PlainNumeral.text`, `PlainNumeral.value` — how it is written, and its number
* `PlainNumeral.Denotes` — a numeral of a positive number that is read as a value

## Main results

* `PlainNumeral.ofText?_text` — how a numeral is read
* `ofScientific_eq` — a decimal number is rounded to a value that has it in its interval
* `exists_positional` — positional notation
* `exists_toText` — the text of a positive value is a numeral that stands for the value
-/

namespace Manuscript

/-- A numeral without sign and exponent. -/
structure PlainNumeral where
  /-- The digits before the point. -/
  whole : List Char
  /-- The digits behind the point; there is no point if there are none. -/
  fraction : List Char
  /-- There are digits before the point. -/
  nonempty : whole ≠ []
  /-- They are digits. -/
  digits : ∀ c ∈ whole ++ fraction, c.isDigit = true

namespace PlainNumeral

/-- The characters of a numeral. -/
def chars (n : PlainNumeral) : List Char :=
  if n.fraction = [] then n.whole else n.whole ++ '.' :: n.fraction

/-- How a numeral is written. -/
def text (n : PlainNumeral) : String := String.ofList n.chars

/-- All digits of a numeral as one integer. -/
def significand (n : PlainNumeral) : Nat := Nat.ofDigitChars 10 (n.whole ++ n.fraction) 0

/-- The number that a numeral stands for. -/
def value (n : PlainNumeral) : ℚ := n.significand * 10 ^ (-n.fraction.length : Int)

/-- A numeral stands for a value: its number is positive, and it is read as the value. -/
def Denotes (n : PlainNumeral) (x : Binary64) : Prop :=
  0 < n.value ∧ Binary64.ofText? n.text = some x

end PlainNumeral

/-! ### Reading -/

namespace Numeral

open Text (digitValue? ofDigitValues)

/-- The value of a digit. -/
def digitOf (c : Char) : Nat := c.toNat - '0'.toNat

theorem digitValue?_of_isDigit {c : Char} (h : c.isDigit = true) :
    digitValue? c = some (digitOf c) :=
  if_pos h

/-- The digits at the start of a text are taken up to the first other character. -/
theorem takeDigits_append {ds rest : List Char} (hds : ∀ c ∈ ds, c.isDigit = true)
    (hrest : ∀ c ∈ rest.head?, digitValue? c = none) :
    takeDigits (ds ++ rest) = (ds.map digitOf, rest) := by
  induction ds with
  | nil =>
    cases rest with
    | nil => rfl
    | cons c rest => simp [takeDigits, hrest c rfl]
  | cons c ds ih =>
    obtain ⟨hc, hds⟩ := List.forall_mem_cons.mp hds
    rw [List.cons_append, takeDigits, digitValue?_of_isDigit hc]
    simp only [ih hds, List.map_cons]

theorem ofDigitValues_map (ds : List Char) :
    ofDigitValues 10 (ds.map digitOf) = Nat.ofDigitChars 10 ds 0 := by
  rw [ofDigitValues, List.foldl_map, Nat.ofDigitChars_eq_foldl]
  simp only [digitOf, mul_comm]

/-- A letter in lower case is no digit. -/
theorem toLower_of_isDigit {c : Char} (h : c.isDigit = true) : c.toLower = c := by
  have hupper : ¬(c.val ≥ 'A'.val ∧ c.val ≤ 'Z'.val) := by
    intro hupper
    simp only [Char.isDigit, Bool.and_eq_true, decide_eq_true_eq] at h
    exact absurd (UInt32.le_trans hupper.1 h.2) (by decide)
  exact dif_neg hupper

theorem takeSign_cons {c : Char} {cs : List Char} (h : c.isDigit = true) :
    takeSign (c :: cs) = (false, c :: cs) := by
  unfold takeSign
  split
  · rename_i heq
    obtain ⟨rfl, -⟩ := List.cons.inj heq
    exact absurd h (by decide)
  · rename_i heq
    obtain ⟨rfl, -⟩ := List.cons.inj heq
    exact absurd h (by decide)
  · rfl

end Numeral

namespace PlainNumeral

open Numeral

/-- The digits of a numeral are read as one integer, and the point as a power of ten. -/
theorem decimal?_chars (n : PlainNumeral) :
    decimal? n.chars = some (n.significand, -(n.fraction.length : Int)) := by
  have hwhole : ∀ c ∈ n.whole, c.isDigit = true :=
    fun c hc => n.digits c (List.mem_append_left _ hc)
  have hfraction : ∀ c ∈ n.fraction, c.isDigit = true :=
    fun c hc => n.digits c (List.mem_append_right _ hc)
  have hvalue :
      Text.ofDigitValues 10 (n.whole.map digitOf ++ n.fraction.map digitOf) = n.significand := by
    rw [← List.map_append, ofDigitValues_map, significand]
  rw [chars]
  split
  · rename_i hnone
    have htake : takeDigits (n.whole ++ []) = (n.whole.map digitOf, []) :=
      takeDigits_append hwhole (by simp)
    rw [List.append_nil] at htake
    rw [hnone, List.map_nil, List.append_nil] at hvalue
    simp [decimal?, htake, exponent?, hnone, n.nonempty, hvalue]
  · have htake : takeDigits (n.whole ++ '.' :: n.fraction) =
        (n.whole.map digitOf, '.' :: n.fraction) :=
      takeDigits_append hwhole (by rintro c ⟨⟩; rfl)
    have htake' : takeDigits (n.fraction ++ []) =
        (n.fraction.map digitOf, []) :=
      takeDigits_append hfraction (by simp)
    rw [List.append_nil] at htake'
    simp [decimal?, htake, htake', exponent?, n.nonempty, hvalue]

/-- There is nothing but digits and a point in a numeral. -/
theorem notMem_chars (n : PlainNumeral) {c : Char} (hdigit : c.isDigit = false) (hpoint : c ≠ '.') :
    c ∉ n.chars := by
  have hdigits : c ∉ n.whole ++ n.fraction := fun hc => by
    have := n.digits c hc
    rw [hdigit] at this
    cases this
  rw [List.mem_append, not_or] at hdigits
  rw [chars]
  split
  · exact hdigits.1
  · simp [hdigits, hpoint]

theorem exists_chars_eq_cons (n : PlainNumeral) :
    ∃ c cs, n.chars = c :: cs ∧ c.isDigit = true := by
  obtain ⟨c, cs, hwhole⟩ := List.exists_cons_of_ne_nil n.nonempty
  have hc : c.isDigit = true := n.digits c (by simp [hwhole])
  rw [chars, hwhole]
  split
  · exact ⟨c, cs, rfl, hc⟩
  · exact ⟨c, cs ++ '.' :: n.fraction, rfl, hc⟩

/-- A numeral is read as the value nearest to its number. -/
theorem ofText?_text (n : PlainNumeral) :
    Binary64.ofText? n.text =
      some (Binary64.ofScientific false n.significand (-(n.fraction.length : Int))) := by
  obtain ⟨c, cs, hchars, hc⟩ := n.exists_chars_eq_cons
  have hsign : takeSign n.text.toList = (false, n.chars) := by
    rw [text, String.toList_ofList, hchars]
    exact takeSign_cons hc
  -- the words for what is no finite number begin with letters
  have hword (word : String) (hfirst : ∀ d ∈ word.toList.head?, d.isDigit = false) :
      String.ofList (n.chars.map Char.toLower) ≠ word := by
    rintro rfl
    have hletter := hfirst c (by simp [hchars, toLower_of_isDigit hc])
    rw [hc] at hletter
    cases hletter
  simp [Binary64.ofText?, hsign, hword "inf" (by simp), hword "infinity" (by simp),
    hword "nan" (by simp), n.decimal?_chars]

end PlainNumeral

/-! ### Rounding decimal numbers -/

namespace Binary64

variable {m digits : Nat} {e exponent : Int} {negative : Bool} {x : ℚ}

theorem two_pow_lt_ten_pow : 2 ^ 1024 < 10 ^ 310 ∧ 2 ^ 1075 < 10 ^ 330 := by decide +kernel

/-- Numbers that are rounded to finite values that are not zero are neither too large nor too
small. -/
theorem RoundsTo.bounds (hlegal : IsLegal m e) (hpos : 0 < m) (h : RoundsTo x m e) :
    (10 : ℚ) ^ (-330 : Int) ≤ x ∧ x < 10 ^ (310 : Int) := by
  obtain ⟨hlower, hupper⟩ := (roundsTo_iff hpos).mp h
  have hm : (1 : ℚ) ≤ m := by exact_mod_cast hpos
  have hm' : (m : ℚ) + 1 ≤ 2 ^ 53 := by exact_mod_cast hlegal.lt
  have hgap : gapBelow m e ≤ 1 / 2 := by
    rcases gapBelow_cases m e with ⟨-, -, hgap⟩ | ⟨-, hgap⟩ <;> rw [hgap]
    norm_num
  have hleast : (2 : ℚ) ^ minExponent ≤ 2 ^ e := zpow_le_zpow_right₀ (by norm_num) hlegal.ge
  have hgreatest : (2 : ℚ) ^ e ≤ 2 ^ maxExponent := zpow_le_zpow_right₀ (by norm_num) hlegal.le
  constructor
  · calc (10 : ℚ) ^ (-330 : Int) ≤ 2 ^ (-1075 : Int) := by
          rw [zpow_neg, zpow_neg, zpow_ofNat, zpow_ofNat,
            inv_le_inv₀ (by positivity) (by positivity)]
          exact_mod_cast two_pow_lt_ten_pow.2.le
      _ = 1 / 2 * 2 ^ minExponent := by
          rw [show minExponent = -1075 + 1 from rfl, two_zpow_succ, one_div,
            inv_mul_cancel_left₀ two_ne_zero]
      _ ≤ (m - gapBelow m e) * 2 ^ e :=
          mul_le_mul (by linarith only [hm, hgap]) hleast (two_zpow_pos _).le
            (by linarith only [hm, hgap])
      _ ≤ x := hlower.elim le_of_lt fun h => h.1.le
  · calc x ≤ (m + 1 / 2) * 2 ^ e := hupper.elim le_of_lt fun h => h.1.le
      _ ≤ 2 ^ 53 * 2 ^ maxExponent :=
          mul_le_mul (by linarith only [hm']) hgreatest (two_zpow_pos _).le (by norm_num)
      _ = 2 ^ 1024 := by
          rw [← zpow_natCast, ← zpow_natCast, ← zpow_add₀ (by norm_num)]
          rfl
      _ < 10 ^ (310 : Int) := by
          rw [zpow_ofNat]
          exact_mod_cast two_pow_lt_ten_pow.1

/-- A decimal number is rounded to the value that has it in its interval. -/
theorem ofScientific_eq (hdigits : digits ≠ 0) (hlegal : IsLegal m e) (hpos : 0 < m)
    (h : RoundsTo (digits * 10 ^ exponent) m e) :
    ofScientific negative digits exponent = .finite negative m e := by
  obtain ⟨hleast, hgreatest⟩ := h.bounds hlegal hpos
  obtain ⟨hlower, hupper⟩ := length_toDigits_bounds hdigits
  have hexponent := ten_zpow_pos exponent
  set length : Int := ((Nat.toDigits 10 digits).length : Int)
  have hlarge : exponent + length ≤ 310 := by
    have : (10 : ℚ) ^ (length - 1 + exponent) < 10 ^ (310 : Int) := by
      rw [zpow_add₀ (by norm_num)]
      exact lt_of_le_of_lt (by gcongr) hgreatest
    have := (zpow_lt_zpow_iff_right₀ (by norm_num)).mp this
    omega
  have hsmall : -330 < exponent + length := by
    have : (10 : ℚ) ^ (-330 : Int) < 10 ^ (length + exponent) := by
      rw [zpow_add₀ (by norm_num)]
      exact lt_of_le_of_lt hleast (by gcongr)
    have := (zpow_lt_zpow_iff_right₀ (by norm_num)).mp this
    omega
  unfold ofScientific
  dsimp only
  rw [if_neg hdigits, if_neg (by omega), if_neg (by omega)]
  cases exponent with
  | ofNat k =>
    have hnum : digits * Nat.pow 10 k ≠ 0 := mul_ne_zero hdigits (pow_ne_zero k (by norm_num))
    refine ofRatio_eq hnum Nat.one_pos hlegal hpos ?_
    simpa using h
  | negSucc k =>
    refine ofRatio_eq hdigits (Nat.pow_pos (by norm_num)) hlegal hpos ?_
    rw [zpow_negSucc, ← div_eq_mul_inv] at h
    simpa using h

/-! ### Writing -/

theorem isDigit_toDigits (n : Nat) : ∀ c ∈ Nat.toDigits 10 n, c.isDigit = true :=
  fun _ => Nat.isDigit_of_mem_toDigits (by norm_num) le_rfl

/-- The digits of a natural number as a numeral. -/
def natNumeral (n : Nat) : PlainNumeral where
  whole := Nat.toDigits 10 n
  fraction := []
  nonempty := Nat.toDigits_ne_nil
  digits := by
    rw [List.append_nil]
    exact isDigit_toDigits n

theorem text_natNumeral (n : Nat) : (natNumeral n).text = toString n :=
  Nat.toString_eq_ofList_toDigits.symm

theorem value_natNumeral (n : Nat) : (natNumeral n).value = n := by
  simp [PlainNumeral.value, PlainNumeral.significand, natNumeral]

/-- Digits end in zeros behind the last other digit. -/
theorem exists_eq_append_zeros (ds : List Char) :
    ∃ zeros, ds = (ds.reverse.dropWhile (· == '0')).reverse ++ List.replicate zeros '0' := by
  have hzeros : ∀ c ∈ ds.reverse.takeWhile (· == '0'), c = '0' :=
    fun c hc => by simpa using List.mem_takeWhile_imp hc
  refine ⟨(ds.reverse.takeWhile (· == '0')).length, ?_⟩
  calc ds = (ds.reverse.takeWhile (· == '0') ++ ds.reverse.dropWhile (· == '0')).reverse := by
        rw [List.takeWhile_append_dropWhile, List.reverse_reverse]
    _ = _ := by rw [List.reverse_append, List.eq_replicate_of_mem hzeros, List.reverse_replicate,
        List.length_replicate]

/-- Digits with a point before the last of them, and without the zeros that would end them, are a
numeral. -/
theorem exists_pointed {cs : List Char} {places : Nat} (hcs : ∀ c ∈ cs, c.isDigit = true)
    (hplaces : places < cs.length) :
    let whole := cs.take (cs.length - places)
    let fraction := ((cs.drop (cs.length - places)).reverse.dropWhile (· == '0')).reverse
    ∃ n : PlainNumeral, n.chars = (if fraction.isEmpty then whole else whole ++ '.' :: fraction) ∧
      n.value = Nat.ofDigitChars 10 cs 0 * 10 ^ (-places : Int) := by
  intro whole fraction
  obtain ⟨zeros, hzeros⟩ :
      ∃ zeros, cs.drop (cs.length - places) = fraction ++ List.replicate zeros '0' :=
    exists_eq_append_zeros _
  have hsplit : cs = (whole ++ fraction) ++ List.replicate zeros '0' := by
    rw [List.append_assoc, ← hzeros, List.take_append_drop]
  have hlength : (fraction.length + zeros : Int) = places := by
    have := congrArg List.length hzeros
    simp only [List.length_drop, List.length_append, List.length_replicate] at this
    omega
  let n : PlainNumeral :=
    { whole, fraction
      nonempty := by
        rw [Ne, List.take_eq_nil_iff]
        rintro (h | rfl)
        · omega
        · simp at hplaces
      digits := fun c hc => hcs c (hsplit ▸ List.mem_append_left _ hc) }
  refine ⟨n, ?_, ?_⟩
  · simp [n, PlainNumeral.chars]
  · have hvalue : Nat.ofDigitChars 10 cs 0 = 10 ^ zeros * n.significand := by
      rw [hsplit, Nat.ofDigitChars_append, Nat.ofDigitChars_replicate_zero]
      rfl
    have hpower : (10 : ℚ) ^ zeros * 10 ^ (-places : Int) = 10 ^ (-fraction.length : Int) := by
      rw [← zpow_natCast, ← zpow_add₀ (by norm_num)]
      congr 1
      omega
    rw [PlainNumeral.value, hvalue, ← hpower]
    push_cast
    ring

theorem isDigit_of_mem_zeros {c : Char} {k : Nat} (h : c ∈ List.replicate k '0') :
    c.isDigit = true := by
  rw [List.eq_of_mem_replicate h]
  rfl

/-- Positional notation is a numeral of the number. -/
theorem exists_positional (digits : Nat) (power : Int) :
    ∃ n : PlainNumeral, positional digits power = n.text ∧ n.value = digits * 10 ^ power := by
  cases power with
  | ofNat k =>
    let n : PlainNumeral :=
      { whole := Nat.toDigits 10 digits ++ List.replicate k '0'
        fraction := []
        nonempty := List.append_ne_nil_of_left_ne_nil Nat.toDigits_ne_nil _
        digits := by
          rw [List.append_nil]
          intro c hc
          exact (List.mem_append.mp hc).elim (isDigit_toDigits digits c) isDigit_of_mem_zeros }
    refine ⟨n, rfl, ?_⟩
    have hvalue : n.significand = 10 ^ k * digits := by
      simp [n, PlainNumeral.significand, Nat.ofDigitChars_append, Nat.ofDigitChars_replicate_zero]
    rw [PlainNumeral.value, hvalue]
    simp [n, mul_comm]
  | negSucc k =>
    let zeros := List.replicate (k + 1 + 1 - (Nat.toDigits 10 digits).length) '0'
    have hdigits : ∀ c ∈ zeros ++ Nat.toDigits 10 digits, c.isDigit = true := by
      intro c hc
      exact (List.mem_append.mp hc).elim isDigit_of_mem_zeros (isDigit_toDigits digits c)
    have hlength : k + 1 < (zeros ++ Nat.toDigits 10 digits).length := by
      simp only [zeros, List.length_append, List.length_replicate]
      omega
    obtain ⟨n, hchars, hvalue⟩ := exists_pointed hdigits hlength
    refine ⟨n, congrArg String.ofList hchars.symm, ?_⟩
    rw [hvalue, Nat.ofDigitChars_append, Nat.ofDigitChars_replicate_zero, mul_zero,
      Nat.ofDigitChars_ten_toDigits]
    rfl

/-- A numeral whose number is rounded to a value stands for the value. -/
theorem denotes_of_roundsTo {m : Nat} {e : Int} (hlegal : IsLegal m e) (hpos : 0 < m)
    {n : PlainNumeral} (h : RoundsTo n.value m e) : n.Denotes (.finite false m e) := by
  have hvalue : 0 < n.value := (ten_zpow_pos _).trans_le (h.bounds hlegal hpos).1
  refine ⟨hvalue, ?_⟩
  have hdigits : n.significand ≠ 0 := by
    intro hzero
    rw [PlainNumeral.value, hzero, Nat.cast_zero, zero_mul] at hvalue
    exact hvalue.false
  rw [n.ofText?_text, ofScientific_eq hdigits hlegal hpos h]

/-- The text of a positive value is a numeral that stands for the value. -/
theorem exists_toText {m : Nat} {e : Int} (hlegal : IsLegal m e) (hpos : 0 < m) :
    ∃ n : PlainNumeral, toText (.finite false m e) = n.text ∧ n.Denotes (.finite false m e) := by
  obtain ⟨n, htext, hvalue⟩ := exists_positional (shortestDigits m e).1 (shortestDigits m e).2
  refine ⟨n, ?_, denotes_of_roundsTo hlegal hpos ?_⟩
  · rw [toText, if_neg hpos.ne', ← htext]
    rfl
  · rw [hvalue]
    exact roundsTo_shortestDigits hlegal hpos

/-- Text is read as a value of the format. -/
theorem isCanonical_ofText? {text : String} {x : Binary64} (h : ofText? text = some x) :
    x.IsCanonical := by
  unfold ofText? at h
  dsimp only at h
  split_ifs at h
  · obtain rfl := Option.some.inj h
    trivial
  · obtain rfl := Option.some.inj h
    trivial
  · obtain ⟨⟨digits, exponent⟩, -, rfl⟩ := Option.map_eq_some_iff.mp h
    exact isCanonical_ofScientific _ digits exponent

end Binary64

end Manuscript
