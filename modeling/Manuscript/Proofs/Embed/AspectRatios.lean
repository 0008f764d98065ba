import Manuscript.Embed.Card
import Manuscript.Proofs.Number.PlainNumerals
import Manuscript.Proofs.Text.Separators

/-!
# The proportions of a frame

Proportions are written as two numerals with a slash between them. A size with a fraction is written
in positional notation and is read back. A size without one is written as an integer of 64 bits, and
is read back if it has no more; and an infinity, which is positive, is written as a word.

## Main definitions

* `Binary64.IsSize`, `Binary64.FitsInt64` — finite positive values, and those of up to 64 bits
* `sizeInUse` — the size of a frame, which goes before that in the metadata
* `IsRatioOf` — proportions that stand for two sizes, and the default ones without them
* `SizedMetadata` — metadata whose sizes are values of the format

## Main results

* `exists_toInt64` — integral values as integers of 64 bits
* `exists_dimensionText` — a size is read back if it has up to 64 bits
* `exists_sizedMetadata` — all metadata that are read have such sizes
* `isRatioOf_aspectRatio_iff` — which frames have the proportions of their sizes
-/

namespace Manuscript

namespace Binary64

variable {m : Nat} {e : Int}

/-- A finite positive value. -/
def IsSize : Binary64 → Prop
  | .finite negative m _ => negative = false ∧ 0 < m
  | _ => False

/-- A finite value of at most two to the power of 63, the value that the greatest integer of 64 bits
is rounded to. -/
def FitsInt64 : Binary64 → Prop
  | .finite _ m e => (m : ℚ) * 2 ^ e ≤ 2 ^ 63
  | _ => False

theorem isPositive_iff_isSize (x : Binary64) :
    x.isPositive = true ↔ x.IsSize ∨ x = .infinite false := by
  cases x with
  | nan => simp [isPositive, IsSize]
  | infinite negative => simp [isPositive, IsSize]
  | finite negative m e => simp [isPositive, IsSize, Nat.pos_iff_ne_zero]

theorem isSize_of_fitsInt64 {x : Binary64} (hpositive : x.isPositive = true) (hfits : x.FitsInt64) :
    x.IsSize := by
  refine ((isPositive_iff_isSize x).mp hpositive).resolve_right ?_
  rintro rfl
  exact hfits

/-- Values from two to the power of 63 on are more than two to the power of ten apart. -/
theorem two_pow_ten_lt (hlegal : IsLegal m e) (h : (2 : ℚ) ^ 63 ≤ m * 2 ^ e) :
    (2 : ℚ) ^ 10 < 2 ^ e := by
  have hm : (m : ℚ) < 2 ^ 53 := by exact_mod_cast hlegal.lt
  have hunit := two_zpow_pos e
  have : (m : ℚ) * 2 ^ e < 2 ^ 53 * 2 ^ e := by gcongr
  linarith

/-- An integral value as an integer of 64 bits: the greatest such integer stands for all that are
greater. -/
theorem exists_toInt64 (h : isIntegral (.finite false m e) = true) :
    ∃ v : Nat, (v : ℚ) = m * 2 ^ e ∧ toInt64 (.finite false m e) = (min v (2 ^ 63 - 1) : Nat) := by
  cases e with
  | ofNat k =>
    refine ⟨m * 2 ^ k, by simp, ?_⟩
    simp only [toInt64, toRatio, Nat.pow_eq, Int.pow_eq, Bool.false_eq_true, if_false]
    omega
  | negSucc k =>
    obtain ⟨v, rfl⟩ : 2 ^ (k + 1) ∣ m := by
      simpa [isIntegral, Nat.dvd_iff_mod_eq_zero] using h
    refine ⟨v, ?_, ?_⟩
    · rw [zpow_negSucc]
      push_cast
      field_simp
    · have hquotient : ((2 ^ (k + 1) * v : Nat) : Int) / (2 ^ (k + 1) : Nat) = v := by
        exact_mod_cast Nat.mul_div_cancel_left v (by positivity)
      simp only [toInt64, toRatio, Nat.pow_eq, Int.pow_eq, Bool.false_eq_true, if_false, hquotient]
      omega

/-- Values greater than two to the power of 63 have no fraction. -/
theorem isIntegral_of_lt (hlegal : IsLegal m e) (h : (2 : ℚ) ^ 63 < m * 2 ^ e) :
    isIntegral (.finite false m e) = true := by
  cases e with
  | ofNat k => rfl
  | negSucc k =>
    have hone : (2 : ℚ) ^ Int.negSucc k ≤ 1 := zpow_le_one_of_nonpos₀ (by norm_num) (by omega)
    linarith [two_pow_ten_lt hlegal h.le]

/-- The greatest integer of 64 bits is rounded to two to the power of 63. -/
theorem roundsTo_pred (hlegal : IsLegal m e) (hpos : 0 < m) (h : (m : ℚ) * 2 ^ e = 2 ^ 63) :
    RoundsTo (2 ^ 63 - 1 : Nat) m e := by
  have hunit := two_pow_ten_lt hlegal h.ge
  push_cast
  exact roundsTo_of_near hpos (by linarith) (by linarith)

end Binary64

/-! ### The text of a size -/

namespace Embed

open Binary64

variable {m : Nat} {e : Int} {x w h : Binary64}

/-- An integral size is written in digits, those of the greatest integer of 64 bits if it is
greater. -/
theorem exists_dimensionText_of_isIntegral (h : isIntegral (.finite false m e) = true) :
    ∃ v : Nat, (v : ℚ) = m * 2 ^ e ∧
      dimensionText (.finite false m e) = (natNumeral (min v (2 ^ 63 - 1))).text := by
  obtain ⟨v, hv, hint⟩ := exists_toInt64 h
  refine ⟨v, hv, ?_⟩
  rw [dimensionText, if_pos h, hint, text_natNumeral]
  rfl

/-- A size of up to 64 bits is written as a numeral that stands for it. -/
theorem exists_dimensionText_denotes (hlegal : IsLegal m e) (hpos : 0 < m)
    (hfits : (m : ℚ) * 2 ^ e ≤ 2 ^ 63) :
    ∃ n : PlainNumeral, dimensionText (.finite false m e) = n.text ∧
      n.Denotes (.finite false m e) := by
  by_cases hintegral : isIntegral (.finite false m e) = true
  · obtain ⟨v, hv, htext⟩ := exists_dimensionText_of_isIntegral hintegral
    refine ⟨_, htext, denotes_of_roundsTo hlegal hpos ?_⟩
    rw [value_natNumeral]
    rw [← hv] at hfits
    have hle : v ≤ 2 ^ 63 := by exact_mod_cast hfits
    rcases hle.eq_or_lt with rfl | hlt
    · exact roundsTo_pred hlegal hpos (by exact_mod_cast hv.symm)
    · rw [min_eq_left (by omega), hv]
      exact roundsTo_self hpos
  · obtain ⟨n, htext, hn⟩ := exists_toText hlegal hpos
    exact ⟨n, by rw [dimensionText, if_neg hintegral, htext], hn⟩

/-- The greatest integer of 64 bits is read as two to the power of 63. -/
theorem denotes_natNumeral_maxInt64 :
    (natNumeral (2 ^ 63 - 1)).Denotes (.finite false (2 ^ 52) 11) := by
  have hlegal : IsLegal (2 ^ 52) 11 := ⟨by decide, by decide, by decide, .inl le_rfl⟩
  refine denotes_of_roundsTo hlegal (by decide) ?_
  rw [value_natNumeral]
  exact roundsTo_pred hlegal (by decide) (by norm_num)

/-- A size is written as a numeral of a positive number, which is read back as the size if that has
up to 64 bits. -/
theorem exists_dimensionText (hcanonical : x.IsCanonical) (hsize : x.IsSize) :
    ∃ n : PlainNumeral, dimensionText x = n.text ∧ 0 < n.value ∧
      (ofText? n.text = some x ↔ x.FitsInt64) := by
  match x, hsize with
  | .finite negative m e, ⟨hnegative, hpos⟩ =>
    obtain rfl : negative = false := hnegative
    rcases le_or_gt ((m : ℚ) * 2 ^ e) (2 ^ 63) with hle | hgt
    · obtain ⟨n, htext, hpositive, hread⟩ := exists_dimensionText_denotes hcanonical hpos hle
      exact ⟨n, htext, hpositive, fun _ => hle, fun _ => hread⟩
    · obtain ⟨v, hv, htext⟩ :=
        exists_dimensionText_of_isIntegral (isIntegral_of_lt hcanonical hgt)
      have hlarge : 2 ^ 63 < v := by
        rw [← hv] at hgt
        exact_mod_cast hgt
      rw [min_eq_right (by omega)] at htext
      obtain ⟨hpositive, hread⟩ := denotes_natNumeral_maxInt64
      refine ⟨_, htext, hpositive, fun hsame => ?_, fun hfits => absurd hfits hgt.not_ge⟩
      -- it is read as a smaller value
      rw [hread, Option.some.injEq, finite.injEq] at hsame
      obtain ⟨-, rfl, rfl⟩ := hsame
      norm_num at hgt

/-! ### Proportions -/

/-- The size of a frame: its own one in an attribute goes before that in the metadata. -/
def sizeInUse (frame : Element) (name : String) (size : Option Binary64) : Option Binary64 :=
  (attributeDimension? frame name).or size

/-- Both sizes are known, finite and positive. -/
def AreSizes (width height : Option Binary64) : Prop :=
  ∃ w h, width = some w ∧ height = some h ∧ w.IsSize ∧ h.IsSize

/-- Proportions of two numerals that stand for the width and the height, and the default ones if
there are no such sizes. -/
structure IsRatioOf (text : String) (width height : Option Binary64) : Prop where
  /-- Two sizes are written as numerals that stand for them. -/
  sized : ∀ w h, width = some w → height = some h → w.IsSize → h.IsSize →
    ∃ m n : PlainNumeral, text = m.text ++ "/" ++ n.text ∧ m.Denotes w ∧ n.Denotes h
  /-- The default stands for no other sizes. -/
  default_iff : text = defaultAspectRatio ↔ ¬AreSizes width height

theorem toList_ratio (a b : String) : (a ++ "/" ++ b).toList = a.toList ++ '/' :: b.toList := by
  simp

/-- The default proportions have no slash. -/
theorem ratio_ne_default (a b : String) : a ++ "/" ++ b ≠ defaultAspectRatio := by
  intro heq
  have hmem : '/' ∈ defaultAspectRatio.toList := by simp [← heq]
  exact absurd hmem (by decide)

/-- Proportions of numerals are made of one pair of numerals only. -/
theorem ratio_inj {m n m' n' : PlainNumeral}
    (h : m.text ++ "/" ++ n.text = m'.text ++ "/" ++ n'.text) :
    m.text = m'.text ∧ n.text = n'.text := by
  have hslash (k : PlainNumeral) : '/' ∉ k.text.toList := by
    rw [PlainNumeral.text, String.toList_ofList]
    exact k.notMem_chars (by decide) (by decide)
  have hlists := congrArg String.toList h
  rw [toList_ratio, toList_ratio] at hlists
  obtain ⟨hm, hn⟩ := Text.append_cons_inj_first (hslash m) (hslash m') hlists
  exact ⟨String.toList_injective hm, String.toList_injective hn⟩

theorem aspectRatio_of_isPositive {frame : Element} {metadata : EmbedMetadata}
    (hw : sizeInUse frame "width" metadata.width = some w)
    (hh : sizeInUse frame "height" metadata.height = some h)
    (hwidth : w.isPositive = true) (hheight : h.isPositive = true) :
    aspectRatio frame metadata = dimensionText w ++ "/" ++ dimensionText h := by
  rw [sizeInUse] at hw hh
  simp [aspectRatio, hw, hh, hwidth, hheight]

theorem aspectRatio_of_not_isPositive {frame : Element} {metadata : EmbedMetadata}
    (hnone : ∀ w h, sizeInUse frame "width" metadata.width = some w →
      sizeInUse frame "height" metadata.height = some h →
      ¬(w.isPositive = true ∧ h.isPositive = true)) :
    aspectRatio frame metadata = defaultAspectRatio := by
  simp only [sizeInUse] at hnone
  unfold aspectRatio
  dsimp only
  split
  · rename_i w h hw hh
    exact if_neg (by simpa using hnone w h hw hh)
  · rfl

/-- The size of a frame is a value of the format if that in the metadata is one. -/
theorem isCanonical_sizeInUse {frame : Element} {name : String} {size : Option Binary64}
    (hsize : ∀ x ∈ size, x.IsCanonical) (hx : sizeInUse frame name size = some x) :
    x.IsCanonical := by
  rcases Option.or_eq_some_iff.mp hx with hattribute | ⟨-, hmetadata⟩
  · obtain ⟨text, -, htext⟩ := Option.bind_eq_some_iff.mp hattribute
    exact isCanonical_ofText? htext
  · exact hsize x hmetadata

/-- Proportions of two positive values stand for them if and only if both have up to 64 bits. -/
theorem isRatioOf_ratio_iff (hw : w.IsCanonical) (hh : h.IsCanonical)
    (hwidth : w.isPositive = true) (hheight : h.isPositive = true) :
    IsRatioOf (dimensionText w ++ "/" ++ dimensionText h) (some w) (some h) ↔
      w.FitsInt64 ∧ h.FitsInt64 := by
  by_cases hsizes : w.IsSize ∧ h.IsSize
  · obtain ⟨m, hm, hmpos, hwread⟩ := exists_dimensionText hw hsizes.1
    obtain ⟨n, hn, hnpos, hhread⟩ := exists_dimensionText hh hsizes.2
    rw [hm, hn, ← hwread, ← hhread]
    constructor
    · intro hratio
      obtain ⟨m', n', heq, hm', hn'⟩ := hratio.sized w h rfl rfl hsizes.1 hsizes.2
      obtain ⟨hmtext, hntext⟩ := ratio_inj heq
      rw [hmtext, hntext]
      exact ⟨hm'.2, hn'.2⟩
    · rintro ⟨hwread, hhread⟩
      constructor
      · rintro w' h' ⟨⟩ ⟨⟩ - -
        exact ⟨m, n, rfl, ⟨hmpos, hwread⟩, ⟨hnpos, hhread⟩⟩
      · exact iff_of_false (ratio_ne_default _ _) (not_not.mpr ⟨w, h, rfl, rfl, hsizes⟩)
  · -- an infinity is no size, and yet the proportions are not the default ones
    refine iff_of_false (fun hratio => ?_) fun ⟨hwfits, hhfits⟩ =>
      hsizes ⟨isSize_of_fitsInt64 hwidth hwfits, isSize_of_fitsInt64 hheight hhfits⟩
    exact ratio_ne_default _ _ (hratio.default_iff.mpr (by simpa [AreSizes] using hsizes))

/-- The default proportions stand for no sizes. -/
theorem isRatioOf_default {width height : Option Binary64} (hnone : ¬AreSizes width height) :
    IsRatioOf defaultAspectRatio width height where
  sized w h hw hh hwsize hhsize := absurd ⟨w, h, hw, hh, hwsize, hhsize⟩ hnone
  default_iff := iff_of_true rfl hnone

/-- The sizes that are read are values of the format, if the numbers in the data are. -/
theorem isCanonical_dimension? {v : Value} (hfloat : ∀ y, v = .float y → y.IsCanonical)
    (hx : EmbedMetadata.dimension? v = some x) : x.IsCanonical := by
  cases v with
  | int n =>
    rw [← Option.some.inj hx]
    exact isCanonical_ofInt n
  | float y => exact hfloat x (congrArg Value.float (Option.some.inj hx))
  | string s =>
    have hread : ofText? (Text.trimmed s) = some x := hx
    exact isCanonical_ofText? hread
  | null => cases hx
  | bool b => cases hx
  | list vs => cases hx
  | object fields => cases hx

/-- Metadata whose sizes are values of the format. -/
structure SizedMetadata extends EmbedMetadata where
  /-- The width is a value of the format. -/
  isCanonical_width : ∀ x ∈ width, x.IsCanonical
  /-- The height is a value of the format. -/
  isCanonical_height : ∀ x ∈ height, x.IsCanonical

/-- All metadata that are read are such, if the numbers in the data are values of the format. -/
theorem exists_sizedMetadata {v : Value} {metadata : EmbedMetadata}
    (hfloat : ∀ fields name y, v.record? EmbedMetadata.fieldNames = some fields →
      fields.lookup name = some (.float y) → y.IsCanonical)
    (hread : EmbedMetadata.ofValue? v = some metadata) :
    ∃ sized : SizedMetadata, sized.toEmbedMetadata = metadata := by
  obtain ⟨fields, hfields, hread⟩ := Option.bind_eq_some_iff.mp hread
  have hsize (name : String) : ∀ x ∈ (fields.lookup name).bind EmbedMetadata.dimension?,
      x.IsCanonical := by
    intro x hx
    obtain ⟨size, hsize, hx⟩ := Option.bind_eq_some_iff.mp hx
    refine isCanonical_dimension? (fun y hy => ?_) hx
    exact hfloat fields name y hfields (hy ▸ hsize)
  have hsizes : metadata.width = (fields.lookup "width").bind EmbedMetadata.dimension? ∧
      metadata.height = (fields.lookup "height").bind EmbedMetadata.dimension? := by
    -- a kind is read first, if there is one
    dsimp only at hread
    split at hread <;>
    · simp only [Option.bind_eq_bind, Option.bind_eq_some_iff] at hread
      obtain ⟨kind, -, title, -, html, -, thumbnail, -, provider, -, author, -, hread⟩ := hread
      obtain rfl := Option.some.inj hread
      exact ⟨rfl, rfl⟩
  exact ⟨⟨metadata, hsizes.1 ▸ hsize "width", hsizes.2 ▸ hsize "height"⟩, rfl⟩

/-- The proportions of a frame stand for its sizes, with the default ones for a frame without, if and
only if no size is beyond 64 bits: an infinity is positive and no size, and of a greater integer the
greatest one of 64 bits is written. -/
theorem isRatioOf_aspectRatio_iff (frame : Element) (metadata : SizedMetadata) :
    let width := sizeInUse frame "width" metadata.width
    let height := sizeInUse frame "height" metadata.height
    IsRatioOf (aspectRatio frame metadata.toEmbedMetadata) width height ↔
      ∀ w h, width = some w → height = some h → w.isPositive = true → h.isPositive = true →
        w.FitsInt64 ∧ h.FitsInt64 := by
  intro width height
  by_cases hpositive : ∃ w h, width = some w ∧ height = some h ∧
      w.isPositive = true ∧ h.isPositive = true
  · obtain ⟨w, h, hw, hh, hwpos, hhpos⟩ := hpositive
    rw [aspectRatio_of_isPositive hw hh hwpos hhpos, hw, hh, isRatioOf_ratio_iff
      (isCanonical_sizeInUse metadata.isCanonical_width hw)
      (isCanonical_sizeInUse metadata.isCanonical_height hh) hwpos hhpos]
    constructor
    · rintro hfits w' h' ⟨⟩ ⟨⟩ - -
      exact hfits
    · intro hfits
      exact hfits w h rfl rfl hwpos hhpos
  · have hnone : ¬AreSizes width height := by
      rintro ⟨w, h, hw, hh, hwsize, hhsize⟩
      exact hpositive ⟨w, h, hw, hh, (isPositive_iff_isSize w).mpr (.inl hwsize),
        (isPositive_iff_isSize h).mpr (.inl hhsize)⟩
    rw [aspectRatio_of_not_isPositive fun w h hw hh hpos => hpositive ⟨w, h, hw, hh, hpos⟩]
    refine iff_of_true (isRatioOf_default hnone) fun w h hw hh hwpos hhpos => ?_
    exact absurd ⟨w, h, hw, hh, hwpos, hhpos⟩ hpositive

/-- A frame with attributes for its width and its height. -/
def sizedFrame (width height : String) : Element where
  tag := "iframe"
  attributes := Attributes.ofList [("width", .text width), ("height", .text height)]

/-- A width in an attribute and a height in the metadata, where the attribute is no number. -/
theorem isRatioOf_aspectRatio_560_315 :
    aspectRatio (sizedFrame "560" "auto") { height := some (ofInt 315) } = "560/315" ∧
      IsRatioOf (aspectRatio (sizedFrame "560" "auto") { height := some (ofInt 315) })
        (some (ofInt 560)) (some (ofInt 315)) := by
  have hwidth : sizeInUse (sizedFrame "560" "auto") "width" none = some (ofInt 560) := by
    decide +kernel
  have hheight :
      sizeInUse (sizedFrame "560" "auto") "height" (some (ofInt 315)) = some (ofInt 315) := by
    decide +kernel
  have hsmall : (ofInt 560).FitsInt64 ∧ (ofInt 315).FitsInt64 := by
    rw [show ofInt 560 = .finite false 4925812092436480 (-43) by decide +kernel,
      show ofInt 315 = .finite false 5541538603991040 (-44) by decide +kernel]
    norm_num [FitsInt64]
  have hratio := isRatioOf_aspectRatio_iff (sizedFrame "560" "auto")
    ⟨{ height := some (ofInt 315) }, by simp, by simpa using isCanonical_ofInt 315⟩
  refine ⟨by decide +kernel, ?_⟩
  dsimp only at hratio
  rw [hwidth, hheight] at hratio
  refine hratio.mpr ?_
  rintro w h ⟨⟩ ⟨⟩ - -
  exact hsmall

/-- An infinite width is written as a word. -/
theorem not_isRatioOf_aspectRatio_infinite :
    aspectRatio (sizedFrame "inf" "315") {} = "inf/315" ∧
      ¬IsRatioOf (aspectRatio (sizedFrame "inf" "315") {})
        (sizeInUse (sizedFrame "inf" "315") "width" none)
        (sizeInUse (sizedFrame "inf" "315") "height" none) := by
  have htext : aspectRatio (sizedFrame "inf" "315") {} = "inf/315" := by decide +kernel
  have hwidth : sizeInUse (sizedFrame "inf" "315") "width" none = some (.infinite false) := by
    decide +kernel
  refine ⟨htext, fun hratio => ?_⟩
  rw [htext, hwidth] at hratio
  have hdefault := hratio.default_iff.mpr <| by
    rintro ⟨w, h, ⟨⟩, -, hsize, -⟩
    exact hsize
  exact absurd hdefault (by decide)

end Embed

end Manuscript
