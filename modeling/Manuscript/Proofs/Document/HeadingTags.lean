import Mathlib.Data.List.Basic
import Manuscript.Document.Role

/-!
# Tags of headings

The tag of a heading is an `h` and the number of its level. The number may be written with a plus
sign and with zeros in front, so a level has more tags than the plain one: `h3` and `h03` and `h+3`
are headings of level three.

## Main definitions

* `headingSpelling` — the tag of a level, with a plus sign or without, and with zeros
* `headingTags` — the six plain tags
* `IsPaddedHeading` — a heading whose tag is not the plain one of its level

## Main results

* `ofDigitValues_eq_iff` — the ways to write a number below ten
* `headingLevel?_eq_some_iff` — the tags that have a level
* `headingLevel?_plain_iff_not_padded` — the plain tags are all, but for padded ones
-/

namespace Manuscript

/-- The tag of a level, with a plus sign or without, and with zeros in front of the number. -/
def headingSpelling (sign : Bool) (zeros level : Nat) : String :=
  "h" ++ (if sign then "+" else "") ++ String.ofList (List.replicate zeros '0') ++ toString level

/-- The plain tags of headings. -/
def headingTags : List String := ["h1", "h2", "h3", "h4", "h5", "h6"]

/-- A heading whose number has a plus sign or zeros in front. -/
def IsPaddedHeading (tag : String) : Prop :=
  ∃ sign zeros level, 1 ≤ level ∧ level ≤ 6 ∧ (sign = true ∨ 0 < zeros) ∧
    tag = headingSpelling sign zeros level

variable {tag : String} {level : Nat} {cs : List Char} {ds : List Nat}

/-! ### Numbers -/

theorem digitValue?_eq_some_iff {c : Char} {d : Nat} :
    Text.digitValue? c = some d ↔ d < 10 ∧ c = Nat.digitChar d := by
  have hdigit : ('0' ≤ c && c ≤ '9') = true ↔ 48 ≤ c.toNat ∧ c.toNat ≤ 57 := by
    rw [Bool.and_eq_true, decide_eq_true_eq, decide_eq_true_eq]
    rfl
  unfold Text.digitValue?
  constructor
  · intro h
    split at h
    · rename_i hc
      have hrange := hdigit.mp hc
      obtain rfl : c.toNat - 48 = d := Option.some.inj h
      refine ⟨by omega, Char.toNat_inj.mp ?_⟩
      rw [Nat.toNat_digitChar_of_lt_ten (by omega)]
      omega
    · cases h
  · rintro ⟨hd, rfl⟩
    have hvalue := Nat.toNat_digitChar_of_lt_ten hd
    rw [if_pos (hdigit.mpr (by omega)), hvalue, Nat.add_sub_cancel_left]

theorem mapM_digitValue?_eq_some_iff :
    cs.mapM Text.digitValue? = some ds ↔ (∀ d ∈ ds, d < 10) ∧ cs = ds.map Nat.digitChar := by
  induction cs generalizing ds with
  | nil => cases ds <;> simp
  | cons c rest ih =>
    simp only [List.mapM_cons, Option.bind_eq_bind, Option.bind_eq_some_iff, Option.pure_def,
      Option.some.injEq, digitValue?_eq_some_iff, ih]
    constructor
    · rintro ⟨d, ⟨hd, rfl⟩, ds, ⟨hds, rfl⟩, rfl⟩
      exact ⟨List.forall_mem_cons.mpr ⟨hd, hds⟩, rfl⟩
    · rintro ⟨hds, hcs⟩
      cases ds with
      | nil => cases hcs
      | cons d ds =>
        obtain ⟨rfl, rfl⟩ := List.cons.inj hcs
        obtain ⟨hd, hds⟩ := List.forall_mem_cons.mp hds
        exact ⟨d, ⟨hd, rfl⟩, ds, ⟨hds, rfl⟩, rfl⟩

theorem foldl_digits_ge (ds : List Nat) (n : Nat) : n ≤ ds.foldl (fun n d => n * 10 + d) n := by
  induction ds generalizing n with
  | nil => exact Nat.le_refl n
  | cons d rest ih => exact Nat.le_trans (by omega) (ih (n * 10 + d))

/-- A number from one to nine is written as its digit behind zeros, and in no other way. -/
theorem ofDigitValues_eq_iff (hpos : 0 < level) (hlevel : level < 10) :
    Text.ofDigitValues 10 ds = level ↔ ∃ zeros, ds = List.replicate zeros 0 ++ [level] := by
  constructor
  · intro h
    induction ds with
    | nil => cases h; cases hpos
    | cons d rest ih =>
      have hvalue : rest.foldl (fun n d => n * 10 + d) d = level := by
        simpa [Text.ofDigitValues] using h
      rcases Nat.eq_zero_or_pos d with rfl | hd
      · obtain ⟨zeros, rfl⟩ := ih hvalue
        exact ⟨zeros + 1, rfl⟩
      · cases rest with
        | nil => exact ⟨0, by rw [← hvalue]; rfl⟩
        | cons second rest =>
          -- with two digits behind the zeros it would be ten at least
          have hge := foldl_digits_ge rest (d * 10 + second)
          rw [List.foldl_cons] at hvalue
          omega
  · rintro ⟨zeros, rfl⟩
    induction zeros with
    | zero => simp [Text.ofDigitValues]
    | succ zeros ih => exact ih

theorem lt_ten_of_mem {zeros d : Nat} (hd : d ∈ List.replicate zeros 0 ++ [level])
    (hlevel : level < 10) : d < 10 := by
  rcases List.mem_append.mp hd with hd | hd
  · rw [List.eq_of_mem_replicate hd]
    decide
  · rwa [List.mem_singleton.mp hd]

/-- The level that a number denotes, if it is one. -/
def levelOfDigits? (digits : List Char) : Option Nat :=
  if digits.isEmpty then none
  else do
    let ds ← digits.mapM Text.digitValue?
    let n := Text.ofDigitValues 10 ds
    if 1 ≤ n && n ≤ 6 then some n else none

/-- The digits of a level are its own digit behind zeros. -/
theorem levelOfDigits?_eq_some_iff :
    levelOfDigits? cs = some level ↔
      1 ≤ level ∧ level ≤ 6 ∧
        ∃ zeros, cs = (List.replicate zeros 0 ++ [level]).map Nat.digitChar := by
  unfold levelOfDigits?
  constructor
  · intro h
    split at h
    · cases h
    · simp only [Option.bind_eq_bind, Option.bind_eq_some_iff, Option.ite_none_right_eq_some,
        Bool.and_eq_true, decide_eq_true_eq, Option.some.injEq] at h
      obtain ⟨ds, hds, ⟨hlower, hupper⟩, hvalue⟩ := h
      rw [hvalue] at hlower hupper
      obtain ⟨zeros, rfl⟩ := (ofDigitValues_eq_iff (by omega) (by omega)).mp hvalue
      exact ⟨hlower, hupper, zeros, (mapM_digitValue?_eq_some_iff.mp hds).2⟩
  · rintro ⟨hlower, hupper, zeros, rfl⟩
    have hvalue : Text.ofDigitValues 10 (List.replicate zeros 0 ++ [level]) = level :=
      (ofDigitValues_eq_iff (by omega) (by omega)).mpr ⟨zeros, rfl⟩
    rw [mapM_digitValue?_eq_some_iff.mpr ⟨fun d hd => lt_ten_of_mem hd (by omega), rfl⟩]
    simp [hvalue, hlower, hupper]

/-! ### The tags that have a level -/

/-- What follows a plus sign, if there is one at the start. -/
def behindPlus : List Char → List Char
  | '+' :: cs => cs
  | cs => cs

theorem headingLevel?_eq_levelOfDigits? (h : tag.toList = 'h' :: cs) :
    headingLevel? tag = levelOfDigits? (behindPlus cs) := by
  unfold headingLevel?
  rw [h]
  rfl

theorem exists_of_headingLevel? (h : headingLevel? tag = some level) :
    ∃ cs, tag.toList = 'h' :: cs ∧ levelOfDigits? (behindPlus cs) = some level := by
  have hstart : ∃ cs, tag.toList = 'h' :: cs := by
    unfold headingLevel? at h
    split at h
    · exact ⟨_, ‹_›⟩
    · cases h
  obtain ⟨cs, hcs⟩ := hstart
  exact ⟨cs, hcs, headingLevel?_eq_levelOfDigits? hcs ▸ h⟩

theorem exists_eq_append_behindPlus (cs : List Char) :
    ∃ sign : Bool, cs = (if sign then ['+'] else []) ++ behindPlus cs := by
  unfold behindPlus
  split
  · exact ⟨true, rfl⟩
  · exact ⟨false, rfl⟩

/-- A digit is no plus sign. -/
theorem behindPlus_map_digitChar (h : ∀ d ∈ ds, d < 10) :
    behindPlus (ds.map Nat.digitChar) = ds.map Nat.digitChar := by
  cases ds with
  | nil => rfl
  | cons d rest =>
    have hvalue := Nat.toNat_digitChar_of_lt_ten (h d List.mem_cons_self)
    rw [List.map_cons, behindPlus]
    intro cs heq
    rw [(List.cons.inj heq).1] at hvalue
    have hplus : '+'.toNat = 43 := rfl
    omega

theorem toList_headingSpelling {sign : Bool} {zeros : Nat} (h : level < 10) :
    (headingSpelling sign zeros level).toList =
      'h' :: ((if sign then ['+'] else []) ++
        (List.replicate zeros 0 ++ [level]).map Nat.digitChar) := by
  cases sign <;> simp [headingSpelling, Nat.toDigits_of_lt_base h]

/-- A tag has a level if it is an `h`, a plus sign or none, any number of zeros and the digit of the
level. -/
theorem headingLevel?_eq_some_iff :
    headingLevel? tag = some level ↔
      1 ≤ level ∧ level ≤ 6 ∧ ∃ sign zeros, tag = headingSpelling sign zeros level := by
  constructor
  · intro h
    obtain ⟨cs, htag, hlevel⟩ := exists_of_headingLevel? h
    obtain ⟨hlower, hupper, zeros, hdigits⟩ := levelOfDigits?_eq_some_iff.mp hlevel
    obtain ⟨sign, hcs⟩ := exists_eq_append_behindPlus cs
    refine ⟨hlower, hupper, sign, zeros, String.toList_injective ?_⟩
    rw [toList_headingSpelling (by omega), htag, hcs, hdigits]
  · rintro ⟨hlower, hupper, sign, zeros, rfl⟩
    rw [headingLevel?_eq_levelOfDigits? (toList_headingSpelling (by omega)),
      levelOfDigits?_eq_some_iff]
    refine ⟨hlower, hupper, zeros, ?_⟩
    cases sign with
    | true => rfl
    | false => exact behindPlus_map_digitChar fun d hd => lt_ten_of_mem hd (by omega)

/-! ### Plain tags -/

theorem mem_headingTags_iff :
    tag ∈ headingTags ↔ ∃ level, 1 ≤ level ∧ level ≤ 6 ∧ tag = "h" ++ toString level := by
  constructor
  · intro h
    simp only [headingTags, List.mem_cons, List.not_mem_nil, or_false] at h
    rcases h with rfl | rfl | rfl | rfl | rfl | rfl
    exacts [⟨1, by decide⟩, ⟨2, by decide⟩, ⟨3, by decide⟩, ⟨4, by decide⟩, ⟨5, by decide⟩,
      ⟨6, by decide⟩]
  · rintro ⟨level, hlower, hupper, rfl⟩
    obtain rfl | rfl | rfl | rfl | rfl | rfl :
        level = 1 ∨ level = 2 ∨ level = 3 ∨ level = 4 ∨ level = 5 ∨ level = 6 := by omega
    all_goals decide

theorem headingSpelling_plain (level : Nat) :
    headingSpelling false 0 level = "h" ++ toString level := by
  simp [headingSpelling]

/-- A plain tag has a level. -/
theorem isSome_headingLevel?_of_mem (h : tag ∈ headingTags) : (headingLevel? tag).isSome = true := by
  obtain ⟨level, hlower, hupper, rfl⟩ := mem_headingTags_iff.mp h
  rw [← headingSpelling_plain, headingLevel?_eq_some_iff.mpr ⟨hlower, hupper, false, 0, rfl⟩]
  rfl

/-- A plain tag is not padded, as it would be longer then. -/
theorem not_isPaddedHeading_of_mem (h : tag ∈ headingTags) : ¬ IsPaddedHeading tag := by
  rintro ⟨sign, zeros, level, hlower, hupper, hpadded, htag⟩
  obtain ⟨plain, -, hplain, rfl⟩ := mem_headingTags_iff.mp h
  rw [← headingSpelling_plain] at htag
  have hlength := congrArg (fun text : String => text.toList.length) htag
  simp only [toList_headingSpelling (show plain < 10 by omega),
    toList_headingSpelling (show level < 10 by omega)] at hlength
  rcases hpadded with rfl | hzeros
  · simp at hlength
  · cases sign
    · simp at hlength
      omega
    · simp at hlength

theorem IsPaddedHeading.exists_level (h : IsPaddedHeading tag) :
    ∃ level, headingLevel? tag = some level := by
  obtain ⟨sign, zeros, level, hlower, hupper, -, htag⟩ := h
  exact ⟨level, headingLevel?_eq_some_iff.mpr ⟨hlower, hupper, sign, zeros, htag⟩⟩

/-- A tag that has a level and is not padded is the plain one. -/
theorem eq_plain_of_not_isPaddedHeading (h : headingLevel? tag = some level)
    (hnot : ¬ IsPaddedHeading tag) : tag = "h" ++ toString level := by
  obtain ⟨hlower, hupper, sign, zeros, rfl⟩ := headingLevel?_eq_some_iff.mp h
  have hplain : sign = false ∧ zeros = 0 := by
    by_contra hpadded
    refine hnot ⟨sign, zeros, level, hlower, hupper, ?_, rfl⟩
    cases sign with
    | true => exact .inl rfl
    | false => exact .inr (Nat.pos_of_ne_zero fun hzero => hpadded ⟨rfl, hzero⟩)
  rw [hplain.1, hplain.2, headingSpelling_plain]

theorem mem_headingTags_of_isSome (h : (headingLevel? tag).isSome = true)
    (hnot : ¬ IsPaddedHeading tag) : tag ∈ headingTags := by
  obtain ⟨level, hlevel⟩ := Option.isSome_iff_exists.mp h
  obtain ⟨hlower, hupper, -⟩ := headingLevel?_eq_some_iff.mp hlevel
  exact mem_headingTags_iff.mpr
    ⟨level, hlower, hupper, eq_plain_of_not_isPaddedHeading hlevel hnot⟩

/-- The plain tag of a level is all that has the level, for a tag that is not padded and for no
other. -/
theorem headingLevel?_plain_iff_not_padded :
    (∀ level, headingLevel? tag = some level ↔
      1 ≤ level ∧ level ≤ 6 ∧ tag = "h" ++ toString level) ↔ ¬ IsPaddedHeading tag := by
  constructor
  · intro hplain hpadded
    obtain ⟨level, hlevel⟩ := hpadded.exists_level
    exact not_isPaddedHeading_of_mem (mem_headingTags_iff.mpr ⟨level, (hplain level).mp hlevel⟩)
      hpadded
  · intro hnot level
    constructor
    · intro h
      obtain ⟨hlower, hupper, -⟩ := headingLevel?_eq_some_iff.mp h
      exact ⟨hlower, hupper, eq_plain_of_not_isPaddedHeading h hnot⟩
    · rintro ⟨hlower, hupper, htag⟩
      rw [← headingSpelling_plain] at htag
      exact headingLevel?_eq_some_iff.mpr ⟨hlower, hupper, false, 0, htag⟩

end Manuscript
