import Manuscript.Text.Unicode.LetterCase

/-!
# What upper case is made of

A character that changes when it is written in upper case becomes letters and marks. No sign of
ASCII, such as a separator, a quote or a brace, comes out of another character, and signs stay as
they are. A letter of ASCII becomes one letter, which gives it back in lower case.

## Main definitions

* `isSign` — the characters of ASCII that are no letters

## Main results

* `eq_of_mem_upperChar`, `filter_upperChar` — upper case makes no signs and keeps them
* `upperChar_of_isLower` — the letters of ASCII
-/

namespace Manuscript.Text.Unicode

/-- Whether a code point is in ASCII and no letter. -/
def isSign (n : Nat) : Bool := n < 0x80 && !(65 ≤ n && n ≤ 90) && !(97 ≤ n && n ≤ 122)

/-- Whether the characters of a run map to characters beyond ASCII or to its capitals. -/
def CaseRun.avoidsSigns (r : CaseRun) : Bool :=
  (0x80 ≤ r.first + r.shift || (65 ≤ r.first + r.shift && r.last + r.shift ≤ 90)) &&
    (r.last + r.shift < 0xD800 || 0xE000 ≤ r.first + r.shift) && r.last + r.shift < 0x110000

theorem upperRuns_avoidSigns : ∀ r ∈ upperRuns, r.avoidsSigns = true := by
  decide +kernel

theorem upperExpansions_avoidSigns :
    ∀ e ∈ upperExpansions, ∀ n ∈ e.2, isSign (Char.ofNat n).toNat = false := by
  decide +kernel

theorem toUpper_ascii : ∀ n < 0x80, (Char.ofNat n).toUpper = Char.ofNat n ∨
    isSign n = false ∧ isSign (Char.ofNat n).toUpper.toNat = false := by
  decide +kernel

theorem isSign_of_avoidsSigns {r : CaseRun} {n : Nat} (havoids : r.avoidsSigns = true)
    (hcovers : r.covers n = true) : isSign (Char.ofNat (n + r.shift).toNat).toNat = false := by
  simp only [CaseRun.avoidsSigns, Bool.and_eq_true, Bool.or_eq_true, decide_eq_true_eq] at havoids
  simp only [CaseRun.covers, Bool.and_eq_true, decide_eq_true_eq] at hcovers
  obtain ⟨⟨hletters, hsurrogates⟩, hlast⟩ := havoids
  obtain ⟨⟨hfrom, hto⟩, -⟩ := hcovers
  have hvalid : (n + r.shift).toNat.isValidChar := by
    unfold Nat.isValidChar
    omega
  rw [Char.ofNat, dif_pos hvalid]
  change isSign (n + r.shift).toNat = false
  rw [Bool.eq_false_iff]
  intro hsign
  simp only [isSign, Bool.and_eq_true, Bool.not_eq_true', decide_eq_true_eq, Bool.and_eq_false_iff,
    decide_eq_false_iff_not] at hsign
  omega

/-- Upper case keeps a character, or it makes characters that are no signs of it. -/
theorem eq_or_isSign_of_mem_upperChar {c d : Char} (h : d ∈ upperChar c) :
    d = c ∨ isSign d.toNat = false := by
  unfold upperChar at h
  split at h
  · rename_i hascii
    obtain rfl := List.mem_singleton.mp h
    have hupper := toUpper_ascii c.toNat hascii
    rw [Char.ofNat_toNat] at hupper
    exact hupper.imp_right And.right
  split at h
  · rename_i codes hcodes
    obtain ⟨n, hn, rfl⟩ := List.mem_map.mp h
    obtain ⟨before, after, hsplit, -⟩ := List.lookup_eq_some_iff.mp hcodes
    have hmem : (c.toNat, codes) ∈ upperExpansions := by simp [hsplit]
    exact .inr (upperExpansions_avoidSigns _ hmem n hn)
  · obtain rfl := List.mem_singleton.mp h
    unfold mapRuns
    split
    · rename_i r hr
      have havoids := upperRuns_avoidSigns r (List.mem_of_find?_eq_some hr)
      exact .inr (isSign_of_avoidsSigns havoids (by simpa using List.find?_some hr))
    · exact .inl rfl

/-- Upper case makes a sign of no other character. -/
theorem eq_of_mem_upperChar {c d : Char} (h : d ∈ upperChar c) (hd : isSign d.toNat = true) :
    d = c :=
  (eq_or_isSign_of_mem_upperChar h).resolve_right (by simp [hd])

/-- Upper case keeps signs. -/
theorem upperChar_of_isSign {c : Char} (h : isSign c.toNat = true) : upperChar c = [c] := by
  have hascii : c.toNat < 0x80 := by
    simp only [isSign, Bool.and_eq_true, decide_eq_true_eq] at h
    exact h.1.1
  have hupper := toUpper_ascii c.toNat hascii
  rw [Char.ofNat_toNat, h] at hupper
  rw [upperChar, if_pos hascii, hupper.resolve_right (by simp)]

/-- Signs of a class are the same in upper case. -/
theorem filter_upperChar {p : Char → Bool} (hp : ∀ c, p c = true → isSign c.toNat = true)
    (c : Char) : (upperChar c).filter p = [c].filter p := by
  cases hc : p c with
  | true => rw [upperChar_of_isSign (hp c hc)]
  | false =>
    rw [List.filter_cons_of_neg (by simp [hc]), List.filter_nil, List.filter_eq_nil_iff]
    intro d hd hpd
    rw [eq_of_mem_upperChar hd (hp d hpd), hc] at hpd
    cases hpd

theorem toUpper_ascii_of_isLower : ∀ n < 0x80, (Char.ofNat n).isLower = true →
    (Char.ofNat n).toUpper.isUpper = true ∧ (Char.ofNat n).toUpper.toLower = Char.ofNat n := by
  decide +kernel

/-- The upper case of a lower-case letter of ASCII is one letter, whose lower case it is. -/
theorem upperChar_of_isLower {c : Char} (h : c.isLower = true) :
    ∃ upper, upperChar c = [upper] ∧ upper.isUpper = true ∧ upper.toLower = c := by
  have hascii : c.toNat < 0x80 :=
    Nat.lt_of_le_of_lt (of_decide_eq_true (Bool.and_eq_true_iff.mp h).2) (by decide)
  have hupper := toUpper_ascii_of_isLower c.toNat hascii
  rw [Char.ofNat_toNat] at hupper
  exact ⟨c.toUpper, if_pos hascii, hupper h⟩

end Manuscript.Text.Unicode
