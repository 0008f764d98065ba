import Manuscript.Text.Unicode.Alphanumeric
import Manuscript.Text.Unicode.LetterCase

/-!
# What lower case is made of

A character that changes when it is written in lower case becomes a letter or a number, and one of
them becomes a combining mark besides. What comes out is in lower case already, so writing it in
lower case again changes nothing.

Both are read off the runs of the table. A run maps an interval to an interval, so it is enough to
compare the ends of intervals, and for runs of every other character their parity.

## Main definitions

* `CaseRun.target` — the interval that a run maps to
* `CaseRun.avoids` — no character that one run maps to is covered by another

## Main results

* `lowerRuns_mapToLetters`, `lowerRuns_avoid` — the table
* `lowerChar_of_mem_lowerChar` — lower case is settled
* `eq_or_isAlphanumeric_of_mem_lowerChar` — what it is made of
-/

namespace Manuscript.Text.Unicode

namespace CaseRun

/-- The first and the last code point that the characters of a run map to. -/
def target (r : CaseRun) : Nat × Nat := ((r.first + r.shift).toNat, (r.last + r.shift).toNat)

/-- Whether a run maps to letters and numbers that lie in one range of the table or in the small
letters of ASCII. None of them is the capital that becomes two characters. -/
def mapsToLetters (r : CaseRun) : Bool :=
  (r.target.2 < 0xD800 || (0xE000 ≤ r.target.1 && r.target.2 < 0x110000)) &&
    (r.target.2 < 0x130 || 0x130 < r.target.1) &&
    ((97 ≤ r.target.1 && r.target.2 ≤ 122) ||
      (0x80 ≤ r.target.1 && alphanumericRanges.any fun range =>
        Nat.ble range.1 r.target.1 && Nat.ble r.target.2 range.2))

/-- Whether no character that a run maps to is covered by another: they stand before it or behind
it, or between its characters. -/
def avoids (r q : CaseRun) : Bool :=
  Nat.blt r.target.2 q.first || Nat.blt q.last r.target.1 ||
    ((r.first == r.last || r.stride == 2) && q.stride == 2 && (r.target.1 + q.first) % 2 == 1)

variable {r q : CaseRun} {n : Nat}

/-- A covered character maps into the target, if the target does not begin at the lowest code
point. -/
theorem mem_target (hpos : 0 < r.target.1) (hcovers : r.covers n = true) :
    r.target.1 ≤ (n + r.shift).toNat ∧ (n + r.shift).toNat ≤ r.target.2 := by
  simp only [covers, Bool.and_eq_true, decide_eq_true_eq] at hcovers
  simp only [target] at hpos ⊢
  omega

theorem pos_of_mapsToLetters (h : r.mapsToLetters = true) : 0 < r.target.1 := by
  simp only [mapsToLetters, Bool.and_eq_true, Bool.or_eq_true, decide_eq_true_eq] at h
  omega

/-- What a run maps to is not covered by a run that it avoids. -/
theorem covers_eq_false_of_avoids (hpos : 0 < r.target.1) (hcovers : r.covers n = true)
    (havoids : r.avoids q = true) : q.covers (n + r.shift).toNat = false := by
  obtain ⟨hfrom, hto⟩ := mem_target hpos hcovers
  rw [Bool.eq_false_iff]
  intro hq
  simp only [covers, Bool.and_eq_true, decide_eq_true_eq, beq_iff_eq] at hcovers hq
  simp only [avoids, Bool.or_eq_true, Bool.and_eq_true, Nat.blt_eq, beq_iff_eq] at havoids
  obtain ⟨⟨hqfirst, hqlast⟩, hqstride⟩ := hq
  rcases havoids with (hbefore | hbehind) | ⟨⟨hrun, hstride⟩, hparity⟩
  · omega
  · omega
  · -- both runs take every other character, and they begin at different parities
    rw [hstride] at hqstride
    simp only [target] at hpos hparity
    rcases hrun with hsingle | hrstride
    · omega
    · rw [hrstride] at hcovers
      omega

end CaseRun

/-! ### The table -/

theorem lowerRuns_mapToLetters : lowerRuns.all CaseRun.mapsToLetters = true := by
  decide +kernel

theorem lowerRuns_avoid : lowerRuns.all (fun r => lowerRuns.all r.avoids) = true := by
  decide +kernel

theorem toLower_ascii : ∀ n < 0x80, (Char.ofNat n).toLower.toNat < 0x80 ∧
    (Char.ofNat n).toLower.toLower = (Char.ofNat n).toLower ∧
      ((Char.ofNat n).toLower = Char.ofNat n ∨ (Char.ofNat n).toLower.isAlphanum = true) := by
  decide +kernel

theorem toLower_small_ascii : ∀ n ≤ 122, 97 ≤ n →
    (Char.ofNat n).toLower = Char.ofNat n ∧ (Char.ofNat n).isAlphanum = true := by
  decide +kernel

/-! ### One character -/

variable {c d : Char}

theorem lowerChar_of_lt (h : c.toNat < 0x80) : lowerChar c = [c.toLower] := if_pos h

theorem mapRuns_eq_self {runs : List CaseRun} (h : ∀ r ∈ runs, r.covers c.toNat = false) :
    mapRuns runs c = c := by
  have hnone : runs.find? (·.covers c.toNat) = none := by simpa [List.find?_eq_none] using h
  rw [mapRuns, hnone]

/-- A character maps to itself or along a run that covers it. -/
theorem mapRuns_cases (runs : List CaseRun) (c : Char) :
    (mapRuns runs c = c ∧ ∀ r ∈ runs, r.covers c.toNat = false) ∨
      ∃ r ∈ runs, r.covers c.toNat = true ∧
        mapRuns runs c = Char.ofNat (c.toNat + r.shift).toNat := by
  cases h : runs.find? (·.covers c.toNat) with
  | none =>
    have hnone : ∀ r ∈ runs, r.covers c.toNat = false := by simpa [List.find?_eq_none] using h
    exact .inl ⟨mapRuns_eq_self hnone, hnone⟩
  | some r =>
    refine .inr ⟨r, List.mem_of_find?_eq_some h, by simpa using List.find?_some h, ?_⟩
    rw [mapRuns, h]

/-- What a run of the table maps to: a scalar value that is no capital with a dot, and a small
letter of ASCII or a letter or number beyond it. -/
theorem letter_of_covers {r : CaseRun} {n m : Nat} (hr : r ∈ lowerRuns)
    (hcovers : r.covers n = true) (hm : (n + r.shift).toNat = m) :
    m.isValidChar ∧ m ≠ 0x130 ∧
      ((97 ≤ m ∧ m ≤ 122) ∨ (0x80 ≤ m ∧ inRanges alphanumericRanges m = true)) := by
  have hletters := List.all_eq_true.mp lowerRuns_mapToLetters r hr
  obtain ⟨hfrom, hto⟩ := CaseRun.mem_target (CaseRun.pos_of_mapsToLetters hletters) hcovers
  rw [hm] at hfrom hto
  simp only [CaseRun.mapsToLetters, Bool.and_eq_true, Bool.or_eq_true, decide_eq_true_eq,
    List.any_eq_true, Nat.ble_eq] at hletters
  obtain ⟨⟨hvalid, hcapital⟩, hrange⟩ := hletters
  refine ⟨by unfold Nat.isValidChar; omega, by omega, ?_⟩
  rcases hrange with hsmall | ⟨hbeyond, range, hmem, hrange⟩
  · exact .inl (by omega)
  · refine .inr ⟨by omega, List.any_eq_true.mpr ⟨range, hmem, ?_⟩⟩
    rw [Bool.and_eq_true, decide_eq_true_eq, decide_eq_true_eq]
    omega

/-- What a run of the table maps to is covered by none of its runs. -/
theorem covers_eq_false_of_covers {r q : CaseRun} {n : Nat} (hr : r ∈ lowerRuns)
    (hq : q ∈ lowerRuns) (hcovers : r.covers n = true) : q.covers (n + r.shift).toNat = false := by
  have hletters := List.all_eq_true.mp lowerRuns_mapToLetters r hr
  have havoids := List.all_eq_true.mp (List.all_eq_true.mp lowerRuns_avoid r hr) q hq
  exact CaseRun.covers_eq_false_of_avoids (CaseRun.pos_of_mapsToLetters hletters) hcovers havoids

/-- What a run of the table maps to is a letter or a number, and in lower case already. -/
theorem isAlphanumeric_and_lowerChar_of_covers {r : CaseRun} {n : Nat} (hr : r ∈ lowerRuns)
    (hcovers : r.covers n = true) (hd : d = Char.ofNat (n + r.shift).toNat) :
    isAlphanumeric d = true ∧ lowerChar d = [d] := by
  obtain ⟨hvalid, hcapital, hletter⟩ := letter_of_covers hr hcovers rfl
  have hnat : d.toNat = (n + r.shift).toNat := by
    rw [hd, Char.ofNat, dif_pos hvalid]
    rfl
  rw [← hnat] at hcapital hletter
  rcases hletter with ⟨hfrom, hto⟩ | ⟨hbeyond, hrange⟩
  · obtain ⟨hlower, halphanum⟩ := toLower_small_ascii d.toNat hto hfrom
    rw [Char.ofNat_toNat] at hlower halphanum
    have hascii : d.toNat < 0x80 := by omega
    exact ⟨by rw [isAlphanumeric, if_pos hascii, halphanum], by rw [lowerChar_of_lt hascii, hlower]⟩
  · have hascii : ¬ d.toNat < 0x80 := by omega
    have hsettled : mapRuns lowerRuns d = d :=
      mapRuns_eq_self fun q hq => by rw [hnat, covers_eq_false_of_covers hr hq hcovers]
    refine ⟨by rw [isAlphanumeric, if_neg hascii, hrange], ?_⟩
    rw [lowerChar, if_neg hascii, if_neg (by simpa using hcapital), hsettled]

/-- Lower case keeps a character that is in lower case, and else makes letters and numbers in lower
case, and once a combining dot. -/
theorem mem_lowerChar_cases (h : d ∈ lowerChar c) :
    lowerChar d = [d] ∧ (d = c ∨ isAlphanumeric d = true ∨ d = '\u0307') := by
  by_cases hascii : c.toNat < 0x80
  · rw [lowerChar_of_lt hascii, List.mem_singleton] at h
    obtain ⟨hlt, hsettled, hcases⟩ := toLower_ascii c.toNat hascii
    rw [Char.ofNat_toNat, ← h] at hlt hsettled hcases
    refine ⟨by rw [lowerChar_of_lt hlt, hsettled], hcases.imp_right fun halphanum => .inl ?_⟩
    rw [isAlphanumeric, if_pos hlt, halphanum]
  · rw [lowerChar, if_neg hascii] at h
    split at h
    · -- the capital with a dot becomes a letter and the dot
      rw [List.mem_cons, List.mem_singleton] at h
      rcases h with rfl | rfl
      · exact ⟨by decide +kernel, .inr (.inl (by decide +kernel))⟩
      · exact ⟨by decide +kernel, .inr (.inr rfl)⟩
    · rename_i hcapital
      obtain rfl := List.mem_singleton.mp h
      rcases mapRuns_cases lowerRuns c with ⟨hself, -⟩ | ⟨r, hr, hcovers, hmap⟩
      · refine ⟨?_, .inl hself⟩
        rw [hself, lowerChar, if_neg hascii, if_neg hcapital, hself]
      · obtain ⟨halphanumeric, hsettled⟩ := isAlphanumeric_and_lowerChar_of_covers hr hcovers hmap
        exact ⟨hsettled, .inr (.inl halphanumeric)⟩

/-- Lower case is settled: writing it in lower case again changes nothing. -/
theorem lowerChar_of_mem_lowerChar (h : d ∈ lowerChar c) : lowerChar d = [d] :=
  (mem_lowerChar_cases h).1

/-- Lower case makes letters, numbers and one combining mark out of other characters. -/
theorem eq_or_isAlphanumeric_of_mem_lowerChar (h : d ∈ lowerChar c) :
    d = c ∨ isAlphanumeric d = true ∨ d = '\u0307' :=
  (mem_lowerChar_cases h).2

end Manuscript.Text.Unicode
