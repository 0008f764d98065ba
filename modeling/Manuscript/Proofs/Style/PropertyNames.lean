import Mathlib.Data.Set.Function
import Manuscript.Proofs.Style.ObjectLiteral

/-!
# Property names in camel case

The name of a style property is made of words with hyphens between them, and those of vendors have
one more hyphen in front. Camel case takes the hyphens away and raises the letters behind them. As
no letter of such a name is upper case by itself, each one in the key stands for a hyphen and its
lower case, so that the name can be read off the key. Different properties have different keys.

## Main definitions

* `IsWord`, `IsHyphenated`, `IsPropertyName` — the names of properties
* `hyphenate` — hyphens in place of upper case

## Main results

* `hyphenate_camelCaseFrom` — the rest of a name, in whatever state camel case comes to it
* `hyphenate_camelCase` — names can be read back, and no two of them have the same key
-/

namespace Manuscript.Style

/-- A word of a name: a lower-case letter, and letters and digits behind it. -/
inductive IsWord : List Char → Prop
  /-- A letter and what follows it. -/
  | mk {c : Char} {rest : List Char} (hfirst : c.isLower = true)
      (hrest : ∀ d ∈ rest, d.isLower = true ∨ d.isDigit = true) : IsWord (c :: rest)

/-- One word or more, with single hyphens between them. -/
inductive IsHyphenated : List Char → Prop
  /-- One word. -/
  | word {word : List Char} (hword : IsWord word) : IsHyphenated word
  /-- A word before others. -/
  | hyphen {word rest : List Char} (hword : IsWord word) (hrest : IsHyphenated rest) :
      IsHyphenated (word ++ '-' :: rest)

/-- The name of a property. -/
inductive IsPropertyName : List Char → Prop
  /-- The name of a common property. -/
  | common {name : List Char} (h : IsHyphenated name) : IsPropertyName name
  /-- The name of a vendor's property, with a hyphen in front. -/
  | vendor {name : List Char} (h : IsHyphenated name) : IsPropertyName ('-' :: name)

/-- Each upper-case letter replaced by a hyphen and its lower case. -/
def hyphenate (cs : List Char) : List Char :=
  cs.flatMap fun c => if c.isUpper then ['-', c.toLower] else [c]

variable {name word cs : List Char} {c : Char}

/-! ### Characters -/

/-- What stands in a word is neither a hyphen nor upper case. -/
theorem ne_hyphen_and_isUpper_eq_false (h : c.isLower = true ∨ c.isDigit = true) :
    c ≠ '-' ∧ c.isUpper = false := by
  have hrange : (97 ≤ c.toNat ∧ c.toNat ≤ 122) ∨ (48 ≤ c.toNat ∧ c.toNat ≤ 57) := by
    rcases h with hlower | hdigit
    · obtain ⟨hfrom, hto⟩ := Bool.and_eq_true_iff.mp hlower
      exact .inl ⟨of_decide_eq_true hfrom, of_decide_eq_true hto⟩
    · obtain ⟨hfrom, hto⟩ := Bool.and_eq_true_iff.mp hdigit
      exact .inr ⟨of_decide_eq_true hfrom, of_decide_eq_true hto⟩
  constructor
  · rintro rfl
    exact absurd hrange (by decide)
  · rw [Bool.eq_false_iff]
    intro hupper
    have hcapital : 65 ≤ c.toNat ∧ c.toNat ≤ 90 := of_decide_eq_true hupper
    omega

/-! ### Hyphens in place of upper case -/

theorem hyphenate_append (cs ds : List Char) : hyphenate (cs ++ ds) = hyphenate cs ++ hyphenate ds :=
  List.flatMap_append

/-- What has no upper case in it stays as it is. -/
theorem hyphenate_eq_self (h : ∀ c ∈ cs, c.isUpper = false) : hyphenate cs = cs := by
  induction cs with
  | nil => rfl
  | cons c rest ih =>
    obtain ⟨hc, hrest⟩ := List.forall_mem_cons.mp h
    rw [hyphenate, List.flatMap_cons, hc, ← hyphenate, ih hrest]
    rfl

/-- A raised letter gives a hyphen and the letter. -/
theorem hyphenate_upperChar (h : c.isLower = true) :
    hyphenate (Text.Unicode.upperChar c) = ['-', c] := by
  obtain ⟨upper, heq, hupper, hlower⟩ := Text.Unicode.upperChar_of_isLower h
  rw [heq, hyphenate, List.flatMap_singleton, if_pos hupper, hlower]

/-! ### Names -/

/-- Characters that are no hyphens are written as they are while none is to be raised. -/
theorem camelCaseFrom_append (h : ∀ c ∈ cs, c ≠ '-') (rest : List Char) :
    camelCaseFrom true false (cs ++ rest) = cs ++ camelCaseFrom true false rest := by
  induction cs with
  | nil => rfl
  | cons c others ih =>
    obtain ⟨hc, hothers⟩ := List.forall_mem_cons.mp h
    rw [List.cons_append, camelCaseFrom, if_neg hc, ih hothers]
    rfl

/-- A word can be read back, with a hyphen in front if its letter is to be raised. -/
theorem hyphenate_camelCaseFrom_append (h : IsWord word) (started raised : Bool) (rest : List Char) :
    hyphenate (camelCaseFrom started raised (word ++ rest)) =
      (if raised then '-' :: word else word) ++ hyphenate (camelCaseFrom true false rest) := by
  obtain @⟨c, others, hfirst, hothers⟩ := h
  have hc := ne_hyphen_and_isUpper_eq_false (.inl hfirst)
  have hplain : hyphenate [c] = [c] := hyphenate_eq_self (List.forall_mem_singleton.mpr hc.2)
  have hsame : hyphenate others = others :=
    hyphenate_eq_self fun d hd => (ne_hyphen_and_isUpper_eq_false (hothers d hd)).2
  rw [List.cons_append, camelCaseFrom, if_neg hc.1,
    camelCaseFrom_append fun d hd => (ne_hyphen_and_isUpper_eq_false (hothers d hd)).1,
    hyphenate_append, hyphenate_append, hsame]
  cases raised with
  | true => rw [if_pos rfl, if_pos rfl, hyphenate_upperChar hfirst]; rfl
  | false => rw [if_neg Bool.false_ne_true, if_neg Bool.false_ne_true, hplain]; rfl

/-- What is written for the rest of a name can be read back. That a letter is to be raised stands for
the hyphen that was read in front of it. -/
theorem hyphenate_camelCaseFrom (h : IsHyphenated name) (started raised : Bool) :
    hyphenate (camelCaseFrom started raised name) = if raised then '-' :: name else name := by
  induction h generalizing started raised with
  | @word word hword =>
    have hread := hyphenate_camelCaseFrom_append hword started raised []
    rw [List.append_nil] at hread
    exact hread.trans (List.append_nil _)
  | @hyphen word rest hword _ ih =>
    -- the hyphen behind the word raises what follows
    rw [hyphenate_camelCaseFrom_append hword, camelCaseFrom, if_pos rfl, ih, if_pos rfl]
    cases raised <;> rfl

theorem IsHyphenated.exists_eq_cons (h : IsHyphenated name) :
    ∃ c rest, name = c :: rest ∧ c ≠ '-' := by
  have hword {word : List Char} (h : IsWord word) : ∃ c rest, word = c :: rest ∧ c ≠ '-' := by
    obtain ⟨hfirst, -⟩ := h
    exact ⟨_, _, rfl, (ne_hyphen_and_isUpper_eq_false (.inl hfirst)).1⟩
  cases h with
  | word h => exact hword h
  | hyphen h _ =>
    obtain ⟨c, rest, rfl, hc⟩ := hword h
    exact ⟨c, _, rfl, hc⟩

theorem hyphenate_camelCaseChars (h : IsPropertyName name) :
    hyphenate (camelCaseChars name) = name := by
  cases h with
  | common h =>
    obtain ⟨c, rest, rfl, hc⟩ := h.exists_eq_cons
    have hfirst : camelCaseChars (c :: rest) = camelCaseFrom false false (c :: rest) := by
      rw [camelCaseChars]
      intro _ heq
      exact hc (List.cons.inj heq).1
    rw [hfirst, hyphenate_camelCaseFrom h]
    rfl
  | vendor h =>
    -- the hyphen in front is read off the first letter of the key
    exact hyphenate_camelCaseFrom h false true

/-- The name of a property is not taken for that of a custom one. -/
theorem IsPropertyName.key_eq (h : IsPropertyName name) :
    Declarations.key name = camelCaseChars name := by
  refine ((key_cases name).resolve_left fun hcustom => ?_).2
  obtain ⟨rest, heq⟩ := hcustom.1
  cases h with
  | common h =>
    obtain ⟨c, others, rfl, hc⟩ := h.exists_eq_cons
    exact hc (List.cons.inj heq).1.symm
  | @vendor name h =>
    obtain ⟨c, others, rfl, hc⟩ := h.exists_eq_cons
    exact hc (List.cons.inj (List.cons.inj heq).2).1.symm

/-- A property name in camel case can be read back: each upper-case letter stands for a hyphen and its
lower case. So two different names never get the same key in an object. -/
theorem hyphenate_camelCase :
    (∀ name : String, IsPropertyName name.toList →
        hyphenate (camelCase name).toList = name.toList) ∧
      Set.InjOn Declarations.key {name | IsPropertyName name} := by
  constructor
  · intro name h
    rw [camelCase, String.toList_ofList, hyphenate_camelCaseChars h]
  · intro name h other hother heq
    rw [h.key_eq, hother.key_eq] at heq
    rw [← hyphenate_camelCaseChars h, heq, hyphenate_camelCaseChars hother]

theorem isHyphenated_lineClamp : IsHyphenated "webkit-line-clamp".toList := by
  have hword (c : Char) (rest : List Char) (h : (c :: rest).all Char.isLower = true) :
      IsWord (c :: rest) := by
    obtain ⟨hfirst, hrest⟩ := List.forall_mem_cons.mp (List.all_eq_true.mp h)
    exact ⟨hfirst, fun d hd => .inl (hrest d hd)⟩
  exact .hyphen (hword 'w' "ebkit".toList (by decide))
    (.hyphen (hword 'l' "ine".toList (by decide)) (.word (hword 'c' "lamp".toList (by decide))))

/-- The name of a vendor's property can be read back, and the property without a vendor has another
key. -/
theorem hyphenate_camelCase_lineClamp :
    IsPropertyName "-webkit-line-clamp".toList ∧ IsPropertyName "webkit-line-clamp".toList ∧
      hyphenate (camelCase "-webkit-line-clamp").toList = "-webkit-line-clamp".toList ∧
      Declarations.key "-webkit-line-clamp".toList ≠ Declarations.key "webkit-line-clamp".toList := by
  have hvendor : IsPropertyName "-webkit-line-clamp".toList := .vendor isHyphenated_lineClamp
  have hcommon : IsPropertyName "webkit-line-clamp".toList := .common isHyphenated_lineClamp
  refine ⟨hvendor, hcommon, hyphenate_camelCase.1 "-webkit-line-clamp" hvendor, fun heq => ?_⟩
  exact absurd (hyphenate_camelCase.2 hvendor hcommon heq) (by decide)

end Manuscript.Style
