import Manuscript.Proofs.Text.Escape
import Manuscript.Proofs.Text.LowerCase
import Manuscript.Text.Slug

/-!
# Characters of slugs

A slug keeps some characters of its text and writes them in lower case. Lower case makes kept
characters only, and it is settled, so every character of a slug is kept as it is when the slug is
taken for a text. The slugs are therefore the texts that are their own slugs: headings that are
called like an existing slug find the same id.

No character of a slug is one that a reader of markup would stumble over.

## Main definitions

* `IsSettledSlugChar` — the characters that a slug keeps as they are

## Main results

* `isSettledSlugChar_of_mem_slugifyChar` — what a character contributes to a slug
* `slugify_eq_self_iff` — the texts that are their own slugs
* `escapeAttribute_link_slugify` — a link to a slug is written as it is
* `slugify_spec` — all of this for the slug of a text
-/

namespace Manuscript.Text

open Unicode (isAlphanumeric lowerChar)

variable {c d : Char} {text : String}

/-- A character that a slug keeps as it is: one that it keeps, in lower case. -/
def IsSettledSlugChar (c : Char) : Prop := isSlugChar c = true ∧ lowerChar c = [c]

theorem isSlugChar_iff :
    isSlugChar c = true ↔ c = '-' ∨ c = '_' ∨ isAlphanumeric c = true ∨ isSlugMark c = true := by
  simp only [isSlugChar, Bool.or_eq_true, decide_eq_true_eq, or_assoc]

/-! ### One character -/

theorem isSlugChar_of_mem_lowerChar (hc : isSlugChar c = true) (hd : d ∈ lowerChar c) :
    isSlugChar d = true := by
  rcases Unicode.eq_or_isAlphanumeric_of_mem_lowerChar hd with rfl | halphanumeric | rfl
  · exact hc
  · exact isSlugChar_iff.mpr (.inr (.inr (.inl halphanumeric)))
  · decide +kernel

/-- What a character contributes to a slug is kept as it is by another. -/
theorem isSettledSlugChar_of_mem_slugifyChar (h : d ∈ slugifyChar c) : IsSettledSlugChar d := by
  unfold slugifyChar at h
  split at h
  · obtain rfl := List.mem_singleton.mp h
    exact ⟨by decide, by decide⟩
  · split at h
    · rename_i hkept
      exact ⟨isSlugChar_of_mem_lowerChar hkept h, Unicode.lowerChar_of_mem_lowerChar h⟩
    · cases h

theorem isSlugChar_space : isSlugChar ' ' = false := by decide +kernel

theorem slugifyChar_of_isSettledSlugChar (h : IsSettledSlugChar c) : slugifyChar c = [c] := by
  have hspace : c ≠ ' ' := by
    rintro rfl
    exact Bool.false_ne_true (isSlugChar_space.symm.trans h.1)
  rw [slugifyChar, if_neg hspace, if_pos h.1, h.2]

/-- The characters that are written otherwise in the value of an attribute are in no slug. -/
theorem isSlugChar_of_escaped (h : c = '"' ∨ c = '&' ∨ c = '<' ∨ c = '>') :
    isSlugChar c = false := by
  rcases h with rfl | rfl | rfl | rfl <;> decide +kernel

theorem escapeAttributeChar_of_isSlugChar (h : isSlugChar c = true) :
    escapeAttributeChar c = [c] := by
  have hnot : ¬(c = '"' ∨ c = '&' ∨ c = '<' ∨ c = '>') := by
    intro hescaped
    exact Bool.false_ne_true ((isSlugChar_of_escaped hescaped).symm.trans h)
  obtain ⟨hquote, hmarkup⟩ := not_or.mp hnot
  rw [escapeAttributeChar, if_neg hquote, escapeTextChar_eq_self hmarkup]

/-! ### Texts -/

theorem toList_slugify : (slugify text).toList = text.toList.flatMap slugifyChar :=
  String.toList_ofList

/-- Every character of a slug is one that a slug keeps as it is. -/
theorem isSettledSlugChar_of_mem_slugify (h : d ∈ (slugify text).toList) :
    IsSettledSlugChar d := by
  rw [toList_slugify] at h
  obtain ⟨c, -, hd⟩ := List.mem_flatMap.mp h
  exact isSettledSlugChar_of_mem_slugifyChar hd

private theorem flatMap_eq_self {f : Char → List Char} {cs : List Char}
    (h : ∀ c ∈ cs, f c = [c]) : cs.flatMap f = cs := by
  rw [List.flatMap_congr h, List.flatMap_singleton']

/-- The texts that are their own slugs are those of characters that a slug keeps as they are. -/
theorem slugify_eq_self_iff : slugify text = text ↔ ∀ c ∈ text.toList, IsSettledSlugChar c := by
  constructor
  · intro h c hc
    rw [← h] at hc
    exact isSettledSlugChar_of_mem_slugify hc
  · intro h
    rw [slugify, flatMap_eq_self fun c hc => slugifyChar_of_isSettledSlugChar (h c hc),
      String.ofList_toList]

/-- A slug is the slug of itself. -/
theorem slugify_slugify (text : String) : slugify (slugify text) = slugify text :=
  slugify_eq_self_iff.mpr fun _ => isSettledSlugChar_of_mem_slugify

/-- A link to a slug is written as it is in the value of an attribute. -/
theorem escapeAttribute_link_slugify (text : String) :
    escapeAttribute ("#" ++ slugify text) = "#" ++ slugify text := by
  have hchars : ∀ c ∈ ("#" ++ slugify text).toList, escapeAttributeChar c = [c] := by
    intro c hc
    rw [String.toList_append, List.mem_append] at hc
    rcases hc with hhash | hslug
    · obtain rfl := List.mem_singleton.mp hhash
      rfl
    · exact escapeAttributeChar_of_isSlugChar (isSettledSlugChar_of_mem_slugify hslug).1
  rw [escapeAttribute, flatMap_eq_self hchars, String.ofList_toList]

/-- Every character of a slug is a hyphen, an underscore, a letter or number, or a combining mark. A
slug is the slug of itself, and in general a text is its own slug if and only if it has nothing but
such characters in lower case. A link to a slug has nothing to escape. -/
theorem slugify_spec (text : String) :
    (∀ c ∈ (slugify text).toList,
        c = '-' ∨ c = '_' ∨ isAlphanumeric c = true ∨ isSlugMark c = true) ∧
      slugify (slugify text) = slugify text ∧
      (slugify text = text ↔ ∀ c ∈ text.toList, isSlugChar c = true ∧ lowerChar c = [c]) ∧
      escapeAttribute ("#" ++ slugify text) = "#" ++ slugify text :=
  ⟨fun _ hc => isSlugChar_iff.mp (isSettledSlugChar_of_mem_slugify hc).1, slugify_slugify text,
    slugify_eq_self_iff, escapeAttribute_link_slugify text⟩

end Manuscript.Text
