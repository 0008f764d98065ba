import Mathlib.Tactic.SplitIfs
import Manuscript.Proofs.Text.Separators
import Manuscript.Text.Escape

/-!
# Reading character references back

The characters that would be read as markup are written as references, and every reference stands
for one character. So an escaped text holds no markup, and it determines the text that was
escaped.

## Main results

* `escapeTextChar_append_inj`, `escapeAttributeChar_append_inj` — reading one character
* `flatMap_escapeTextChar_eq_self_iff` — when escaping changes nothing
* `lt_notMem_escapeTextChar` — an escaped text begins no tag
* `quote_notMem_escapeAttributeChar` — an escaped value does not end its attribute
* `escapeAttribute_injective` — reading the value of an attribute
-/

namespace Manuscript.Text

variable {c d : Char} {r s : List Char}

/-- In ordinary text a character is written as a reference, or it is none of the characters that are
and stands for itself. -/
theorem escapeTextChar_cases (c : Char) :
    (c = '&' ∧ escapeTextChar c = "&amp;".toList) ∨ (c = '<' ∧ escapeTextChar c = "&lt;".toList) ∨
      (c = '>' ∧ escapeTextChar c = "&gt;".toList) ∨
      (c ≠ '&' ∧ c ≠ '<' ∧ c ≠ '>' ∧ escapeTextChar c = [c]) := by
  unfold escapeTextChar
  split_ifs with hamp hlt hgt
  · exact .inl ⟨hamp, rfl⟩
  · exact .inr (.inl ⟨hlt, rfl⟩)
  · exact .inr (.inr (.inl ⟨hgt, rfl⟩))
  · exact .inr (.inr (.inr ⟨hamp, hlt, hgt, rfl⟩))

/-- A character of ordinary text is told from the text behind it. -/
theorem escapeTextChar_append_inj (h : escapeTextChar c ++ r = escapeTextChar d ++ s) :
    c = d ∧ r = s := by
  -- two references differ behind their ampersand, and no other character begins with one
  unfold escapeTextChar at h
  split_ifs at h <;> grind

theorem escapeTextChar_ne_nil (c : Char) : escapeTextChar c ≠ [] := by
  rcases escapeTextChar_cases c with ⟨-, h⟩ | ⟨-, h⟩ | ⟨-, h⟩ | ⟨-, -, -, h⟩ <;> simp [h]

theorem escapeTextChar_eq_self (h : ¬(c = '&' ∨ c = '<' ∨ c = '>')) : escapeTextChar c = [c] := by
  rcases escapeTextChar_cases c with ⟨rfl, -⟩ | ⟨rfl, -⟩ | ⟨rfl, -⟩ | ⟨-, -, -, hself⟩
  · simp at h
  · simp at h
  · simp at h
  · exact hself

theorem one_lt_length_escapeTextChar (h : c = '&' ∨ c = '<' ∨ c = '>') :
    1 < (escapeTextChar c).length := by
  rcases h with rfl | rfl | rfl <;> decide

/-- Escaping makes no text shorter. -/
theorem length_le_length_flatMap_escapeTextChar (cs : List Char) :
    cs.length ≤ (cs.flatMap escapeTextChar).length := by
  induction cs with
  | nil => exact Nat.le_refl 0
  | cons c cs ih =>
    have hc : 0 < (escapeTextChar c).length :=
      List.length_pos_of_ne_nil (escapeTextChar_ne_nil c)
    simp only [List.flatMap_cons, List.length_append, List.length_cons]
    omega

/-- Escaping leaves a text alone if it has nothing to escape. -/
theorem flatMap_escapeTextChar_eq_self_iff (cs : List Char) :
    cs.flatMap escapeTextChar = cs ↔ ∀ c ∈ cs, ¬(c = '&' ∨ c = '<' ∨ c = '>') := by
  induction cs with
  | nil => simp
  | cons c cs ih =>
    rw [List.flatMap_cons, List.forall_mem_cons, ← ih]
    by_cases hc : c = '&' ∨ c = '<' ∨ c = '>'
    · -- the reference is longer than the character, and nothing behind it makes up for that
      refine iff_of_false (fun h => ?_) (fun h => h.1 hc)
      have hlength := congrArg List.length h
      have hfirst := one_lt_length_escapeTextChar hc
      have hrest := length_le_length_flatMap_escapeTextChar cs
      simp only [List.length_append, List.length_cons] at hlength
      omega
    · rw [escapeTextChar_eq_self hc, List.singleton_append, List.cons_inj_right]
      exact (and_iff_right hc).symm

/-- Escaped text begins no tag. -/
theorem lt_notMem_escapeTextChar (c : Char) : '<' ∉ escapeTextChar c := by
  rcases escapeTextChar_cases c with ⟨-, h⟩ | ⟨-, h⟩ | ⟨-, h⟩ | ⟨-, hlt, -, h⟩
  · rw [h]; decide
  · rw [h]; decide
  · rw [h]; decide
  · rw [h, List.mem_singleton]
    exact Ne.symm hlt

/-- In the value of an attribute a character is written as in ordinary text, apart from the
quote. -/
theorem escapeAttributeChar_cases (c : Char) :
    (c = '"' ∧ escapeAttributeChar c = "&quot;".toList) ∨
      (c ≠ '"' ∧ escapeAttributeChar c = escapeTextChar c) := by
  unfold escapeAttributeChar
  split_ifs with hquote
  · exact .inl ⟨hquote, rfl⟩
  · exact .inr ⟨hquote, rfl⟩

/-- No character of ordinary text is written like a quote in a value. -/
theorem quot_append_ne_escapeTextChar_append (r s : List Char) :
    "&quot;".toList ++ r ≠ escapeTextChar c ++ s := by
  intro h
  rcases escapeTextChar_cases c with ⟨-, heq⟩ | ⟨-, heq⟩ | ⟨-, heq⟩ | ⟨hamp, -, -, heq⟩
  · simp [heq] at h
  · simp [heq] at h
  · simp [heq] at h
  · rw [heq] at h
    exact hamp (List.cons.inj h).1.symm

/-- A character of a value is told from the text behind it. -/
theorem escapeAttributeChar_append_inj
    (h : escapeAttributeChar c ++ r = escapeAttributeChar d ++ s) : c = d ∧ r = s := by
  rcases escapeAttributeChar_cases c with ⟨hquote, hc⟩ | ⟨hne, hc⟩ <;>
    rcases escapeAttributeChar_cases d with ⟨hquote', hd⟩ | ⟨hne', hd⟩ <;> rw [hc, hd] at h
  · exact ⟨hquote.trans hquote'.symm, List.append_cancel_left h⟩
  · exact absurd h (quot_append_ne_escapeTextChar_append _ _)
  · exact absurd h.symm (quot_append_ne_escapeTextChar_append _ _)
  · exact escapeTextChar_append_inj h

theorem escapeAttributeChar_ne_nil (c : Char) : escapeAttributeChar c ≠ [] := by
  rcases escapeAttributeChar_cases c with ⟨-, h⟩ | ⟨-, h⟩
  · simp [h]
  · rw [h]
    exact escapeTextChar_ne_nil c

/-- An escaped value does not end its attribute. -/
theorem quote_notMem_escapeAttributeChar (c : Char) : '"' ∉ escapeAttributeChar c := by
  rcases escapeAttributeChar_cases c with ⟨-, h⟩ | ⟨hne, h⟩
  · rw [h]; decide
  · rw [h]
    rcases escapeTextChar_cases c with ⟨-, heq⟩ | ⟨-, heq⟩ | ⟨-, heq⟩ | ⟨-, -, -, heq⟩
    · rw [heq]; decide
    · rw [heq]; decide
    · rw [heq]; decide
    · rw [heq, List.mem_singleton]
      exact Ne.symm hne

theorem quote_notMem_escapeAttribute (value : String) : '"' ∉ (escapeAttribute value).toList := by
  rw [escapeAttribute, String.toList_ofList]
  intro hmem
  obtain ⟨c, -, hc⟩ := List.mem_flatMap.mp hmem
  exact quote_notMem_escapeAttributeChar c hc

/-- An escaped value determines the value. -/
theorem escapeAttribute_injective {value other : String}
    (h : escapeAttribute value = escapeAttribute other) : value = other := by
  have hchars := flatMap_inj_of_append_inj (fun c _ => escapeAttributeChar_ne_nil c)
    (fun c _ => escapeAttributeChar_ne_nil c)
    (fun c _ d _ r s heq => escapeAttributeChar_append_inj heq) (String.ofList_injective h)
  exact String.toList_inj.mp hchars

end Manuscript.Text
