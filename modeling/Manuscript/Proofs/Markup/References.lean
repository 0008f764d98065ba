import Manuscript.Markup.Token
import Manuscript.Proofs.Text.Escape

/-!
# Reading escaped text

A character that is escaped is written as a reference to it, and all other characters stand for
themselves. So a text is read back from its escaped form where references are replaced.

## Main results

* `reference?_escapeTextChar` — reading the reference to a character
* `decodeReferences_escapeText` — reading an escaped text
-/

namespace Manuscript.Markup

open Text (escapeTextChar)

variable {c : Char} {letters rest : List Char}

/-- A character that is escaped is written as a reference to it. -/
theorem reference?_escapeTextChar (h : c = '&' ∨ c = '<' ∨ c = '>') :
    ∃ letters, escapeTextChar c = '&' :: letters ∧
      ∀ rest, reference? false (letters ++ rest) = some (letters.length, [c]) := by
  rcases h with rfl | rfl | rfl
  · exact ⟨"amp;".toList, rfl, fun _ => rfl⟩
  · exact ⟨"lt;".toList, rfl, fun _ => rfl⟩
  · exact ⟨"gt;".toList, rfl, fun _ => rfl⟩

/-- The letters of a reference are passed over. -/
theorem decodeReferencesFrom_length (inAttribute : Bool) (letters rest : List Char) :
    decodeReferencesFrom inAttribute letters.length (letters ++ rest) =
      decodeReferencesFrom inAttribute 0 rest := by
  induction letters with
  | nil => rfl
  | cons letter letters ih => exact ih

/-- A character is read from its escaped form. -/
theorem decodeReferencesFrom_escapeTextChar (c : Char) (rest : List Char) :
    decodeReferencesFrom false 0 (escapeTextChar c ++ rest) =
      c :: decodeReferencesFrom false 0 rest := by
  by_cases hc : c = '&' ∨ c = '<' ∨ c = '>'
  · obtain ⟨letters, hletters, href⟩ := reference?_escapeTextChar hc
    rw [hletters, List.cons_append, decodeReferencesFrom, if_pos rfl, href]
    exact congrArg (c :: ·) (decodeReferencesFrom_length false letters rest)
  · have hamp : c ≠ '&' := fun h => hc (.inl h)
    rw [Text.escapeTextChar_eq_self hc, List.singleton_append, decodeReferencesFrom, if_neg hamp]

/-- A text is read back from its escaped form. -/
theorem decodeReferences_escapeText (value : String) :
    decodeReferences false (Text.escapeText value).toList = value.toList := by
  rw [Text.escapeText, String.toList_ofList, decodeReferences]
  induction value.toList with
  | nil => rfl
  | cons c cs ih => rw [List.flatMap_cons, decodeReferencesFrom_escapeTextChar, ih]

end Manuscript.Markup
