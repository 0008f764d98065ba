import Manuscript.Document.Html
import Manuscript.Proofs.Markup.References

/-!
# Texts in elements of raw text

The text of an element is escaped when it is written, and in a script or a style sheet it is written
as it stands. A reader that takes the text of more elements as it stands has the references that a
text was written with become part of the text there: it is read back only if nothing in it is
escaped.

## Main definitions

* `Node.textWithin` — how a text is written that is a child of an element
* `rawTextNames`, `fallbackNames` — the elements of raw text, and those that are no scripts or style
  sheets
* `Node.IsWrittenAsRead` — a text is escaped if and only if references are read in its element
* `ReadsText` — a reader that takes the content of an element in the way of its kind

## Main results

* `htmlWithin_text` — where a text stands in the HTML of its element
* `textWithin_read_iff` — which texts are written as they are read
-/

namespace Manuscript

/-- The elements whose content is text as it stands, where they stand in the body. -/
def rawTextNames : List String :=
  ["script", "style", "xmp", "iframe", "noembed", "noframes", "noscript"]

/-- The elements of raw text that stand for what cannot be shown. -/
def fallbackNames : List String := ["xmp", "iframe", "noembed", "noframes", "noscript"]

theorem rawTextNames_eq : rawTextNames = verbatimElements ++ fallbackNames := rfl

/-- A reader finds the text of an element in its content: the content itself in an element of raw
text, and the content with its references replaced in all others. -/
structure ReadsText (read : String → String → String) (tag content : String) : Prop where
  /-- Raw text is taken as it stands. -/
  raw : tag ∈ rawTextNames → read tag content = content
  /-- Elsewhere references are read. -/
  ordinary : tag ∉ rawTextNames →
    read tag content = String.ofList (Markup.decodeReferences false content.toList)

/-- The text in the content of an element, where all of the content is text. -/
def contentText (tag content : String) : String :=
  if tag ∈ rawTextNames then content
  else String.ofList (Markup.decodeReferences false content.toList)

theorem readsText_contentText (tag content : String) : ReadsText contentText tag content :=
  ⟨fun h => if_pos h, fun h => if_neg h⟩

/-- No character of a text is escaped. -/
def IsUnescaped (value : String) : Prop := ∀ c ∈ value.toList, ¬(c = '&' ∨ c = '<' ∨ c = '>')

theorem escapeText_eq_self_iff {value : String} :
    Text.escapeText value = value ↔ IsUnescaped value := by
  rw [IsUnescaped, ← Text.flatMap_escapeTextChar_eq_self_iff, Text.escapeText, ← String.toList_inj,
    String.toList_ofList]

namespace Node

variable {tag value : String}

/-- How a text is written that is a child of an element. -/
def textWithin (tag value : String) : String :=
  leafToHtml (verbatimElements.contains tag) .text value

/-- A text is written as it stands if its element is one of raw text, and escaped in all others. -/
def IsWrittenAsRead (tag value : String) : Prop :=
  textWithin tag value = if tag ∈ rawTextNames then value else Text.escapeText value

theorem htmlAll_append (verbatim : Bool) (ns ms : List Node) :
    htmlAll verbatim (ns ++ ms) = htmlAll verbatim ns ++ htmlAll verbatim ms := by
  induction ns with
  | nil => simp [htmlAll]
  | cons n ns ih => simp [htmlAll, ih, String.append_assoc]

/-- A text stands among the other children of its element, wherever the element is. -/
theorem htmlWithin_text (verbatim : Bool) (tag : String) (attributes : Attributes)
    (before after : List Node) (value : String) :
    htmlWithin verbatim (.element tag attributes (before ++ .leaf .text value :: after)) =
      "<" ++ tag ++ Attributes.entriesToHtml attributes.entries ++ ">" ++
        (if voidElements.contains tag then ""
         else htmlAll (verbatimElements.contains tag) before ++ textWithin tag value ++
          htmlAll (verbatimElements.contains tag) after ++ "</" ++ tag ++ ">") := by
  simp only [htmlWithin, htmlAll_append, htmlAll, textWithin, String.append_assoc]

/-- How the content of an element is read and how its texts are written fit together in three
ways. -/
theorem textWithin_cases (tag value : String) :
    (tag ∈ rawTextNames ∧ tag ∉ fallbackNames ∧ textWithin tag value = value) ∨
      (tag ∈ rawTextNames ∧ tag ∈ fallbackNames ∧ textWithin tag value = Text.escapeText value) ∨
      (tag ∉ rawTextNames ∧ tag ∉ fallbackNames ∧
        textWithin tag value = Text.escapeText value) := by
  have hdisjoint : ∀ name ∈ verbatimElements, name ∉ fallbackNames := by decide
  rw [rawTextNames_eq, List.mem_append, textWithin, leafToHtml]
  by_cases hverbatim : tag ∈ verbatimElements
  · simp [hverbatim, hdisjoint tag hverbatim]
  · by_cases hfallback : tag ∈ fallbackNames
    · simp [hverbatim, hfallback]
    · simp [hverbatim, hfallback]

theorem isWrittenAsRead_iff :
    IsWrittenAsRead tag value ↔ (tag ∈ fallbackNames → IsUnescaped value) := by
  rw [IsWrittenAsRead]
  rcases textWithin_cases tag value with ⟨hraw, hfallback, heq⟩ | ⟨hraw, hfallback, heq⟩ |
    ⟨hraw, hfallback, heq⟩
  · simp [heq, hraw, hfallback]
  · rw [heq, if_pos hraw, escapeText_eq_self_iff]
    exact ⟨fun h _ => h, fun h => h hfallback⟩
  · simp [heq, hraw, hfallback]

/-- A text is read back from what is written for it unless its references are taken as text. -/
theorem read_textWithin_iff {read : String → String → String}
    (h : ReadsText read tag (textWithin tag value)) :
    read tag (textWithin tag value) = value ↔ (tag ∈ fallbackNames → IsUnescaped value) := by
  rcases textWithin_cases tag value with ⟨hraw, hfallback, heq⟩ | ⟨hraw, hfallback, heq⟩ |
    ⟨hraw, hfallback, heq⟩
  · exact iff_of_true ((h.raw hraw).trans heq) (absurd · hfallback)
  · rw [h.raw hraw, heq, escapeText_eq_self_iff]
    exact ⟨fun h _ => h, fun h => h hfallback⟩
  · rw [h.ordinary hraw, heq, Markup.decodeReferences_escapeText, String.ofList_toList]
    exact iff_of_true rfl (absurd · hfallback)

/-- Among the other children of its element, a text is written as it stands in scripts and style
sheets and escaped in all other elements that have an end tag. It is escaped exactly where
references are read if and only if it does not stand in another element of raw text or has no
character that is escaped. A reader that takes what is written for the text in the way of the
element reads the text back in the same cases. -/
theorem textWithin_read_iff (tag : String) (attributes : Attributes) (before after : List Node)
    (value : String) :
    (∀ verbatim, htmlWithin verbatim
        (.element tag attributes (before ++ .leaf .text value :: after)) =
      "<" ++ tag ++ Attributes.entriesToHtml attributes.entries ++ ">" ++
        (if voidElements.contains tag then ""
         else htmlAll (verbatimElements.contains tag) before ++ textWithin tag value ++
          htmlAll (verbatimElements.contains tag) after ++ "</" ++ tag ++ ">")) ∧
      (IsWrittenAsRead tag value ↔ (tag ∈ fallbackNames → IsUnescaped value)) ∧
      ∀ read, ReadsText read tag (textWithin tag value) →
        (read tag (textWithin tag value) = value ↔ (tag ∈ fallbackNames → IsUnescaped value)) :=
  ⟨fun verbatim => htmlWithin_text verbatim tag attributes before after value, isWrittenAsRead_iff,
    fun _ => read_textWithin_iff⟩

/-- The text of a script is read back. -/
theorem textWithin_read_iff_script :
    ReadsText contentText "script" (textWithin "script" "a < b") ∧
      contentText "script" (textWithin "script" "a < b") = "a < b" := by
  have hreads := readsText_contentText "script" (textWithin "script" "a < b")
  have hscript : "script" ∉ fallbackNames := by decide
  exact ⟨hreads, ((textWithin_read_iff "script" {} [] [] "a < b").2.2 contentText hreads).mpr
    (absurd · hscript)⟩

/-- Text for readers without scripts is escaped, and is not read back. -/
theorem not_isWrittenAsRead_noscript :
    ¬IsWrittenAsRead "noscript" "a & b" ∧
      contentText "noscript" (textWithin "noscript" "a & b") ≠ "a & b" := by
  have hreads := readsText_contentText "noscript" (textWithin "noscript" "a & b")
  have hnot : ¬("noscript" ∈ fallbackNames → IsUnescaped "a & b") :=
    fun h => h (by decide) '&' (by decide) (.inl rfl)
  exact ⟨mt isWrittenAsRead_iff.mp hnot, mt (read_textWithin_iff hreads).mp hnot⟩

end Node

end Manuscript
