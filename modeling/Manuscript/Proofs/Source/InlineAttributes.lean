import Manuscript.Proofs.Source.Segment
import Manuscript.Proofs.Text.Split
import Manuscript.Source.InlineAttributes

/-!
# Rewriting attributes segment by segment

Attributes are rewritten in the prose of a source only. Text that holds no attribute to rewrite
stays as it is, so that a source that mentions none may be left alone altogether.

## Main results

* `rewriteStyles_eq_self`, `rewriteClasses_eq_self` — text without attributes
* `toList_rewriteInlineAttributes` — what becomes of a source, segment by segment
* `rewriteInlineAttributes_partition` — how a source is cut, and what is copied
-/

namespace Manuscript.Source

open Text (containsInfix containsInfix_iff flatten_linesInclusive)

variable {prose source : List Char}

/-- The beginning of a style attribute. -/
abbrev styleOpening : List Char := "style=\"".toList

/-- The beginning of a class attribute. -/
abbrev classOpening : List Char := "class=\"".toList

/-! ### Text without attributes -/

theorem styleAttribute?_eq_none (h : ¬ styleOpening <+: prose) : styleAttribute? prose = none := by
  rw [styleAttribute?, Option.not_isSome_iff_eq_none.mp (mt Text.stripPrefix_isSome_iff.mp h)]
  rfl

theorem rewriteStylesFrom_eq_self (h : ¬ styleOpening <:+: prose) (here : Bool) :
    rewriteStylesFrom here 0 prose = prose := by
  induction prose generalizing here with
  | nil => rfl
  | cons c rest ih =>
    obtain ⟨hbegins, hrest⟩ := not_or.mp (mt List.infix_cons_iff.mpr h)
    rw [rewriteStylesFrom, styleAttribute?_eq_none hbegins, ite_self]
    exact congrArg (c :: ·) (ih hrest (precedesAttribute c))

theorem rewriteStyles_eq_self (h : ¬ styleOpening <:+: prose) : rewriteStyles prose = prose :=
  rewriteStylesFrom_eq_self h true

theorem rewriteClassesFrom_eq_self (h : ¬ classOpening <:+: prose) (here : Bool) :
    rewriteClassesFrom here 0 prose = prose := by
  induction prose generalizing here with
  | nil => rfl
  | cons c rest ih =>
    obtain ⟨hbegins, hrest⟩ := not_or.mp (mt List.infix_cons_iff.mpr h)
    have hnone : (classAttribute? (c :: rest)).isSome = false :=
      Bool.eq_false_iff.mpr (mt Text.stripPrefix_isSome_iff.mp hbegins)
    rw [rewriteClassesFrom, hnone, Bool.and_false, if_neg Bool.false_ne_true,
      ih hrest (precedesAttribute c)]

theorem rewriteClasses_eq_self (h : ¬ classOpening <:+: prose) : rewriteClasses prose = prose :=
  rewriteClassesFrom_eq_self h true

/-! ### Segments of a source -/

/-- Segments that cut a source have all of its text. -/
theorem flatMap_text_of_isPartition {segments : List Segment} (h : IsPartition source segments) :
    segments.flatMap Segment.text = source := by
  have hlines : Segment.text = fun s : Segment => s.lines.flatten :=
    funext fun s => (flatten_linesInclusive s.text).symm
  have hflatten : segments.flatMap Segment.text = (segments.flatMap Segment.lines).flatten := by
    rw [hlines, List.flatMap_def, List.flatMap_def, List.flatten_flatten, List.map_map]
    rfl
  rw [hflatten, h.lines_eq, flatten_linesInclusive]

theorem flatMap_text_ofSource (source : List Char) :
    (Segment.ofSource source).flatMap Segment.text = source :=
  flatMap_text_of_isPartition (isPartition_iff.mpr rfl)

/-- The text of a segment occurs in the source. -/
theorem text_infix_of_mem_ofSource {s : Segment} (h : s ∈ Segment.ofSource source) :
    s.text <:+: source := by
  rw [← flatMap_text_ofSource source, List.flatMap_def]
  exact List.infix_of_mem_flatten (List.mem_map_of_mem h)

theorem rewriteSegment_eq_text {s : Segment} (hstyle : ¬ styleOpening <:+: s.text)
    (hclass : ¬ classOpening <:+: s.text) : rewriteSegment s = s.text := by
  cases s with
  | verbatim text => rfl
  | prose text =>
    rw [Segment.text] at hstyle hclass ⊢
    rw [rewriteSegment, rewriteStyles_eq_self hstyle, rewriteClasses_eq_self hclass]

/-- Nothing is rewritten in a source that mentions no attribute. -/
theorem rewriteSegments_eq_self (h : mentionsAttributes source = false) :
    rewriteSegments source = source := by
  obtain ⟨hstyle, hclass⟩ := Bool.or_eq_false_iff.mp h
  have hsame : ∀ s ∈ Segment.ofSource source, rewriteSegment s = s.text := by
    intro s hs
    have hinfix := text_infix_of_mem_ofSource hs
    apply rewriteSegment_eq_text
    · exact fun hmem => Bool.eq_false_iff.mp hstyle (containsInfix_iff.mpr (hmem.trans hinfix))
    · exact fun hmem => Bool.eq_false_iff.mp hclass (containsInfix_iff.mpr (hmem.trans hinfix))
  rw [rewriteSegments, List.flatMap_congr hsame, flatMap_text_ofSource]

/-- A source is rewritten segment by segment, also one that is returned as it is. -/
theorem toList_rewriteInlineAttributes (source : String) :
    (rewriteInlineAttributes source).toList = rewriteSegments source.toList := by
  rw [rewriteInlineAttributes]
  split
  · exact String.toList_ofList
  · rename_i hmentions
    exact (rewriteSegments_eq_self (Bool.eq_false_iff.mpr hmentions)).symm

/-- The segments of a source are put together from all of its text, and there is no other way to cut
it into its front matter, its fenced blocks and prose. The rewritten source has a copy of every
segment that is verbatim. -/
theorem rewriteInlineAttributes_partition (source : String) :
    (Segment.ofSource source.toList).flatMap Segment.text = source.toList ∧
      (∀ segments, IsPartition source.toList segments ↔
        segments = Segment.ofSource source.toList) ∧
      (rewriteInlineAttributes source).toList =
        (Segment.ofSource source.toList).flatMap fun
          | .verbatim text => text
          | .prose text => rewriteClasses (rewriteStyles text) := by
  refine ⟨flatMap_text_ofSource _, fun segments => isPartition_iff, ?_⟩
  rw [toList_rewriteInlineAttributes, rewriteSegments]
  refine congrArg (List.flatMap · _) (funext fun s => ?_)
  cases s <;> rfl

end Manuscript.Source
