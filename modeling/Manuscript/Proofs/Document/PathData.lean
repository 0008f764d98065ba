import Manuscript.Document.Paths
import Manuscript.Proofs.Document.Attributes
import Manuscript.Proofs.Document.Revisions
import Manuscript.Proofs.Text.Words

/-!
# Data of paths

The pass over the paths of vector images touches the data of paths, if they are plain texts, and
nothing else. New data have the same words as the old ones, so that no two numbers become one, and
their blanks are single spaces between words. So the pass has nothing to do when it is applied
again.

## Main definitions

* `Element.HasTidyData` — attributes that come from those of an element in this way

## Main results

* `words_collapseBlanks`, `isSpaced_collapseBlanks` — what becomes of a text
* `hasTidyData_collapsedPathAttributes` — what becomes of the attributes of a path
* `normalizeSvgPaths_spec` — what becomes of a tree
-/

namespace Manuscript

open Text (IsSpaced words runs)

/-! ### Texts -/

theorem toList_collapseBlanks (text : String) :
    (collapseBlanks text).toList = [' '].intercalate (words text.toList) := by
  have hchars : (Text.wordsOf text).map String.toList = words text.toList := by
    simp [Text.wordsOf, Function.comp_def]
  rw [collapseBlanks, Text.toList_joinWith, hchars]
  rfl

/-- Collapsing blanks keeps the words. -/
theorem words_collapseBlanks (text : String) :
    words (collapseBlanks text).toList = words text.toList := by
  rw [toList_collapseBlanks, Text.words_intercalate fun _ => Text.isWord_of_mem_words]

/-- Single spaces between words are all that is left of the blanks. -/
theorem isSpaced_collapseBlanks (text : String) : IsSpaced (collapseBlanks text).toList := by
  rw [toList_collapseBlanks]
  exact Text.isSpaced_intercalate fun _ => Text.isWord_of_mem_words

theorem collapseBlanks_collapseBlanks (text : String) :
    collapseBlanks (collapseBlanks text) = collapseBlanks text := by
  apply String.toList_inj.mp
  rw [toList_collapseBlanks, words_collapseBlanks, toList_collapseBlanks]

/-! ### Elements -/

/-- Attributes that differ from those of an element in the data of a path only, and there in the
blanks. -/
structure Element.HasTidyData (e : Element) (new : Attributes) : Prop where
  /-- The other attributes are as before. -/
  others : ∀ name, name ≠ "d" → new.get? name = e.attr? name
  /-- The data of a path have the same words, and their blanks are single spaces between them. -/
  tidy : ∀ data, e.isPath = true → e.attr? "d" = some (.text data) →
    ∃ tidied, new.get? "d" = some (.text tidied) ∧ IsSpaced tidied.toList ∧
      runs tidied.toList = runs data.toList
  /-- Without such data nothing changes. -/
  stays : (e.isPath = false ∨ ∀ data, e.attr? "d" ≠ some (.text data)) → new = e.attributes

variable {e : Element}

theorem collapsedPathAttributes_of_text {data : String} (h : e.attr? "d" = some (.text data)) :
    collapsedPathAttributes e = e.attributes.insert "d" (.text (collapseBlanks data)) := by
  rw [collapsedPathAttributes, h]

theorem collapsedPathAttributes_of_ne (h : ∀ data, e.attr? "d" ≠ some (.text data)) :
    collapsedPathAttributes e = e.attributes := by
  unfold collapsedPathAttributes
  split
  · rename_i data hdata
    exact absurd hdata (h data)
  · rfl

/-- What the pass makes of the attributes of an element. -/
theorem hasTidyData_collapsedPathAttributes (e : Element) :
    e.HasTidyData (if e.isPath then collapsedPathAttributes e else e.attributes) := by
  by_cases hdata : e.isPath = true ∧ ∃ data, e.attr? "d" = some (.text data)
  · obtain ⟨hpath, data, hdata⟩ := hdata
    rw [if_pos hpath, collapsedPathAttributes_of_text hdata]
    refine ⟨fun name hname => ?_, fun other _ hother => ?_, fun hnot => ?_⟩
    · rw [Attributes.get?_insert, if_neg hname]
      rfl
    · obtain rfl : data = other := by simpa using hdata.symm.trans hother
      refine ⟨collapseBlanks data, by simp, isSpaced_collapseBlanks data, ?_⟩
      rw [← Text.words_eq_runs, words_collapseBlanks, Text.words_eq_runs]
    · rcases hnot with hnot | hnot
      · exact absurd hpath (Bool.eq_false_iff.mp hnot)
      · exact absurd hdata (hnot data)
  · have hstays :
        (if e.isPath then collapsedPathAttributes e else e.attributes) = e.attributes := by
      split
      · rename_i hpath
        exact collapsedPathAttributes_of_ne fun data h => hdata ⟨hpath, data, h⟩
      · rfl
    rw [hstays]
    exact ⟨fun _ _ => rfl, fun data hpath h => absurd ⟨hpath, data, h⟩ hdata, fun _ => rfl⟩

theorem collapsedPathAttributes_settled (e : Element) (children : List Node) :
    collapsedPathAttributes ⟨e.tag, collapsedPathAttributes e, children⟩ =
      collapsedPathAttributes e := by
  by_cases hdata : ∃ data, e.attr? "d" = some (.text data)
  · obtain ⟨data, hdata⟩ := hdata
    rw [collapsedPathAttributes_of_text hdata]
    have hnew : Element.attr? ⟨e.tag, e.attributes.insert "d" (.text (collapseBlanks data)),
        children⟩ "d" = some (.text (collapseBlanks data)) := by simp [Element.attr?]
    rw [collapsedPathAttributes_of_text hnew, Attributes.insert_insert,
      collapseBlanks_collapseBlanks]
  · have hnot : ∀ data, e.attr? "d" ≠ some (.text data) := fun data h => hdata ⟨data, h⟩
    rw [collapsedPathAttributes_of_ne hnot]
    exact collapsedPathAttributes_of_ne (e := ⟨e.tag, e.attributes, children⟩) hnot

/-! ### Trees -/

/-- The pass over paths keeps the shape, the tags and the leaves of a tree, and of the attributes it
changes the data of paths only. New data have the words of the old ones, and single spaces between
them. Applied again, the pass changes nothing. -/
theorem Node.normalizeSvgPaths_spec (n : Node) :
    n.RevisedBy Element.HasTidyData n.normalizeSvgPaths ∧
      n.normalizeSvgPaths.normalizeSvgPaths = n.normalizeSvgPaths :=
  ⟨Node.revisedBy_mapAttributes_iff.mpr fun e _ => hasTidyData_collapsedPathAttributes e,
    Node.mapAttributes_mapAttributes (fun _ _ _ => rfl)
      (fun e children _ => collapsedPathAttributes_settled e children) n⟩

end Manuscript
