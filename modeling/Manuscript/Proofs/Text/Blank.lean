import Mathlib.Data.List.TakeWhile
import Manuscript.Text.Blank

/-!
# Trimming

A text is its trimmed form between blanks, and the trimmed form has no blank at its end. Blanks that
are put around a text are taken away again, and a text of nothing but blanks is trimmed to nothing.

## Main results

* `exists_eq_append_trim` — the blanks at the ends
* `isBlank_of_getLast?_trim` — the end of a trimmed text
* `trim_append_append` — blanks around a text
* `trim_eq_self`, `trim_trim` — trimmed texts
* `trim_eq_nil_iff` — texts of blanks
-/

namespace Manuscript.Text

/-- Trimming takes away blanks at both ends and nothing else. -/
theorem exists_eq_append_trim (cs : List Char) :
    ∃ before after, cs = before ++ trim cs ++ after ∧
      (∀ c ∈ before, isBlank c = true) ∧ ∀ c ∈ after, isBlank c = true := by
  refine ⟨cs.takeWhile isBlank, ((trimStart cs).reverse.takeWhile isBlank).reverse, ?_,
    fun c hc => List.mem_takeWhile_imp hc,
    fun c hc => List.mem_takeWhile_imp (List.mem_reverse.mp hc)⟩
  have hend : trim cs ++ ((trimStart cs).reverse.takeWhile isBlank).reverse = trimStart cs := by
    rw [trim, trimEnd, ← List.reverse_append, List.takeWhile_append_dropWhile, List.reverse_reverse]
  rw [List.append_assoc, hend, trimStart, List.takeWhile_append_dropWhile]

theorem notMem_of_blank {cs : List Char} {c : Char} (h : ∀ c ∈ cs, isBlank c = true)
    (hc : isBlank c = false) : c ∉ cs := by
  intro hmem
  rw [h c hmem] at hc
  cases hc

/-- What is trimmed is part of the text. -/
theorem mem_of_mem_trim {cs : List Char} {c : Char} (h : c ∈ trim cs) : c ∈ cs := by
  obtain ⟨before, after, hcs, -⟩ := exists_eq_append_trim cs
  rw [hcs]
  exact List.mem_append_left after (List.mem_append_right before h)

/-- A trimmed text does not end with a blank. -/
theorem isBlank_of_getLast?_trim {cs : List Char} {c : Char} (h : (trim cs).getLast? = some c) :
    isBlank c = false := by
  have hhead : ((trimStart cs).reverse.dropWhile isBlank).head? = some c := by
    rwa [trim, trimEnd, List.getLast?_reverse] at h
  have hnot := List.head?_dropWhile_not isBlank (trimStart cs).reverse
  rw [hhead] at hnot
  simpa using hnot

theorem trimStart_append {before cs : List Char} (h : ∀ c ∈ before, isBlank c = true) :
    trimStart (before ++ cs) = trimStart cs :=
  List.dropWhile_append_of_pos h

theorem trimEnd_append {cs after : List Char} (h : ∀ c ∈ after, isBlank c = true) :
    trimEnd (cs ++ after) = trimEnd cs := by
  rw [trimEnd, List.reverse_append, List.dropWhile_append_of_pos (by simpa using h), trimEnd]

/-- Blanks around a text are taken away with those at its own ends. -/
theorem trim_append_append {before cs after : List Char} (hbefore : ∀ c ∈ before, isBlank c = true)
    (hafter : ∀ c ∈ after, isBlank c = true) : trim (before ++ cs ++ after) = trim cs := by
  rw [trim, List.append_assoc, trimStart_append hbefore]
  cases hstart : trimStart cs with
  | nil =>
    -- then all of the text is blank
    have hcs : ∀ c ∈ cs, isBlank c = true := List.dropWhile_eq_nil_iff.mp hstart
    rw [trimStart_append hcs, trim, hstart, trimStart, List.dropWhile_eq_nil_iff.mpr hafter]
  | cons c rest =>
    have hdrop : (cs.dropWhile isBlank).isEmpty = false := by
      change (trimStart cs).isEmpty = false
      rw [hstart]
      rfl
    rw [trimStart, List.dropWhile_append, hdrop, if_neg Bool.false_ne_true]
    exact trimEnd_append hafter

/-- A text without a blank at either end is trimmed already. -/
theorem trim_eq_self {cs : List Char} (hhead : ∀ c ∈ cs.head?, isBlank c = false)
    (hlast : ∀ c ∈ cs.getLast?, isBlank c = false) : trim cs = cs := by
  have hend (ds : List Char) (h : ∀ c ∈ ds.head?, isBlank c = false) :
      ds.dropWhile isBlank = ds := by
    cases ds with
    | nil => rfl
    | cons d rest => rw [List.dropWhile_cons_of_neg (by simp [h d rfl])]
  rw [trim, trimStart, hend cs hhead, trimEnd, hend cs.reverse (by simpa using hlast),
    List.reverse_reverse]

theorem trim_trim (cs : List Char) : trim (trim cs) = trim cs := by
  obtain ⟨before, after, hcs, hbefore, hafter⟩ := exists_eq_append_trim cs
  calc trim (trim cs) = trim (before ++ trim cs ++ after) :=
        (trim_append_append hbefore hafter).symm
    _ = trim cs := congrArg trim hcs.symm

/-- A text is trimmed to nothing if and only if it has nothing but blanks. -/
theorem trim_eq_nil_iff {cs : List Char} : trim cs = [] ↔ ∀ c ∈ cs, isBlank c = true := by
  constructor
  · intro h
    obtain ⟨before, after, hcs, hbefore, hafter⟩ := exists_eq_append_trim cs
    rw [hcs, h, List.append_nil]
    exact List.forall_mem_append.mpr ⟨hbefore, hafter⟩
  · intro h
    have hblank : trim ([] ++ [] ++ cs) = trim [] := trim_append_append (by simp) h
    exact hblank

end Manuscript.Text
