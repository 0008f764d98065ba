import Mathlib.Data.List.Basic
import Mathlib.Data.List.Chain
import Manuscript.Text.Blank
import Manuscript.Text.Split

/-!
# Words and the blanks between them

The words of a text are the pieces between its blanks, apart from the empty ones. Put together with
a space between neighbours they make a text with the same words, so no word is lost, none is cut in
two and no two become one. All that is left of the blanks then is one space between neighbours.

## Main definitions

* `runs` — the maximal runs of characters that are not blank
* `IsSpaced` — the texts whose blanks are single spaces between other characters

## Main results

* `words_eq_runs` — the words are those runs
* `words_intercalate` — words that are put together are read back
* `isSpaced_intercalate` — the blanks between them
-/

namespace Manuscript.Text

variable {c : Char} {cs w : List Char} {ws : List (List Char)}

/-- The maximal runs of characters that are not blank, in order: the pieces between the blanks of a
text, without the empty ones. -/
def runs (cs : List Char) : List (List Char) := (cs.splitOnP isBlank).filter (· ≠ [])

/-- A text in which every blank is a single space between other characters. -/
structure IsSpaced (cs : List Char) : Prop where
  /-- It does not begin with a blank. -/
  head : ∀ c ∈ cs.head?, isBlank c = false
  /-- It does not end with a blank. -/
  last : ∀ c ∈ cs.getLast?, isBlank c = false
  /-- Its blanks are spaces. -/
  space : ∀ c ∈ cs, isBlank c = true → c = ' '
  /-- No two blanks are neighbours. -/
  single : cs.IsChain fun c d => ¬(isBlank c = true ∧ isBlank d = true)

/-- What may be a word: a text that is not empty and has no blank. -/
def IsWord (w : List Char) : Prop := w ≠ [] ∧ ∀ c ∈ w, isBlank c = false

/-! ### Runs -/

theorem wordsFrom_eq (word cs : List Char) :
    wordsFrom word cs = (cs.splitOnPPrepend isBlank word).filter (· ≠ []) := by
  induction cs generalizing word with
  | nil => cases word <;> simp [wordsFrom, List.splitOnPPrepend]
  | cons c rest ih =>
    cases hc : isBlank c with
    | true => cases word <;> simp [wordsFrom, List.splitOnPPrepend, hc, ih]
    | false => simp [wordsFrom, List.splitOnPPrepend, hc, ih]

/-- The words of a text are its runs. -/
theorem words_eq_runs (cs : List Char) : words cs = runs cs := by
  rw [words, wordsFrom_eq]
  rfl

theorem runs_append_cons (hc : isBlank c = true) (cs ds : List Char) :
    runs (cs ++ c :: ds) = runs cs ++ runs ds := by
  rw [runs, List.splitOnP_append_cons cs ds hc, List.filter_append]
  rfl

theorem runs_of_isWord (h : IsWord w) : runs w = [w] := by
  rw [runs, List.splitOnP_eq_singleton fun c hc => by simp [h.2 c hc]]
  simp [h.1]

private theorem isWord_reverse {word : List Char} (hword : ∀ c ∈ word, isBlank c = false)
    (hne : ¬ word.isEmpty = true) : IsWord word.reverse :=
  ⟨by simpa using hne, by simpa using hword⟩

theorem isWord_of_mem_wordsFrom {word : List Char} (hword : ∀ c ∈ word, isBlank c = false)
    (h : w ∈ wordsFrom word cs) : IsWord w := by
  have hnone : ∀ c ∈ ([] : List Char), isBlank c = false := fun _ hc => absurd hc List.not_mem_nil
  fun_induction wordsFrom word cs with
  | case1 => cases h
  | case2 word hne =>
    obtain rfl := List.mem_singleton.mp h
    exact isWord_reverse hword hne
  | case3 word c rest _ _ ih => exact ih hnone h
  | case4 word c rest _ hne ih =>
    rcases List.mem_cons.mp h with rfl | h
    · exact isWord_reverse hword hne
    · exact ih hnone h
  | case5 word c rest hc ih =>
    exact ih (List.forall_mem_cons.mpr ⟨Bool.eq_false_iff.mpr hc, hword⟩) h

theorem isWord_of_mem_words (h : w ∈ words cs) : IsWord w :=
  isWord_of_mem_wordsFrom (fun _ hc => absurd hc List.not_mem_nil) h

/-! ### Putting words together -/

theorem toList_joinWith (sep : String) (texts : List String) :
    (joinWith sep texts).toList = sep.toList.intercalate (texts.map String.toList) := by
  induction texts with
  | nil => rfl
  | cons text rest ih =>
    cases rest with
    | nil => rw [List.map_singleton, List.intercalate_singleton]; rfl
    | cons next rest =>
      have hjoin : joinWith sep (text :: next :: rest) =
          text ++ sep ++ joinWith sep (next :: rest) := rfl
      rw [hjoin, String.toList_append, String.toList_append, ih]
      simp only [List.map_cons, List.intercalate_cons_cons]

theorem isBlank_space : isBlank ' ' = true := by decide

/-- Words that are put together with spaces between neighbours are the words of what comes out. -/
theorem words_intercalate (h : ∀ w ∈ ws, IsWord w) : words ([' '].intercalate ws) = ws := by
  rw [words_eq_runs]
  induction ws with
  | nil => rfl
  | cons w rest ih =>
    obtain ⟨hw, hrest⟩ := List.forall_mem_cons.mp h
    cases rest with
    | nil => rw [List.intercalate_singleton, runs_of_isWord hw]
    | cons v rest =>
      rw [List.intercalate_cons_cons, List.append_assoc, List.singleton_append,
        runs_append_cons isBlank_space, runs_of_isWord hw, ih hrest, List.singleton_append]

theorem isSpaced_nil : IsSpaced [] where
  head _ h := by cases h
  last _ h := by cases h
  space _ h := by cases h
  single := .nil

theorem isSpaced_of_isWord (h : IsWord w) : IsSpaced w where
  head c hc := h.2 c (List.mem_of_mem_head? hc)
  last c hc := h.2 c (List.mem_of_mem_getLast? hc)
  space c hc hblank := absurd hblank (Bool.eq_false_iff.mp (h.2 c hc))
  single := by
    refine List.Pairwise.isChain (List.pairwise_of_forall_mem_list ?_)
    intro c hc _ _ hblank
    exact Bool.eq_false_iff.mp (h.2 c hc) hblank.1

/-- A word, a space and a spaced text behind it make a spaced text. -/
theorem IsSpaced.append_space (hw : IsWord w) (hcs : IsSpaced cs) (hne : cs ≠ []) :
    IsSpaced (w ++ ' ' :: cs) where
  head c hc := by
    rw [List.head?_append_of_ne_nil w hw.1] at hc
    exact (isSpaced_of_isWord hw).head c hc
  last c hc := by
    rw [List.getLast?_append_of_ne_nil w (List.cons_ne_nil _ _), List.getLast?_cons,
      List.getLast?_eq_getLast_of_ne_nil hne] at hc
    exact hcs.last c (by simpa [List.getLast?_eq_getLast_of_ne_nil hne] using hc)
  space c hc hblank := by
    rcases List.mem_append.mp hc with hc | hc
    · exact (isSpaced_of_isWord hw).space c hc hblank
    · rcases List.mem_cons.mp hc with rfl | hc
      · rfl
      · exact hcs.space c hc hblank
  single := by
    rw [List.isChain_append, List.isChain_cons]
    refine ⟨(isSpaced_of_isWord hw).single, ⟨?_, hcs.single⟩, ?_⟩
    · intro c hc hblank
      exact Bool.eq_false_iff.mp (hcs.head c hc) hblank.2
    · intro c hc _ _ hblank
      exact Bool.eq_false_iff.mp (hw.2 c (List.mem_of_mem_getLast? hc)) hblank.1

/-- Words that are put together with spaces between neighbours make a spaced text. -/
theorem isSpaced_intercalate (h : ∀ w ∈ ws, IsWord w) : IsSpaced ([' '].intercalate ws) := by
  induction ws with
  | nil => exact isSpaced_nil
  | cons w rest ih =>
    obtain ⟨hw, hrest⟩ := List.forall_mem_cons.mp h
    cases rest with
    | nil =>
      rw [List.intercalate_singleton]
      exact isSpaced_of_isWord hw
    | cons v rest =>
      rw [List.intercalate_cons_cons, List.append_assoc, List.singleton_append]
      refine IsSpaced.append_space hw (ih hrest) ?_
      -- what is put together from words is not empty
      intro hnil
      have hwords := words_intercalate hrest
      rw [hnil] at hwords
      cases hwords

end Manuscript.Text
