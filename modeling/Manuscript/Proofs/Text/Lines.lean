import Manuscript.Text.Split

/-!
# The lines of a text

A text is the concatenation of its lines, and any run of its lines is again the list of lines of the
text that they make up.

## Main definitions

* `AreLines` — lines as they follow each other in a text

## Main results

* `flatten_linesInclusive` — a text is made of its lines
* `AreLines.linesInclusive_flatten` — the lines of the text that lines make up
* `areLines_linesInclusive`, `AreLines.of_append` — where lines come from
-/

namespace Manuscript.Text

/-- Lines as they follow each other in a text. Each ends with its only line feed, except that the
last one may have none; no line is empty. -/
inductive AreLines : List (List Char) → Prop
  /-- No lines. -/
  | nil : AreLines []
  /-- A last line that has no line feed. -/
  | last {line : List Char} (hne : line ≠ []) (hline : '\n' ∉ line) : AreLines [line]
  /-- A line with its line feed, and those that follow it. -/
  | cons {body : List Char} {rest : List (List Char)} (hbody : '\n' ∉ body)
      (hrest : AreLines rest) : AreLines ((body ++ ['\n']) :: rest)

variable {cs body line : List Char} {lines before after : List (List Char)}

/-- A text is the concatenation of its lines. -/
theorem flatten_linesInclusive (cs : List Char) : (linesInclusive cs).flatten = cs := by
  induction cs with
  | nil => rfl
  | cons c rest ih =>
    rw [linesInclusive]
    split
    · rename_i hc
      rw [List.flatten_cons, ih, hc]
      rfl
    · split
      · rename_i hrest
        rw [hrest] at ih
        rw [← ih]
        rfl
      · rename_i line lines hrest
        rw [hrest] at ih
        rw [← ih]
        rfl

/-- The first line of a text ends at its first line feed. -/
theorem linesInclusive_append_feed (hbody : '\n' ∉ body) (cs : List Char) :
    linesInclusive (body ++ '\n' :: cs) = (body ++ ['\n']) :: linesInclusive cs := by
  induction body with
  | nil => rfl
  | cons c rest ih =>
    obtain ⟨hc, hrest⟩ := not_or.mp (mt List.mem_cons.mpr hbody)
    rw [List.cons_append, linesInclusive, if_neg (Ne.symm hc), ih hrest]
    rfl

/-- A text without a line feed is a single line. -/
theorem linesInclusive_of_notMem (hne : line ≠ []) (hline : '\n' ∉ line) :
    linesInclusive line = [line] := by
  induction line with
  | nil => exact absurd rfl hne
  | cons c rest ih =>
    obtain ⟨hc, hrest⟩ := not_or.mp (mt List.mem_cons.mpr hline)
    rw [linesInclusive, if_neg (Ne.symm hc)]
    cases rest with
    | nil => rfl
    | cons d rest => rw [ih (List.cons_ne_nil d rest) hrest]

/-- The lines of the text that lines make up are these lines. -/
theorem AreLines.linesInclusive_flatten (h : AreLines lines) :
    linesInclusive lines.flatten = lines := by
  induction h with
  | nil => rfl
  | last hne hline => rw [List.flatten_singleton, linesInclusive_of_notMem hne hline]
  | cons hbody hrest ih =>
    rw [List.flatten_cons, List.append_assoc, List.singleton_append,
      linesInclusive_append_feed hbody, ih]

theorem areLines_linesInclusive (cs : List Char) : AreLines (linesInclusive cs) := by
  induction cs with
  | nil => exact .nil
  | cons c rest ih =>
    rw [linesInclusive]
    split
    · exact @AreLines.cons [] _ List.not_mem_nil ih
    · rename_i hc
      -- the character is put before the first line of the rest
      cases hrest : linesInclusive rest with
      | nil => exact .last (List.cons_ne_nil c []) (by simpa using Ne.symm hc)
      | cons line lines =>
        rw [hrest] at ih
        cases ih with
        | last _ hline =>
          exact .last (List.cons_ne_nil c line)
            (List.not_mem_cons_of_ne_of_not_mem (Ne.symm hc) hline)
        | cons hbody hlines =>
          exact .cons (List.not_mem_cons_of_ne_of_not_mem (Ne.symm hc) hbody) hlines

/-- What stands in front of some lines, and what follows there, are lines of their own. -/
theorem AreLines.of_append (h : AreLines (before ++ after)) : AreLines before ∧ AreLines after := by
  induction before with
  | nil => exact ⟨.nil, h⟩
  | cons line rest ih =>
    generalize hlines : line :: rest ++ after = lines at h
    cases h with
    | nil => cases hlines
    | last hne hline =>
      obtain ⟨rfl, hnil⟩ := List.cons.inj hlines
      obtain ⟨rfl, rfl⟩ := List.append_eq_nil_iff.mp hnil
      exact ⟨.last hne hline, .nil⟩
    | cons hbody hrest =>
      obtain ⟨rfl, rfl⟩ := List.cons.inj hlines
      obtain ⟨hrest, hafter⟩ := ih hrest
      exact ⟨.cons hbody hrest, hafter⟩

end Manuscript.Text
