import Mathlib.Data.List.Basic
import Manuscript.Text.Split

/-!
# The pieces of a text

Cutting a text at every separator gives the part before the first one and then the other pieces, and
nothing but separators is lost. Taking away a beginning that a text was given leaves the text, and a
text occurs in another if that one begins with it somewhere.

## Main results

* `splitOn_eq_cons` — the first piece
* `eq_or_mem_of_mem_splitOn` — nothing but separators is lost
* `splitOn_eq`, `mem_and_ne_of_mem_splitOn` — all pieces
* `eq_append_of_splitFirst`, `splitFirst_append_cons`, `splitFirst_eq_none_iff` — where a text is cut
  in two
* `stripPrefix_append` — a beginning that is taken away again
* `containsInfix_iff` — what it means for a text to occur within another
* `countInfix_append_pair`, `countInfix_eq_zero_iff` — how often two characters occur
-/

namespace Manuscript.Text

variable {sep : Char} {cs : List Char}

theorem splitOn_ne_nil (sep : Char) (cs : List Char) : splitOn sep cs ≠ [] := by
  cases cs with
  | nil => exact List.cons_ne_nil _ _
  | cons c rest =>
    rw [splitOn]
    split
    · exact List.cons_ne_nil _ _
    · split <;> exact List.cons_ne_nil _ _

/-- A separator at the beginning of a text ends an empty piece. -/
theorem splitOn_cons_self (sep : Char) (cs : List Char) :
    splitOn sep (sep :: cs) = [] :: splitOn sep cs := by
  rw [splitOn]
  cases h : splitOn sep cs with
  | nil => exact absurd h (splitOn_ne_nil sep cs)
  | cons piece pieces => exact if_pos rfl

/-- Another character belongs to the first piece. -/
theorem splitOn_cons_of_ne {c : Char} {piece : List Char} {pieces : List (List Char)} (hc : c ≠ sep)
    (h : splitOn sep cs = piece :: pieces) : splitOn sep (c :: cs) = (c :: piece) :: pieces := by
  rw [splitOn, h]
  exact if_neg hc

/-- The first piece of a text ends before its first separator. -/
theorem splitOn_eq_cons (sep : Char) (cs : List Char) :
    ∃ pieces, splitOn sep cs = cs.takeWhile (· ≠ sep) :: pieces := by
  induction cs with
  | nil => exact ⟨[], rfl⟩
  | cons c rest ih =>
    obtain ⟨pieces, hpieces⟩ := ih
    by_cases hc : c = sep
    · subst hc
      exact ⟨splitOn c rest, by simp [splitOn_cons_self]⟩
    · exact ⟨pieces, by simp [splitOn_cons_of_ne hc hpieces, hc]⟩

/-- Every character is a separator or stands in a piece. -/
theorem eq_or_mem_of_mem_splitOn {c : Char} (hc : c ∈ cs) :
    c = sep ∨ ∃ piece ∈ splitOn sep cs, c ∈ piece := by
  induction cs with
  | nil => cases hc
  | cons first rest ih =>
    by_cases hfirst : first = sep
    · subst hfirst
      rw [splitOn_cons_self]
      rcases List.mem_cons.mp hc with rfl | hc
      · exact .inl rfl
      · exact (ih hc).imp_right fun ⟨piece, hpiece, hmem⟩ =>
          ⟨piece, List.mem_cons_of_mem _ hpiece, hmem⟩
    · obtain ⟨pieces, hpieces⟩ := splitOn_eq_cons sep rest
      rw [splitOn_cons_of_ne hfirst hpieces]
      rcases List.mem_cons.mp hc with rfl | hc
      · exact .inr ⟨_, List.mem_cons_self, List.mem_cons_self⟩
      · refine (ih hc).imp_right fun ⟨piece, hpiece, hmem⟩ => ?_
        rw [hpieces] at hpiece
        rcases List.mem_cons.mp hpiece with rfl | hpiece
        · exact ⟨_, List.mem_cons_self, List.mem_cons_of_mem _ hmem⟩
        · exact ⟨piece, List.mem_cons_of_mem _ hpiece, hmem⟩

/-- Cutting a text is cutting its list of characters. -/
theorem splitOn_eq (sep : Char) (cs : List Char) : splitOn sep cs = cs.splitOn sep := by
  rw [List.splitOn_eq_splitOnP]
  induction cs with
  | nil => rfl
  | cons c rest ih =>
    rw [List.splitOnP_cons_eq_if_splitOnPPrepend, List.splitOnPPrepend_eq_modifyHead]
    by_cases hc : c = sep
    · subst hc
      rw [splitOn_cons_self, ih, if_pos (beq_self_eq_true c)]
    · obtain ⟨pieces, hpieces⟩ := splitOn_eq_cons sep rest
      rw [splitOn_cons_of_ne hc hpieces, ← ih, hpieces, if_neg (by simpa using hc)]
      rfl

/-- A piece has characters of the text in it, and no separators. -/
theorem mem_and_ne_of_mem_splitOn {piece : List Char} {c : Char} (h : piece ∈ splitOn sep cs)
    (hc : c ∈ piece) : c ∈ cs ∧ c ≠ sep := by
  induction cs generalizing piece with
  | nil =>
    obtain rfl := List.mem_singleton.mp h
    cases hc
  | cons first rest ih =>
    by_cases hfirst : first = sep
    · subst hfirst
      rw [splitOn_cons_self] at h
      rcases List.mem_cons.mp h with rfl | h
      · cases hc
      · exact (ih h hc).imp_left (List.mem_cons_of_mem first)
    · obtain ⟨pieces, hpieces⟩ := splitOn_eq_cons sep rest
      rw [splitOn_cons_of_ne hfirst hpieces] at h
      rw [hpieces] at ih
      rcases List.mem_cons.mp h with rfl | h
      · rcases List.mem_cons.mp hc with rfl | hc
        · exact ⟨List.mem_cons_self, hfirst⟩
        · exact (ih List.mem_cons_self hc).imp_left (List.mem_cons_of_mem first)
      · exact (ih (List.mem_cons_of_mem _ h) hc).imp_left (List.mem_cons_of_mem first)

/-- No piece has a separator in it. -/
theorem notMem_of_mem_splitOn {piece : List Char} (h : piece ∈ splitOn sep cs) : sep ∉ piece :=
  fun hsep => (mem_and_ne_of_mem_splitOn h hsep).2 rfl

/-- A text is cut in two at its first separator. -/
theorem eq_append_of_splitFirst {before after : List Char}
    (h : splitFirst sep cs = some (before, after)) :
    cs = before ++ sep :: after ∧ sep ∉ before := by
  induction cs generalizing before with
  | nil => cases h
  | cons c rest ih =>
    rw [splitFirst] at h
    split at h
    · rename_i hc
      obtain ⟨rfl, rfl⟩ := Prod.mk.inj (Option.some.inj h)
      exact ⟨congrArg (· :: rest) hc, List.not_mem_nil⟩
    · rename_i hc
      obtain ⟨⟨first, last⟩, hrest, hpair⟩ := Option.map_eq_some_iff.mp h
      obtain ⟨rfl, rfl⟩ := Prod.mk.inj hpair
      obtain ⟨rfl, hfirst⟩ := ih hrest
      exact ⟨rfl, List.not_mem_cons_of_ne_of_not_mem (Ne.symm hc) hfirst⟩

theorem splitFirst_append_cons {before : List Char} (h : sep ∉ before) (after : List Char) :
    splitFirst sep (before ++ sep :: after) = some (before, after) := by
  induction before with
  | nil => exact if_pos rfl
  | cons c rest ih =>
    obtain ⟨hc, hrest⟩ := not_or.mp (mt List.mem_cons.mpr h)
    rw [List.cons_append, splitFirst, if_neg (Ne.symm hc), ih hrest]
    rfl

theorem splitFirst_eq_none_iff : splitFirst sep cs = none ↔ sep ∉ cs := by
  induction cs with
  | nil => simp [splitFirst]
  | cons c rest ih =>
    rw [splitFirst, List.mem_cons]
    by_cases hc : c = sep
    · simp [hc]
    · simp [hc, Ne.symm hc, ih]

@[simp] theorem stripPrefix_append (start cs : List Char) :
    stripPrefix start (start ++ cs) = some cs := by
  induction start with
  | nil => rfl
  | cons c rest ih => simp [stripPrefix, ih]

theorem eq_append_of_stripPrefix {start rest : List Char} (h : stripPrefix start cs = some rest) :
    cs = start ++ rest := by
  induction start generalizing cs with
  | nil => exact Option.some.inj h
  | cons p ps ih =>
    cases cs with
    | nil => cases h
    | cons c cs =>
      rw [stripPrefix] at h
      split at h
      · rename_i hpc
        rw [hpc, ih h, List.cons_append]
      · cases h

theorem stripPrefix_isSome_iff {start : List Char} :
    (stripPrefix start cs).isSome = true ↔ start <+: cs := by
  constructor
  · intro h
    obtain ⟨rest, hrest⟩ := Option.isSome_iff_exists.mp h
    exact ⟨rest, (eq_append_of_stripPrefix hrest).symm⟩
  · rintro ⟨rest, rfl⟩
    rw [stripPrefix_append]
    rfl

theorem containsInfix_iff {needle : List Char} :
    containsInfix needle cs = true ↔ needle <:+: cs := by
  induction cs with
  | nil => rw [containsInfix, List.isEmpty_iff, List.infix_nil]
  | cons c rest ih =>
    rw [containsInfix, Bool.or_eq_true, stripPrefix_isSome_iff, ih, List.infix_cons_iff]

/-! ### Counting two characters -/

section Pair

variable {a b : Char}

/-- As two different characters never overlap with themselves, each place is counted on its own. -/
theorem countInfix_cons (hab : a ≠ b) (c : Char) (cs : List Char) :
    countInfix [a, b] (c :: cs) = (if [a, b] <+: c :: cs then 1 else 0) + countInfix [a, b] cs := by
  -- the second character is passed over, where no occurrence begins
  have hskip (cs : List Char) (h : [a, b] <+: c :: cs) :
      countInfixFrom [a, b] 1 cs = countInfixFrom [a, b] 0 cs := by
    obtain ⟨rest, hrest⟩ := h
    obtain ⟨rfl, rfl⟩ := List.cons.inj hrest
    have hnot : (stripPrefix [a, b] (b :: rest)).isSome = false := by simp [stripPrefix, hab]
    simp [countInfixFrom, hnot]
  by_cases h : [a, b] <+: c :: cs
  · rw [countInfix, countInfixFrom, if_pos (stripPrefix_isSome_iff.mpr h), if_pos h]
    exact congrArg (1 + ·) (hskip cs h)
  · rw [countInfix, countInfixFrom, if_neg (mt stripPrefix_isSome_iff.mp h), if_neg h, Nat.zero_add]
    rfl

/-- One more occurrence at the end of a text is one more in all. -/
theorem countInfix_append_pair (hab : a ≠ b) (cs : List Char) :
    countInfix [a, b] (cs ++ [a, b]) = countInfix [a, b] cs + 1 := by
  induction cs with
  | nil =>
    have hnot : ¬ [a, b] <+: [b] := by simp [hab]
    rw [List.nil_append, countInfix_cons hab, countInfix_cons hab, if_pos List.prefix_rfl,
      if_neg hnot]
    rfl
  | cons c rest ih =>
    have hprefix : [a, b] <+: c :: (rest ++ [a, b]) ↔ [a, b] <+: c :: rest := by
      cases rest with
      | nil => simp [hab.symm]
      | cons d rest => simp
    rw [List.cons_append, countInfix_cons hab, countInfix_cons hab, ih, if_congr hprefix rfl rfl,
      Nat.add_assoc]

theorem countInfix_eq_zero_iff (hab : a ≠ b) {cs : List Char} :
    countInfix [a, b] cs = 0 ↔ ¬ [a, b] <:+: cs := by
  induction cs with
  | nil => simp [countInfix, countInfixFrom]
  | cons c rest ih =>
    rw [countInfix_cons hab, List.infix_cons_iff, Nat.add_eq_zero_iff, ih, not_or]
    split <;> simp [*]

end Pair

end Manuscript.Text
