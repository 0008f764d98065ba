import Mathlib.Data.List.Basic
import Mathlib.Data.List.TakeWhile

/-!
# Cutting a text at a separator

A text that is put together from two parts around a separator can be cut again where it was put
together, if the separator does not occur in one of the parts. It is then the last occurrence if
the part behind it has none, and the first one if the part before it has none. A part that ends
where the characters of some class end needs no separator, and neither do pieces each of which shows
where it ends.

## Main results

* `append_cons_inj_first`, `append_cons_inj_last` — cutting at the first and at the last separator
* `append_pair_inj_first` — cutting at the first place where two characters stand
* `append_inj_of_forall` — cutting where the characters of a class end
* `prefix_append_cons_iff` — beginnings of a text with a separator in it
* `exists_of_flatMap_eq_append_cons`, `flatMap_inj_of_append_inj` — cutting a text into its pieces
-/

namespace Manuscript.Text

variable {sep : Char} {a b u v : List Char}

/-- A text is cut at its first separator in one way only. -/
theorem append_cons_inj_first (ha : sep ∉ a) (hb : sep ∉ b)
    (h : a ++ sep :: u = b ++ sep :: v) : a = b ∧ u = v := by
  induction a generalizing b with
  | nil =>
    cases b with
    | nil => exact ⟨rfl, (List.cons.inj h).2⟩
    | cons c b => exact absurd ((List.cons.inj h).1 ▸ List.mem_cons_self) hb
  | cons c a ih =>
    cases b with
    | nil => exact absurd ((List.cons.inj h).1 ▸ List.mem_cons_self) ha
    | cons d b =>
      obtain ⟨rfl, hrest⟩ := List.cons.inj h
      obtain ⟨rfl, rfl⟩ := ih (fun hmem => ha (List.mem_cons_of_mem _ hmem))
        (fun hmem => hb (List.mem_cons_of_mem _ hmem)) hrest
      exact ⟨rfl, rfl⟩

/-- A text is cut at its last separator in one way only. -/
theorem append_cons_inj_last (hu : sep ∉ u) (hv : sep ∉ v)
    (h : a ++ sep :: u = b ++ sep :: v) : a = b ∧ u = v := by
  have hreverse : u.reverse ++ sep :: a.reverse = v.reverse ++ sep :: b.reverse := by
    simpa using congrArg List.reverse h
  obtain ⟨huv, hab⟩ := append_cons_inj_first (by simpa using hu) (by simpa using hv) hreverse
  exact ⟨List.reverse_injective hab, List.reverse_injective huv⟩

/-- A text is cut in one way only at the first place where two different characters stand. -/
theorem append_pair_inj_first {c d : Char} (hcd : c ≠ d) (ha : ¬ [c, d] <:+: a)
    (hb : ¬ [c, d] <:+: b) (h : a ++ c :: d :: u = b ++ c :: d :: v) : a = b ∧ u = v := by
  -- in front of the pair there is nothing, or a text that begins with the pair
  have hnil {b u v : List Char} (hb : ¬ [c, d] <:+: b) (h : c :: d :: u = b ++ c :: d :: v) :
      b = [] := by
    match b with
    | [] => rfl
    | [x] => exact absurd (List.cons.inj (List.cons.inj h).2).1.symm hcd
    | x :: y :: rest =>
      obtain ⟨rfl, htail⟩ := List.cons.inj h
      obtain ⟨rfl, -⟩ := List.cons.inj htail
      exact absurd ⟨[], rest, rfl⟩ hb
  induction a generalizing b with
  | nil =>
    obtain rfl := hnil hb h
    exact ⟨rfl, (List.cons.inj (List.cons.inj h).2).2⟩
  | cons x a ih =>
    cases b with
    | nil => exact absurd (hnil ha h.symm) (List.cons_ne_nil x a)
    | cons y b =>
      obtain ⟨rfl, hrest⟩ := List.cons.inj h
      obtain ⟨rfl, rfl⟩ := ih (mt List.infix_cons ha) (mt List.infix_cons hb) hrest
      exact ⟨rfl, rfl⟩

/-- A text is cut in one way only where the characters of a class end. -/
theorem append_inj_of_forall {p : Char → Bool} (ha : ∀ c ∈ a, p c = true) (hb : ∀ c ∈ b, p c = true)
    (hu : ∀ c ∈ u.head?, p c = false) (hv : ∀ c ∈ v.head?, p c = false) (h : a ++ u = b ++ v) :
    a = b ∧ u = v := by
  have hrun (cs rest : List Char) (hcs : ∀ c ∈ cs, p c = true)
      (hrest : ∀ c ∈ rest.head?, p c = false) : (cs ++ rest).takeWhile p = cs := by
    rw [List.takeWhile_append_of_pos hcs]
    cases rest with
    | nil => exact List.append_nil cs
    | cons c rest => rw [List.takeWhile_cons_of_neg (by simp [hrest c rfl]), List.append_nil]
  have hab : a = b := by rw [← hrun a u ha hu, h, hrun b v hb hv]
  subst hab
  exact ⟨rfl, List.append_cancel_left h⟩

/-- What stands from a separator on does not matter for what a text without it is a beginning of. -/
theorem prefix_append_cons_iff (ha : sep ∉ a) : a <+: b ++ sep :: u ↔ a <+: b := by
  constructor
  · intro h
    refine List.prefix_of_prefix_length_le h (List.prefix_append b _) ?_
    by_contra hlength
    have hsep : b ++ [sep] <+: a :=
      List.prefix_of_prefix_length_le ⟨u, by simp⟩ h (by simp; omega)
    exact ha (hsep.subset (by simp))
  · exact fun h => h.trans (List.prefix_append b _)

/-- A character of a text that is put together from pieces stands in one of them. -/
theorem exists_of_flatMap_eq_append_cons {α : Type} {f : α → List Char} {xs : List α}
    (h : xs.flatMap f = a ++ sep :: u) :
    ∃ before x after left right, xs = before ++ x :: after ∧ f x = left ++ sep :: right ∧
      u = right ++ after.flatMap f := by
  induction xs generalizing a with
  | nil => exact absurd h (by simp)
  | cons x xs ih =>
    -- in a later piece, whatever stands before it, or in this one
    have hlater {a : List Char} (h : xs.flatMap f = a ++ sep :: u) :
        ∃ before y after left right, x :: xs = before ++ y :: after ∧ f y = left ++ sep :: right ∧
          u = right ++ after.flatMap f := by
      obtain ⟨before, y, after, left, right, rfl, hy, hu⟩ := ih h
      exact ⟨x :: before, y, after, left, right, rfl, hy, hu⟩
    rw [List.flatMap_cons] at h
    rcases List.append_eq_append_iff.mp h with ⟨a, -, hxs⟩ | ⟨tail, hx, htail⟩
    · exact hlater hxs
    · cases tail with
      | nil => exact hlater (a := []) htail.symm
      | cons c right =>
        obtain ⟨rfl, hu⟩ := List.cons.inj htail
        exact ⟨[], x, xs, a, right, rfl, hx, hu⟩

/-- If every piece in front of a text is told from the text, a text is put together from pieces in
one way only. -/
theorem flatMap_inj_of_append_inj {α : Type} {f : α → List Char} {xs ys : List α}
    (hxs : ∀ x ∈ xs, f x ≠ []) (hys : ∀ y ∈ ys, f y ≠ [])
    (hinj : ∀ x ∈ xs, ∀ y ∈ ys, ∀ r s, f x ++ r = f y ++ s → x = y ∧ r = s)
    (h : xs.flatMap f = ys.flatMap f) : xs = ys := by
  induction xs generalizing ys with
  | nil =>
    cases ys with
    | nil => rfl
    | cons y ys =>
      have hempty := List.append_eq_nil_iff.mp h.symm
      exact absurd hempty.1 (hys y List.mem_cons_self)
  | cons x xs ih =>
    cases ys with
    | nil =>
      have hempty := List.append_eq_nil_iff.mp h
      exact absurd hempty.1 (hxs x List.mem_cons_self)
    | cons y ys =>
      rw [List.flatMap_cons, List.flatMap_cons] at h
      obtain ⟨rfl, hrest⟩ := hinj x List.mem_cons_self y List.mem_cons_self _ _ h
      have htail := ih (fun z hz => hxs z (List.mem_cons_of_mem _ hz))
        (fun z hz => hys z (List.mem_cons_of_mem _ hz))
        (fun z hz w hw => hinj z (List.mem_cons_of_mem _ hz) w (List.mem_cons_of_mem _ hw)) hrest
      exact congrArg _ htail

end Manuscript.Text
