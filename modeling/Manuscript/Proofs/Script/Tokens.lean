import Manuscript.Proofs.Script.Creation
import Manuscript.Proofs.Text.Separators

/-!
# Reading names, values and lists back

What is written in front of a text can be read back if it shows where it ends. Literals end with
their quote. References and keys end with a character that they do not have outside of literals, and
so do the entries of lists, of which the last one ends with a bracket.

## Main results

* `quote_append_inj`, `plainValue_append_inj` — values
* `propertyKey_append_inj` — keys before their colon
* `target_append_inj` — references before a comma
* `joinWith_append_inj` — lists, entry by entry
-/

namespace Manuscript.Script

open Manuscript.Text (quote quoteChars joinWith)

variable {r s : List Char}

/-! ### Names and values -/

theorem toList_quote (text : String) : (quote text).toList = quoteChars text.toList :=
  String.toList_ofList

theorem quote_append_inj {a b : String} (h : (quote a).toList ++ r = (quote b).toList ++ s) :
    a = b ∧ r = s := by
  rw [toList_quote, toList_quote] at h
  obtain ⟨hchars, hrest⟩ := Text.quoteChars_append_inj h
  exact ⟨String.toList_inj.mp hchars, hrest⟩

theorem notMem_of_isIdentifier {name : String} {c : Char} (h : isIdentifier name = true)
    (hc : isIdentifierPart c = false) : c ∉ name.toList := fun hmem => by
  rw [isIdentifierPart_of_mem h hmem] at hc
  cases hc

/-- A key is an identifier, or it is a literal. -/
theorem propertyKey_cases (name : String) :
    (isIdentifier name = true ∧ propertyKey name = name) ∨ propertyKey name = quote name := by
  cases h : isIdentifier name with
  | true => exact .inl ⟨rfl, if_pos h⟩
  | false => exact .inr (if_neg (by simp [h]))

/-- An identifier begins with a character of an identifier. -/
theorem identifier_append_ne {name : String} {c : Char} (h : isIdentifier name = true)
    (hc : isIdentifierPart c = false) (r s : List Char) : name.toList ++ r ≠ c :: s := by
  intro heq
  cases hchars : name.toList with
  | nil => simp [isIdentifier, isIdentifierChars, hchars] at h
  | cons first rest =>
    rw [hchars] at heq
    obtain ⟨rfl, -⟩ := List.cons.inj heq
    exact notMem_of_isIdentifier h hc (hchars ▸ List.mem_cons_self)

/-- A key begins with a character of an identifier or with a quote. -/
theorem propertyKey_append_ne {name : String} {c : Char} (hc : isIdentifierPart c = false)
    (hquote : c ≠ '"') (r s : List Char) : (propertyKey name).toList ++ r ≠ c :: s := by
  rcases propertyKey_cases name with ⟨hname, heq⟩ | heq
  · rw [heq]
    exact identifier_append_ne hname hc r s
  · rw [heq, toList_quote]
    exact fun h => hquote (List.cons.inj h).1.symm

/-- A key is known from how it is written before a colon. -/
theorem propertyKey_append_inj {a b : String}
    (h : (propertyKey a).toList ++ ':' :: r = (propertyKey b).toList ++ ':' :: s) :
    a = b ∧ r = s := by
  rcases propertyKey_cases a with ⟨ha, hkey⟩ | hkey <;>
    rcases propertyKey_cases b with ⟨hb, hkey'⟩ | hkey' <;> rw [hkey, hkey'] at h
  · obtain ⟨hname, hrest⟩ := Text.append_cons_inj_first (notMem_of_isIdentifier ha (by decide))
      (notMem_of_isIdentifier hb (by decide)) h
    exact ⟨String.toList_inj.mp hname, hrest⟩
  · rw [toList_quote] at h
    exact absurd h (identifier_append_ne ha (by decide) _ _)
  · rw [toList_quote] at h
    exact absurd h.symm (identifier_append_ne hb (by decide) _ _)
  · obtain ⟨rfl, hrest⟩ := quote_append_inj h
    exact ⟨rfl, (List.cons.inj hrest).2⟩

theorem plainValue_append_inj {v w : PlainValue}
    (h : v.code.toList ++ r = w.code.toList ++ s) : v = w ∧ r = s := by
  cases v with
  | text a =>
    cases w with
    | text b =>
      obtain ⟨rfl, hrest⟩ := quote_append_inj h
      exact ⟨rfl, hrest⟩
    | yes => simp [PlainValue.code, toList_quote, quoteChars] at h
  | yes =>
    cases w with
    | text b => simp [PlainValue.code, toList_quote, quoteChars] at h
    | yes => exact ⟨rfl, List.append_cancel_left h⟩

theorem comma_notMem_of_isPath {name : String} (h : isPath name = true) : ',' ∉ name.toList :=
  fun hmem => (eq_dot_or_isIdentifierPart_of_mem h hmem).elim (by decide) (by decide)

/-- What a call creates is known from its reference before a comma. -/
theorem target_append_inj {a b : Target}
    (h : a.code.toList ++ ',' :: r = b.code.toList ++ ',' :: s) : a = b ∧ r = s := by
  have hfragment (tag : String) (r s : List Char) :
      "_Fragment".toList ++ r ≠ (member "_components" tag).toList ++ s := by
    cases hpath : isPath tag with
    | true => simp [toList_member_of_isPath hpath]
    | false => simp [toList_member_of_not_isPath hpath]
  -- of two elements both are paths, without a comma, or both are literals up to their quote
  cases a with
  | fragment =>
    cases b with
    | fragment => exact ⟨rfl, (List.cons.inj (List.append_cancel_left h)).2⟩
    | element tag => exact absurd h (hfragment tag _ _)
  | element tag =>
    cases b with
    | fragment => exact absurd h.symm (hfragment tag _ _)
    | element other =>
      unfold Target.code at h
      cases hpath : isPath tag <;> cases hpath' : isPath other
      · simp only [toList_member_of_not_isPath hpath, toList_member_of_not_isPath hpath',
          List.append_assoc, List.cons_append] at h
        have hquoted := (List.cons.inj (List.append_cancel_left h)).2
        obtain ⟨hchars, hrest⟩ := Text.quoteChars_append_inj hquoted
        exact ⟨congrArg _ (String.toList_inj.mp hchars), by simpa using hrest⟩
      · simp [toList_member_of_isPath, toList_member_of_not_isPath, hpath, hpath'] at h
      · simp [toList_member_of_isPath, toList_member_of_not_isPath, hpath, hpath'] at h
      · simp only [toList_member_of_isPath hpath, toList_member_of_isPath hpath',
          List.append_assoc, List.cons_append] at h
        have hdotted := (List.cons.inj (List.append_cancel_left h)).2
        obtain ⟨hchars, hrest⟩ := Text.append_cons_inj_first (comma_notMem_of_isPath hpath)
          (comma_notMem_of_isPath hpath') hdotted
        exact ⟨congrArg _ (String.toList_inj.mp hchars), hrest⟩

/-! ### Lists -/

/-- What stands behind the first entry of a list that ends with a bracket. -/
def behindFirst (texts : List String) (stop : Char) (r : List Char) : List Char :=
  match texts with
  | [] => stop :: r
  | texts => ',' :: ' ' :: ((joinWith ", " texts).toList ++ stop :: r)

theorem joinWith_cons_append (text : String) (texts : List String) (stop : Char) (r : List Char) :
    (joinWith ", " (text :: texts)).toList ++ stop :: r =
      text.toList ++ behindFirst texts stop r := by
  cases texts with
  | nil => rfl
  | cons second rest => simp [joinWith, behindFirst]

/-- A list that ends with a bracket is known from how it is written, if its entries are and none of
them begins with that bracket. -/
theorem joinWith_append_inj {α : Type} {f : α → String} {stop : Char} (hstop : stop ≠ ',')
    {xs ys : List α} (hxs : ∀ x ∈ xs, ∀ r s, (f x).toList ++ r ≠ stop :: s)
    (hys : ∀ y ∈ ys, ∀ r s, (f y).toList ++ r ≠ stop :: s)
    (hread : ∀ x ∈ xs, ∀ y ∈ ys, ∀ r s, (f x).toList ++ r = (f y).toList ++ s → x = y ∧ r = s)
    (h : (joinWith ", " (xs.map f)).toList ++ stop :: r =
      (joinWith ", " (ys.map f)).toList ++ stop :: s) : xs = ys ∧ r = s := by
  induction xs generalizing ys with
  | nil =>
    cases ys with
    | nil => exact ⟨rfl, (List.cons.inj h).2⟩
    | cons y ys =>
      rw [List.map_cons, joinWith_cons_append] at h
      exact absurd h.symm (hys y List.mem_cons_self _ _)
  | cons x xs ih =>
    cases ys with
    | nil =>
      rw [List.map_cons, joinWith_cons_append] at h
      exact absurd h (hxs x List.mem_cons_self _ _)
    | cons y ys =>
      rw [List.map_cons, List.map_cons, joinWith_cons_append, joinWith_cons_append] at h
      obtain ⟨rfl, hbehind⟩ := hread x List.mem_cons_self y List.mem_cons_self _ _ h
      -- behind an entry there is the bracket or a comma, and the comma is followed by the rest
      cases xs with
      | nil =>
        cases ys with
        | nil => exact ⟨rfl, (List.cons.inj hbehind).2⟩
        | cons y' ys => exact absurd (List.cons.inj hbehind).1 hstop
      | cons x' xs =>
        cases ys with
        | nil => exact absurd (List.cons.inj hbehind).1.symm hstop
        | cons y' ys =>
          obtain ⟨-, hspace⟩ := List.cons.inj hbehind
          obtain ⟨-, hlist⟩ := List.cons.inj hspace
          obtain ⟨heq, hrest⟩ := ih (fun x hx => hxs x (List.mem_cons_of_mem _ hx))
            (fun y hy => hys y (List.mem_cons_of_mem _ hy))
            (fun x hx y hy => hread x (List.mem_cons_of_mem _ hx) y (List.mem_cons_of_mem _ hy))
            hlist
          exact ⟨congrArg _ heq, hrest⟩

end Manuscript.Script
