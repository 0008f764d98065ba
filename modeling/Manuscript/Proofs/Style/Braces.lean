import Manuscript.Markdown.Source
import Manuscript.Proofs.Style.ObjectLiteral
import Manuscript.Source.InlineAttributes
import Mathlib.Data.List.Infix

/-!
# Braces around the object of a style attribute

The reader of expressions counts braces and nothing else, so that it does not know braces between
quotes from others. An object literal in braces is read as a whole if the count gets back to zero at
its end and not before. Quoting and camel case neither put in braces nor take them away. So that
depends on the names and values of the declarations alone, whose braces are counted in the order in
which they stand.

## Main definitions

* `braceDepth` — how many more braces are opened in a text than closed
* `IsDelimited` — whether the braces of a text show its end, and not before
* `BracesFit` — whether a text may stand in two pairs of braces

## Main results

* `exists_expression_iff` — what the reader of expressions reads as a whole
* `exists_expression_toExpression_iff` — which declarations can be read behind their rewriting
* `isDelimited_toExpression_iff` — for which declarations the braces show where their object ends
-/

namespace Manuscript.Style

open Markdown (Glyph Reader)
open Markdown.Reader (expressionBody)
open Text (quoteChar quoteChars)

/-! ### Counting braces -/

/-- Whether a character is a brace. -/
def isBrace (c : Char) : Bool := c = '\x7b' || c = '\x7d'

/-- What a character adds to the number of open braces. -/
def braceWeight (c : Char) : Int := if c = '\x7b' then 1 else if c = '\x7d' then -1 else 0

/-- How many more braces are opened in a text than closed. -/
def braceDepth : List Char → Int
  | [] => 0
  | c :: rest => braceWeight c + braceDepth rest

/-- Whether the braces of a text show where it ends: the depth is zero at the end, and positive
after every beginning of the text before. -/
def IsDelimited (cs : List Char) : Prop :=
  (∀ p, p <+: cs → p ≠ [] → p ≠ cs → 0 < braceDepth p) ∧ braceDepth cs = 0

/-- Whether a text may stand in two pairs of braces: it opens as many braces as it closes, and never
closes two more than it has opened. -/
def BracesFit (cs : List Char) : Prop := (∀ p, p <+: cs → -1 ≤ braceDepth p) ∧ braceDepth cs = 0

/-- Whether a text ends with the brace that closes the last one, where `depth` more are open. -/
def Closes (depth : Int) (cs : List Char) : Prop :=
  (∀ p, p <+: cs → p ≠ cs → 0 ≤ depth + braceDepth p) ∧ depth + braceDepth cs = -1

variable {c : Char} {cs ds : List Char} {depth : Int}

instance (cs : List Char) : Decidable (IsDelimited cs) :=
  decidable_of_iff ((∀ p ∈ cs.inits, p ≠ [] → p ≠ cs → 0 < braceDepth p) ∧ braceDepth cs = 0)
    (by simp only [List.mem_inits, IsDelimited])

instance (cs : List Char) : Decidable (BracesFit cs) :=
  decidable_of_iff ((∀ p ∈ cs.inits, -1 ≤ braceDepth p) ∧ braceDepth cs = 0)
    (by simp only [List.mem_inits, BracesFit])

@[simp] theorem braceDepth_nil : braceDepth [] = 0 := rfl

@[simp] theorem braceDepth_cons (c : Char) (cs : List Char) :
    braceDepth (c :: cs) = braceWeight c + braceDepth cs := rfl

@[simp] theorem braceDepth_append (cs ds : List Char) :
    braceDepth (cs ++ ds) = braceDepth cs + braceDepth ds := by
  induction cs with
  | nil => simp
  | cons c rest ih => rw [List.cons_append, braceDepth_cons, ih, braceDepth_cons, Int.add_assoc]

theorem braceWeight_of_not_isBrace (h : isBrace c = false) : braceWeight c = 0 := by
  obtain ⟨hopen, hclose⟩ := Bool.or_eq_false_iff.mp h
  rw [braceWeight, if_neg (of_decide_eq_false hopen), if_neg (of_decide_eq_false hclose)]

/-- Only braces count. -/
@[simp] theorem braceDepth_filter (cs : List Char) :
    braceDepth (cs.filter isBrace) = braceDepth cs := by
  induction cs with
  | nil => rfl
  | cons c rest ih =>
    cases hc : isBrace c with
    | false =>
      rw [List.filter_cons_of_neg (by simp [hc]), ih, braceDepth_cons,
        braceWeight_of_not_isBrace hc, Int.zero_add]
    | true => rw [List.filter_cons_of_pos hc, braceDepth_cons, ih, braceDepth_cons]

/-- The depths after the beginnings of a text are those after the beginnings of its braces. -/
theorem bracesFit_filter_iff : BracesFit (cs.filter isBrace) ↔ BracesFit cs := by
  rw [BracesFit, BracesFit, braceDepth_filter]
  refine and_congr_left fun _ => ⟨fun h p hp => ?_, fun h p hp => ?_⟩
  · have hfilter := h (p.filter isBrace) (hp.filter isBrace)
    rwa [braceDepth_filter] at hfilter
  · obtain ⟨rest, hrest⟩ := hp
    obtain ⟨start, behind, rfl, rfl, -⟩ := List.filter_eq_append_iff.mp hrest.symm
    rw [braceDepth_filter]
    exact h start (List.prefix_append start behind)

theorem bracesFit_congr (h : cs.filter isBrace = ds.filter isBrace) :
    BracesFit cs ↔ BracesFit ds := by
  rw [← bracesFit_filter_iff, h, bracesFit_filter_iff]

/-! ### Beginnings -/

/-- The proper beginnings of a text with a first character. -/
theorem forall_properPrefix_cons_iff {P : List Char → Prop} :
    (∀ p, p <+: c :: cs → p ≠ c :: cs → P p) ↔ P [] ∧ ∀ p, p <+: cs → p ≠ cs → P (c :: p) := by
  constructor
  · refine fun h => ⟨h [] List.nil_prefix (by simp), fun p hp hne => ?_⟩
    exact h (c :: p) (List.cons_prefix_cons.mpr ⟨rfl, hp⟩) (by simpa using hne)
  · rintro ⟨hnil, hcons⟩ p hp hne
    cases p with
    | nil => exact hnil
    | cons d p =>
      obtain ⟨rfl, hrest⟩ := List.cons_prefix_cons.mp hp
      exact hcons p hrest (by simpa using hne)

/-- The proper beginnings of a text with a last character. -/
theorem forall_properPrefix_concat_iff {P : List Char → Prop} :
    (∀ p, p <+: cs ++ [c] → p ≠ cs ++ [c] → P p) ↔ ∀ p, p <+: cs → P p := by
  constructor
  · intro h p hp
    refine h p (hp.trans (List.prefix_append cs [c])) fun heq => ?_
    have hlength := hp.length_le
    rw [heq, List.length_append, List.length_singleton] at hlength
    omega
  · exact fun h p hp hne => h p ((List.prefix_concat_iff.mp hp).resolve_left hne)

/-! ### Where a text closes -/

theorem not_closes_nil (h : 0 ≤ depth) : ¬ Closes depth [] := by
  rintro ⟨-, htotal⟩
  rw [braceDepth_nil] at htotal
  omega

theorem closes_cons_iff :
    Closes depth (c :: cs) ↔ 0 ≤ depth ∧ Closes (depth + braceWeight c) cs := by
  simp only [Closes, forall_properPrefix_cons_iff, braceDepth_nil, braceDepth_cons,
    Int.add_zero, Int.add_assoc, and_assoc]

/-- Behind the brace that closes the last one nothing may follow. -/
theorem closes_neg_one_iff : Closes (-1) cs ↔ cs = [] := by
  cases cs with
  | nil => simp [Closes]
  | cons c cs => simp [closes_cons_iff]

theorem isDelimited_cons_iff : IsDelimited ('\x7b' :: cs) ↔ Closes 0 cs := by
  have hweight : braceWeight '\x7b' = 1 := rfl
  have hswap : IsDelimited ('\x7b' :: cs) ↔
      (∀ p, p <+: '\x7b' :: cs → p ≠ '\x7b' :: cs → p ≠ [] → 0 < braceDepth p) ∧
        braceDepth ('\x7b' :: cs) = 0 :=
    and_congr_left fun _ => forall₂_congr fun p hp => imp.swap
  rw [hswap, forall_properPrefix_cons_iff, Closes]
  have hlevel (p : List Char) : 0 < braceDepth ('\x7b' :: p) ↔ 0 ≤ 0 + braceDepth p := by
    rw [braceDepth_cons, hweight]
    omega
  refine and_congr ?_ ?_
  · simp only [ne_eq, not_true_eq_false, false_imp_iff, true_and, List.cons_ne_nil,
      not_false_eq_true, true_imp_iff, hlevel]
  · rw [braceDepth_cons, hweight]
    omega

/-- A text in two pairs of braces, behind the first one. -/
theorem closes_zero_iff : Closes 0 ('\x7b' :: (cs ++ ['\x7d', '\x7d'])) ↔ BracesFit cs := by
  have hopen : braceWeight '\x7b' = 1 := rfl
  have hclose : braceWeight '\x7d' = -1 := rfl
  have hlast : cs ++ ['\x7d', '\x7d'] = cs ++ ['\x7d'] ++ ['\x7d'] := by simp
  rw [closes_cons_iff, and_iff_right (Int.le_refl 0), hlast, Closes, forall_properPrefix_concat_iff,
    BracesFit]
  simp only [List.prefix_concat_iff, forall_eq_or_imp, braceDepth_append, braceDepth_cons,
    braceDepth_nil, hopen, hclose]
  have hlevel (p : List Char) : 0 ≤ 0 + 1 + braceDepth p ↔ -1 ≤ braceDepth p := by omega
  simp only [hlevel]
  constructor
  · rintro ⟨⟨-, hfront⟩, htotal⟩
    exact ⟨hfront, by omega⟩
  · rintro ⟨hfront, htotal⟩
    exact ⟨⟨by omega, hfront⟩, by omega⟩

/-! ### The reader of expressions -/

variable {g : Glyph} {gs rest after : List Glyph}

/-- What follows the brace that ends an expression in which `depth` braces are open. -/
def behindExpression? (depth room : Nat) (gs : List Glyph) : Option (List Glyph) :=
  (expressionBody depth room gs).map Prod.snd

theorem behindExpression?_open (h : g.char = '\x7b') (depth room : Nat) :
    behindExpression? depth room (g :: rest) = behindExpression? (depth + 1) 0 rest := by
  simp [behindExpression?, expressionBody, Glyph.isEnding, Glyph.isBlank, h, Function.comp_def]

theorem behindExpression?_close_zero (h : g.char = '\x7d') (room : Nat) :
    behindExpression? 0 room (g :: rest) = some rest := by
  simp [behindExpression?, expressionBody, Glyph.isEnding, Glyph.isBlank, h]

theorem behindExpression?_close_succ (h : g.char = '\x7d') (depth room : Nat) :
    behindExpression? (depth + 1) room (g :: rest) = behindExpression? depth 0 rest := by
  simp [behindExpression?, expressionBody, Glyph.isEnding, Glyph.isBlank, h, Function.comp_def]

/-- Other characters do not count, whether they belong to the expression or not. -/
theorem exists_behindExpression?_eq (h : isBrace g.char = false) (depth room : Nat)
    (rest : List Glyph) :
    ∃ more, behindExpression? depth room (g :: rest) = behindExpression? depth more rest := by
  obtain ⟨hopen, hclose⟩ := Bool.or_eq_false_iff.mp h
  simp only [behindExpression?, expressionBody, if_neg (of_decide_eq_false hopen),
    if_neg (of_decide_eq_false hclose)]
  split
  · exact ⟨2, by simp [Function.comp_def]⟩
  split
  · split
    · exact ⟨_, rfl⟩
    · exact ⟨0, by simp [Function.comp_def]⟩
  · exact ⟨0, by simp [Function.comp_def]⟩

theorem length_lt_of_behindExpression? {depth room : Nat}
    (h : behindExpression? depth room gs = some rest) : rest.length < gs.length := by
  induction gs generalizing depth room with
  | nil => cases h
  | cons g gs ih =>
    rw [List.length_cons]
    by_cases hopen : g.char = '\x7b'
    · rw [behindExpression?_open hopen] at h
      exact Nat.lt_succ_of_lt (ih h)
    by_cases hclose : g.char = '\x7d'
    · cases depth with
      | zero =>
        rw [behindExpression?_close_zero hclose] at h
        obtain rfl := Option.some.inj h
        exact Nat.lt_succ_self _
      | succ depth =>
        rw [behindExpression?_close_succ hclose] at h
        exact Nat.lt_succ_of_lt (ih h)
    · have hplain : isBrace g.char = false := by simp [isBrace, hopen, hclose]
      obtain ⟨more, hmore⟩ := exists_behindExpression?_eq hplain depth room gs
      rw [hmore] at h
      exact Nat.lt_succ_of_lt (ih h)

/-- An expression ends where the braces of a text show its end. -/
theorem behindExpression?_append_iff (depth room : Nat) (gs after : List Glyph) :
    behindExpression? depth room (gs ++ after) = some after ↔ Closes depth (gs.map Glyph.char) := by
  induction gs generalizing depth room with
  | nil =>
    refine iff_of_false (fun h => ?_) (not_closes_nil (Int.natCast_nonneg depth))
    exact lt_irrefl _ (length_lt_of_behindExpression? h)
  | cons g gs ih =>
    rw [List.cons_append, List.map_cons, closes_cons_iff, and_iff_right (Int.natCast_nonneg depth)]
    by_cases hopen : g.char = '\x7b'
    · rw [behindExpression?_open hopen, ih, hopen]
      rfl
    by_cases hclose : g.char = '\x7d'
    · rw [hclose]
      cases depth with
      | zero =>
        rw [behindExpression?_close_zero hclose]
        change _ ↔ Closes (-1) _
        rw [closes_neg_one_iff]
        simp
      | succ depth =>
        rw [behindExpression?_close_succ hclose, ih]
        have hless : ((depth + 1 : Nat) : Int) + braceWeight '\x7d' = depth := by
          change ((depth + 1 : Nat) : Int) + -1 = depth
          omega
        rw [hless]
    · have hplain : isBrace g.char = false := by simp [isBrace, hopen, hclose]
      obtain ⟨more, hmore⟩ := exists_behindExpression?_eq hplain depth room (gs ++ after)
      rw [hmore, ih, braceWeight_of_not_isBrace hplain, Int.add_zero]

theorem run_expression (gs : List Glyph) :
    Reader.expression.run gs = match expressionBody 0 0 (gs.drop 1) with
      | none => .error (.exhausted .openExpression true)
      | some (body, after) => .ok (Markdown.spacedText body, after) := by
  change (match expressionBody 0 0 (gs.drop 1) with
    | none => _
    | some (body, after) => _ : Reader String).run (gs.drop 1) = _
  cases expressionBody 0 0 (gs.drop 1) <;> rfl

theorem exists_run_expression_iff :
    (∃ source, Reader.expression.run gs = .ok (source, after)) ↔
      behindExpression? 0 0 (gs.drop 1) = some after := by
  rw [run_expression, behindExpression?]
  cases expressionBody 0 0 (gs.drop 1) with
  | none => simp
  | some read => simp

/-- The reader of expressions ends behind a text that begins with a brace, if and only if the braces
of the text show its end. -/
theorem exists_expression_iff (h : gs.map Glyph.char = '\x7b' :: cs) (after : List Glyph) :
    (∃ source, Reader.expression.run (gs ++ after) = .ok (source, after)) ↔
      IsDelimited ('\x7b' :: cs) := by
  obtain ⟨g, gs, rfl, -, rfl⟩ := List.map_eq_cons_iff.mp h
  rw [isDelimited_cons_iff, exists_run_expression_iff]
  exact behindExpression?_append_iff 0 0 gs after

/-! ### The braces of an object -/

theorem eq_of_isBrace (h : isBrace c = true) : c = '\x7b' ∨ c = '\x7d' :=
  (Bool.or_eq_true_iff.mp h).imp of_decide_eq_true of_decide_eq_true

/-- What escapes are for and what they are made of are no braces. -/
theorem not_isBrace_of_escape (h : c.isAlphanum = true ∨ c = '"' ∨ c = '\\' ∨ c.toNat < 0x20) :
    isBrace c = false := by
  rw [Bool.eq_false_iff]
  intro hbrace
  rcases eq_of_isBrace hbrace with rfl | rfl
  · exact absurd h (by decide)
  · exact absurd h (by decide)

/-- Quoting puts in no braces. -/
theorem filter_isBrace_quoteChar (c : Char) :
    (quoteChar c).filter isBrace = [c].filter isBrace := by
  rcases Text.quoteChar_cases c with ⟨heq, -⟩ | ⟨kind, digits, -, hkind, -⟩
  · rw [heq]
  · -- what is written as an escape is no brace, and no escape has one in it
    have hc : isBrace c = false := not_isBrace_of_escape <| by
      rcases hkind with ⟨-, h⟩ | ⟨-, h⟩
      · exact .inr (h.imp_right .inl)
      · exact .inr (.inr (.inr h))
    have hescape : (quoteChar c).filter isBrace = [] := by
      refine List.filter_eq_nil_iff.mpr fun d hd => Bool.not_eq_true _ ▸ ?_
      rcases Text.mem_quoteChar_cases hd with rfl | rfl | h
      · exact hc
      · rfl
      · exact not_isBrace_of_escape (.inl h)
    rw [hescape, List.filter_singleton, hc]
    rfl

theorem filter_isBrace_quoteChars (cs : List Char) :
    (quoteChars cs).filter isBrace = cs.filter isBrace := by
  have hbody : (cs.flatMap quoteChar).filter isBrace = cs.filter isBrace := by
    induction cs with
    | nil => rfl
    | cons c rest ih =>
      rw [List.flatMap_cons, List.filter_append, filter_isBrace_quoteChar, ih,
        ← List.filter_append, List.singleton_append]
  rw [quoteChars, List.filter_cons_of_neg (by decide), List.filter_append, hbody]
  exact List.append_nil _

/-- A key has the braces of its name. -/
theorem filter_isBrace_key (name : List Char) :
    (Declarations.key name).filter isBrace = name.filter isBrace := by
  rcases key_cases name with ⟨-, hkey⟩ | ⟨-, hkey⟩
  · rw [hkey, filter_isBrace_quoteChars]
  · rw [hkey]
    refine filter_camelCaseChars (fun c hc => ?_) (by decide) name
    rcases eq_of_isBrace hc with rfl | rfl
    · decide
    · decide

theorem filter_isBrace_entry (declaration : List Char × List Char) :
    (Declarations.entry declaration).filter isBrace =
      (declaration.1 ++ declaration.2).filter isBrace := by
  rw [Declarations.entry, List.filter_append, filter_isBrace_key,
    List.filter_cons_of_neg (by decide), List.filter_cons_of_neg (by decide),
    filter_isBrace_quoteChars, ← List.filter_append]

theorem filter_isBrace_joinEntries (entries : List (List Char × List Char)) :
    (Declarations.joinEntries (entries.map Declarations.entry)).filter isBrace =
      (entries.flatMap fun d => d.1 ++ d.2).filter isBrace := by
  induction entries with
  | nil => rfl
  | cons d entries ih =>
    rw [List.flatMap_cons, List.filter_append, ← filter_isBrace_entry, ← ih]
    cases entries with
    | nil => exact (List.append_nil _).symm
    | cons e others =>
      rw [List.map_cons, List.map_cons, joinEntries_cons_cons, List.filter_append,
        List.filter_cons_of_neg (by decide), List.filter_cons_of_neg (by decide)]

/-- The braces around an object show its end if and only if the names and values in it fit. -/
theorem isDelimited_entries_iff (entries : List (List Char × List Char)) :
    IsDelimited ('\x7b' :: '\x7b' ::
        (Declarations.joinEntries (entries.map Declarations.entry) ++ ['\x7d', '\x7d'])) ↔
      BracesFit (entries.flatMap fun d => d.1 ++ d.2) := by
  rw [isDelimited_cons_iff, closes_zero_iff]
  exact bracesFit_congr (filter_isBrace_joinEntries entries)

theorem toList_toExpression (style : String) :
    (Declarations.toExpression style).toList = '\x7b' :: '\x7b' ::
      (Declarations.joinEntries ((Declarations.parse style.toList).map Declarations.entry) ++
        ['\x7d', '\x7d']) := by
  simp [Declarations.toExpression, Declarations.toExpressionChars, Declarations.toObjectChars]

/-- The reader of expressions ends where an expression ends if and only if the names and values of its
declarations, one after the other, open as many braces as they close and never close two more than
they have opened. What follows the expression makes no difference. -/
theorem exists_expression_toExpression_iff {style : String} {gs : List Glyph}
    (hgs : gs.map Glyph.char = (Declarations.toExpression style).toList) (after : List Glyph) :
    (∃ source, Reader.expression.run (gs ++ after) = .ok (source, after)) ↔
      BracesFit ((Declarations.parse style.toList).flatMap fun d => d.1 ++ d.2) := by
  rw [← isDelimited_entries_iff]
  exact exists_expression_iff (hgs.trans (toList_toExpression style)) after

/-- Braces that are closed again may stand in a value. -/
example :
    (Reader.expression.run (Markdown.glyphsFrom {}
      (Declarations.toExpression "content: '\x7b\x7d'").toList).1).isOk = true := by
  decide +kernel

/-- The braces of an expression show its end if and only if the names and values of its declarations,
one after the other, open as many braces as they close and never close two more than they have
opened. -/
theorem isDelimited_toExpression_iff (style : String) :
    IsDelimited (Declarations.toExpression style).toList ↔
      BracesFit ((Declarations.parse style.toList).flatMap fun d => d.1 ++ d.2) := by
  rw [toList_toExpression]
  exact isDelimited_entries_iff _

/-- A closing brace in a value ends the object for the reader, and the source cannot be read. -/
theorem not_isDelimited_toExpression_closingBrace :
    ¬ IsDelimited (Declarations.toExpression "content: '\x7d'").toList ∧
      (Markdown.parse .components
        (Source.rewriteInlineAttributes "<p style=\"content: '\x7d'\">x</p>")).isOk = false := by
  decide +kernel

end Manuscript.Style
