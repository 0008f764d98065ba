import Manuscript.Proofs.Source.AttributeParts
import Manuscript.Proofs.Style.ObjectLiteral

/-!
# Style values behind the renaming of classes

Class attributes are renamed after style attributes have become expressions, and so in the
expressions as well. A class attribute shows by the quote behind its name and its sign, and in an
expression quotes stand around values and around the names of custom properties only. The quote that
opens such a text has a space or a brace before it. So the one that closes it is taken for the quote
of a class attribute, exactly if the text ends in `class=` behind a character at which an attribute
may begin and which is not escaped. Then the text is changed; all other values survive.

## Main definitions

* `HoldsClass` — a class attribute begins in a text, behind its first character
* `EndsInClass` — a text ends in a class attribute up to its quote

## Main results

* `rewriteClassesFrom_eq_self_iff` — renaming changes a text if and only if it holds a class
  attribute
* `holdsClass_toExpressionChars_iff` — which expressions hold one
* `styleValues_survive_iff` — in which prose the style values survive
-/

namespace Manuscript.Source

open Style (Declarations.parse Declarations.entry Declarations.joinEntries
  Declarations.toObjectChars Declarations.toExpressionChars camelCaseChars)
open Text (isBlank quoteChar quoteChars)

/-- Whether a class attribute begins in a text, behind a character at which one may begin. -/
def HoldsClass (cs : List Char) : Prop :=
  ∃ c, precedesAttribute c = true ∧ c :: classOpening <:+: cs

/-- Whether a text ends in what a class attribute begins with, up to the quote. -/
def EndsInClass (cs : List Char) : Prop :=
  ∃ c, precedesAttribute c = true ∧ c :: "class=".toList <:+ cs

/-- Whether a text ends so without an escape: the character in front is written as it is. -/
def EndsInPlainClass (cs : List Char) : Prop :=
  ∃ c, precedesAttribute c = true ∧ 0x20 ≤ c.toNat ∧ c :: "class=".toList <:+ cs

variable {here : Bool} {c : Char} {cs start rest text declarations prose : List Char}

/-! ### Class attributes in a text -/

/-- What an attribute may begin at is no quote, no backslash, no letter and no digit. -/
theorem not_precedesAttribute (h : c = '"' ∨ c = '\\' ∨ c.isAlphanum = true) :
    precedesAttribute c = false := by
  have hcode : c.toNat = 34 ∨ c.toNat = 92 ∨ ((65 ≤ c.toNat ∧ c.toNat ≤ 90 ∨
      97 ≤ c.toNat ∧ c.toNat ≤ 122) ∨ 48 ≤ c.toNat ∧ c.toNat ≤ 57) := by
    rcases h with rfl | rfl | halphanum
    · exact .inl rfl
    · exact .inr (.inl rfl)
    refine .inr (.inr ?_)
    rcases Bool.or_eq_true_iff.mp halphanum with halpha | hdigit
    · rcases Bool.or_eq_true_iff.mp halpha with hupper | hlower
      · exact .inl (.inl (of_decide_eq_true hupper))
      · obtain ⟨hfrom, hto⟩ := Bool.and_eq_true_iff.mp hlower
        exact .inl (.inr ⟨of_decide_eq_true hfrom, of_decide_eq_true hto⟩)
    · obtain ⟨hfrom, hto⟩ := Bool.and_eq_true_iff.mp hdigit
      exact .inr ⟨of_decide_eq_true hfrom, of_decide_eq_true hto⟩
  have hangle : c ≠ '<' := by
    rintro rfl
    exact absurd hcode (by decide)
  rw [precedesAttribute, Bool.or_eq_false_iff, decide_eq_false_iff_not, and_iff_left hangle,
    Bool.eq_false_iff]
  intro hblank
  simp only [isBlank, Bool.or_eq_true, Bool.and_eq_true, decide_eq_true_eq, beq_iff_eq] at hblank
  omega

theorem holdsClass_cons_iff :
    HoldsClass (c :: rest) ↔
      (precedesAttribute c = true ∧ classOpening <+: rest) ∨ HoldsClass rest := by
  simp only [HoldsClass, List.infix_cons_iff, List.cons_prefix_cons, and_or_left, exists_or]
  refine or_congr_left ?_
  constructor
  · rintro ⟨d, hd, rfl, hrest⟩
    exact ⟨hd, hrest⟩
  · rintro ⟨hc, hrest⟩
    exact ⟨c, hc, rfl, hrest⟩

/-- A text in which no class attribute begins is left as it is. -/
theorem rewriteClassesFrom_of_not_holdsClass (hhere : here = true → ¬ classOpening <+: cs)
    (h : ¬ HoldsClass cs) : rewriteClassesFrom here 0 cs = cs := by
  induction cs generalizing here with
  | nil => rfl
  | cons c rest ih =>
    obtain ⟨hc, hrest⟩ := not_or.mp (mt holdsClass_cons_iff.mpr h)
    rw [rewriteClassesFrom_plain hhere, ih (not_and.mp hc) hrest]

/-- The first class attribute is written in another way than it was read, whatever follows. -/
theorem not_holdsClass_of_append_eq {r s : List Char}
    (h : rewriteClassesFrom here 0 cs ++ r = cs ++ s) :
    (here = true → ¬ classOpening <+: cs) ∧ ¬ HoldsClass cs := by
  induction cs generalizing here with
  | nil => simp [HoldsClass]
  | cons c rest ih =>
    by_cases hbegins : here = true ∧ classOpening <+: c :: rest
    · obtain ⟨rfl, behind, hbehind⟩ := hbegins
      rw [← hbehind, rewriteClassesFrom_classMark, List.append_assoc, List.append_assoc] at h
      exact absurd h (className_append_ne _ _)
    · rw [rewriteClassesFrom_plain (not_and.mp hbegins)] at h
      obtain ⟨hc, hrest⟩ := ih (List.cons.inj h).2
      refine ⟨not_and.mp hbegins, fun hholds => ?_⟩
      exact (holdsClass_cons_iff.mp hholds).elim (fun hclass => hc hclass.1 hclass.2) hrest

/-- Renaming class attributes changes a text at the start of which none may begin, if and only if it
holds one. -/
theorem rewriteClassesFrom_eq_self_iff : rewriteClassesFrom false 0 cs = cs ↔ ¬ HoldsClass cs :=
  ⟨fun h => (not_holdsClass_of_append_eq (congrArg (· ++ []) h)).2,
    rewriteClassesFrom_of_not_holdsClass (by simp)⟩

/-! ### The quotes of a text -/

theorem EndsInClass.getLast? (h : EndsInClass cs) : cs.getLast? = some '=' := by
  obtain ⟨c, -, before, rfl⟩ := h
  simp

theorem HoldsClass.quote_mem (h : HoldsClass cs) : '"' ∈ cs := by
  obtain ⟨c, -, hinfix⟩ := h
  exact hinfix.subset (List.mem_cons_of_mem c (by decide))

/-- At the first quote of a text a class attribute is at its quote, or it begins behind it. -/
theorem holdsClass_append_quote_iff (hstart : '"' ∉ start) :
    HoldsClass (start ++ '"' :: rest) ↔ EndsInClass start ∨ HoldsClass rest := by
  have hmark (c : Char) (before : List Char) :
      before ++ c :: classOpening = (before ++ c :: "class=".toList) ++ ['"'] := by
    rw [List.append_assoc]
    rfl
  constructor
  · rintro ⟨c, hc, before, after, heq⟩
    rw [hmark, List.append_assoc, List.singleton_append] at heq
    by_cases hbefore : '"' ∈ before
    · -- the first quote stands before the attribute
      obtain ⟨first, others, rfl, hfirst⟩ := List.eq_append_cons_of_mem hbefore
      rw [List.append_assoc, List.append_assoc, List.cons_append] at heq
      obtain ⟨-, hrest⟩ := Text.append_cons_inj_first hfirst hstart heq
      refine .inr ⟨c, hc, others, after, ?_⟩
      rw [hmark, ← hrest]
      simp
    · have hquote : '"' ∉ before ++ c :: "class=".toList := by
        have hne : '"' ≠ c := by
          rintro rfl
          rw [not_precedesAttribute (.inl rfl)] at hc
          cases hc
        simp [hbefore, hne]
      obtain ⟨hstart, -⟩ := Text.append_cons_inj_first hquote hstart heq
      exact .inl ⟨c, hc, before, hstart⟩
  · rintro (⟨c, hc, before, rfl⟩ | ⟨c, hc, hinfix⟩)
    · refine ⟨c, hc, before, rest, ?_⟩
      rw [hmark]
      simp
    · have hsuffix : rest <:+ start ++ '"' :: rest :=
        (List.suffix_cons '"' rest).trans (List.suffix_append start _)
      exact ⟨c, hc, hinfix.trans hsuffix.isInfix⟩

/-! ### Quoted texts -/

/-- A text without quotes is written without quotes. -/
theorem quote_notMem_flatMap_quoteChar (h : '"' ∉ text) : '"' ∉ text.flatMap quoteChar := by
  intro hmem
  obtain ⟨c, hc, hquote⟩ := List.mem_flatMap.mp hmem
  rcases Text.mem_quoteChar_cases hquote with rfl | hescape
  · exact h hc
  · exact absurd hescape (by decide)

/-- What is written without a backslash is written as it is. -/
theorem flatMap_quoteChar_eq_self (h : '\\' ∉ text.flatMap quoteChar) :
    text.flatMap quoteChar = text := by
  induction text with
  | nil => rfl
  | cons c rest ih =>
    rw [List.flatMap_cons, List.mem_append, not_or] at h
    rcases Text.quoteChar_cases c with ⟨heq, -⟩ | ⟨kind, digits, heq, -⟩
    · rw [List.flatMap_cons, heq, ih h.2, List.singleton_append]
    · exact absurd (heq ▸ List.mem_cons_self) h.1

/-- No escape has a character in it at which an attribute may begin, and no control character is
written without one. -/
theorem eq_of_mem_quoteChar {d : Char} (hc : precedesAttribute c = true) (h : c ∈ quoteChar d) :
    d = c ∧ 0x20 ≤ c.toNat := by
  have hne (hother : c = '"' ∨ c = '\\' ∨ c.isAlphanum = true) : False := by
    rw [not_precedesAttribute hother] at hc
    cases hc
  rcases Text.quoteChar_cases d with ⟨heq, -, -, hplain⟩ | ⟨kind, digits, heq, hkind, hdigits⟩
  · obtain rfl := List.mem_singleton.mp (heq ▸ h)
    exact ⟨rfl, hplain⟩
  · rw [heq, List.mem_cons, List.mem_cons] at h
    rcases h with h | rfl | h
    · exact (hne (.inr (.inl h))).elim
    · rcases hkind with ⟨rfl, hescaped⟩ | ⟨hletter, -⟩
      · exact (hne (hescaped.imp_right .inl)).elim
      · exact (hne (.inr (.inr hletter))).elim
    · exact (hne (.inr (.inr (hdigits c h)))).elim

theorem quoteChar_of_precedesAttribute (hc : precedesAttribute c = true) (hplain : 0x20 ≤ c.toNat) :
    quoteChar c = [c] := by
  rcases Text.quoteChar_cases c with ⟨heq, -⟩ | ⟨kind, digits, -, hkind, -⟩
  · exact heq
  · rcases hkind with ⟨-, hescaped⟩ | ⟨-, hcontrol⟩
    · rw [not_precedesAttribute (hescaped.imp_right .inl)] at hc
      cases hc
    · omega

/-- A text as it is written between quotes ends in what begins a class attribute if and only if the
text does without an escape. -/
theorem endsInClass_flatMap_quoteChar_iff :
    EndsInClass (text.flatMap quoteChar) ↔ EndsInPlainClass text := by
  constructor
  · rintro ⟨c, hc, before, hwritten⟩
    obtain ⟨earlier, d, later, left, right, rfl, hd, hmark⟩ :=
      Text.exists_of_flatMap_eq_append_cons hwritten.symm
    obtain ⟨rfl, hplain⟩ := eq_of_mem_quoteChar hc (d := d) (by simp [hd])
    rw [quoteChar_of_precedesAttribute hc hplain] at hd
    obtain ⟨-, hright⟩ := List.append_eq_singleton_iff.mp hd.symm |>.resolve_right (by simp)
    obtain rfl := (List.cons.inj hright).2
    -- the rest of the mark is written without a backslash
    rw [List.nil_append] at hmark
    have hlater : later.flatMap quoteChar = later :=
      flatMap_quoteChar_eq_self (hmark ▸ by decide)
    exact ⟨d, hc, hplain, earlier, by rw [hmark, hlater]⟩
  · rintro ⟨c, hc, hplain, before, rfl⟩
    refine ⟨c, hc, before.flatMap quoteChar, ?_⟩
    rw [List.flatMap_append, List.flatMap_cons, quoteChar_of_precedesAttribute hc hplain]
    rfl

/-! ### Expressions -/

/-- Whether a declaration is written with a class attribute in it: the value ends in one, or the
name does and is quoted. -/
def IsClassLike (declaration : List Char × List Char) : Prop :=
  EndsInPlainClass declaration.2 ∨ ['-', '-'] <+: declaration.1 ∧ EndsInPlainClass declaration.1

variable {declaration : List Char × List Char} {entries : List (List Char × List Char)}

/-- A quoted text behind a text without quotes: a class attribute is at the closing quote, or it
begins behind it. -/
theorem holdsClass_append_quoteChars_iff (hstart : '"' ∉ start) (hopen : ¬ EndsInClass start)
    (htext : '"' ∉ text) (rest : List Char) :
    HoldsClass (start ++ (quoteChars text ++ rest)) ↔ EndsInPlainClass text ∨ HoldsClass rest := by
  have hquotes : start ++ (quoteChars text ++ rest) =
      start ++ '"' :: (text.flatMap quoteChar ++ '"' :: rest) := by simp [quoteChars]
  rw [hquotes, holdsClass_append_quote_iff hstart, or_iff_right hopen,
    holdsClass_append_quote_iff (quote_notMem_flatMap_quoteChar htext),
    endsInClass_flatMap_quoteChar_iff]

theorem not_endsInClass_of_getLast? (h : cs.getLast? ≠ some '=') : ¬ EndsInClass cs :=
  mt EndsInClass.getLast? h

theorem holdsClass_append_entry_iff (hstart : '"' ∉ start) (hopen : ¬ EndsInClass start)
    (hname : '"' ∉ declaration.1) (hvalue : '"' ∉ declaration.2) (rest : List Char) :
    HoldsClass (start ++ (Declarations.entry declaration ++ rest)) ↔
      IsClassLike declaration ∨ HoldsClass rest := by
  have hentry : start ++ (Declarations.entry declaration ++ rest) =
      start ++ (Style.Declarations.key declaration.1 ++ (": ".toList ++
        (quoteChars declaration.2 ++ rest))) := by simp [Declarations.entry]
  rw [hentry, IsClassLike]
  rcases Style.key_cases declaration.1 with ⟨hcustom, hkey⟩ | ⟨hcommon, hkey⟩
  · rw [hkey, holdsClass_append_quoteChars_iff hstart hopen hname,
      holdsClass_append_quoteChars_iff (by decide) (not_endsInClass_of_getLast? (by decide)) hvalue,
      and_iff_right hcustom, or_left_comm, or_assoc]
  · -- the key has no quotes, and the quote of the value stands behind a space
    have hquote : '"' ∉ start ++ (camelCaseChars declaration.1 ++ ": ".toList) := by
      have hcamel := mt (Style.mem_camelCaseChars_iff (by decide) (by decide)).mp hname
      simp [hstart, hcamel]
    have hspace : (start ++ (camelCaseChars declaration.1 ++ ": ".toList)).getLast? ≠ some '=' := by
      simp
    rw [hkey, ← List.append_assoc (camelCaseChars declaration.1), ← List.append_assoc start,
      holdsClass_append_quoteChars_iff hquote (not_endsInClass_of_getLast? hspace) hvalue,
      or_iff_left (not_and_of_not_left _ hcommon)]

theorem holdsClass_append_joinEntries_iff (hstart : '"' ∉ start) (hopen : ¬ EndsInClass start)
    (hentries : ∀ d ∈ entries, '"' ∉ d.1 ∧ '"' ∉ d.2) (hrest : '"' ∉ rest) :
    HoldsClass (start ++ (Declarations.joinEntries (entries.map Declarations.entry) ++ rest)) ↔
      ∃ d ∈ entries, IsClassLike d := by
  have hnone : ¬ HoldsClass rest := mt HoldsClass.quote_mem hrest
  induction entries generalizing start with
  | nil =>
    refine iff_of_false (mt HoldsClass.quote_mem ?_) (by simp)
    simpa [Declarations.joinEntries, hstart] using hrest
  | cons d entries ih =>
    obtain ⟨⟨hname, hvalue⟩, hothers⟩ := List.forall_mem_cons.mp hentries
    cases entries with
    | nil =>
      change HoldsClass (start ++ (Declarations.entry d ++ rest)) ↔ _
      rw [holdsClass_append_entry_iff hstart hopen hname hvalue]
      simp [hnone]
    | cons e others =>
      rw [List.map_cons, List.map_cons, Style.joinEntries_cons_cons, List.append_assoc,
        holdsClass_append_entry_iff hstart hopen hname hvalue, List.exists_mem_cons_iff]
      have hquote : '"' ∉ ", ".toList := by decide
      have hspace : ¬ EndsInClass ", ".toList := not_endsInClass_of_getLast? (by decide)
      exact or_congr_right (ih hquote hspace hothers)

/-- The expression of a style attribute holds a class attribute if and only if one of its
declarations is written with one. -/
theorem holdsClass_toExpressionChars_iff (h : '"' ∉ declarations) :
    HoldsClass (Declarations.toExpressionChars declarations) ↔
      ∃ d ∈ Declarations.parse declarations, IsClassLike d := by
  have hexpression : Declarations.toExpressionChars declarations = "\x7b\x7b".toList ++
      (Declarations.joinEntries ((Declarations.parse declarations).map Declarations.entry) ++
        "\x7d\x7d".toList) := by
    simp [Declarations.toExpressionChars, Declarations.toObjectChars]
  rw [hexpression]
  exact holdsClass_append_joinEntries_iff (by decide) (not_endsInClass_of_getLast? (by decide))
    (fun d hd => not_or.mp fun hquote => h (Style.mem_of_mem_parse hd hquote)) (by decide)

/-! ### Prose -/

theorem quote_notMem_of_mem_partsFrom (here : Bool) (cs : List Char)
    (h : .style declarations ∈ partsFrom here 0 cs) : '"' ∉ declarations := by
  induction here, cs using proseInduction with
  | nil here => cases h
  | style others rest hquote ih =>
    rw [partsFrom_style hquote] at h
    rcases List.mem_cons.mp h with heq | h
    · exact Part.style.inj heq ▸ hquote
    · exact ih h
  | classMark rest ih =>
    rw [partsFrom_classMark] at h
    exact ih (List.mem_of_ne_of_mem (by simp) h)
  | plain here c rest hnone ih =>
    rw [partsFrom_plain hnone] at h
    exact ih (List.mem_of_ne_of_mem (by simp) h)

/-- The first part that is not written as it should be shows, whatever follows. -/
theorem not_holdsClass_of_flatMap_eq {ps : List Part}
    (h : ps.flatMap Part.rewrittenTwice = ps.flatMap Part.rewritten) :
    ∀ declarations, .style declarations ∈ ps →
      ¬ HoldsClass (Declarations.toExpressionChars declarations) := by
  induction ps with
  | nil => simp
  | cons part ps ih =>
    rw [List.flatMap_cons, List.flatMap_cons] at h
    intro declarations hmem
    cases part with
    | plain c =>
      have hrest := (List.append_right_inj (Part.rewritten (.plain c))).mp h
      exact ih hrest declarations (List.mem_of_ne_of_mem (by simp) hmem)
    | classMark =>
      have hrest := (List.append_right_inj (Part.rewritten .classMark)).mp h
      exact ih hrest declarations (List.mem_of_ne_of_mem (by simp) hmem)
    | style first =>
      rw [Part.rewrittenTwice_style, Part.rewritten_style, List.append_assoc, List.append_assoc,
        List.append_right_inj] at h
      have hfirst := (not_holdsClass_of_append_eq h).2
      rw [rewriteClassesFrom_eq_self_iff.mpr hfirst, List.append_right_inj] at h
      rcases List.mem_cons.mp hmem with heq | hmem
      · exact Part.style.inj heq ▸ hfirst
      · exact ih h declarations hmem

/-- Both replacements write every part as it should be if and only if no expression holds a class
attribute. -/
theorem flatMap_rewrittenTwice_eq_iff {ps : List Part} :
    ps.flatMap Part.rewrittenTwice = ps.flatMap Part.rewritten ↔
      ∀ declarations, .style declarations ∈ ps →
        ¬ HoldsClass (Declarations.toExpressionChars declarations) := by
  refine ⟨not_holdsClass_of_flatMap_eq, fun h => List.flatMap_congr fun part hpart => ?_⟩
  cases part with
  | plain c => rfl
  | classMark => rfl
  | style declarations =>
    have hself := rewriteClassesFrom_eq_self_iff.mpr (h declarations hpart)
    rw [Part.rewrittenTwice_style, hself, Part.rewritten_style]

/-- Renaming classes changes the expression of a style attribute if and only if a declaration in it
has a value, or a name that is quoted, that ends in `class=` behind `<` or a blank that needs no
escape. So the two replacements make of a prose what a single one would have made that replaces each
part of it, if and only if no style attribute in it has such a declaration. -/
theorem styleValues_survive_iff (prose : List Char) :
    (∀ declarations, .style declarations ∈ parts prose →
        (rewriteClassesFrom false 0 (Declarations.toExpressionChars declarations) =
            Declarations.toExpressionChars declarations ↔
          ∀ d ∈ Declarations.parse declarations, ¬ IsClassLike d)) ∧
      rewriteClasses (rewriteStyles prose) = (parts prose).flatMap Part.rewrittenTwice ∧
      (rewriteClasses (rewriteStyles prose) = (parts prose).flatMap Part.rewritten ↔
        ∀ declarations, .style declarations ∈ parts prose →
          ∀ d ∈ Declarations.parse declarations, ¬ IsClassLike d) := by
  have hexpression (declarations : List Char) (hmem : .style declarations ∈ parts prose) :
      ¬ HoldsClass (Declarations.toExpressionChars declarations) ↔
        ∀ d ∈ Declarations.parse declarations, ¬ IsClassLike d := by
    rw [holdsClass_toExpressionChars_iff (quote_notMem_of_mem_partsFrom true prose hmem)]
    simp
  refine ⟨fun declarations hmem => ?_, rewriteClasses_rewriteStyles prose, ?_⟩
  · rw [rewriteClassesFrom_eq_self_iff, hexpression declarations hmem]
  · rw [rewriteClasses_rewriteStyles, flatMap_rewrittenTwice_eq_iff]
    exact forall₂_congr hexpression

/-- In a paragraph with a color and a class the value survives. -/
theorem styleValues_survive_iff_redParagraph :
    .style "color: red".toList ∈ parts "<p style=\"color: red\" class=\"b\">".toList ∧
      (∀ d ∈ Declarations.parse "color: red".toList, ¬ IsClassLike d) ∧
      rewriteClassesFrom false 0 (Declarations.toExpressionChars "color: red".toList) =
        Declarations.toExpressionChars "color: red".toList := by
  have hmem : .style "color: red".toList ∈
      parts "<p style=\"color: red\" class=\"b\">".toList := by decide +kernel
  obtain ⟨hexpression, -, hprose⟩ :=
    styleValues_survive_iff "<p style=\"color: red\" class=\"b\">".toList
  have hplain := hprose.mp (by decide +kernel) _ hmem
  exact ⟨hmem, hplain, (hexpression _ hmem).mpr hplain⟩

/-- A value that ends like the beginning of a class attribute does not survive. -/
theorem rewriteInlineAttributes_changes_value :
    (rewriteInlineAttributes "<p style=\"content: a class=\">x</p>").toList =
        "<p style=\x7b\x7bcontent: \"a className=\"\x7d\x7d>x</p>".toList ∧
      Segment.ofSource "<p style=\"content: a class=\">x</p>".toList =
        [.prose "<p style=\"content: a class=\">x</p>".toList] ∧
      (parts "<p style=\"content: a class=\">x</p>".toList).flatMap Part.rewritten =
        "<p style=\x7b\x7bcontent: \"a class=\"\x7d\x7d>x</p>".toList := by
  decide +kernel

end Manuscript.Source
