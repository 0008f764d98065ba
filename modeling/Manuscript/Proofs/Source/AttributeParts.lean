import Manuscript.Proofs.Source.InlineAttributes
import Manuscript.Proofs.Text.Separators

/-!
# The attributes in a run of prose

A run of prose is read once, from left to right, into style attributes, beginnings of class
attributes and single characters. What the two replacements make of the prose can be said part by
part, although the second one reads what the first one has written: no class attribute begins in
front of an expression and goes on into it, and none begins in an expression and goes on behind it.
So the second replacement finds the class attributes of the prose, and whatever it takes for one
within an expression.

## Main definitions

* `Part`, `parts` — the parts of a run of prose
* `Part.text`, `Part.rewritten` — a part in the prose, and what is to stand in its place
* `Part.rewrittenTwice` — what the two replacements put in its place

## Main results

* `proseInduction` — induction on the parts
* `flatMap_text_parts` — the parts make up the prose
* `rewriteClasses_rewriteStyles` — both replacements, part by part
* `rewriteInlineAttributes_unmentioned` — which sources are left alone
-/

namespace Manuscript.Source

open Style (Declarations.toExpressionChars Declarations.toObjectChars)

/-- A part of a run of prose. -/
inductive Part where
  /-- A character that belongs to no attribute. -/
  | plain (c : Char)
  /-- A style attribute with the text between its quotes. -/
  | style (declarations : List Char)
  /-- A class attribute through its opening quote. -/
  | classMark
  deriving DecidableEq, Repr

namespace Part

/-- A part as it stands in the prose. -/
def text : Part → List Char
  | .plain c => [c]
  | .style declarations => styleOpening ++ declarations ++ ['"']
  | .classMark => classOpening

/-- What is to stand in the place of a part. -/
def rewritten : Part → List Char
  | .plain c => [c]
  | .style declarations => "style=".toList ++ Declarations.toExpressionChars declarations
  | .classMark => "className=\"".toList

/-- What stands in the place of a part if class attributes are renamed in its expression as well. -/
def rewrittenTwice : Part → List Char
  | .plain c => [c]
  | .style declarations =>
    "style=".toList ++ rewriteClassesFrom false 0 (Declarations.toExpressionChars declarations)
  | .classMark => "className=\"".toList

theorem rewritten_style (declarations : List Char) :
    rewritten (.style declarations) =
      "style=".toList ++ Declarations.toExpressionChars declarations := rfl

theorem rewrittenTwice_style (declarations : List Char) :
    rewrittenTwice (.style declarations) =
      "style=".toList ++ rewriteClassesFrom false 0 (Declarations.toExpressionChars declarations) :=
  rfl

/-- Whether a part is a character that belongs to no attribute. -/
def IsPlain : Part → Prop
  | .plain _ => True
  | .style _ | .classMark => False

end Part

/-- Reads parts, passing over the first `skip` characters, which belong to a part already read.
`here` says whether an attribute may begin at the next character. -/
def partsFrom (here : Bool) (skip : Nat) : List Char → List Part
  | [] => []
  | c :: rest =>
    match skip with
    | k + 1 => partsFrom false k rest
    | 0 =>
      match if here then styleAttribute? (c :: rest) else none with
      | some (declarations, _) =>
        .style declarations :: partsFrom false (6 + declarations.length + 1) rest
      | none =>
        if here && (classAttribute? (c :: rest)).isSome then .classMark :: partsFrom false 6 rest
        else .plain c :: partsFrom (precedesAttribute c) 0 rest

/-- The parts of a run of prose. -/
def parts (prose : List Char) : List Part := partsFrom true 0 prose

variable {here : Bool} {c : Char} {declarations prose rest cs : List Char}

/-! ### Attributes at the start of a text -/

theorem styleAttribute?_eq_some_iff :
    styleAttribute? cs = some (declarations, rest) ↔
      '"' ∉ declarations ∧ cs = styleOpening ++ declarations ++ '"' :: rest := by
  constructor
  · intro h
    obtain ⟨behind, hbehind, hsplit⟩ := Option.bind_eq_some_iff.mp h
    obtain ⟨hquote, hnone⟩ := Text.eq_append_of_splitFirst hsplit
    refine ⟨hnone, ?_⟩
    rw [Text.eq_append_of_stripPrefix hbehind, hquote, List.append_assoc]
  · rintro ⟨hnone, rfl⟩
    rw [styleAttribute?, List.append_assoc, Text.stripPrefix_append, Option.bind_some,
      Text.splitFirst_append_cons hnone]

theorem isSome_classAttribute?_iff :
    (classAttribute? cs).isSome = true ↔ classOpening <+: cs :=
  Text.stripPrefix_isSome_iff

/-- Whether a character at which an attribute may begin belongs to none. -/
def BeginsNone (here : Bool) (cs : List Char) : Prop :=
  here = true → styleAttribute? cs = none ∧ ¬ classOpening <+: cs

/-! ### Passing over characters -/

theorem partsFrom_skip (k : Nat) (cs : List Char) :
    partsFrom false k cs = partsFrom false 0 (cs.drop k) := by
  induction cs generalizing k with
  | nil => rw [List.drop_nil, partsFrom, partsFrom]
  | cons c rest ih =>
    cases k with
    | zero => rfl
    | succ k => exact ih k

theorem rewriteStylesFrom_skip (k : Nat) (cs : List Char) :
    rewriteStylesFrom false k cs = rewriteStylesFrom false 0 (cs.drop k) := by
  induction cs generalizing k with
  | nil => rw [List.drop_nil, rewriteStylesFrom, rewriteStylesFrom]
  | cons c rest ih =>
    cases k with
    | zero => rfl
    | succ k => exact ih k

/-- Behind the first character of a style attribute the rest of it is passed over. -/
theorem drop_styleAttribute (declarations rest : List Char) :
    ("tyle=\"".toList ++ declarations ++ '"' :: rest).drop (6 + declarations.length + 1) =
      rest := by
  have hsplit : "tyle=\"".toList ++ declarations ++ '"' :: rest =
      ("tyle=\"".toList ++ declarations ++ ['"']) ++ rest := by simp
  have hlength : 6 + declarations.length + 1 =
      ("tyle=\"".toList ++ declarations ++ ['"']).length := by
    rw [List.length_append, List.length_append]
    rfl
  rw [hsplit, hlength, List.drop_left]

/-! ### The parts one by one -/

theorem partsFrom_style (h : '"' ∉ declarations) (rest : List Char) :
    partsFrom true 0 (styleOpening ++ declarations ++ '"' :: rest) =
      .style declarations :: partsFrom false 0 rest := by
  have hread := styleAttribute?_eq_some_iff.mpr ⟨h, Eq.refl (_ ++ '"' :: rest)⟩
  change partsFrom true 0 ('s' :: ("tyle=\"".toList ++ declarations ++ '"' :: rest)) = _
  change styleAttribute? ('s' :: ("tyle=\"".toList ++ declarations ++ '"' :: rest)) = _ at hread
  rw [partsFrom, if_pos rfl, hread]
  dsimp only
  rw [partsFrom_skip, drop_styleAttribute]

theorem rewriteStylesFrom_style (h : '"' ∉ declarations) (rest : List Char) :
    rewriteStylesFrom true 0 (styleOpening ++ declarations ++ '"' :: rest) =
      "style=".toList ++ Declarations.toExpressionChars declarations ++
        rewriteStylesFrom false 0 rest := by
  have hread := styleAttribute?_eq_some_iff.mpr ⟨h, Eq.refl (_ ++ '"' :: rest)⟩
  change rewriteStylesFrom true 0 ('s' :: ("tyle=\"".toList ++ declarations ++ '"' :: rest)) = _
  change styleAttribute? ('s' :: ("tyle=\"".toList ++ declarations ++ '"' :: rest)) = _ at hread
  rw [rewriteStylesFrom, if_pos rfl, hread]
  dsimp only
  rw [rewriteStylesFrom_skip, drop_styleAttribute]

theorem partsFrom_classMark (rest : List Char) :
    partsFrom true 0 (classOpening ++ rest) = .classMark :: partsFrom false 0 rest := rfl

theorem rewriteStylesFrom_classMark (rest : List Char) :
    rewriteStylesFrom true 0 (classOpening ++ rest) =
      classOpening ++ rewriteStylesFrom false 0 rest := rfl

theorem rewriteClassesFrom_classMark (rest : List Char) :
    rewriteClassesFrom true 0 (classOpening ++ rest) =
      "className=\"".toList ++ rewriteClassesFrom false 0 rest := rfl

theorem partsFrom_plain (h : BeginsNone here (c :: rest)) :
    partsFrom here 0 (c :: rest) = .plain c :: partsFrom (precedesAttribute c) 0 rest := by
  cases here with
  | false => rfl
  | true =>
    obtain ⟨hstyle, hclass⟩ := h rfl
    rw [partsFrom, if_pos rfl, hstyle, Bool.true_and,
      if_neg (mt isSome_classAttribute?_iff.mp hclass)]

theorem rewriteStylesFrom_plain (h : BeginsNone here (c :: rest)) :
    rewriteStylesFrom here 0 (c :: rest) = c :: rewriteStylesFrom (precedesAttribute c) 0 rest := by
  cases here with
  | false => rfl
  | true => rw [rewriteStylesFrom, if_pos rfl, (h rfl).1]

theorem rewriteClassesFrom_plain (h : here = true → ¬ classOpening <+: c :: rest) :
    rewriteClassesFrom here 0 (c :: rest) =
      c :: rewriteClassesFrom (precedesAttribute c) 0 rest := by
  cases here with
  | false => rfl
  | true =>
    rw [rewriteClassesFrom, Bool.true_and, if_neg (mt isSome_classAttribute?_iff.mp (h rfl))]

/-- Induction on the parts of a run of prose. -/
theorem proseInduction {motive : Bool → List Char → Prop} (nil : ∀ here, motive here [])
    (style : ∀ declarations rest, '"' ∉ declarations → motive false rest →
      motive true (styleOpening ++ declarations ++ '"' :: rest))
    (classMark : ∀ rest, motive false rest → motive true (classOpening ++ rest))
    (plain : ∀ here c rest, BeginsNone here (c :: rest) → motive (precedesAttribute c) rest →
      motive here (c :: rest)) (here : Bool) (cs : List Char) : motive here cs := by
  induction hlength : cs.length using Nat.strong_induction_on generalizing here cs with
  | _ n ih =>
    subst hlength
    cases cs with
    | nil => exact nil here
    | cons c rest =>
      by_cases hnone : BeginsNone here (c :: rest)
      · exact plain here c rest hnone (ih rest.length (by simp) _ _ rfl)
      · obtain ⟨rfl, hbegins⟩ := Classical.not_imp.mp hnone
        by_cases hclass : classOpening <+: c :: rest
        · obtain ⟨behind, hbehind⟩ := hclass
          rw [← hbehind] at ih ⊢
          have hshorter : behind.length < (classOpening ++ behind).length := by
            rw [List.length_append]
            exact Nat.lt_add_of_pos_left (by decide)
          exact classMark behind (ih behind.length hshorter _ _ rfl)
        · obtain ⟨⟨declarations, behind⟩, hread⟩ :=
            Option.ne_none_iff_exists'.mp fun hstyle => hbegins ⟨hstyle, hclass⟩
          obtain ⟨hquote, heq⟩ := styleAttribute?_eq_some_iff.mp hread
          rw [heq] at ih ⊢
          exact style declarations behind hquote (ih behind.length (by simp; omega) _ _ rfl)

/-- The parts of a run of prose make it up. -/
theorem flatMap_text_partsFrom (here : Bool) (cs : List Char) :
    (partsFrom here 0 cs).flatMap Part.text = cs := by
  induction here, cs using proseInduction with
  | nil here => rfl
  | style declarations rest hquote ih =>
    rw [partsFrom_style hquote, List.flatMap_cons, ih]
    exact List.append_assoc (styleOpening ++ declarations) ['"'] rest
  | classMark rest ih =>
    rw [partsFrom_classMark, List.flatMap_cons, ih]
    rfl
  | plain here c rest hnone ih =>
    rw [partsFrom_plain hnone, List.flatMap_cons, ih]
    rfl

theorem flatMap_text_parts (prose : List Char) : (parts prose).flatMap Part.text = prose :=
  flatMap_text_partsFrom true prose

example : parts "a class=\"b".toList = [.plain 'a', .plain ' ', .classMark, .plain 'b'] := by
  decide +kernel

/-! ### One replacement after the other -/

/-- The first replacement writes nothing that goes on like a text in which no attribute begins. -/
theorem prefix_of_prefix_rewriteStylesFrom {start : List Char}
    (hstart : ∀ c ∈ start, precedesAttribute c = false)
    (h : start <+: rewriteStylesFrom false 0 cs) : start <+: cs := by
  induction start generalizing cs with
  | nil => exact List.nil_prefix
  | cons c start ih =>
    obtain ⟨hc, hstart⟩ := List.forall_mem_cons.mp hstart
    cases cs with
    | nil => exact h
    | cons d rest =>
      rw [rewriteStylesFrom_plain (by simp [BeginsNone])] at h
      obtain ⟨rfl, hrest⟩ := List.cons_prefix_cons.mp h
      rw [hc] at hrest
      exact List.cons_prefix_cons.mpr ⟨rfl, ih hstart hrest⟩

/-- The second replacement finds no class attribute that begins in front of a style attribute and
goes on into its expression. -/
theorem BeginsNone.classOpening_rewriteStylesFrom (h : BeginsNone here (c :: rest))
    (hhere : here = true) :
    ¬ classOpening <+: c :: rewriteStylesFrom (precedesAttribute c) 0 rest := by
  intro hclass
  refine (h hhere).2 ?_
  obtain ⟨rfl, hbehind⟩ := List.cons_prefix_cons.mp hclass
  have hletters : ∀ c ∈ "lass=\"".toList, precedesAttribute c = false := by
    simp [precedesAttribute, Text.isBlank]
  exact List.cons_prefix_cons.mpr ⟨rfl, prefix_of_prefix_rewriteStylesFrom hletters hbehind⟩

/-- Behind a closing brace class attributes are renamed as if a text began there. -/
theorem rewriteClassesFrom_append (skip : Nat) (here : Bool) (cs rest : List Char)
    (hskip : skip ≤ cs.length) :
    rewriteClassesFrom here skip (cs ++ '\x7d' :: rest) =
      rewriteClassesFrom here skip (cs ++ ['\x7d']) ++ rewriteClassesFrom false 0 rest := by
  induction cs generalizing here skip with
  | nil =>
    obtain rfl := Nat.le_zero.mp hskip
    have hnone (rest : List Char) : ¬ classOpening <+: '\x7d' :: rest := fun hfront =>
      absurd (List.cons_prefix_cons.mp hfront).1 (by decide)
    rw [List.nil_append, List.nil_append, rewriteClassesFrom_plain fun _ => hnone rest,
      rewriteClassesFrom_plain fun _ => hnone []]
    rfl
  | cons c cs ih =>
    cases skip with
    | succ k => exact ih k false (Nat.le_of_succ_le_succ hskip)
    | zero =>
      have hsame (rest : List Char) :
          classOpening <+: c :: (cs ++ '\x7d' :: rest) ↔ classOpening <+: c :: cs :=
        Text.prefix_append_cons_iff (b := c :: cs) (by decide)
      rw [List.cons_append, List.cons_append]
      by_cases hbegins : here = true ∧ classOpening <+: c :: cs
      · obtain ⟨rfl, hclass⟩ := hbegins
        have hfound (rest : List Char) : (classAttribute? (c :: (cs ++ '\x7d' :: rest))).isSome :=
          isSome_classAttribute?_iff.mpr ((hsame rest).mpr hclass)
        have hlong : 4 ≤ cs.length := by
          have hlength : 7 ≤ (c :: cs).length := hclass.length_le
          rw [List.length_cons] at hlength
          omega
        rw [rewriteClassesFrom, hfound, rewriteClassesFrom, hfound, Bool.true_and, if_pos rfl,
          ih 4 false hlong, if_pos rfl, List.append_assoc]
      · have hnone (rest : List Char) (hhere : here = true) :
            ¬ classOpening <+: c :: (cs ++ '\x7d' :: rest) := fun hclass =>
          hbegins ⟨hhere, (hsame rest).mp hclass⟩
        rw [rewriteClassesFrom_plain (hnone rest), rewriteClassesFrom_plain (hnone []),
          ih 0 _ (Nat.zero_le _)]
        rfl

/-- Within the expression of a style attribute class attributes are renamed on their own. -/
theorem rewriteClassesFrom_expression (declarations rest : List Char) :
    rewriteClassesFrom true 0
        ("style=".toList ++ Declarations.toExpressionChars declarations ++ rest) =
      Part.rewrittenTwice (.style declarations) ++ rewriteClassesFrom false 0 rest := by
  have hstyle (cs : List Char) : rewriteClassesFrom true 0 ("style=".toList ++ cs) =
      "style=".toList ++ rewriteClassesFrom false 0 cs := rfl
  have hbrace : Declarations.toExpressionChars declarations ++ rest =
      ('\x7b' :: Declarations.toObjectChars declarations) ++ '\x7d' :: rest := by
    simp [Declarations.toExpressionChars]
  rw [List.append_assoc, hstyle, hbrace, rewriteClassesFrom_append 0 false _ rest (Nat.zero_le _),
    ← List.append_assoc]
  rfl

theorem rewriteClassesFrom_rewriteStylesFrom (here : Bool) (cs : List Char) :
    rewriteClassesFrom here 0 (rewriteStylesFrom here 0 cs) =
      (partsFrom here 0 cs).flatMap Part.rewrittenTwice := by
  induction here, cs using proseInduction with
  | nil here => rfl
  | style declarations rest hquote ih =>
    rw [partsFrom_style hquote, rewriteStylesFrom_style hquote, rewriteClassesFrom_expression, ih,
      List.flatMap_cons]
  | classMark rest ih =>
    rw [partsFrom_classMark, rewriteStylesFrom_classMark, rewriteClassesFrom_classMark, ih,
      List.flatMap_cons]
    rfl
  | plain here c rest hnone ih =>
    rw [partsFrom_plain hnone, rewriteStylesFrom_plain hnone,
      rewriteClassesFrom_plain hnone.classOpening_rewriteStylesFrom, ih, List.flatMap_cons]
    rfl

/-- Both replacements, one after the other, replace each part of the prose. -/
theorem rewriteClasses_rewriteStyles (prose : List Char) :
    rewriteClasses (rewriteStyles prose) = (parts prose).flatMap Part.rewrittenTwice :=
  rewriteClassesFrom_rewriteStylesFrom true prose

/-! ### Sources without attributes -/

theorem Part.IsPlain.rewrittenTwice_eq {part : Part} (h : part.IsPlain) :
    part.rewrittenTwice = part.text := by
  cases part with
  | plain c => rfl
  | style declarations => exact h.elim
  | classMark => exact h.elim

theorem flatMap_rewrittenTwice_eq {ps : List Part} (h : ∀ part ∈ ps, part.IsPlain) :
    ps.flatMap Part.rewrittenTwice = ps.flatMap Part.text :=
  List.flatMap_congr fun part hpart => (h part hpart).rewrittenTwice_eq

/-- Whatever follows, the new name of a class attribute is told from the old one. -/
theorem className_append_ne (r s : List Char) :
    "className=\"".toList ++ r ≠ classOpening ++ s := by
  intro h
  have hbehind : 'N' :: _ = '=' :: _ := (List.append_right_inj "class".toList).mp h
  exact absurd (List.cons.inj hbehind).1 (by decide)

/-- The first attribute is written in another way than it was read, whatever follows. -/
theorem forall_isPlain_of_append_eq {ps : List Part} {r s : List Char}
    (h : ps.flatMap Part.rewrittenTwice ++ r = ps.flatMap Part.text ++ s) :
    ∀ part ∈ ps, part.IsPlain := by
  induction ps with
  | nil => simp
  | cons part ps ih =>
    rw [List.flatMap_cons, List.flatMap_cons, List.append_assoc, List.append_assoc] at h
    cases part with
    | plain c => exact List.forall_mem_cons.mpr ⟨trivial, ih (List.cons.inj h).2⟩
    | style declarations =>
      -- a brace stands where the quote was
      have hbehind : '\x7b' :: _ = '"' :: _ := (List.append_right_inj "style=".toList).mp h
      exact absurd (List.cons.inj hbehind).1 (by decide)
    | classMark => exact absurd h (className_append_ne _ _)

/-- Segments stay as they are if and only if no attribute stands in the prose among them. -/
theorem flatMap_rewriteSegment_eq_iff {segments : List Segment} :
    segments.flatMap rewriteSegment = segments.flatMap Segment.text ↔
      ∀ prose, .prose prose ∈ segments → ∀ part ∈ parts prose, part.IsPlain := by
  have hprose (prose : List Char) :
      rewriteSegment (.prose prose) = (parts prose).flatMap Part.rewrittenTwice :=
    rewriteClasses_rewriteStyles prose
  constructor
  · intro h
    induction segments with
    | nil => simp
    | cons segment segments ih =>
      rw [List.flatMap_cons, List.flatMap_cons] at h
      cases segment with
      | verbatim text =>
        intro prose hmem
        exact ih (List.append_cancel_left h) prose (List.mem_of_ne_of_mem (by simp) hmem)
      | prose text =>
        rw [hprose, Segment.text] at h
        nth_rewrite 2 [← flatMap_text_parts text] at h
        have hplain := forall_isPlain_of_append_eq h
        rw [flatMap_rewrittenTwice_eq hplain] at h
        intro prose hmem
        rcases List.mem_cons.mp hmem with heq | hmem
        · obtain rfl := Segment.prose.inj heq
          exact hplain
        · exact ih (List.append_cancel_left h) prose hmem
  · intro h
    refine List.flatMap_congr fun segment hsegment => ?_
    cases segment with
    | verbatim text => rfl
    | prose text =>
      rw [hprose, flatMap_rewrittenTwice_eq (h text hsegment), flatMap_text_parts, Segment.text]

/-- What is returned for a source is always what its rewritten segments make up. For a source that
mentions no attribute this is the source itself, so that it may be returned at once. More generally
the source comes out as it was if and only if no attribute stands in its prose. -/
theorem rewriteInlineAttributes_unmentioned (source : String) :
    (¬ styleOpening <:+: source.toList → ¬ classOpening <:+: source.toList →
        rewriteSegments source.toList = source.toList) ∧
      (rewriteInlineAttributes source).toList = rewriteSegments source.toList ∧
      (rewriteSegments source.toList = source.toList ↔
        ∀ prose, .prose prose ∈ Segment.ofSource source.toList →
          ∀ part ∈ parts prose, part.IsPlain) := by
  refine ⟨fun hstyle hclass => ?_, toList_rewriteInlineAttributes source, ?_⟩
  · refine rewriteSegments_eq_self (Bool.or_eq_false_iff.mpr ⟨?_, ?_⟩)
    · exact Bool.eq_false_iff.mpr (mt Text.containsInfix_iff.mp hstyle)
    · exact Bool.eq_false_iff.mpr (mt Text.containsInfix_iff.mp hclass)
  · rw [← flatMap_rewriteSegment_eq_iff, flatMap_text_ofSource, rewriteSegments]

/-- Attributes with a space in front of the sign and values between other quotes are not mentioned.
-/
theorem rewriteInlineAttributes_unmentioned_otherQuotes :
    ¬ styleOpening <:+: "~~~\nclass = \"a\"\n~~~\n<i style='b: c'>d</i>\n".toList ∧
      ¬ classOpening <:+: "~~~\nclass = \"a\"\n~~~\n<i style='b: c'>d</i>\n".toList ∧
      rewriteSegments "~~~\nclass = \"a\"\n~~~\n<i style='b: c'>d</i>\n".toList =
        "~~~\nclass = \"a\"\n~~~\n<i style='b: c'>d</i>\n".toList :=
  ⟨by decide +kernel, by decide +kernel,
    (rewriteInlineAttributes_unmentioned _).1 (by decide +kernel) (by decide +kernel)⟩

end Manuscript.Source
