import Manuscript.Proofs.Text.Blank
import Manuscript.Proofs.Text.Separators
import Manuscript.Proofs.Text.Split
import Manuscript.Script.FunctionBody

/-!
# Sources of comments

The source of an expression says nothing if it has only blanks and comments. A comment in a script
goes from `/*` to the next `*/`, or from `//` to the end of the line. What is left out as the child of
an element is a blank source and a source that begins with `/*`, ends with `*/` and has no other `*/`.
This is one block comment, with two exceptions: its body may not begin with a slash, since the `*/`
that this makes is counted too, and `/*/` is taken for a comment. So several comments, and comments to
the end of the line, are emitted, and leave nothing between their parentheses.

## Main definitions

* `Comment` — the comments of a script
* `ConsistsOf` — the sources of blanks and given comments
* `OmitsComments` — whether a source is left out exactly if it says nothing

## Main results

* `ConsistsOf.unique` — a source consists of comments in one way only
* `isCommentOnly_iff` — what is taken for a comment
* `childSource?_eq_none_iff` — what is left out
* `omitsComments_iff` — when this is right
-/

namespace Manuscript.Script

open Manuscript.Text (isBlank trim trimmed)

/-- Whether a character ends a line of a script: line feed, carriage return, and the separators of
lines and paragraphs. -/
def isLineEnd (c : Char) : Bool := c = '\n' || c = '\r' || c = '\u2028' || c = '\u2029'

/-- A comment in a script. -/
inductive Comment where
  /-- A comment between `/*` and `*/`. -/
  | block (body : List Char)
  /-- A comment from `//` to the end of the line. -/
  | line (body : List Char)
  deriving DecidableEq, Repr

/-- How a comment is written. -/
def Comment.text : Comment → List Char
  | block body => '/' :: '*' :: (body ++ ['*', '/'])
  | line body => '/' :: '/' :: body

/-- A comment ends where it is said to end, if `rest` comes next: a block ends with the first `*/`, and
a line goes on up to its end. -/
def Comment.EndsBefore (rest : List Char) : Comment → Prop
  | block body => ¬ ['*', '/'] <:+: body
  | line body => body.any isLineEnd = false ∧ rest.head?.all isLineEnd = true

instance (rest : List Char) : (comment : Comment) → Decidable (comment.EndsBefore rest)
  | .block body => inferInstanceAs (Decidable (¬ ['*', '/'] <:+: body))
  | .line body => inferInstanceAs (Decidable (body.any isLineEnd = false ∧ _ = true))

/-- The sources that consist of given comments, in order, with blanks between and around them. -/
inductive ConsistsOf : List Comment → List Char → Prop
  /-- Only blanks. -/
  | blank {cs : List Char} (h : ∀ c ∈ cs, isBlank c = true) : ConsistsOf [] cs
  /-- A comment behind blanks, and others behind it. -/
  | comment {before rest : List Char} {comment : Comment} {others : List Comment}
      (hbefore : ∀ c ∈ before, isBlank c = true) (hend : comment.EndsBefore rest)
      (hrest : ConsistsOf others rest) :
      ConsistsOf (comment :: others) (before ++ comment.text ++ rest)

/-- An expression is left out among children if and only if its source consists of comments. -/
def OmitsComments (source : String) : Prop :=
  expression? (.expression source) = none ↔ ∃ comments, ConsistsOf comments source.toList

variable {comment other : Comment} {comments others : List Comment}
  {body before after rest cs u v : List Char}

/-! ### Comments -/

/-- A comment begins with a slash. -/
theorem Comment.exists_text_eq (comment : Comment) : ∃ rest, comment.text = '/' :: rest := by
  cases comment with
  | block body => exact ⟨_, rfl⟩
  | line body => exact ⟨_, rfl⟩

/-- Where a comment begins, it is known which one it is and where it ends. -/
theorem Comment.append_inj (hu : comment.EndsBefore u) (hv : other.EndsBefore v)
    (h : comment.text ++ u = other.text ++ v) : comment = other ∧ u = v := by
  cases comment with
  | block body =>
    cases other with
    | block body' =>
      have hbody : body ++ '*' :: '/' :: u = body' ++ '*' :: '/' :: v := by
        simpa [Comment.text] using h
      obtain ⟨rfl, hrest⟩ := Text.append_pair_inj_first (by decide) hu hv hbody
      exact ⟨rfl, hrest⟩
    | line body' => simp [Comment.text] at h
  | line body =>
    cases other with
    | block body' => simp [Comment.text] at h
    | line body' =>
      have hbody : body ++ u = body' ++ v := by simpa [Comment.text] using h
      obtain ⟨rfl, hrest⟩ := Text.append_inj_of_forall (p := fun c => !isLineEnd c)
        (by simpa using hu.1) (by simpa using hv.1) (by simpa [Option.all_eq_true] using hu.2)
        (by simpa [Option.all_eq_true] using hv.2) hbody
      exact ⟨rfl, hrest⟩

theorem consistsOf_nil_iff : ConsistsOf [] cs ↔ ∀ c ∈ cs, isBlank c = true := by
  constructor
  · rintro ⟨h⟩
    exact h
  · exact .blank

theorem consistsOf_cons_iff :
    ConsistsOf (comment :: others) cs ↔ ∃ before rest, cs = before ++ comment.text ++ rest ∧
      (∀ c ∈ before, isBlank c = true) ∧ comment.EndsBefore rest ∧ ConsistsOf others rest := by
  constructor
  · intro h
    cases h with
    | comment hbefore hend hrest => exact ⟨_, _, rfl, hbefore, hend, hrest⟩
  · rintro ⟨before, rest, rfl, hbefore, hend, hrest⟩
    exact .comment hbefore hend hrest

/-- Blanks in front of a slash end at the slash. -/
theorem blanks_append_inj (h : ∀ c ∈ before, isBlank c = true) (h' : ∀ c ∈ after, isBlank c = true)
    (heq : before ++ '/' :: u = after ++ '/' :: v) : before = after ∧ u = v := by
  have hslash : isBlank '/' = false := by decide
  exact Text.append_cons_inj_first (Text.notMem_of_blank h hslash) (Text.notMem_of_blank h' hslash)
    heq

/-- A source with a comment in it is not blank. -/
theorem not_blank_append_text (comment : Comment) :
    ¬ ∀ c ∈ before ++ comment.text ++ rest, isBlank c = true := by
  obtain ⟨text, htext⟩ := comment.exists_text_eq
  intro h
  exact Text.notMem_of_blank h (c := '/') (by decide) (by simp [htext])

/-- A source consists of comments in one way only. -/
theorem ConsistsOf.unique (h : ConsistsOf comments cs) (h' : ConsistsOf others cs) :
    comments = others := by
  induction h generalizing others with
  | blank hblank =>
    cases others with
    | nil => rfl
    | cons other others =>
      obtain ⟨before, rest, rfl, -⟩ := consistsOf_cons_iff.mp h'
      exact absurd hblank (not_blank_append_text other)
  | @comment before rest comment comments hbefore hend hrest ih =>
    cases others with
    | nil => exact absurd (consistsOf_nil_iff.mp h') (not_blank_append_text comment)
    | cons other others =>
      obtain ⟨before', rest', hcs, hbefore', hend', hrest'⟩ := consistsOf_cons_iff.mp h'
      -- both sources begin with the same comment, behind the same blanks
      obtain ⟨text, htext⟩ := comment.exists_text_eq
      obtain ⟨text', htext'⟩ := other.exists_text_eq
      have hslash : before ++ '/' :: (text ++ rest) = before' ++ '/' :: (text' ++ rest') := by
        simpa [htext, htext'] using hcs
      obtain ⟨rfl, htail⟩ := blanks_append_inj hbefore hbefore' hslash
      have hcomments : comment.text ++ rest = other.text ++ rest' := by
        rw [htext, htext', List.cons_append, List.cons_append, htail]
      obtain ⟨rfl, rfl⟩ := Comment.append_inj hend hend' hcomments
      exact congrArg _ (ih hrest')

/-! ### What is left out -/

/-- A block has no `*/` in front of its last one if and only if there is none in its body, and the body
does not begin with a slash, which would make one with the asterisk before it. -/
theorem not_infix_open_append_iff :
    ¬ ['*', '/'] <:+: '/' :: '*' :: body ↔ ¬ ['*', '/'] <:+: body ∧ body.head? ≠ some '/' := by
  have hslash : ¬ ['*', '/'] <+: '/' :: '*' :: body :=
    fun h => absurd (List.cons_prefix_cons.mp h).1 (by decide)
  have hasterisk : ['*', '/'] <+: '*' :: body ↔ body.head? = some '/' := by
    cases body with
    | nil => simp
    | cons c rest => simp [List.cons_prefix_cons, eq_comm]
  rw [List.infix_cons_iff, List.infix_cons_iff, hasterisk, not_or, not_or]
  exact ⟨fun h => h.2.symm, fun h => ⟨hslash, h.symm⟩⟩

theorem isCommentOnly_eq_true_iff :
    isCommentOnly cs = true ↔
      ['/', '*'] <+: cs ∧ ['*', '/'] <:+ cs ∧ Text.countInfix ['*', '/'] cs = 1 := by
  have hreverse : ['/', '*'] <+: cs.reverse ↔ ['*', '/'] <:+ cs := by
    rw [← List.reverse_prefix]
    rfl
  rw [isCommentOnly, Bool.and_eq_true, Bool.and_eq_true, decide_eq_true_eq,
    Text.stripPrefix_isSome_iff, Text.stripPrefix_isSome_iff, and_assoc, ← hreverse]
  rfl

/-- What is taken for a comment: a block comment that does not begin with a slash, and the shortest text
that begins with one mark and ends with the other. -/
theorem isCommentOnly_iff :
    isCommentOnly cs = true ↔ cs = ['/', '*', '/'] ∨
      ∃ body, cs = (Comment.block body).text ∧ ¬ ['*', '/'] <:+: body ∧ body.head? ≠ some '/' := by
  rw [isCommentOnly_eq_true_iff]
  constructor
  · rintro ⟨⟨behind, hopen⟩, ⟨inside, rfl⟩, hcount⟩
    -- the marks share the asterisk, or there is a body between them
    match inside with
    | [] => exact absurd (List.cons.inj hopen).1 (by decide)
    | [c] =>
      obtain ⟨rfl, -⟩ := List.cons.inj hopen
      exact .inl rfl
    | c :: d :: body =>
      obtain ⟨rfl, htail⟩ := List.cons.inj hopen
      obtain ⟨rfl, -⟩ := List.cons.inj htail
      rw [Text.countInfix_append_pair (by decide), Nat.add_eq_right,
        Text.countInfix_eq_zero_iff (by decide), not_infix_open_append_iff] at hcount
      exact .inr ⟨body, rfl, hcount⟩
  · rintro (rfl | ⟨body, rfl, hbody⟩)
    · exact ⟨⟨['/'], rfl⟩, ⟨['/'], rfl⟩, by decide⟩
    · refine ⟨⟨body ++ ['*', '/'], rfl⟩, ⟨'/' :: '*' :: body, rfl⟩, ?_⟩
      have htext : (Comment.block body).text = ('/' :: '*' :: body) ++ ['*', '/'] := rfl
      rw [htext, Text.countInfix_append_pair (by decide), Nat.add_eq_right,
        Text.countInfix_eq_zero_iff (by decide), not_infix_open_append_iff]
      exact hbody

/-! ### Sources -/

/-- A source is trimmed to a block comment if and only if it consists of it. -/
theorem trim_eq_text_iff (hbody : ¬ ['*', '/'] <:+: body) :
    trim cs = (Comment.block body).text ↔ ConsistsOf [.block body] cs := by
  rw [consistsOf_cons_iff]
  constructor
  · intro htrim
    obtain ⟨before, after, hcs, hbefore, hafter⟩ := Text.exists_eq_append_trim cs
    exact ⟨before, after, htrim ▸ hcs, hbefore, hbody, .blank hafter⟩
  · rintro ⟨before, after, rfl, hbefore, -, hafter⟩
    rw [Text.trim_append_append hbefore (consistsOf_nil_iff.mp hafter)]
    -- a block begins with a slash and ends with one
    have hslash (c : Char) (hc : some '/' = some c) : isBlank c = false := by
      obtain rfl := Option.some.inj hc
      decide
    have hlast : (Comment.block body).text.getLast? = some '/' := by
      simp [Comment.text, List.getLast?_cons]
    exact Text.trim_eq_self hslash fun c hc => hslash c (hlast.symm.trans hc)

/-- What is taken for a comment although its marks share the asterisk does not consist of comments. -/
theorem not_consistsOf_of_trim_eq (h : trim cs = ['/', '*', '/']) : ¬ ConsistsOf comments cs := by
  intro hconsists
  cases comments with
  | nil =>
    rw [Text.trim_eq_nil_iff.mpr (consistsOf_nil_iff.mp hconsists)] at h
    cases h
  | cons comment others =>
    obtain ⟨before, after, hcs, hbefore, hafter⟩ := Text.exists_eq_append_trim cs
    obtain ⟨before', rest, hcs', hbefore', -, -⟩ := consistsOf_cons_iff.mp hconsists
    have hinside (text : List Char) (htext : comment.text = '/' :: text) :
        '*' :: '/' :: after = text ++ rest := by
      rw [hcs, h, htext] at hcs'
      exact (blanks_append_inj hbefore hbefore' (by simpa using hcs')).2
    cases comment with
    | block body =>
      -- its second asterisk would have to be among the blanks
      have hbody := (List.cons.inj (hinside _ rfl)).2
      have hmem : '*' ∈ '/' :: after := by simp [hbody]
      exact absurd (List.mem_of_ne_of_mem (by decide) hmem)
        (Text.notMem_of_blank hafter (by decide))
    | line body => exact absurd (List.cons.inj (hinside _ rfl)).1 (by decide)

theorem childSource?_eq_none_iff_trim {source : String} :
    childSource? source = none ↔
      trim source.toList = [] ∨ isCommentOnly (trim source.toList) = true := by
  have hempty : (trimmed source).isEmpty = true ↔ trim source.toList = [] := by
    rw [String.isEmpty_iff, trimmed, String.ofList_eq_empty_iff]
  rw [childSource?, ite_eq_left_iff, Bool.or_eq_true, hempty, trimmed, String.toList_ofList]
  simp [or_iff_not_imp_left]

/-- What is left out: a source of blanks, one with one block comment that does not begin with a slash,
and the shortest text with the marks of one. -/
theorem childSource?_eq_none_iff {source : String} :
    childSource? source = none ↔ trim source.toList = ['/', '*', '/'] ∨
      ConsistsOf [] source.toList ∨
        ∃ body, ConsistsOf [.block body] source.toList ∧ body.head? ≠ some '/' := by
  have hblock : (∃ body, trim source.toList = (Comment.block body).text ∧ ¬ ['*', '/'] <:+: body ∧
      body.head? ≠ some '/') ↔
        ∃ body, ConsistsOf [.block body] source.toList ∧ body.head? ≠ some '/' := by
    refine exists_congr fun body => ?_
    constructor
    · rintro ⟨htrim, hbody, hhead⟩
      exact ⟨(trim_eq_text_iff hbody).mp htrim, hhead⟩
    · rintro ⟨hconsists, hhead⟩
      obtain ⟨_, _, -, -, hbody, -⟩ := consistsOf_cons_iff.mp hconsists
      exact ⟨(trim_eq_text_iff hbody).mpr hconsists, hbody, hhead⟩
  rw [childSource?_eq_none_iff_trim, isCommentOnly_iff, Text.trim_eq_nil_iff, ← consistsOf_nil_iff,
    hblock, or_left_comm]

theorem expressions_eq_filterMap (ns : List Node) : expressions ns = ns.filterMap expression? := by
  induction ns with
  | nil => rfl
  | cons n rest ih =>
    rw [expressions, ih, List.filterMap_cons]
    cases expression? n <;> rfl

/-- Which sources of expressions are left out among children; all others are emitted in parentheses. So
exactly what says nothing is left out if and only if the source is not the shortest text with the
marks of a comment, and if it consists of comments, then of none or of one block that does not
begin with a slash. -/
theorem omitsComments_iff (source : String) :
    (∀ before after, expressions (before ++ .expression source :: after) =
      expressions before ++ (expression? (.expression source)).toList ++ expressions after) ∧
    (expression? (.expression source) = none ↔ trim source.toList = ['/', '*', '/'] ∨
      ConsistsOf [] source.toList ∨
        ∃ body, ConsistsOf [.block body] source.toList ∧ body.head? ≠ some '/') ∧
    (∀ code, expression? (.expression source) = some code → code = "(" ++ trimmed source ++ ")") ∧
    (OmitsComments source ↔ trim source.toList ≠ ['/', '*', '/'] ∧
      ∀ comments, ConsistsOf comments source.toList →
        comments = [] ∨ ∃ body, comments = [.block body] ∧ body.head? ≠ some '/') := by
  rw [OmitsComments, expression?, childSource?_eq_none_iff]
  refine ⟨fun before after => ?_, Iff.rfl, fun code hcode => ?_, ?_⟩
  · simp only [expressions_eq_filterMap, List.filterMap_append, List.append_assoc]
    rw [List.filterMap_cons, expression?]
    cases childSource? source <;> rfl
  · exact (Option.some.inj (Option.ite_none_left_eq_some.mp hcode).2).symm
  · constructor
    · intro hsame
      have hshort : trim source.toList ≠ ['/', '*', '/'] := by
        intro h
        obtain ⟨comments, hconsists⟩ := hsame.mp (.inl h)
        exact not_consistsOf_of_trim_eq h hconsists
      refine ⟨hshort, fun comments hconsists => ?_⟩
      rcases hsame.mpr ⟨comments, hconsists⟩ with h | h | ⟨body, h, hhead⟩
      · exact absurd h hshort
      · exact .inl (hconsists.unique h)
      · exact .inr ⟨body, hconsists.unique h, hhead⟩
    · rintro ⟨hshort, hcomments⟩
      constructor
      · rintro (h | h | ⟨body, h, -⟩)
        · exact absurd h hshort
        · exact ⟨_, h⟩
        · exact ⟨_, h⟩
      · rintro ⟨comments, hconsists⟩
        rcases hcomments comments hconsists with rfl | ⟨body, rfl, hhead⟩
        · exact .inr (.inl hconsists)
        · exact .inr (.inr ⟨body, hconsists, hhead⟩)

theorem not_omitsComments_of_isSome {source : String} (h : ConsistsOf comments source.toList)
    (hemitted : (expression? (.expression source)).isSome = true) : ¬ OmitsComments source := by
  intro hsame
  rw [hsame.mpr ⟨comments, h⟩] at hemitted
  cases hemitted

/-- Two blocks are emitted, and so are a line and a block that begins with a slash; a text that is no
comment is left out. -/
theorem not_omitsComments_notes :
    ¬ OmitsComments "/* a */ /* b */" ∧ ¬ OmitsComments "// note" ∧
      ¬ OmitsComments "/*/ note */" ∧ ¬ OmitsComments "/*/" := by
  have hblocks : ConsistsOf [.block " a ".toList, .block " b ".toList] "/* a */ /* b */".toList :=
    consistsOf_cons_iff.mpr ⟨[], " /* b */".toList, by decide +kernel, by simp, by decide +kernel,
      consistsOf_cons_iff.mpr
        ⟨[' '], [], by decide +kernel, List.forall_mem_singleton.mpr (by decide),
          by decide +kernel, .blank (by simp)⟩⟩
  have hline : ConsistsOf [.line " note".toList] "// note".toList :=
    consistsOf_cons_iff.mpr
      ⟨[], [], by decide +kernel, by simp, by decide +kernel, .blank (by simp)⟩
  have hslash : ConsistsOf [.block "/ note ".toList] "/*/ note */".toList :=
    consistsOf_cons_iff.mpr
      ⟨[], [], by decide +kernel, by simp, by decide +kernel, .blank (by simp)⟩
  have hshort : ¬ OmitsComments "/*/" := by
    intro hsame
    obtain ⟨comments, hconsists⟩ := hsame.mp (by decide +kernel)
    exact not_consistsOf_of_trim_eq (by decide +kernel) hconsists
  exact ⟨not_omitsComments_of_isSome hblocks (by decide +kernel),
    not_omitsComments_of_isSome hline (by decide +kernel),
    not_omitsComments_of_isSome hslash (by decide +kernel), hshort⟩

end Manuscript.Script
