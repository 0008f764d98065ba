import Manuscript.Proofs.Script.Threads

/-!
# Function bodies are lexically closed

The text of the generator is closed, so that a function body is closed as soon as every source in it
leads back to code before the parenthesis behind it. Sources are trimmed, and a source that ends in
a line comment loses the line feed that would end the comment: the parenthesis is then part of the
comment.

## Main definitions

* `Settled` — sources that close their brackets and end in code or in a line comment
* `ClosesInCode` — scripts in which every parenthesis behind a source is in code

## Main results

* `run?_code_of_pass?` — scripts whose sources do not end in a line comment
* `closesInCode_iff` — which scripts are in code behind every source
* `balanced_functionBody_iff` — which function bodies are closed
-/

namespace Manuscript.Script

open Manuscript.Text (trimmed)

/-- Whether a scanner is in code behind a text. -/
def Scan.reachesCode (s : Scan) (cs : List Char) : Bool := (s.run? cs).any (·.mode.isCode)

/-- Whether a text ends in a comment that ends with the line. -/
def endsInLineComment (cs : List Char) : Bool := (Scan.start.run? cs).any (·.mode = .lineComment)

/-- A source that closes its brackets and ends in code or in a comment that ends with the line. -/
def Settled (source : String) : Prop :=
  ∃ mode, Scan.start.run? source.toList = some ⟨mode, []⟩ ∧ mode.isSettled = true

variable {s t : Scan} {ps : List Piece} {text source : String} {awaited cs : List Char}

/-! ### Sources that are not passed over -/

theorem settled_trimmed (h : Balanced (source.toList ++ ['\n'])) : Settled (trimmed source) := by
  obtain ⟨mode, hrun, hmode⟩ := settled_trim h
  refine ⟨mode, ?_, hmode⟩
  rw [trimmed, String.toList_ofList]
  exact hrun

/-- The sources that are emitted close their brackets. -/
theorem settled_of_emitted? {e : Authored} (h : Balanced (e.source.toList ++ ['\n']))
    (hsource : e.emitted? = some source) : Settled source :=
  trimmed_of_emitted? hsource ▸ settled_trimmed h

/-- A source that closes its brackets leads back to code unless it ends in a line comment. -/
theorem Settled.reachesCode (h : Settled source) (awaited : List Char) :
    Scan.reachesCode ⟨.code, awaited⟩ ("(" ++ source).toList =
      !endsInLineComment source.toList := by
  obtain ⟨mode, hrun, hmode⟩ := h
  have hopen : Scan.run? ⟨.code, awaited⟩ "(".toList = some ⟨.code, ')' :: awaited⟩ := rfl
  have hinside : Scan.run? ⟨.code, ')' :: awaited⟩ source.toList = some ⟨mode, ')' :: awaited⟩ :=
    run?_frame hrun (')' :: awaited)
  rw [Scan.reachesCode, endsInLineComment, String.toList_append, run?_append_of_run? hopen, hinside,
    hrun]
  cases mode <;> first | rfl | cases hmode

/-- Between parentheses such a source is balanced. -/
theorem Settled.balanced_embedded (h : Settled source)
    (hend : endsInLineComment source.toList = false) :
    Balanced (Piece.embedded source).code.toList := by
  obtain ⟨mode, hrun, hmode⟩ := h
  have hcode : mode.isCode = true := by
    rw [endsInLineComment, hrun] at hend
    -- a settled source that does not end in a line comment ends in code
    rcases Bool.or_eq_true_iff.mp hmode with hcode | hcomment
    · exact hcode
    · exact absurd hcomment (by simpa using hend)
  have hchars : (Piece.embedded source).code.toList = '(' :: (source.toList ++ [')']) := by
    simp [Piece.code]
  rw [hchars]
  exact balanced_between hrun hcode

/-- If no source ends in a line comment, the script does what its pieces do. -/
theorem run?_code_of_pass? (h : s.pass? ps = some t)
    (hsources : ∀ source ∈ embeddedSources ps, Balanced (Piece.embedded source).code.toList) :
    s.run? (code ps).toList = some t := by
  induction ps generalizing s with
  | nil => exact h
  | cons p rest ih =>
    rw [code_cons, String.toList_append]
    cases p with
    | generated text =>
      obtain ⟨next, hnext, hrest⟩ := Option.bind_eq_some_iff.mp h
      have hrun : s.run? (Piece.generated text).code.toList = some next := hnext
      rw [run?_append_of_run? hrun]
      exact ih hrest hsources
    | embedded source =>
      obtain ⟨hsource, hsources⟩ := List.forall_mem_cons.mp hsources
      obtain ⟨mode, awaited⟩ := s
      obtain ⟨hmode, hrest⟩ := Option.ite_none_right_eq_some.mp h
      have hcode : mode = .code := hmode
      subst hcode
      rw [hsource.run?_append]
      exact ih hrest hsources

/-- Whether a scanner is in code at every parenthesis behind a source. -/
def ClosesInCode (s : Scan) (ps : List Piece) : Prop :=
  ∀ before source after, ps = before ++ .embedded source :: after →
    s.reachesCode (code before ++ "(" ++ source).toList = true

theorem reachesCode_append (h : s.run? cs = some t) (ds : List Char) :
    s.reachesCode (cs ++ ds) = t.reachesCode ds := by
  rw [Scan.reachesCode, run?_append_of_run? h, Scan.reachesCode]

/-- The parentheses behind the sources are that of the first piece and those of the others. -/
theorem closesInCode_cons {p : Piece} (h : s.run? p.code.toList = some t) :
    ClosesInCode s (p :: ps) ↔
      (∀ source, p = .embedded source → s.reachesCode ("(" ++ source).toList = true) ∧
        ClosesInCode t ps := by
  have hbehind (before : List Piece) (source : String) :
      s.reachesCode (code (p :: before) ++ "(" ++ source).toList =
        t.reachesCode (code before ++ "(" ++ source).toList := by
    rw [code_cons, String.append_assoc, String.append_assoc, String.toList_append,
      reachesCode_append h, ← String.append_assoc]
  constructor
  · intro hcloses
    refine ⟨fun source hsource => ?_, fun before source after hsplit => ?_⟩
    · have hfirst := hcloses [] source ps (by rw [hsource, List.nil_append])
      simpa using hfirst
    · rw [← hbehind]
      exact hcloses (p :: before) source after (by rw [hsplit, List.cons_append])
  · rintro ⟨hfirst, hrest⟩ before source after hsplit
    cases before with
    | nil =>
      obtain ⟨hp, -⟩ := List.cons.inj hsplit
      simpa using hfirst source hp
    | cons q before =>
      obtain ⟨rfl, htail⟩ := List.cons.inj hsplit
      rw [hbehind]
      exact hrest before source after htail

/-- A script is in code at every parenthesis behind a source if and only if none of its sources ends
in a line comment. -/
theorem closesInCode_iff (h : s.pass? ps = some t)
    (hsettled : ∀ source ∈ embeddedSources ps, Settled source) :
    ClosesInCode s ps ↔
      ∀ source ∈ embeddedSources ps, endsInLineComment source.toList = false := by
  induction ps generalizing s with
  | nil =>
    have hnone : ClosesInCode s [] := fun before source after hsplit => by simp at hsplit
    simpa using hnone
  | cons p rest ih =>
    cases p with
    | generated text =>
      obtain ⟨next, hnext, hrest⟩ := Option.bind_eq_some_iff.mp h
      rw [closesInCode_cons hnext, ih hrest hsettled]
      simp
    | embedded source =>
      obtain ⟨hsource, hsettled⟩ := List.forall_mem_cons.mp hsettled
      obtain ⟨mode, awaited⟩ := s
      obtain ⟨hmode, hrest⟩ := Option.ite_none_right_eq_some.mp h
      have hcode : mode = .code := hmode
      subst hcode
      cases hend : endsInLineComment source.toList with
      | false =>
        have hrun := (hsource.balanced_embedded hend).run? awaited
        have hreaches : Scan.reachesCode ⟨.code, awaited⟩ ("(" ++ source).toList = true := by
          rw [hsource.reachesCode, hend]
          rfl
        rw [closesInCode_cons hrun, ih hrest hsettled]
        constructor
        · rintro ⟨-, hrest⟩
          exact List.forall_mem_cons.mpr ⟨hend, hrest⟩
        · intro hall
          refine ⟨?_, (List.forall_mem_cons.mp hall).2⟩
          rintro _ ⟨⟩
          exact hreaches
      | true =>
        -- the parenthesis behind this source is part of the comment
        have hnot : ¬ ClosesInCode ⟨.code, awaited⟩ (.embedded source :: rest) := fun hcloses => by
          have hfirst := hcloses [] source rest rfl
          rw [code_nil, String.empty_append, hsource.reachesCode, hend] at hfirst
          cases hfirst
        simp [hnot, hend]

/-- Function bodies are made of text of the generator and of the trimmed sources of expressions, in
parentheses. Suppose that HTML elements have no dots in their tags and no style attributes that are
plain texts, and that each source, with a line feed behind it, leads from code to code and closes
its brackets. Then the body does so, and every parenthesis behind a source is in code, if and only
if no source ends in a line comment when it is trimmed. -/
theorem balanced_functionBody_iff (n : Node) (helements : ∀ e ∈ n.elements, IsTame e)
    (hsources : ∀ e ∈ authored n, Balanced (e.source.toList ++ ['\n'])) :
    code (bodyPieces n) = functionBody n ∧
      embeddedSources (bodyPieces n) = (authored n).filterMap Authored.emitted? ∧
      (Balanced (functionBody n).toList ∧ ClosesInCode Scan.start (bodyPieces n) ↔
        ∀ e ∈ authored n, ∀ source, e.emitted? = some source →
          endsInLineComment source.toList = false) := by
  have hembedded := embeddedSources_bodyPieces n
  have hpass : Scan.start.pass? (bodyPieces n) = some Scan.start :=
    threaded_bodyPieces helements []
  have hsettled : ∀ source ∈ embeddedSources (bodyPieces n), Settled source := by
    intro source hsource
    obtain ⟨e, he, hemitted⟩ := List.mem_filterMap.mp (hembedded ▸ hsource)
    exact settled_of_emitted? (hsources e he) hemitted
  refine ⟨code_bodyPieces n, hembedded, ?_⟩
  have hcloses := closesInCode_iff hpass hsettled
  have hends : (∀ source ∈ embeddedSources (bodyPieces n),
      endsInLineComment source.toList = false) ↔ ∀ e ∈ authored n, ∀ source,
        e.emitted? = some source → endsInLineComment source.toList = false := by
    rw [hembedded]
    simp only [List.mem_filterMap]
    exact ⟨fun h e he source hsource => h source ⟨e, he, hsource⟩,
      fun h source ⟨e, he, hsource⟩ => h e he source hsource⟩
  rw [← hends]
  refine ⟨fun h => hcloses.mp h.2, fun h => ⟨?_, hcloses.mpr h⟩⟩
  have hrun := run?_code_of_pass? hpass fun source hsource =>
    (hsettled source hsource).balanced_embedded (h source hsource)
  rwa [code_bodyPieces] at hrun

/-- A component with two expressions, of which one ends in a block comment. -/
def countedNote : Node :=
  .root [.element "Note" ⟨[("count", .expression "totals[0]")], by decide⟩
    [.expression "label /* short */"]]

/-- The body of the counted note is closed. -/
theorem balanced_functionBody_countedNote :
    (∀ e ∈ countedNote.elements, IsTame e) ∧
      (∀ e ∈ authored countedNote, Balanced (e.source.toList ++ ['\n'])) ∧
      Balanced (functionBody countedNote).toList ∧
      ClosesInCode Scan.start (bodyPieces countedNote) := by
  have hauthored : authored countedNote =
      [.value "totals[0]", .child "label /* short */"] := by decide
  have helements : ∀ e ∈ countedNote.elements, IsTame e := by
    intro e he hcomponent
    obtain rfl := List.mem_singleton.mp he
    cases hcomponent
  have hsources : ∀ e ∈ authored countedNote, Balanced (e.source.toList ++ ['\n']) := by
    rw [hauthored]
    decide +kernel
  refine ⟨helements, hsources, ?_⟩
  refine (balanced_functionBody_iff countedNote helements hsources).2.2.mpr ?_
  have hemitted : ∀ source ∈ (authored countedNote).filterMap Authored.emitted?,
      endsInLineComment source.toList = false := by
    decide +kernel
  exact fun e he source hsource => hemitted source (List.mem_filterMap.mpr ⟨e, he, hsource⟩)

/-- An expression that ends in a line comment. -/
def commentedTotal : Node := .root [.expression "total // so far"]

/-- In the body of the commented total the parenthesis behind the expression is part of the comment,
and brackets stay open. -/
theorem not_balanced_functionBody_commentedTotal :
    (∀ e ∈ commentedTotal.elements, IsTame e) ∧
      (∀ e ∈ authored commentedTotal, Balanced (e.source.toList ++ ['\n'])) ∧
      ¬ ClosesInCode Scan.start (bodyPieces commentedTotal) ∧
      ¬ Balanced (functionBody commentedTotal).toList := by
  have helements : ∀ e ∈ commentedTotal.elements, IsTame e := fun e he => by cases he
  have hsources : ∀ e ∈ authored commentedTotal, Balanced (e.source.toList ++ ['\n']) := by
    decide +kernel
  have hends : endsInLineComment "total // so far".toList = true := by decide +kernel
  refine ⟨helements, hsources, fun hcloses => ?_, fun hbalanced => ?_⟩
  · have hembedded : embeddedSources (bodyPieces commentedTotal) = ["total // so far"] := by
      rw [embeddedSources_bodyPieces]
      decide +kernel
    have hsettled : Settled "total // so far" := ⟨.lineComment, by decide +kernel, rfl⟩
    have hnone := (closesInCode_iff (threaded_bodyPieces helements [])
      (by simpa [hembedded] using hsettled)).mp hcloses "total // so far" (by simp [hembedded])
    rw [hends] at hnone
    cases hnone
  · have hcontent : expression? commentedTotal =
        some "_jsx(_Fragment, \x7bchildren: (total // so far)\x7d)" := by decide +kernel
    have hbody : functionBody commentedTotal =
        bodyOpening {} ++ ("_jsx(_Fragment, \x7bchildren: (total // so far)\x7d)" ++
          (";\n" ++ bodyEnd)) := by
      rw [functionBody_eq, hcontent, bodyOf, String.append_assoc, String.append_assoc]
      rfl
    have hcomment : Scan.run? ⟨.code, ['\x7d']⟩
        "_jsx(_Fragment, \x7bchildren: (total // so far)\x7d)".toList =
          some ⟨.lineComment, [')', '\x7d', ')', '\x7d']⟩ := by decide +kernel
    have hend : Scan.run? ⟨.lineComment, [')', '\x7d', ')', '\x7d']⟩
        (";\n" ++ bodyEnd).toList = none := by
      delta bodyEnd
      simp only [String.toList_append]
      repeat rw [String.toList_ofList]
      decide +kernel
    rw [hbody, String.toList_append, String.toList_append, Balanced,
      run?_append_of_run? (run?_bodyOpening _), run?_append_of_run? hcomment, hend] at hbalanced
    cases hbalanced

end Manuscript.Script
