import Mathlib.Data.List.Chain
import Manuscript.Proofs.Text.Lines
import Manuscript.Source.Segment

/-!
# How a source is cut

The segments of a source are runs of its lines, one after the other. A verbatim segment is a block
of front matter at the start or a fenced block, and prose is whatever stands between them, so that
no line of it opens a fence. These conditions leave no choice: there is one way to cut a source.

## Main definitions

* `IsFrontMatter`, `IsFenced` — what the lines of a verbatim segment are
* `IsCut` — segments that cut some lines
* `IsPartition` — segments that cut a whole source

## Main results

* `isCut_cut` — what lines behind the front matter are cut into
* `IsCut.eq_cut` — there is one way to cut them
* `isPartition_iff` — the same for a whole source
-/

namespace Manuscript.Source

open Text (linesInclusive AreLines flatten_linesInclusive areLines_linesInclusive)

namespace Segment

/-- Whether a segment is prose. -/
def IsProse : Segment → Prop
  | .prose _ => True
  | .verbatim _ => False

/-- The lines of a segment. -/
def lines (s : Segment) : List (List Char) := linesInclusive s.text

end Segment

/-- A line that closes a fence: it has a fence of the same marker, at least as long, and nothing but
markers between blanks. -/
def Fence.ClosedBy (fence : Fence) (line : List Char) : Prop :=
  ∃ closer, fenceMarker? line = some closer ∧ closer.marker = fence.marker ∧
    fence.length ≤ closer.length ∧ ∀ c ∈ Text.trim line, c = fence.marker

/-- A block of front matter: a delimiter, lines that are none, and the next delimiter. -/
def IsFrontMatter (lines : List (List Char)) : Prop :=
  ∃ opener body closer, lines = opener :: (body ++ [closer]) ∧ isFrontMatterLine opener = true ∧
    (∀ line ∈ body, isFrontMatterLine line = false) ∧ isFrontMatterLine closer = true

/-- A fenced block: a line that opens a fence and those that follow it, through the first one that
closes it. The last block of a source may go without one that closes it. -/
def IsFenced (lines : List (List Char)) (isLast : Prop) : Prop :=
  ∃ opener fence body, fenceMarker? opener = some fence ∧ (∀ line ∈ body, ¬ fence.ClosedBy line) ∧
    ((∃ closer, lines = opener :: (body ++ [closer]) ∧ fence.ClosedBy closer) ∨
      lines = opener :: body ∧ isLast)

/-- Segments that cut lines. Besides fenced blocks, the first segment may be verbatim for being
`leading`, and it has to be if the lines begin with such a block. -/
structure IsCut (leading : List (List Char) → Prop) (lines : List (List Char))
    (segments : List Segment) : Prop where
  /-- The segments have all of the lines, whole and in order. -/
  lines_eq : segments.flatMap Segment.lines = lines
  /-- No segment is empty. -/
  nonempty : ∀ s ∈ segments, s.text ≠ []
  /-- Prose does not follow prose. -/
  separated : segments.IsChain fun a b => ¬ (a.IsProse ∧ b.IsProse)
  /-- No line of prose has a fence. -/
  prose : ∀ s ∈ segments, s.IsProse → ∀ line ∈ s.lines, fenceMarker? line = none
  /-- What is verbatim is the leading block or a fenced one. -/
  verbatim : ∀ s after, s :: after <:+ segments → ¬ s.IsProse →
    s :: after = segments ∧ leading s.lines ∨ IsFenced s.lines (after = [])
  /-- A leading block is not passed over. -/
  leads : ∀ block rest, lines = block ++ rest → leading block →
    segments.head? = some (.verbatim block.flatten)

/-- Segments that cut a source: its front matter, its fenced blocks and the prose between them. -/
def IsPartition (source : List Char) (segments : List Segment) : Prop :=
  IsCut IsFrontMatter (linesInclusive source) segments

/-- Segments that cut lines behind the front matter. -/
abbrev IsBodyCut : List (List Char) → List Segment → Prop := IsCut fun _ => False

variable {leading : List (List Char) → Prop}
  {block body front lines pending rest : List (List Char)} {opener line : List Char} {fence : Fence}
  {segments : List Segment} {s : Segment}

/-! ### Fences -/

theorem closes_iff : closes fence line = true ↔ fence.ClosedBy line := by
  rw [closes, Fence.ClosedBy]
  split
  · rename_i closer hcloser
    simp [hcloser, and_assoc]
  · rename_i hnone
    simp [hnone]

theorem forall_not_closedBy (h : ∀ line ∈ body, closes fence line = false) :
    ∀ line ∈ body, ¬ fence.ClosedBy line := by
  intro line hline hclosed
  rw [← closes_iff, h line hline] at hclosed
  cases hclosed

theorem flatten_ne_nil_of_areLines (h : AreLines lines) (hne : lines ≠ []) :
    lines.flatten ≠ [] := by
  intro hnil
  rw [← h.linesInclusive_flatten, hnil] at hne
  exact hne rfl

/-! ### Putting segments together -/

namespace IsCut

theorem nil : IsBodyCut [] [] where
  lines_eq := rfl
  nonempty := by simp
  separated := .nil
  prose := by simp
  verbatim s after h := by simp at h
  leads _ _ _ h := h.elim

/-- Prose before a segment that is none. -/
theorem proseOf_append (h : IsBodyCut rest segments) (hlines : AreLines block)
    (hblock : ∀ line ∈ block, fenceMarker? line = none)
    (hhead : ∀ s ∈ segments.head?, ¬ s.IsProse) :
    IsBodyCut (block ++ rest) (proseOf block ++ segments) := by
  cases block with
  | nil => exact h
  | cons first others =>
    have hprose : proseOf (first :: others) = [.prose (first :: others).flatten] := rfl
    have htext : Segment.lines (.prose (first :: others).flatten) = first :: others :=
      hlines.linesInclusive_flatten
    rw [hprose, List.singleton_append]
    exact {
      lines_eq := by rw [List.flatMap_cons, htext, h.lines_eq]
      nonempty := List.forall_mem_cons.mpr
        ⟨flatten_ne_nil_of_areLines hlines (List.cons_ne_nil _ _), h.nonempty⟩
      separated := List.isChain_cons.mpr ⟨fun s hs hboth => hhead s hs hboth.2, h.separated⟩
      prose := List.forall_mem_cons.mpr ⟨fun _ => by rwa [htext], h.prose⟩
      verbatim := fun s after hsuffix hs => by
        rcases List.suffix_cons_iff.mp hsuffix with heq | hsuffix
        · obtain ⟨rfl, -⟩ := List.cons.inj heq
          exact absurd trivial hs
        · exact (h.verbatim s after hsuffix hs).imp_left fun hleading => hleading.2.elim
      leads := fun _ _ _ h => h.elim }

/-- A verbatim segment before others. -/
theorem verbatim_cons (h : IsBodyCut rest segments) (hlines : AreLines block) (hne : block ≠ [])
    (hblock : leading block ∨ IsFenced block (segments = []))
    (hleads : ∀ front others, block ++ rest = front ++ others → leading front → front = block) :
    IsCut leading (block ++ rest) (.verbatim block.flatten :: segments) := by
  have htext : Segment.lines (.verbatim block.flatten) = block := hlines.linesInclusive_flatten
  exact {
    lines_eq := by rw [List.flatMap_cons, htext, h.lines_eq]
    nonempty := List.forall_mem_cons.mpr ⟨flatten_ne_nil_of_areLines hlines hne, h.nonempty⟩
    separated := List.isChain_cons.mpr ⟨fun s _ hboth => hboth.1, h.separated⟩
    prose := List.forall_mem_cons.mpr ⟨False.elim, h.prose⟩
    verbatim := fun s after hsuffix hs => by
      rcases List.suffix_cons_iff.mp hsuffix with heq | hsuffix
      · obtain ⟨rfl, rfl⟩ := List.cons.inj heq
        rw [htext]
        exact hblock.imp_left fun hleading => ⟨rfl, hleading⟩
      · exact .inr ((h.verbatim s after hsuffix hs).resolve_left fun hleading => hleading.2)
    leads := fun front others heq hfront => by
      rw [hleads front others heq hfront]
      rfl }

/-- Without its first segment, a cut is one of what follows. -/
theorem tail (h : IsCut leading lines (s :: segments)) :
    IsBodyCut (segments.flatMap Segment.lines) segments where
  lines_eq := rfl
  nonempty := (List.forall_mem_cons.mp h.nonempty).2
  separated := (List.isChain_cons.mp h.separated).2
  prose := (List.forall_mem_cons.mp h.prose).2
  verbatim t after hsuffix ht := by
    have hwhole := hsuffix.trans (List.suffix_cons s segments)
    refine .inr ((h.verbatim t after hwhole ht).resolve_left ?_)
    -- the first segment stands before this one
    rintro ⟨heq, -⟩
    rw [heq] at hsuffix
    exact absurd hsuffix.length_le (by simp)
  leads _ _ _ h := h.elim

end IsCut

/-! ### Lines behind the front matter -/

/-- While a fence is open, what is cut next is verbatim. -/
theorem exists_cut_eq_verbatim_cons (pending : List (List Char)) (fence : Fence)
    (lines : List (List Char)) :
    ∃ text segments, cut pending (some fence) lines = .verbatim text :: segments := by
  induction lines generalizing pending with
  | nil => exact ⟨_, [], rfl⟩
  | cons line rest ih =>
    rw [cut]
    split
    · exact ⟨_, _, rfl⟩
    · exact ih (line :: pending)

/-- Lines are cut into prose and fenced blocks, whatever was read before: prose that goes on, or the
beginning of a fenced block. -/
theorem isCut_cut (lines : List (List Char)) :
    (∀ pending, AreLines (pending ++ lines) → (∀ line ∈ pending, fenceMarker? line = none) →
      IsBodyCut (pending ++ lines) (cut pending.reverse none lines)) ∧
    ∀ opener fence body, AreLines (opener :: body ++ lines) → fenceMarker? opener = some fence →
      (∀ line ∈ body, closes fence line = false) →
      IsBodyCut (opener :: body ++ lines) (cut (opener :: body).reverse (some fence) lines) := by
  -- the two parts are proved together, since each line may lead from one to the other
  induction lines with
  | nil =>
    constructor
    · intro pending hlines hpending
      rw [cut, List.reverse_reverse, ← List.append_nil (proseOf pending)]
      exact IsCut.nil.proseOf_append hlines.of_append.1 hpending (by simp)
    · intro opener fence body hlines hopener hbody
      rw [cut, List.reverse_reverse]
      refine IsCut.nil.verbatim_cons hlines.of_append.1 (List.cons_ne_nil _ _) (.inr ?_) (by simp)
      exact ⟨opener, fence, body, hopener, forall_not_closedBy hbody, .inr ⟨rfl, rfl⟩⟩
  | cons line rest ih =>
    obtain ⟨ihprose, ihfenced⟩ := ih
    constructor
    · intro pending hlines hpending
      rw [cut]
      cases hmarker : fenceMarker? line with
      | none =>
        -- the prose goes on with the line
        rw [List.append_cons] at hlines ⊢
        dsimp only
        rw [← List.reverse_concat]
        exact ihprose (pending ++ [line]) hlines
          (List.forall_mem_append.mpr ⟨hpending, List.forall_mem_singleton.mpr hmarker⟩)
      | some fence =>
        -- the prose ends, and the line opens a fenced block
        obtain ⟨hpendinglines, hrest⟩ := hlines.of_append
        have hblock := ihfenced line fence [] hrest hmarker (by simp)
        obtain ⟨text, segments, hcut⟩ := exists_cut_eq_verbatim_cons [line] fence rest
        dsimp only
        rw [List.reverse_reverse]
        rw [List.reverse_singleton, hcut] at hblock
        rw [hcut]
        exact hblock.proseOf_append hpendinglines hpending (by simp [Segment.IsProse])
    · intro opener fence body hlines hopener hbody
      rw [cut]
      cases hcloses : closes fence line with
      | false =>
        -- the block goes on with the line
        rw [List.append_cons, List.cons_append] at hlines ⊢
        rw [if_neg Bool.false_ne_true, ← List.reverse_concat]
        exact ihfenced opener fence (body ++ [line]) hlines hopener
          (List.forall_mem_append.mpr ⟨hbody, List.forall_mem_singleton.mpr hcloses⟩)
      | true =>
        -- the block ends with the line, and prose may follow
        rw [List.append_cons, List.cons_append] at hlines ⊢
        obtain ⟨hblocklines, hrest⟩ := hlines.of_append
        rw [if_pos rfl, ← List.reverse_concat, List.reverse_reverse, List.cons_append]
        refine (ihprose [] hrest (by simp)).verbatim_cons hblocklines (List.cons_ne_nil _ _)
          (.inr ?_) (by simp)
        exact ⟨opener, fence, body, hopener, forall_not_closedBy hbody,
          .inl ⟨line, rfl, closes_iff.mp hcloses⟩⟩

/-! ### One way to cut -/

/-- Lines without fences are read as prose. -/
theorem cut_append_of_prose (h : ∀ line ∈ block, fenceMarker? line = none) :
    cut pending none (block ++ rest) = cut (block.reverse ++ pending) none rest := by
  induction block generalizing pending with
  | nil => rfl
  | cons line others ih =>
    obtain ⟨hline, hothers⟩ := List.forall_mem_cons.mp h
    rw [List.cons_append, cut, hline]
    dsimp only
    rw [ih hothers, List.reverse_cons, List.append_assoc, List.singleton_append]

/-- Lines that do not close a fence are read as part of its block. -/
theorem cut_append_of_not_closedBy (h : ∀ line ∈ body, ¬ fence.ClosedBy line) :
    cut pending (some fence) (body ++ rest) = cut (body.reverse ++ pending) (some fence) rest := by
  induction body generalizing pending with
  | nil => rfl
  | cons line others ih =>
    obtain ⟨hline, hothers⟩ := List.forall_mem_cons.mp h
    rw [List.cons_append, cut, if_neg (mt closes_iff.mp hline), ih hothers, List.reverse_cons,
      List.append_assoc, List.singleton_append]

/-- A line that opens a fence ends the prose before it. -/
theorem cut_opener (h : fenceMarker? opener = some fence) :
    cut pending none (opener :: rest) =
      proseOf pending.reverse ++ cut [opener] (some fence) rest := by
  rw [cut, h]

/-- A fenced block is a segment of its own. -/
theorem IsFenced.cut_append {isLast : Prop} (h : IsFenced block isLast)
    (hlast : isLast → rest = []) :
    cut pending none (block ++ rest) =
      proseOf pending.reverse ++ .verbatim block.flatten :: cut [] none rest := by
  obtain ⟨opener, fence, body, hopener, hbody, ⟨closer, rfl, hcloser⟩ | ⟨rfl, hisLast⟩⟩ := h
  · rw [List.cons_append, List.append_assoc, List.singleton_append, cut_opener hopener,
      cut_append_of_not_closedBy hbody, cut, if_pos (closes_iff.mpr hcloser)]
    simp
  · rw [hlast hisLast, List.cons_append, cut_opener hopener, cut_append_of_not_closedBy hbody, cut]
    simp [cut, proseOf]

theorem proseOf_linesInclusive {text : List Char} (h : text ≠ []) :
    proseOf (linesInclusive text) = [.prose text] := by
  have hne : linesInclusive text ≠ [] := by
    intro hnil
    rw [← flatten_linesInclusive text, hnil] at h
    exact h rfl
  rw [proseOf, if_neg (by simpa using hne), flatten_linesInclusive]

/-- There is one way to cut lines behind the front matter. -/
theorem IsCut.eq_cut (h : IsBodyCut lines segments) : segments = cut [] none lines := by
  -- on the segments, not the lines: each one says how far `cut` goes before it starts anew
  induction segments generalizing lines with
  | nil =>
    rw [← h.lines_eq]
    rfl
  | cons s segments ih =>
    have htail := ih h.tail
    -- a segment that is not prose is a fenced block
    have hfenced (t : Segment) (after : List Segment) (hsuffix : t :: after <:+ s :: segments)
        (ht : ¬ t.IsProse) : IsFenced t.lines (after = []) :=
      (h.verbatim t after hsuffix ht).resolve_left fun hleading => hleading.2
    rw [← h.lines_eq, List.flatMap_cons]
    cases s with
    | verbatim text =>
      rw [(hfenced _ _ List.suffix_rfl id).cut_append (by rintro rfl; rfl), ← htail, Segment.lines,
        flatten_linesInclusive]
      rfl
    | prose text =>
      have hprose : proseOf (Segment.lines (.prose text)) = [.prose text] :=
        proseOf_linesInclusive (h.nonempty _ List.mem_cons_self)
      rw [cut_append_of_prose (h.prose _ List.mem_cons_self trivial), List.append_nil]
      -- the prose ends with the lines or before a fenced block, since no prose follows it
      cases segments with
      | nil => rw [List.flatMap_nil, cut, List.reverse_reverse, hprose]
      | cons next others =>
        have hnext : ¬ next.IsProse := fun hnext =>
          (List.isChain_cons_cons.mp h.separated).1 ⟨trivial, hnext⟩
        have hblock := hfenced next others (List.suffix_cons _ _) hnext
        have hlast : others = [] → others.flatMap Segment.lines = [] := by
          rintro rfl
          rfl
        rw [List.flatMap_cons, hblock.cut_append hlast] at htail ⊢
        rw [List.reverse_reverse, hprose, htail]
        rfl

/-! ### Front matter -/

/-- The lines through the first delimiter. -/
theorem linesThroughDelimiter_append {closer : List Char}
    (hbody : ∀ line ∈ body, isFrontMatterLine line = false)
    (hcloser : isFrontMatterLine closer = true) :
    linesThroughDelimiter (body ++ closer :: rest) = some (body.length + 1) := by
  induction body with
  | nil => rw [List.nil_append, linesThroughDelimiter, if_pos hcloser, List.length_nil]
  | cons line others ih =>
    obtain ⟨hline, hothers⟩ := List.forall_mem_cons.mp hbody
    rw [List.cons_append, linesThroughDelimiter, if_neg (by simp [hline]), ih hothers]
    rfl

/-- Lines without a delimiter, or the first one of them. -/
theorem linesThroughDelimiter_eq_none_or (lines : List (List Char)) :
    linesThroughDelimiter lines = none ∨
      ∃ body closer rest, lines = body ++ closer :: rest ∧
        (∀ line ∈ body, isFrontMatterLine line = false) ∧ isFrontMatterLine closer = true := by
  induction lines with
  | nil => exact .inl rfl
  | cons line others ih =>
    cases hline : isFrontMatterLine line with
    | true => exact .inr ⟨[], line, others, rfl, by simp, hline⟩
    | false =>
      rcases ih with hnone | ⟨body, closer, rest, rfl, hbody, hcloser⟩
      · exact .inl (by rw [linesThroughDelimiter, hnone, hline]; rfl)
      · exact .inr ⟨line :: body, closer, rest, rfl,
          List.forall_mem_cons.mpr ⟨hline, hbody⟩, hcloser⟩

theorem frontMatterLines_append (h : IsFrontMatter front) (rest : List (List Char)) :
    frontMatterLines (front ++ rest) = front.length := by
  obtain ⟨opener, body, closer, rfl, hopener, hbody, hcloser⟩ := h
  rw [List.cons_append, List.append_assoc, List.singleton_append, frontMatterLines, if_pos hopener,
    linesThroughDelimiter_append hbody hcloser]
  simp

/-- Lines begin with a block of front matter or are not counted as one. -/
theorem exists_isFrontMatter_or (lines : List (List Char)) :
    (∃ front rest, lines = front ++ rest ∧ IsFrontMatter front) ∨ frontMatterLines lines = 0 := by
  cases lines with
  | nil => exact .inr rfl
  | cons opener others =>
    cases hopener : isFrontMatterLine opener with
    | false => exact .inr (by simp [frontMatterLines, hopener])
    | true =>
      rcases linesThroughDelimiter_eq_none_or others with
        hnone | ⟨body, closer, rest, rfl, hbody, hcloser⟩
      · exact .inr (by simp [frontMatterLines, hopener, hnone])
      · exact .inl ⟨opener :: (body ++ [closer]), rest, by simp,
          opener, body, closer, rfl, hopener, hbody, hcloser⟩

/-- Lines begin with one block of front matter at most. -/
theorem IsFrontMatter.eq_of_append_eq {front' rest' : List (List Char)} (h : IsFrontMatter front)
    (h' : IsFrontMatter front') (heq : front ++ rest = front' ++ rest') : front = front' := by
  have hlength : front.length = front'.length := by
    rw [← frontMatterLines_append h rest, heq, frontMatterLines_append h' rest']
  exact (List.append_inj heq hlength).1

theorem IsFrontMatter.ne_nil (h : IsFrontMatter front) : front ≠ [] := by
  obtain ⟨opener, body, closer, rfl, -⟩ := h
  exact List.cons_ne_nil _ _

/-- Lines that begin with no leading block are cut like those behind the front matter. -/
theorem isCut_iff_isBodyCut (hno : ∀ block rest, lines = block ++ rest → ¬ leading block) :
    IsCut leading lines segments ↔ IsBodyCut lines segments := by
  constructor
  · intro h
    refine { h with verbatim := fun s after hsuffix hs => .inr ?_, leads := fun _ _ _ h => h.elim }
    refine (h.verbatim s after hsuffix hs).resolve_left ?_
    rintro ⟨rfl, hleading⟩
    exact hno s.lines _ (by rw [← h.lines_eq, List.flatMap_cons]) hleading
  · intro h
    refine { h with
      verbatim := fun s after hsuffix hs => .inr ?_
      leads := fun block rest heq hleading => absurd hleading (hno block rest heq) }
    exact (h.verbatim s after hsuffix hs).resolve_left fun hleading => hleading.2

/-! ### Whole sources -/

variable {source : List Char}

theorem ofSource_of_isFrontMatter (h : linesInclusive source = front ++ rest)
    (hfront : IsFrontMatter front) :
    Segment.ofSource source = .verbatim front.flatten :: cut [] none rest := by
  have hne : front.length ≠ 0 := mt List.length_eq_zero_iff.mp hfront.ne_nil
  rw [Segment.ofSource, h, frontMatterLines_append hfront, if_neg hne, List.take_left,
    List.drop_left]
  rfl

theorem ofSource_of_frontMatterLines (h : frontMatterLines (linesInclusive source) = 0) :
    Segment.ofSource source = cut [] none (linesInclusive source) := by
  rw [Segment.ofSource, h, if_pos rfl]
  rfl

/-- Lines that are not counted as front matter do not begin with any. -/
theorem not_isFrontMatter_of_frontMatterLines (h : frontMatterLines lines = 0)
    (block rest : List (List Char)) (heq : lines = block ++ rest) : ¬ IsFrontMatter block := by
  intro hblock
  rw [heq, frontMatterLines_append hblock] at h
  exact hblock.ne_nil (List.length_eq_zero_iff.mp h)

/-- The segments of a source are the only ones that cut it into its front matter, its fenced blocks
and the prose between them. -/
theorem isPartition_iff : IsPartition source segments ↔ segments = Segment.ofSource source := by
  have hlines := areLines_linesInclusive source
  rcases exists_isFrontMatter_or (linesInclusive source) with ⟨front, rest, heq, hfront⟩ | hzero
  · rw [IsPartition, ofSource_of_isFrontMatter heq hfront, heq]
    rw [heq] at hlines
    obtain ⟨hfrontlines, hrestlines⟩ := hlines.of_append
    constructor
    · intro h
      obtain ⟨others, rfl⟩ := List.head?_eq_some_iff.mp (h.leads front rest rfl hfront)
      have hothers : others.flatMap Segment.lines = rest := by
        have hall := h.lines_eq
        rw [List.flatMap_cons, Segment.lines, Segment.text, hfrontlines.linesInclusive_flatten]
          at hall
        exact List.append_cancel_left hall
      rw [← hothers, ← h.tail.eq_cut]
    · rintro rfl
      exact ((isCut_cut rest).1 [] hrestlines (by simp)).verbatim_cons hfrontlines hfront.ne_nil
        (.inl hfront) fun front' rest' heq hfront' => (hfront.eq_of_append_eq hfront' heq).symm
  · rw [IsPartition, isCut_iff_isBodyCut (not_isFrontMatter_of_frontMatterLines hzero),
      ofSource_of_frontMatterLines hzero]
    constructor
    · exact IsCut.eq_cut
    · rintro rfl
      exact (isCut_cut (linesInclusive source)).1 [] hlines (by simp)

/-- A shorter fence does not close a block, a longer one does, and the last block may stay open. -/
example : Segment.ofSource "a\n````\n```\n`````\nb\n~~~\nc".toList =
    [.prose "a\n".toList, .verbatim "````\n```\n`````\n".toList, .prose "b\n".toList,
      .verbatim "~~~\nc".toList] := by
  decide

end Manuscript.Source
