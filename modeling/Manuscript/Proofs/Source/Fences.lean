import Mathlib.Data.List.TakeWhile
import Manuscript.Proofs.Source.InlineAttributes

/-!
# Lines that open fenced blocks

A fenced block opens with a fence of backticks or tildes, behind which an info string may stand. If
the fence is of backticks, there is none in the info string: a line with more of them belongs to a
paragraph, and may begin with a code span.

Sources are cut without a look at what stands behind a fence. So outside of front matter and of
fenced blocks a verbatim segment begins at each line that opens a fenced block, but also at lines of
paragraphs that only seem to, and makes verbatim what is prose.

## Main definitions

* `Fence.Heads` — a line with a fence at its start and an info string behind it
* `IsOpener`, `IsFalseOpener` — lines that open a fenced block, and those that only seem to
* `fenceBehind` — which fence is open behind a line
* `IsOutside`, `FencedAt` — where a line stands in a source, and where verbatim segments begin

## Main results

* `fenceMarker?_eq_some_iff` — the fence that is read off a line
* `exists_cut_append` — what has been cut once some lines were read
* `fencedAt_iff` — at which lines verbatim segments begin, and when these are the right ones
-/

namespace Manuscript.Source

open Text (linesInclusive AreLines areLines_linesInclusive)

/-! ### Lines with a fence -/

/-- A line with a fence at its start: at most three spaces, the marker as often as it is repeated, and
the info string behind it, which is the rest of the line. -/
structure Fence.Heads (fence : Fence) (line info : List Char) : Prop where
  /-- The marker is a backtick or a tilde. -/
  marker : fence.marker = '`' ∨ fence.marker = '~'
  /-- It stands there three times or more. -/
  length : 3 ≤ fence.length
  /-- The line. -/
  line_eq : ∃ indent ≤ 3, line =
    List.replicate indent ' ' ++ (List.replicate fence.length fence.marker ++ info)
  /-- All repetitions belong to the fence. -/
  ends : ∀ c ∈ info.head?, c ≠ fence.marker

/-- A line that opens a fenced block: if its fence is of backticks, there is none in the info
string. -/
def IsOpener (line : List Char) : Prop :=
  ∃ (fence : Fence) (info : List Char), fence.Heads line info ∧ (fence.marker = '`' → '`' ∉ info)

/-- A line of a paragraph that seems to open a fenced block: behind its fence of backticks there is
another backtick. -/
def IsFalseOpener (line : List Char) : Prop :=
  ∃ (fence : Fence) (info : List Char), fence.Heads line info ∧ fence.marker = '`' ∧ '`' ∈ info

variable {source line info info' : List Char} {before rest pending : List (List Char)}
  {fence : Fence} {isOpen : Option Fence}

/-- A text begins with a run of a character, all of it, if and only if the run is what is taken while
there is that character. -/
theorem run_iff {c : Char} {n : Nat} {cs rest : List Char} :
    (cs = List.replicate n c ++ rest ∧ ∀ d ∈ rest.head?, d ≠ c) ↔
      (cs.takeWhile (· = c)).length = n ∧ cs.drop (cs.takeWhile (· = c)).length = rest := by
  constructor
  · rintro ⟨rfl, hrest⟩
    have hnone : rest.takeWhile (· = c) = [] := by
      cases rest with
      | nil => rfl
      | cons d rest => exact List.takeWhile_cons_of_neg (by simpa using hrest d rfl)
    have hrun : (List.replicate n c ++ rest).takeWhile (· = c) = List.replicate n c := by
      rw [List.takeWhile_append_of_pos (by simp), hnone, List.append_nil]
    rw [hrun, List.length_replicate]
    exact ⟨rfl, List.drop_left' List.length_replicate⟩
  · rintro ⟨rfl, rfl⟩
    induction cs with
    | nil => simp
    | cons d cs ih =>
      by_cases hd : d = c
      · subst hd
        simpa [List.replicate_succ] using ih
      · simp [hd]

/-- The fence of a line and its info string are found by counting spaces, and then the markers in what
is left. -/
theorem heads_iff {left : List Char} (hleft : line.drop (line.takeWhile (· = ' ')).length = left) :
    fence.Heads line info ↔
      (line.takeWhile (· = ' ')).length ≤ 3 ∧ (fence.marker = '`' ∨ fence.marker = '~') ∧
        3 ≤ fence.length ∧ (left.takeWhile (· = fence.marker)).length = fence.length ∧
        left.drop (left.takeWhile (· = fence.marker)).length = info := by
  subst hleft
  constructor
  · rintro ⟨hmarker, hlength, ⟨indent, hindent, hline⟩, hends⟩
    -- a marker is no space, so the spaces end where the fence begins
    have hfirst : ∀ c ∈ (List.replicate fence.length fence.marker ++ info).head?, c ≠ ' ' := by
      obtain ⟨n, hn⟩ := Nat.exists_eq_add_of_le' hlength
      rw [hn]
      rcases hmarker with hmarker | hmarker <;> simp [hmarker, List.replicate_succ]
    obtain ⟨hspaces, hrest⟩ := run_iff.mp ⟨hline, hfirst⟩
    obtain ⟨hmarkers, hinfo⟩ := run_iff.mp ⟨hrest, hends⟩
    exact ⟨hspaces ▸ hindent, hmarker, hlength, hmarkers, hinfo⟩
  · rintro ⟨hindent, hmarker, hlength, hmarkers, hinfo⟩
    obtain ⟨hline, -⟩ := run_iff.mpr ⟨rfl, rfl⟩
    obtain ⟨hrest, hends⟩ := run_iff.mpr ⟨hmarkers, hinfo⟩
    exact ⟨hmarker, hlength, ⟨_, hindent, hrest ▸ hline⟩, hends⟩

theorem Fence.Heads.info_eq (h : fence.Heads line info) (h' : fence.Heads line info') :
    info = info' :=
  ((heads_iff rfl).mp h).2.2.2.2.symm.trans ((heads_iff rfl).mp h').2.2.2.2

/-- A fence is read off a line if and only if the line has it at its start. -/
theorem fenceMarker?_eq_some_iff :
    fenceMarker? line = some fence ↔ ∃ info, fence.Heads line info := by
  simp only [heads_iff rfl, exists_and_left, exists_eq', and_true]
  rw [fenceMarker?]
  by_cases hindent : (line.takeWhile (· = ' ')).length ≤ 3
  · rw [if_neg (Nat.not_lt.mpr hindent), and_iff_right hindent]
    cases line.drop (line.takeWhile (· = ' ')).length with
    | nil =>
      refine iff_of_false (by simp) ?_
      rintro ⟨-, hlength, hrun⟩
      exact absurd (hrun ▸ hlength) (by simp)
    | cons c rest =>
      dsimp only
      constructor
      · intro h
        obtain ⟨hc, h⟩ := Option.ite_none_right_eq_some.mp h
        obtain ⟨hlength, h⟩ := Option.ite_none_right_eq_some.mp h
        obtain rfl := Option.some.inj h
        exact ⟨by simpa using hc, hlength, rfl⟩
      · rintro ⟨hmarker, hlength, hrun⟩
        -- a run of other characters would be empty
        have hc : c = fence.marker := by
          by_contra hne
          rw [List.takeWhile_cons_of_neg (by simpa using hne)] at hrun
          exact absurd (hrun ▸ hlength) (by simp)
        subst hc
        rw [if_pos (by simpa using hmarker), if_pos (hrun ▸ hlength), hrun]
  · rw [if_pos (Nat.lt_of_not_le hindent)]
    exact iff_of_false (by simp) fun h => hindent h.1

/-- A line has a fence if and only if it opens a fenced block or seems to. -/
theorem isSome_fenceMarker?_iff :
    (fenceMarker? line).isSome = true ↔ IsOpener line ∨ IsFalseOpener line := by
  simp only [Option.isSome_iff_exists, fenceMarker?_eq_some_iff]
  constructor
  · rintro ⟨fence, info, h⟩
    -- only behind backticks does it matter what the info string is
    by_cases hspan : fence.marker = '`' ∧ '`' ∈ info
    · exact .inr ⟨fence, info, h, hspan⟩
    · exact .inl ⟨fence, info, h, fun hmarker hmem => hspan ⟨hmarker, hmem⟩⟩
  · rintro (⟨fence, info, h, -⟩ | ⟨fence, info, h, -⟩) <;> exact ⟨fence, info, h⟩

/-- A line that seems to open a fenced block opens none. -/
theorem IsFalseOpener.not_isOpener (h : IsFalseOpener line) : ¬ IsOpener line := by
  obtain ⟨fence, info, hheads, hmarker, hmem⟩ := h
  rintro ⟨fence', info', hheads', hnone⟩
  -- there is one fence on a line, and one info string behind it
  have hsame : some fence = some fence' := by
    rw [← fenceMarker?_eq_some_iff.mpr ⟨info, hheads⟩, fenceMarker?_eq_some_iff.mpr ⟨info', hheads'⟩]
  obtain rfl := Option.some.inj hsame
  exact hnone hmarker (hheads.info_eq hheads' ▸ hmem)

/-! ### Lines of a source -/

/-- The fence that is open behind a line, if `isOpen` is open before it. -/
def fenceBehind (isOpen : Option Fence) (line : List Char) : Option Fence :=
  match isOpen with
  | none => fenceMarker? line
  | some fence => if closes fence line then none else some fence

/-- A line of a source that stands behind the lines `before`, outside of front matter and of fenced
blocks. -/
structure IsOutside (source : List Char) (before : List (List Char)) (line : List Char) : Prop where
  /-- The line stands there. -/
  lines_eq : ∃ rest, linesInclusive source = before ++ line :: rest
  /-- The front matter ends before it. -/
  frontMatter : frontMatterLines (linesInclusive source) ≤ before.length
  /-- Behind the lines since the front matter no fence is open. -/
  fences : (before.drop (frontMatterLines (linesInclusive source))).foldl fenceBehind none = none

/-- A verbatim segment begins behind some lines of a source. -/
def FencedAt (source : List Char) (before : List (List Char)) : Prop :=
  ∃ earlier text later, Segment.ofSource source = earlier ++ .verbatim text :: later ∧
    earlier.flatMap Segment.lines = before

theorem flatMap_lines_proseOf (h : AreLines before) :
    (proseOf before).flatMap Segment.lines = before := by
  cases before with
  | nil => rfl
  | cons line rest =>
    change Segment.lines (.prose (line :: rest).flatten) ++ [] = _
    rw [List.append_nil]
    exact h.linesInclusive_flatten

/-- One line: a segment may end before it or with it, and cutting goes on with the lines read since
then. -/
theorem exists_cut_cons (pending : List (List Char)) (isOpen : Option Fence) (line : List Char)
    (rest : List (List Char)) (hlines : AreLines (pending.reverse ++ line :: rest)) :
    ∃ segments pending',
      cut pending isOpen (line :: rest) = segments ++ cut pending' (fenceBehind isOpen line) rest ∧
        segments.flatMap Segment.lines ++ pending'.reverse = pending.reverse ++ [line] := by
  have hmore : [].flatMap Segment.lines ++ (line :: pending).reverse = pending.reverse ++ [line] :=
    List.reverse_cons
  cases isOpen with
  | none =>
    rw [cut, fenceBehind]
    cases fenceMarker? line with
    | none => exact ⟨[], line :: pending, rfl, hmore⟩
    | some fence =>
      -- the prose ends, and the block is read from its opening line on
      refine ⟨proseOf pending.reverse, [line], rfl, ?_⟩
      rw [flatMap_lines_proseOf hlines.of_append.1, List.reverse_singleton]
  | some fence =>
    rw [cut, fenceBehind]
    cases closes fence line with
    | false => exact ⟨[], line :: pending, rfl, hmore⟩
    | true =>
      refine ⟨[.verbatim (line :: pending).reverse.flatten], [], rfl, ?_⟩
      rw [List.append_cons] at hlines
      rw [List.flatMap_singleton, List.reverse_nil, List.append_nil, List.reverse_cons]
      exact hlines.of_append.1.linesInclusive_flatten

/-- Some lines: they stand in the segments that ended, and in the one that is being read, and the
fence that is open is the one that the lines leave open. -/
theorem exists_cut_append (pending : List (List Char)) (isOpen : Option Fence)
    (before rest : List (List Char)) (hlines : AreLines (pending.reverse ++ (before ++ rest))) :
    ∃ segments pending',
      cut pending isOpen (before ++ rest) =
          segments ++ cut pending' (before.foldl fenceBehind isOpen) rest ∧
        segments.flatMap Segment.lines ++ pending'.reverse = pending.reverse ++ before := by
  induction before generalizing pending isOpen with
  | nil => exact ⟨[], pending, rfl, (List.append_nil _).symm⟩
  | cons line before ih =>
    obtain ⟨ended, pending', hcut, hlines'⟩ :=
      exists_cut_cons pending isOpen line (before ++ rest) hlines
    have hrest : AreLines (pending'.reverse ++ (before ++ rest)) := by
      rw [List.cons_append, List.append_cons, ← hlines', List.append_assoc] at hlines
      exact hlines.of_append.2
    obtain ⟨segments, pending'', hcut', hlines''⟩ := ih pending' (fenceBehind isOpen line) hrest
    refine ⟨ended ++ segments, pending'', ?_, ?_⟩
    · rw [List.cons_append, hcut, hcut', List.foldl_cons, List.append_assoc]
    · rw [List.flatMap_append, List.append_assoc, hlines'', ← List.append_assoc, hlines',
        ← List.append_cons]

/-- Where no fence is open, a verbatim segment begins at a line with a fence. -/
theorem exists_cut_eq_append_verbatim_cons (hfences : before.foldl fenceBehind none = none)
    (hmarker : fenceMarker? line = some fence) (hlines : AreLines (before ++ line :: rest)) :
    ∃ earlier text later, cut [] none (before ++ line :: rest) = earlier ++ .verbatim text :: later ∧
      earlier.flatMap Segment.lines = before := by
  obtain ⟨segments, pending, hcut, hbefore⟩ := exists_cut_append [] none before (line :: rest) hlines
  rw [hfences, cut_opener hmarker] at hcut
  obtain ⟨text, later, hblock⟩ := exists_cut_eq_verbatim_cons [line] fence rest
  have hread : segments.flatMap Segment.lines ++ pending.reverse = before := hbefore
  rw [← hread] at hlines
  have hprose := flatMap_lines_proseOf hlines.of_append.1.of_append.2
  refine ⟨segments ++ proseOf pending.reverse, text, later, ?_, ?_⟩
  · rw [hcut, hblock, List.append_assoc]
  · rw [List.flatMap_append, hprose, hread]

/-! ### Whole sources -/

/-- The lines behind the front matter are cut on their own; it is a segment by itself, if there is any. -/
theorem exists_ofSource_eq (source : List Char) :
    ∃ front, Segment.ofSource source = front ++
        cut [] none ((linesInclusive source).drop (frontMatterLines (linesInclusive source))) ∧
      front.flatMap Segment.lines =
        (linesInclusive source).take (frontMatterLines (linesInclusive source)) := by
  refine ⟨_, rfl, ?_⟩
  split
  · rename_i hzero
    rw [hzero]
    rfl
  · have hlines := areLines_linesInclusive source
    rw [← List.take_append_drop (frontMatterLines (linesInclusive source))
      (linesInclusive source)] at hlines
    rw [List.flatMap_singleton]
    exact hlines.of_append.1.linesInclusive_flatten

/-- A verbatim segment that is not the front matter begins with a line that has a fence. -/
theorem isSome_fenceMarker?_of_fencedAt (h : IsOutside source before line)
    (hfenced : FencedAt source before) : (fenceMarker? line).isSome = true := by
  obtain ⟨earlier, text, later, hsegments, hearlier⟩ := hfenced
  obtain ⟨rest, hrest⟩ := h.lines_eq
  have hcut : IsPartition source (earlier ++ .verbatim text :: later) :=
    isPartition_iff.mpr hsegments.symm
  have hlines := hcut.lines_eq
  rw [List.flatMap_append, List.flatMap_cons, hearlier, hrest] at hlines
  have hblock := List.append_cancel_left hlines
  rcases hcut.verbatim _ _ (List.suffix_append earlier _) id with ⟨hall, hfront⟩ | hfence
  · -- nothing stands before the front matter, and here no front matter follows
    have hnil : earlier = [] := by simpa using hall
    have hbefore : before = [] := by rw [← hearlier, hnil]; rfl
    have hzero : frontMatterLines (linesInclusive source) = 0 :=
      Nat.le_zero.mp (h.frontMatter.trans_eq (congrArg List.length hbefore))
    rw [hbefore, List.nil_append, ← hblock] at hrest
    exact absurd hfront (not_isFrontMatter_of_frontMatterLines hzero _ _ hrest)
  · obtain ⟨opener, fence, body, hopener, -, ⟨closer, heq, -⟩ | ⟨heq, -⟩⟩ := hfence
    all_goals
      rw [heq] at hblock
      obtain ⟨rfl, -⟩ := List.cons.inj hblock
      rw [hopener]
      rfl

theorem fencedAt_of_isSome_fenceMarker? (h : IsOutside source before line)
    (hmarker : (fenceMarker? line).isSome = true) : FencedAt source before := by
  obtain ⟨fence, hfence⟩ := Option.isSome_iff_exists.mp hmarker
  obtain ⟨rest, hrest⟩ := h.lines_eq
  obtain ⟨front, hsource, hfront⟩ := exists_ofSource_eq source
  have hlines := areLines_linesInclusive source
  have hbehind := h.frontMatter
  have hfences := h.fences
  -- from here on the front matter is just the first lines, which end before this one
  generalize frontMatterLines (linesInclusive source) = n at hsource hfront hbehind hfences
  rw [hrest] at hlines hsource hfront
  rw [List.drop_append_of_le_length hbehind] at hsource
  rw [List.take_append_of_le_length hbehind] at hfront
  have hbody : AreLines (before.drop n ++ line :: rest) := by
    rw [← List.take_append_drop n before, List.append_assoc] at hlines
    exact hlines.of_append.2
  obtain ⟨earlier, text, later, hcut, hearlier⟩ :=
    exists_cut_eq_append_verbatim_cons hfences hfence hbody
  refine ⟨front ++ earlier, text, later, ?_, ?_⟩
  · rw [hsource, hcut, List.append_assoc]
  · rw [List.flatMap_append, hfront, hearlier, List.take_append_drop]

/-- Outside of front matter and of fenced blocks a verbatim segment begins at the lines that open a
fenced block and at those that seem to. So whether one begins at a line is right if and only if the
line is none of the latter. -/
theorem fencedAt_iff (h : IsOutside source before line) :
    (FencedAt source before ↔ IsOpener line ∨ IsFalseOpener line) ∧
      ((FencedAt source before ↔ IsOpener line) ↔ ¬ IsFalseOpener line) := by
  have hfenced : FencedAt source before ↔ IsOpener line ∨ IsFalseOpener line := by
    rw [← isSome_fenceMarker?_iff]
    exact ⟨isSome_fenceMarker?_of_fencedAt h, fencedAt_of_isSome_fenceMarker? h⟩
  refine ⟨hfenced, ?_⟩
  rw [hfenced]
  constructor
  · intro hiff hfalse
    exact hfalse.not_isOpener (hiff.mp (.inr hfalse))
  · intro hnot
    exact or_iff_left hnot

/-- The lines of front matter and of a closed block. -/
def linesBeforeTildes : List (List Char) :=
  ["---\n".toList, "---\n".toList, "```\n".toList, "```\n".toList]

/-- A fence of tildes with a backtick in its info string. -/
def tildeLine : List Char := "~~~ `a\n".toList

/-- A fence of tildes opens a block with any info string. -/
theorem fencedAt_iff_tildeLine :
    IsOutside "---\n---\n```\n```\n~~~ `a\nb\n".toList linesBeforeTildes tildeLine ∧
      FencedAt "---\n---\n```\n```\n~~~ `a\nb\n".toList linesBeforeTildes := by
  have houtside : IsOutside "---\n---\n```\n```\n~~~ `a\nb\n".toList linesBeforeTildes tildeLine :=
    ⟨⟨["b\n".toList], by decide +kernel⟩, by decide +kernel, by decide +kernel⟩
  have hheads : Fence.Heads ⟨'~', 3⟩ tildeLine " `a\n".toList :=
    ⟨.inr rfl, Nat.le_refl 3, ⟨0, Nat.zero_le 3, rfl⟩, by simp⟩
  have hopener : IsOpener tildeLine := ⟨_, _, hheads, by simp⟩
  exact ⟨houtside, (fencedAt_iff houtside).1.mpr (.inl hopener)⟩

/-- A paragraph that begins with a code span, and another one with an element of a class. -/
def codeSpanSource : String := "```js``` is short.\n\n<b class=\"x\">y</b>\n"

/-- The line with the code span. -/
def codeSpanLine : List Char := "```js``` is short.\n".toList

theorem isFalseOpener_codeSpanLine : IsFalseOpener codeSpanLine := by
  refine ⟨⟨'`', 3⟩, "js``` is short.\n".toList, ?_, rfl, by decide⟩
  exact ⟨.inl rfl, Nat.le_refl 3, ⟨0, Nat.zero_le 3, rfl⟩, by simp⟩

theorem isOutside_codeSpanLine : IsOutside codeSpanSource.toList [] codeSpanLine := by
  refine ⟨⟨["\n".toList, "<b class=\"x\">y</b>\n".toList], by decide +kernel⟩, ?_, rfl⟩
  decide +kernel

/-- A verbatim segment begins at the line with the code span, where no fenced block does, and the
class of the element behind it is not renamed. -/
theorem not_fencedAt_iff_codeSpanLine :
    IsOutside codeSpanSource.toList [] codeSpanLine ∧
      ¬ (FencedAt codeSpanSource.toList [] ↔ IsOpener codeSpanLine) ∧
      rewriteInlineAttributes codeSpanSource = codeSpanSource := by
  refine ⟨isOutside_codeSpanLine, ?_, by decide +kernel⟩
  have hfenced : FencedAt codeSpanSource.toList [] :=
    fencedAt_of_isSome_fenceMarker? isOutside_codeSpanLine (by decide +kernel)
  exact fun hiff => isFalseOpener_codeSpanLine.not_isOpener (hiff.mp hfenced)

end Manuscript.Source
