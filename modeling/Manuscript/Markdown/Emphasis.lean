import Manuscript.Markdown.Address
import Manuscript.Markdown.Draft

/-!
# Emphasis

Runs of `*` and `_` emphasise what stands between them, and runs of `~` delete it. A text is first cut
into pieces; then every run that can close is paired with the nearest run before it that can open and
fits. What cannot be paired is text.

At last the pieces become drafts: neighbouring texts are joined, blanks next to line endings are
dropped, two or more of them before a line ending make a line break, and mail addresses become links.

## Main definitions

* `Markdown.Piece`, `Markdown.Run` — what a text is cut into
* `Run.fits` — which runs fit together
* `Piece.finish` — the drafts of pieces without runs
* `Piece.toDrafts` — the drafts of pieces
-/

namespace Manuscript.Markdown

open Manuscript.Text.Unicode (isPunctuation)

/-- A run of marks. -/
structure Run where
  /-- The mark. -/
  mark : Char
  /-- The marks that are left. -/
  glyphs : List Glyph
  /-- Whether the run can open. -/
  opens : Bool
  /-- Whether the run can close. -/
  closes : Bool
  deriving Repr, Inhabited

/-- What a text is cut into. -/
inductive Piece where
  /-- Plain characters. -/
  | plain (glyphs : List Glyph)
  /-- Characters that were escaped or given by a reference. -/
  | literal (text : String)
  /-- A line ending. -/
  | ending (glyphs : List Glyph)
  /-- A line break that is marked as one. -/
  | hardBreak
  /-- A run of marks. -/
  | run (run : Run)
  /-- A finished part. -/
  | done (draft : Draft)
  deriving Repr, Inhabited

namespace Run

/-- The class of a character next to a run. -/
inductive Side where
  /-- A space, or nothing. -/
  | space
  /-- Punctuation or a symbol. -/
  | punctuation
  /-- Anything else. -/
  | other
  deriving DecidableEq, Repr

/-- The class of the character next to a run. -/
def sideOf : Option Char → Side
  | none => .space
  | some c =>
    if Text.isBlank c then .space
    else if isPunctuation c then .punctuation
    else .other

/-- A run between two characters. It can open if what follows is no space, nor punctuation unless a space
or punctuation stands before; and it can close likewise. A run next to one of other marks, which are among
`marks`, can do both, but for tildes. Underscores do neither within a word. -/
def between (marks : List Char) (before after : Option Char) (mark : Char) (glyphs : List Glyph) :
    Run :=
  let b := sideOf before
  let a := sideOf after
  let isMark (c : Option Char) : Bool := mark ≠ '~' && c.any marks.contains
  let opens := a = .other || (a = .punctuation && b ≠ .other) || isMark after
  let closes := b = .other || (b = .punctuation && a ≠ .other) || isMark before
  if mark = '_' then
    ⟨mark, glyphs, opens && (b ≠ .other || !closes), closes && (a ≠ .other || !opens)⟩
  else ⟨mark, glyphs, opens, closes⟩

/-- How many marks are left. -/
def size (r : Run) : Nat := r.glyphs.length

/-- Whether two runs, the first of which stands before the second, fit together. Runs that can both open
and close do not if their sizes together are a multiple of three, unless the closing one's is as well.
Runs of tildes must have the same size, one or two. -/
def fits (opening closing : Run) : Bool :=
  opening.opens && opening.mark = closing.mark &&
    !((opening.closes || closing.opens) && closing.size % 3 ≠ 0 &&
      (opening.size + closing.size) % 3 = 0) &&
    !(closing.mark = '~' && (closing.size ≠ opening.size || closing.size > 2))

end Run

namespace Piece

/-! ### Finishing -/

/-- Pieces with neighbouring plain characters joined. -/
def joinPlain : List Piece → List Piece
  | [] => []
  | plain gs :: rest =>
    match joinPlain rest with
    | plain more :: rest => plain (gs ++ more) :: rest
    | rest => plain gs :: rest
  | p :: rest => p :: joinPlain rest

/-- Plain characters without the blanks at their end, and whether those break the line. -/
def trimRight (gs : List Glyph) : List Glyph × Bool :=
  let blanks := gs.reverse.takeWhile Glyph.isBlank
  (gs.take (gs.length - blanks.length), 2 ≤ blanks.length && blanks.all (·.char = ' '))

/-- Pieces with the blanks next to line endings dropped, and with the line breaks that they make;
`lineStart` says that a line begins, and `ends` that the last line ends after the pieces. -/
def trimLineEnds (ends : Bool) (lineStart : Bool) : List Piece → List Piece
  | [] => []
  | plain gs :: rest =>
    let gs := if lineStart then paragraphStart gs else gs
    let (trimmed, breaks) := trimRight gs
    match rest with
    | ending e :: rest =>
      let lineBreak := if breaks then [hardBreak] else []
      plain trimmed :: lineBreak ++ ending e :: trimLineEnds ends true rest
    | [] => [plain (if ends then trimmed else gs)]
    | rest => plain gs :: trimLineEnds ends false rest
  | ending e :: rest => ending e :: trimLineEnds ends true rest
  | p :: rest => p :: trimLineEnds ends false rest

/-- A text as drafts; with `mails`, mail addresses in it are links, of which there are at most
`count`. -/
def textDrafts (mails : Bool) : (count : Nat) → List Char → List Draft
  | 0, cs => [.leaf (.text (String.ofList cs))]
  | count + 1, cs =>
    match if mails then splitMail cs else none with
    | some (before, text, url, after) =>
      .leaf (.text (String.ofList before)) ::
        .media (.link ⟨url, none⟩) [.leaf (.text text)] :: textDrafts mails count after
    | none => [.leaf (.text (String.ofList cs))]

/-- The drafts of pieces one by one. The line ending after a line break does not count. -/
def drafts (mails : Bool) : List Piece → List Draft
  | [] => []
  | plain gs :: rest => textDrafts mails gs.length (gs.map Glyph.char) ++ drafts mails rest
  | literal text :: rest => .leaf (.text text) :: drafts mails rest
  | ending e :: rest => .leaf (.text (textOf e)) :: drafts mails rest
  | hardBreak :: ending _ :: rest => .leaf .hardBreak :: drafts mails rest
  | hardBreak :: rest => .leaf .hardBreak :: drafts mails rest
  | run r :: rest => .leaf (.text (textOf r.glyphs)) :: drafts mails rest
  | done d :: rest => d :: drafts mails rest

/-- Drafts with neighbouring texts joined and without empty ones. -/
def joinTexts : List Draft → List Draft
  | [] => []
  | .leaf (.text a) :: rest =>
    match joinTexts rest with
    | .leaf (.text b) :: rest => .leaf (.text (a ++ b)) :: rest
    | rest => if a.isEmpty then rest else .leaf (.text a) :: rest
  | d :: rest => d :: joinTexts rest

/-- The drafts of pieces without runs. A text `starts` or `ends` with them if the blanks there do not
count. -/
def finish (mails starts ends : Bool) (pieces : List Piece) : List Draft :=
  joinTexts (drafts mails (trimLineEnds ends starts (joinPlain pieces)))

/-! ### Pairing -/

/-- A text in the middle of being paired. Lists of pieces have the last one first. -/
structure Pairing where
  /-- The runs that may still open, each with the pieces behind it; the innermost comes first. -/
  openings : List (Run × List Piece) := []
  /-- The pieces before all of them. -/
  before : List Piece := []

namespace Pairing

/-- Adds a piece. -/
def push (s : Pairing) (p : Piece) : Pairing :=
  match s.openings with
  | (r, inner) :: outer => { s with openings := (r, p :: inner) :: outer }
  | [] => { s with before := p :: s.before }

/-- The pieces of openings that are given up, the last one first. -/
def abandon (openings : List (Run × List Piece)) : List Piece :=
  openings.flatMap fun (r, inner) => inner ++ [plain r.glyphs]

/-- What stands between two runs, with as many of their marks as belong to it. -/
def enclose (mails : Bool) (opening closing : List Glyph) (inner : List Piece) : Draft :=
  let start := (opening.head?.map Glyph.place).getD {}
  let stop := match closing.getLast? with
    | some g => { g.place with column := g.place.column + 1 }
    | none => {}
  let (name, kind) :=
    if opening.any (·.char = '~') then (PartName.deletion, Branch.delete)
    else if opening.length = 1 then (PartName.emphasis, Branch.emphasis)
    else (PartName.strong, Branch.strong)
  .branch name kind start stop (finish mails false false inner)

/-- Closes with a run what it can close, at most `count` times; gives what is left of the run. -/
def close (mails : Bool) : (count : Nat) → Run → Pairing → Pairing × Run
  | 0, closing, s => (s, closing)
  | count + 1, closing, s =>
    if !closing.closes || closing.glyphs.isEmpty then (s, closing)
    else
      match s.openings.span fun (r, _) => !r.fits closing with
      | (_, []) => (s, closing)
      | (within, (opening, inner) :: outer) =>
        let used := if opening.size > 1 && closing.size > 1 then 2 else 1
        let left := opening.glyphs.take (opening.size - used)
        let body := (abandon within ++ inner).reverse
        let part := done (enclose mails (opening.glyphs.drop (opening.size - used))
          (closing.glyphs.take used) body)
        let s := if left.isEmpty then push { s with openings := outer } part
          else { s with openings := ({ opening with glyphs := left }, [part]) :: outer }
        close mails count { closing with glyphs := closing.glyphs.drop used } s

/-- Takes up a piece. -/
def step (mails : Bool) (s : Pairing) : Piece → Pairing
  | run r =>
    let (s, r) := close mails r.size r s
    if r.glyphs.isEmpty then s
    else if r.opens then { s with openings := (r, []) :: s.openings }
    else s.push (plain r.glyphs)
  | p => s.push p

/-- The pieces in the end, with no run left. -/
def pieces (s : Pairing) : List Piece := (abandon s.openings ++ s.before).reverse

end Pairing

/-- The drafts of pieces. `mails` says whether mail addresses are links; a text `starts` or `ends` with
the pieces if the blanks there do not count. -/
def toDrafts (mails starts ends : Bool) (ps : List Piece) : List Draft :=
  finish mails starts ends ((ps.foldl (Pairing.step mails) {}).pieces)

end Piece

end Manuscript.Markdown
