import Manuscript.Text.Blank
import Manuscript.Text.Split

/-!
# Segments of a source

A source is cut into prose and verbatim segments. Verbatim are a block of front matter at the start
and every fenced block, from the line that opens it to the line that closes it, or to the end if
nothing does.

## Main definitions

* `fenceMarker?` — the marker and its length, for a line that opens or closes a fence
* `frontMatterLines` — how many lines a leading block of front matter takes
* `Segment.ofSource` — the segments of a source
-/

namespace Manuscript.Source

/-- A run of lines. -/
inductive Segment where
  /-- Text in which attributes are rewritten. -/
  | prose (text : List Char)
  /-- Text that is kept as it is. -/
  | verbatim (text : List Char)
  deriving DecidableEq, Repr

namespace Segment

/-- The text of a segment. -/
def text : Segment → List Char
  | .prose text | .verbatim text => text

end Segment

/-- A fence: a backtick or a tilde, and how often it is repeated. -/
structure Fence where
  /-- The repeated character. -/
  marker : Char
  /-- The number of repetitions, at least three. -/
  length : Nat
  deriving DecidableEq, Repr

/-- The fence at the start of a line, behind at most three spaces. -/
def fenceMarker? (line : List Char) : Option Fence :=
  let indent := (line.takeWhile (· = ' ')).length
  if indent > 3 then none
  else match line.drop indent with
    | [] => none
    | c :: rest =>
      if c = '`' || c = '~' then
        let length := ((c :: rest).takeWhile (· = c)).length
        if length ≥ 3 then some ⟨c, length⟩ else none
      else none

/-- Whether a line closes a fence: it has a fence of the same marker, at least as long, and nothing
else. -/
def closes (fence : Fence) (line : List Char) : Bool :=
  match fenceMarker? line with
  | some closer =>
    closer.marker = fence.marker && closer.length ≥ fence.length &&
      (Text.trim line).all (· = fence.marker)
  | none => false

/-- Whether a line is a delimiter of front matter. -/
def isFrontMatterLine (line : List Char) : Bool := Text.trimEnd line = ['-', '-', '-']

/-- The number of lines up to and including the first delimiter of front matter. -/
def linesThroughDelimiter : List (List Char) → Option Nat
  | [] => none
  | line :: rest =>
    if isFrontMatterLine line then some 1 else (linesThroughDelimiter rest).map (· + 1)

/-- How many lines a block of front matter at the start takes, none if it is not closed. -/
def frontMatterLines : List (List Char) → Nat
  | [] => 0
  | opener :: rest =>
    if isFrontMatterLine opener then
      match linesThroughDelimiter rest with
      | some n => n + 1
      | none => 0
    else 0

/-- A prose segment of some lines, nothing for no lines. -/
def proseOf (lines : List (List Char)) : List Segment :=
  if lines.isEmpty then [] else [.prose lines.flatten]

/-- Cuts lines into segments. `pending` holds, in reverse, the lines of the segment that is being
read, and `fence` the fence it has to be closed by. -/
def cut (pending : List (List Char)) (fence : Option Fence) : List (List Char) → List Segment
  | [] =>
    match fence with
    | none => proseOf pending.reverse
    | some _ => [.verbatim pending.reverse.flatten]
  | line :: rest =>
    match fence with
    | none =>
      match fenceMarker? line with
      | some opener => proseOf pending.reverse ++ cut [line] (some opener) rest
      | none => cut (line :: pending) none rest
    | some opener =>
      if closes opener line then
        .verbatim (line :: pending).reverse.flatten :: cut [] none rest
      else cut (line :: pending) (some opener) rest

/-- The segments of a source. -/
def Segment.ofSource (source : List Char) : List Segment :=
  let lines := Text.linesInclusive source
  let n := frontMatterLines lines
  let front := if n = 0 then [] else [.verbatim (lines.take n).flatten]
  front ++ cut [] none (lines.drop n)

end Manuscript.Source
