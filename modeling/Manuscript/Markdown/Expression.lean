import Manuscript.Markdown.Fault
import Manuscript.Markdown.Glyph
import Manuscript.Markdown.Tree

/-!
# Reading expressions

An expression stands between braces and may hold braces itself, if they are balanced. It may go on over
several lines, whose first two columns may be blank and then do not count. So a reader that reaches the
end of the text cannot say yet that the text is at fault.

## Main definitions

* `Markdown.Halt` — why nothing could be read
* `Markdown.Reader` — functions that read something at the start of a text
* `Reader.expression` — reads an expression
-/

namespace Manuscript.Markdown

/-- Why nothing could be read. -/
inductive Halt where
  /-- There is nothing of the kind. -/
  | refused
  /-- The text ends too early: with more text there may be something. Without more, the problem counts if
  it is `serious` or something stands next to the end of the text; else there is nothing of the kind. -/
  | exhausted (problem : Problem) (serious : Bool)
  /-- The text is at fault. -/
  | fault (fault : Fault)
  deriving DecidableEq, Repr

/-- Functions that read something at the start of a text. -/
abbrev Reader (α : Type) := StateT (List Glyph) (Except Halt) α

namespace Reader

variable {α : Type}

/-- The next character. -/
def peek : Reader (Option Glyph) := do return (← get).head?

/-- Passes over the next character. -/
def advance : Reader Unit := modify (·.drop 1)

/-- Passes over the next character if it is a given one, and says whether it was. -/
def accept (c : Char) : Reader Bool := do
  if (← peek).any (·.char = c) then
    advance
    return true
  else return false

/-- The characters of a class that come next. -/
def takeWhile (p : Char → Bool) : Reader (List Glyph) := do
  let gs ← get
  set (gs.dropWhile fun g => p g.char)
  return gs.takeWhile fun g => p g.char

/-- The text is at fault because of a problem with its next character; with no character left, it ends
too early. -/
def unexpected (problem : Option Char → Problem) : Reader α := do
  match ← peek with
  | none => throw (.exhausted (problem none) false)
  | some g => throw (.fault ⟨problem (some g.char), g.place, none⟩)

/-! ### Expressions -/

/-- The characters up to the brace that ends an expression in which `depth` braces are open, and what
follows the brace. Two columns of blanks at the start of a line do not count; `room` is how many of them
there may be yet. -/
def expressionBody (depth room : Nat) : List Glyph → Option (List Glyph × List Glyph)
  | [] => none
  | g :: rest =>
    let add (g : Glyph) (r : Option (List Glyph × List Glyph)) : Option (List Glyph × List Glyph) :=
      r.map fun (body, after) => (g :: body, after)
    if g.isEnding then add g (expressionBody depth 2 rest)
    else if g.isBlank && 0 < room then
      if g.columns ≤ room then expressionBody depth (room - g.columns) rest
      else add (g.cutAt room) (expressionBody depth 0 rest)
    else if g.char = '\x7b' then add g (expressionBody (depth + 1) 0 rest)
    else if g.char = '\x7d' then
      match depth with
      | 0 => some ([], rest)
      | depth + 1 => add g (expressionBody depth 0 rest)
    else add g (expressionBody depth 0 rest)

/-- Reads an expression, whose opening brace comes next. -/
def expression : Reader String := do
  advance
  match expressionBody 0 0 (← get) with
  | none => throw (.exhausted .openExpression true)
  | some (body, after) =>
    set after
    return spacedText body

end Reader

end Manuscript.Markdown
