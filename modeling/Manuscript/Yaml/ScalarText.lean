import Manuscript.Text.Hex
import Manuscript.Yaml.Cursor

/-!
# The texts of scalars

A scalar is written plain, in single or double quotes, or as a block. Each form has its own rules for
escapes and for the folding of lines.

## Main definitions

* `Yaml.quotedText` — a scalar in quotes
* `Yaml.plainText` — a plain scalar
* `Yaml.blockText` — a block scalar
-/

namespace Manuscript.Yaml

/-- Fails with a problem at a place, where something has been read from `start` on. -/
def failAt {α : Type} (activity : Activity) (start : Mark) (problem : Problem) (place : Mark) :
    Except Fault α :=
  .error (.malformed problem place (some (activity, start)))

/-! ### Quoted scalars -/

/-- What the character after a backslash stands for, unless hexadecimal digits follow it. -/
def escapedCharacter? : Char → Option Char
  | '0' => some '\x00'
  | 'a' => some '\x07'
  | 'b' => some '\x08'
  | 't' | '\t' => some '\t'
  | 'n' => some '\n'
  | 'v' => some '\x0b'
  | 'f' => some '\x0c'
  | 'r' => some '\r'
  | 'e' => some '\x1b'
  | ' ' => some ' '
  | '"' => some '"'
  | '/' => some '/'
  | '\\' => some '\\'
  | 'N' => some '\x85'
  | '_' => some '\xa0'
  | 'L' => some '\u2028'
  | 'P' => some '\u2029'
  | _ => none

/-- How many hexadecimal digits follow the character after a backslash. -/
def escapeDigits? : Char → Option Nat
  | 'x' => some 2
  | 'u' => some 4
  | 'U' => some 8
  | _ => none

/-- The character of an escape, given what follows the backslash, and how many characters the escape
has after the backslash. -/
def readEscape (start place : Mark) (rest : List Char) : Except Fault (Char × Nat) :=
  match rest with
  | [] => failAt .escape start .unknownEscape place
  | c :: rest =>
    match escapedCharacter? c, escapeDigits? c with
    | some x, _ => .ok (x, 1)
    | none, none => failAt .escape start .unknownEscape place
    | none, some count =>
      match (rest.take count).mapM Text.hexValue? with
      | none => failAt .escape start .noHexDigits (place.forward 2)
      | some digits =>
        let n := Text.ofDigitValues 16 digits
        if digits.length < count then failAt .escape start .noHexDigits (place.forward 2)
        else if n.isValidChar then .ok (Char.ofNat n, count + 1)
        else failAt .escape start .badCodePoint (place.forward 2)

/-- Reads a scalar in quotes after its opening quote: `text` is what has been read, in reverse, and
`fold` what waits for the next word. -/
def quotedFrom (single : Bool) (start : Mark) (text : List Char) (fold : LineFold) (mark : Mark)
    (cs : List Char) : Except Fault (List Char × Cursor) :=
  if mark.column = 0 && atBoundary cs then failAt .quotedScalar start .documentBoundary mark
  else
    match cs with
    | [] => failAt .quotedScalar start .endOfStream mark
    | c :: rest =>
      if isBlank c then
        quotedFrom single start text (fold.addBlank c) (mark.forward 1) rest
      else if c = '\r' && rest.head? = some '\n' then
        quotedFrom single start text (fold.addBreak ['\n']) (mark.nextLine 2) (rest.drop 1)
      else if isBreak c then
        let (lineBreak, after) := Cursor.takeBreak ⟨c :: rest, mark⟩
        quotedFrom single start text (fold.addBreak lineBreak) after.mark rest
      else
        let text := fold.text.reverse ++ text
        if c = '\'' && single && rest.head? = some '\'' then
          quotedFrom single start ('\'' :: text) {} (mark.forward 2) (rest.drop 1)
        else if c = (if single then '\'' else '"') then .ok (text.reverse, ⟨rest, mark.forward 1⟩)
        else if c = '\\' && !single then
          match rest with
          | '\r' :: '\n' :: rest =>
            quotedFrom single start text { broken := true } (mark.nextLine 3) rest
          | x :: rest =>
            if isBreak x then
              quotedFrom single start text { broken := true } (mark.nextLine 2) rest
            else
              match readEscape start mark (x :: rest) with
              | .error e => .error e
              | .ok (x, count) =>
                quotedFrom single start (x :: text) {} (mark.forward (count + 1))
                  (rest.drop (count - 1))
          | [] => failAt .escape start .unknownEscape mark
        else quotedFrom single start (c :: text) {} (mark.forward 1) rest
termination_by cs.length
decreasing_by all_goals (simp; try omega)

/-- Reads a scalar in single or double quotes, which begins at the cursor. -/
def quotedText (single : Bool) (c : Cursor) : Except Fault (String × Cursor) := do
  let (text, after) ← quotedFrom single c.mark [] {} (c.mark.forward 1) (c.rest.drop 1)
  pure (String.ofList text, after)

/-! ### Plain scalars -/

/-- Whether a character is one of the brackets that end a plain scalar in a flow. -/
def isFlowBracket (c : Char) : Bool := c = '[' || c = ']' || c = '{' || c = '}'

/-- Whether a plain scalar ends at the next character: at a colon before a blank and, in a flow, at
commas and brackets. -/
def endsPlain (inFlow : Bool) (c : Char) (rest : List Char) : Bool :=
  (c = ':' && atBlankOrEnd rest) || (inFlow && (c = ',' || isFlowBracket c))

/-- Whether a colon in a flow stands before something that it may not stand before. -/
def isStrayColon (inFlow : Bool) (c : Char) (rest : List Char) : Bool :=
  inFlow && c = ':' && rest.head?.any fun x => x = ',' || x = '?' || isFlowBracket x

/-- A plain scalar: its text, the cursor after it, and whether a line ended after the last word. -/
structure PlainText where
  /-- The text. -/
  text : String
  /-- The cursor after the blanks that follow. -/
  after : Cursor
  /-- Whether a line ended. -/
  broken : Bool
  deriving Repr

/-- Reads a plain scalar; `text` is what has been read, in reverse, and `fold` what waits for the next
word. Lines that are indented by less than `indent` do not belong to it, except in a flow. -/
def plainFrom (inFlow : Bool) (indent : Int) (start : Mark) (text : List Char) (fold : LineFold)
    (mark : Mark) (cs : List Char) : Except Fault PlainText :=
  let done : Except Fault PlainText :=
    .ok ⟨String.ofList text.reverse, ⟨cs, mark⟩, fold.broken⟩
  match cs with
  | [] => done
  | c :: rest =>
    if isBlank c then
      if fold.broken && mark.column < indent && c = '\t' then
        failAt .plainScalar start .tabInPlain mark
      else plainFrom inFlow indent start text (fold.addBlank c) (mark.forward 1) rest
    else if c = '\r' && rest.head? = some '\n' then
      plainFrom inFlow indent start text (fold.addBreak ['\n']) (mark.nextLine 2) (rest.drop 1)
    else if isBreak c then
      let (lineBreak, after) := Cursor.takeBreak ⟨c :: rest, mark⟩
      plainFrom inFlow indent start text (fold.addBreak lineBreak) after.mark rest
    else if !fold.isEmpty && ((!inFlow && mark.column < indent) || c = '#') then done
    else if mark.column = 0 && atBoundary (c :: rest) then done
    else if isStrayColon inFlow c rest then failAt .plainScalar start .strayColon mark
    else if endsPlain inFlow c rest then done
    else
      plainFrom inFlow indent start (c :: (fold.text.reverse ++ text)) {} (mark.forward 1) rest
termination_by cs.length
decreasing_by all_goals (simp; try omega)

/-- Reads a plain scalar, which begins at the cursor, under a given indentation. -/
def plainText (inFlow : Bool) (indent : Int) (c : Cursor) : Except Fault PlainText :=
  plainFrom inFlow (indent + 1) c.mark [] {} c.mark c.rest

/-! ### Block scalars -/

/-- What becomes of the line breaks at the end of a block scalar. -/
inductive Chomping where
  /-- None is kept. -/
  | strip
  /-- One is kept. -/
  | clip
  /-- All are kept. -/
  | keep
  deriving DecidableEq, Repr

/-- The chomping that a character asks for. -/
def Chomping.ofChar? : Char → Option Chomping
  | '+' => some .keep
  | '-' => some .strip
  | _ => none

/-- The head of a block scalar: chomping and indentation, in any order. -/
def blockHead (start : Mark) (c : Cursor) : Except Fault (Chomping × Option Nat × Cursor) :=
  let chomping? (c : Cursor) : Option Chomping := c.rest.head?.bind Chomping.ofChar?
  let digit? (c : Cursor) : Option Nat := c.rest.head?.bind Text.digitValue?
  let indented (c : Cursor) (n : Nat) : Except Fault Cursor :=
    if n = 0 then failAt .blockScalar start .zeroIndentation c.mark else .ok (c.forward 1)
  match chomping? c, digit? c with
  | some chomping, _ =>
    let c := c.forward 1
    match digit? c with
    | some n => (indented c n).map fun c => (chomping, some n, c)
    | none => .ok (chomping, none, c)
  | none, some n =>
    match indented c n with
    | .error e => .error e
    | .ok c =>
      match chomping? c with
      | some chomping => .ok (chomping, some n, c.forward 1)
      | none => .ok (.clip, some n, c)
  | none, none => .ok (.clip, none, c)

/-- The blank lines that come next in a block scalar, the cursor at the first word after them, and how
far the deepest of their lines, or of the line with that word, is indented. An unknown indentation
takes all spaces of a line. -/
def blankLines (start : Mark) (indent : Option Nat) (breaks : List Char) (deepest : Nat) :
    (fuel : Nat) → Cursor → Except Fault (List Char × Nat × Cursor)
  | 0, c => .ok (breaks, deepest, c)
  | fuel + 1, c =>
    let spaces := (c.rest.takeWhile (· = ' ')).length
    let c := c.forward (match indent with
      | none => spaces
      | some n => min spaces (n - c.mark.column))
    let deepest := max deepest c.mark.column
    if indent.all (c.mark.column < ·) && c.at? '\t' then
      failAt .blockScalar start .tabInBlock c.mark
    else
      match c.takeBreak with
      | ([], c) => .ok (breaks, deepest, c)
      | (lineBreak, c) => blankLines start indent (breaks ++ lineBreak) deepest fuel c

/-- A block scalar while it is read. -/
structure BlockText where
  /-- The text so far, in reverse. -/
  text : List Char := []
  /-- The break at the end of the last line. -/
  lineEnd : List Char := []
  /-- The blank lines after it. -/
  blank : List Char
  /-- Whether the last line began with a blank. -/
  indented : Bool := false
  deriving Repr

/-- Adds a line to a block scalar. Two lines of a folded scalar that do not begin with blanks are
joined by a space, or by the blank lines between them alone. -/
def BlockText.addLine (b : BlockText) (folded : Bool) (line lineEnd : List Char) : BlockText :=
  let indented := line.head?.any isBlank
  let between :=
    if folded && b.lineEnd = ['\n'] && !b.indented && !indented then
      if b.blank.isEmpty then [' '] else b.blank
    else b.lineEnd ++ b.blank
  { text := line.reverse ++ between.reverse ++ b.text, lineEnd, blank := [], indented }

/-- Reads the lines of a block scalar that are indented by `indent`. -/
def blockLines (folded : Bool) (start : Mark) (indent : Nat) (b : BlockText) :
    (fuel : Nat) → Cursor → Except Fault (BlockText × Cursor)
  | 0, c => .ok (b, c)
  | fuel + 1, c =>
    if c.mark.column = indent && !c.rest.isEmpty then
      let (line, c) := c.takeWhile fun x => !isBreak x
      let (lineEnd, c) := c.takeBreak
      match blankLines start (some indent) [] 0 (c.rest.length + 1) c with
      | .error e => .error e
      | .ok (blank, _, c) =>
        blockLines folded start indent { b.addLine folded line lineEnd with blank } fuel c
    else .ok (b, c)

/-- Reads a block scalar, whose indicator is at the cursor, under a given indentation. -/
def blockText (folded : Bool) (outer : Int) (c : Cursor) : Except Fault (String × Cursor) := do
  let start := c.mark
  let (chomping, increment, c) ← blockHead start (c.forward 1)
  let c := c.dropTail
  if atBreakOrEnd c.rest then
    let c := c.dropBreak
    let given := increment.map fun n => (max outer 0).toNat + n
    let (blank, deepest, c) ← blankLines start given [] 0 (c.rest.length + 1) c
    let indent := given.getD (max deepest (max (outer + 1) 1).toNat)
    let (b, c) ← blockLines folded start indent { blank } (c.rest.length + 1) c
    let tail := match chomping with
      | .strip => []
      | .clip => b.lineEnd
      | .keep => b.lineEnd ++ b.blank
    pure (String.ofList (b.text.reverse ++ tail), c)
  else failAt .blockScalar start .textAfterHead c.mark

end Manuscript.Yaml
