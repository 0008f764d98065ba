import Manuscript.Yaml.Fault

/-!
# Reading YAML characters

A cursor is what is left of a text with the place where it begins. Lines end in a line feed, a carriage
return, both, or one of the three line separators beyond ASCII.

## Main definitions

* `Yaml.Cursor` — the rest of a text
* `Yaml.LineFold` — blanks and line breaks that wait for the next word
-/

namespace Manuscript.Yaml

/-- Whether a character is a space or a tab. -/
def isBlank (c : Char) : Bool := c = ' ' || c = '\t'

/-- Whether a character ends a line. -/
def isBreak (c : Char) : Bool :=
  c = '\r' || c = '\n' || c = '\x85' || c = '\u2028' || c = '\u2029'

/-- Whether a character may stand in a name. -/
def isNameCharacter (c : Char) : Bool := c.isAlphanum || c = '_' || c = '-'

/-- Whether a character may stand in YAML at all. -/
def isReadable (c : Char) : Bool :=
  let n := c.toNat
  c = '\t' || c = '\n' || c = '\r' || (0x20 ≤ n && n ≤ 0x7e) || n = 0x85 ||
    (0xa0 ≤ n && n ≤ 0xd7ff) || (0xe000 ≤ n && n ≤ 0xfffd) || 0x10000 ≤ n

/-- The number of bytes before the first character that may not stand in YAML. -/
def unreadableAfter? : List Char → Option Nat
  | [] => none
  | c :: rest => if isReadable c then (unreadableAfter? rest).map (c.utf8Size + ·) else some 0

/-- Whether nothing, a blank or a line break comes next. -/
def atBlankOrEnd : List Char → Bool
  | [] => true
  | c :: _ => isBlank c || isBreak c

/-- Whether nothing or a line break comes next. -/
def atBreakOrEnd : List Char → Bool
  | [] => true
  | c :: _ => isBreak c

/-- Whether a line that bounds a document comes next. -/
def atBoundary : List Char → Bool
  | '-' :: '-' :: '-' :: rest => atBlankOrEnd rest
  | '.' :: '.' :: '.' :: rest => atBlankOrEnd rest
  | _ => false

/-- What is left of a text, and where it begins. -/
structure Cursor where
  /-- The characters. -/
  rest : List Char
  /-- The place of the first of them. -/
  mark : Mark := {}
  deriving Repr, Inhabited

namespace Cursor

/-- The cursor some characters further on the line. -/
def forward (c : Cursor) (count : Nat) : Cursor := ⟨c.rest.drop count, c.mark.forward count⟩

/-- Whether the next character is the given one. -/
def at? (c : Cursor) (x : Char) : Bool := c.rest.head? = some x

/-- The characters of a class that come next, and the cursor after them. -/
def takeWhile (c : Cursor) (p : Char → Bool) : List Char × Cursor :=
  let taken := c.rest.takeWhile p
  (taken, c.forward taken.length)

/-- The cursor after the characters of a class that come next. -/
def dropWhile (c : Cursor) (p : Char → Bool) : Cursor := (c.takeWhile p).2

/-- The line break that comes next, as it counts in a scalar, and the cursor after it; nothing if
none comes. -/
def takeBreak (c : Cursor) : List Char × Cursor :=
  match c.rest with
  | '\r' :: '\n' :: rest => (['\n'], ⟨rest, c.mark.nextLine 2⟩)
  | x :: rest =>
    if isBreak x then
      ([if x = '\u2028' || x = '\u2029' then x else '\n'], ⟨rest, c.mark.nextLine 1⟩)
    else ([], c)
  | [] => ([], c)

/-- The cursor after the line break that comes next. -/
def dropBreak (c : Cursor) : Cursor := c.takeBreak.2

/-- The cursor after the blanks and the comment at the end of a line. -/
def dropTail (c : Cursor) : Cursor :=
  let c := c.dropWhile isBlank
  if c.at? '#' then c.dropWhile fun x => !isBreak x else c

end Cursor

/-! ### Folding of lines -/

/-- Blanks and line breaks in a scalar that count only if another word follows. -/
structure LineFold where
  /-- The blanks, as long as there is no line break. -/
  blanks : List Char := []
  /-- Whether there is a line break. -/
  broken : Bool := false
  /-- The first line break. -/
  first : List Char := []
  /-- The line breaks after it. -/
  more : List Char := []
  deriving DecidableEq, Repr, Inhabited

namespace LineFold

/-- Whether nothing waits. -/
def isEmpty (f : LineFold) : Bool := !f.broken && f.blanks.isEmpty

/-- Adds a blank; on a line of its own it is indentation and does not count. -/
def addBlank (f : LineFold) (c : Char) : LineFold :=
  if f.broken then f else { f with blanks := f.blanks ++ [c] }

/-- Adds a line break. -/
def addBreak (f : LineFold) (lineBreak : List Char) : LineFold :=
  if f.broken then { f with more := f.more ++ lineBreak }
  else { f with blanks := [], broken := true, first := lineBreak }

/-- What stands before the next word: blanks as they are, one line break as a space, and more line
breaks without the first. -/
def text (f : LineFold) : List Char :=
  if !f.broken then f.blanks
  else if f.first = ['\n'] then (if f.more.isEmpty then [' '] else f.more)
  else f.first ++ f.more

end LineFold

end Manuscript.Yaml
