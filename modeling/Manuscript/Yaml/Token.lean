import Manuscript.Yaml.ScalarText

/-!
# YAML tokens

A text is cut into tokens: indicators, scalars, properties of nodes, and marks for where indented blocks
begin and end. A key on one line is known as a key only when its colon is seen, so the marks for a key
are put in before tokens that have been read already. Until then these tokens may not be used: if a
fault follows, they count as unread.

## Main definitions

* `Yaml.Token` — the tokens
* `Yaml.Tokens.ofText` — the tokens of a text up to its first fault
-/

namespace Manuscript.Yaml

/-- A token. -/
inductive Token where
  /-- The end of the text. -/
  | streamEnd
  /-- A directive that gives the version. -/
  | version (major minor : Nat)
  /-- A directive that gives a prefix for tags with a handle. -/
  | tagHandle (handle expansion : String)
  /-- The line `---`. -/
  | documentStart
  /-- The line `...`. -/
  | documentEnd
  /-- An indented sequence begins. -/
  | blockSequenceStart
  /-- An indented mapping begins. -/
  | blockMappingStart
  /-- An indented block ends. -/
  | blockEnd
  /-- An opening bracket. -/
  | flowSequenceStart
  /-- A closing bracket. -/
  | flowSequenceEnd
  /-- An opening brace. -/
  | flowMappingStart
  /-- A closing brace. -/
  | flowMappingEnd
  /-- The indicator of an item. -/
  | blockEntry
  /-- A comma. -/
  | flowEntry
  /-- A key follows. -/
  | key
  /-- A colon. -/
  | value
  /-- A reference to an anchor. -/
  | aliasOf (name : String)
  /-- A name for the node that follows. -/
  | anchor (name : String)
  /-- The tag of the node that follows. -/
  | tag (handle name : String)
  /-- A scalar, and whether it is plain. -/
  | scalar (text : String) (plain : Bool)
  deriving DecidableEq, Repr, Inhabited

/-- A token and where it begins. -/
abbrev PlacedToken := Token × Mark

/-- A place where a key may have begun that stands on one line. -/
structure PossibleKey where
  /-- The number of tokens before it. -/
  position : Nat
  /-- Where it began. -/
  mark : Mark
  /-- Whether nothing else than a key may begin there. -/
  required : Bool
  deriving DecidableEq, Repr

/-- A text in the middle of being cut into tokens. -/
structure Scan where
  /-- What is left of the text. -/
  cursor : Cursor
  /-- The tokens, the last one first. -/
  tokens : List PlacedToken := []
  /-- How many tokens there are. -/
  count : Nat := 0
  /-- The column of the innermost block; -1 outside of blocks. -/
  indent : Int := -1
  /-- The columns of the blocks around it. -/
  indents : List Int := []
  /-- Whether a key may begin here. -/
  keyAllowed : Bool := true
  /-- The possible key of the innermost level. -/
  possible : Option PossibleKey := none
  /-- The possible keys of the levels around it: one for each open bracket. -/
  outer : List (Option PossibleKey) := []
  deriving Repr, Inhabited

namespace Scan

/-- Where the scan is. -/
def mark (s : Scan) : Mark := s.cursor.mark

/-- Whether the scan is within brackets. -/
def inFlow (s : Scan) : Bool := !s.outer.isEmpty

/-- Adds a token. -/
def push (s : Scan) (t : Token) (mark : Mark) : Scan :=
  { s with tokens := (t, mark) :: s.tokens, count := s.count + 1 }

/-- Puts a token in before those from a position on. -/
def insert (s : Scan) (position : Nat) (t : Token) (mark : Mark) : Scan :=
  let later := s.count - position
  { s with
    tokens := s.tokens.take later ++ (t, mark) :: s.tokens.drop later
    count := s.count + 1 }

/-- Adds a token of some characters on the line, and allows a key after it or not. -/
def indicator (s : Scan) (t : Token) (length : Nat) (keyAllowed : Bool) : Scan :=
  { s.push t s.mark with cursor := s.cursor.forward length, keyAllowed }

/-! ### Keys on one line -/

/-- Gives up a key because it is no longer possible, which is a fault if it was required. -/
def giveUp (s : Scan) : Option PossibleKey → Except Fault Unit
  | some k => if k.required then failAt .simpleKey k.mark .keyWithoutColon s.mark else .ok ()
  | none => .ok ()

/-- Gives up the possible key of the innermost level. -/
def dropKey (s : Scan) : Except Fault Scan := do
  s.giveUp s.possible
  pure { s with possible := none }

/-- Notes that a key may begin here. -/
def noteKey (s : Scan) : Except Fault Scan := do
  if s.keyAllowed then
    let required := !s.inFlow && s.indent = s.mark.column
    let s ← s.dropKey
    pure { s with possible := some ⟨s.count, s.mark, required⟩ }
  else pure s

/-- Whether a key cannot be continued here: it may not go over the end of its line, nor be longer than
1024 characters. -/
def isStale (s : Scan) (k : PossibleKey) : Bool :=
  k.mark.line < s.mark.line || k.mark.index + 1024 < s.mark.index

/-- Gives up the keys that cannot be continued here. -/
def dropStaleKeys (s : Scan) : Except Fault Scan := do
  let fresh (key : Option PossibleKey) : Except Fault (Option PossibleKey) := do
    if key.any s.isStale then
      s.giveUp key
      pure none
    else pure key
  -- the outermost level comes first
  let outer ← s.outer.reverse.mapM fresh
  pure { s with outer := outer.reverse, possible := ← fresh s.possible }

/-! ### Blocks -/

/-- Begins a block at a column if it lies deeper than the innermost one; `position` says before which
token. -/
def openBlock (s : Scan) (column : Nat) (position : Option Nat) (t : Token) (mark : Mark) : Scan :=
  if !s.inFlow && s.indent < column then
    let s := { s with indents := s.indent :: s.indents, indent := column }
    match position with
    | some n => s.insert n t mark
    | none => s.push t mark
  else s

/-- Ends the blocks that lie deeper than a column. -/
def closeBlocksFrom (column : Int) : List Int → Scan → Scan
  | [], s => s
  | outer :: rest, s =>
    if column < s.indent then
      closeBlocksFrom column rest { s.push .blockEnd s.mark with indent := outer, indents := rest }
    else s

/-- Ends the blocks that lie deeper than a column; within brackets there are none. -/
def closeBlocks (s : Scan) (column : Int) : Scan :=
  if s.inFlow then s else closeBlocksFrom column s.indents s

/-! ### Directives -/

/-- Fails here, where something has been read from `start` on. -/
def fail {α : Type} (s : Scan) (activity : Activity) (start : Mark) (problem : Problem) :
    Except Fault α :=
  failAt activity start problem s.mark

/-- A number of a version. -/
def versionNumber (start : Mark) (c : Cursor) : Except Fault (Nat × Cursor) :=
  let (digits, after) := c.takeWhile Char.isDigit
  if digits.length > 9 then
    failAt .versionDirective start .longVersionNumber (c.mark.forward 9)
  else if digits.isEmpty then failAt .versionDirective start .noVersionNumber c.mark
  else .ok (Text.ofDigitValues 10 (digits.filterMap Text.digitValue?), after)

/-- The numbers of a version directive. -/
def versionValue (start : Mark) (c : Cursor) : Except Fault (Token × Cursor) := do
  let (major, c) ← versionNumber start (c.dropWhile isBlank)
  if !c.at? '.' then failAt .versionDirective start .noVersionPoint c.mark
  else
    let (minor, c) ← versionNumber start (c.forward 1)
    pure (.version major minor, c)

/-- A handle, which begins with an exclamation mark: in a directive it has to end in one too, unless
it is nothing but one. -/
def readHandle (inDirective : Bool) (start : Mark) (c : Cursor) :
    Except Fault (List Char × Cursor) :=
  if !c.at? '!' then
    failAt (if inDirective then .tagDirectiveHandle else .tag) start .noExclamationMark c.mark
  else
    let (name, c) := (c.forward 1).takeWhile isNameCharacter
    if c.at? '!' then .ok ('!' :: name ++ ['!'], c.forward 1)
    else if inDirective && !name.isEmpty then
      failAt .tagDirectiveHandleEnd start .noExclamationMark c.mark
    else .ok ('!' :: name, c)

/-- Whether a character may stand in the name of a tag; in angle brackets and directives commas and
square brackets may too. -/
def isTagCharacter (wide : Bool) (c : Char) : Bool :=
  isNameCharacter c || ";/?:@&=+$.%!~*'()".toList.contains c ||
    (wide && (c = ',' || c = '[' || c = ']'))

/-- The octet that a percent sign and two digits stand for. -/
def escapedOctet? : List Char → Option Nat
  | '%' :: a :: b :: _ => do pure ((← Text.hexValue? a) * 16 + (← Text.hexValue? b))
  | _ => none

/-- How many octets a character has that begins with an octet, and the bits of it that count. -/
def octetWidth? (octet : Nat) : Option (Nat × Nat) :=
  if octet < 0x80 then some (1, octet)
  else if octet / 0x20 = 6 then some (2, octet % 0x20)
  else if octet / 0x10 = 14 then some (3, octet % 0x10)
  else if octet / 0x08 = 30 then some (4, octet % 0x08)
  else none

/-- The rest of an escaped character, of which `value` is known and `count` octets are missing. -/
def continuedOctets (activity : Activity) (start : Mark) (value : Nat) :
    (count : Nat) → Cursor → Except Fault (Nat × Cursor)
  | 0, c => .ok (value, c)
  | count + 1, c =>
    match escapedOctet? c.rest with
    | none => failAt activity start .badOctet c.mark
    | some octet =>
      if octet / 0x40 = 2 then
        continuedOctets activity start (value * 0x40 + octet % 0x40) count (c.forward 3)
      else failAt activity start .badTrailingOctet c.mark

/-- A character that is written as escaped octets. -/
def escapedTagCharacter (activity : Activity) (start : Mark) (c : Cursor) :
    Except Fault (Char × Cursor) :=
  match escapedOctet? c.rest with
  | none => failAt activity start .badOctet c.mark
  | some octet =>
    match octetWidth? octet with
    | none => failAt activity start .badLeadingOctet c.mark
    | some (width, bits) =>
      match continuedOctets activity start bits (width - 1) (c.forward 3) with
      | .error e => .error e
      | .ok (n, c) => .ok (Char.ofNat n, c)

/-- The characters of a name of a tag. -/
def tagCharacters (wide : Bool) (activity : Activity) (start : Mark) (text : List Char) :
    (fuel : Nat) → Cursor → Except Fault (List Char × Cursor)
  | 0, c => .ok (text, c)
  | fuel + 1, c =>
    match c.rest with
    | [] => .ok (text, c)
    | x :: _ =>
      if !isTagCharacter wide x then .ok (text, c)
      else if x = '%' then
        match escapedTagCharacter activity start c with
        | .error e => .error e
        | .ok (x, c) => tagCharacters wide activity start (text ++ [x]) fuel c
      else tagCharacters wide activity start (text ++ [x]) fuel (c.forward 1)

/-- The name of a tag after `head`, which has been read already; both may not be empty. -/
def tagName (wide inDirective : Bool) (head : List Char) (start : Mark) (c : Cursor) :
    Except Fault (String × Cursor) := do
  let activity : Activity := if inDirective then .tagDirectivePrefix else .tagName
  let (text, c) ← tagCharacters wide activity start (head.drop 1) (c.rest.length + 1) c
  if head.isEmpty && text.isEmpty then failAt activity start .noTagName c.mark
  else pure (String.ofList text, c)

/-- The handle and the prefix of a tag directive. -/
def tagHandleValue (start : Mark) (c : Cursor) : Except Fault (Token × Cursor) := do
  let (handle, c) ← readHandle true start (c.dropWhile isBlank)
  if !c.rest.head?.any isBlank then failAt .tagDirective start .noBlank c.mark
  else
    let (expansion, c) ← tagName true true [] start (c.dropWhile isBlank)
    if !atBlankOrEnd c.rest then failAt .tagDirective start .noBlankOrBreak c.mark
    else pure (.tagHandle (String.ofList handle) expansion, c)

/-- Reads a directive. -/
def readDirective (s : Scan) : Except Fault Scan := do
  let start := s.mark
  let s ← (s.closeBlocks (-1)).dropKey
  let c := s.cursor.forward 1
  let (name, c) := c.takeWhile isNameCharacter
  if name.isEmpty then failAt .directive start .noDirectiveName c.mark
  else if !atBlankOrEnd c.rest then failAt .directive start .badDirectiveName c.mark
  else
    let (token, c) ←
      if name = "YAML".toList then versionValue start c
      else if name = "TAG".toList then tagHandleValue start c
      else failAt .directive start .unknownDirective c.mark
    let c := c.dropTail
    if !atBreakOrEnd c.rest then failAt .directive start .textAfterHead c.mark
    else pure { s.push token start with cursor := c.dropBreak, keyAllowed := false }

/-! ### Properties and scalars -/

/-- Reads an anchor or an alias. -/
def readAnchor (s : Scan) (activity : Activity) (token : String → Token) : Except Fault Scan := do
  let s ← s.noteKey
  let start := s.mark
  let (name, c) := (s.cursor.forward 1).takeWhile isNameCharacter
  if name.isEmpty || !(atBlankOrEnd c.rest || c.rest.head?.any ("?:,]\x7d%@`".toList.contains ·)) then
    failAt activity start .badAnchorName c.mark
  else
    pure { s.push (token (String.ofList name)) start with cursor := c, keyAllowed := false }

/-- The handle and the name of a tag. -/
def tagValue (start : Mark) (c : Cursor) : Except Fault (Token × Cursor) := do
  if (c.forward 1).at? '<' then
    let (name, c) ← tagName true false [] start (c.forward 2)
    if c.at? '>' then pure (.tag "" name, c.forward 1)
    else failAt .tag start .noClosingAngle c.mark
  else
    let (handle, c) ← readHandle false start c
    if handle.length > 1 && handle.getLast? = some '!' then
      let (name, c) ← tagName false false [] start c
      pure (.tag (String.ofList handle) name, c)
    else
      let (name, c) ← tagName false false handle start c
      pure (if name.isEmpty then .tag "" "!" else .tag "!" name, c)

/-- Reads a tag. -/
def readTag (s : Scan) : Except Fault Scan := do
  let s ← s.noteKey
  let (token, c) ← tagValue s.mark s.cursor
  if (s.inFlow && c.at? ',') || atBlankOrEnd c.rest then
    pure { s.push token s.mark with cursor := c, keyAllowed := false }
  else failAt .tag s.mark .noBlankOrBreak c.mark

/-- Reads a scalar in quotes. -/
def readQuoted (s : Scan) (single : Bool) : Except Fault Scan := do
  let s ← s.noteKey
  let (text, c) ← quotedText single s.cursor
  pure { s.push (.scalar text false) s.mark with cursor := c, keyAllowed := false }

/-- Reads a plain scalar. After the end of a line a key may begin. -/
def readPlain (s : Scan) : Except Fault Scan := do
  let s ← s.noteKey
  let plain ← plainText s.inFlow s.indent s.cursor
  pure { s.push (.scalar plain.text true) s.mark with
    cursor := plain.after, keyAllowed := plain.broken }

/-- Reads a block scalar. -/
def readBlock (s : Scan) (folded : Bool) : Except Fault Scan := do
  let s ← s.dropKey
  let (text, c) ← blockText folded s.indent s.cursor
  pure { s.push (.scalar text false) s.mark with cursor := c, keyAllowed := true }

/-! ### Indicators -/

/-- Reads a line that bounds a document. -/
def readBoundary (s : Scan) (t : Token) : Except Fault Scan := do
  let s ← (s.closeBlocks (-1)).dropKey
  pure (s.indicator t 3 false)

/-- Reads an opening bracket. -/
def openFlow (s : Scan) (t : Token) : Except Fault Scan := do
  let s ← s.noteKey
  pure { s.indicator t 1 true with outer := s.possible :: s.outer, possible := none }

/-- Reads a closing bracket. -/
def closeFlow (s : Scan) (t : Token) : Except Fault Scan := do
  let s ← s.dropKey
  match s.outer with
  | [] => pure (s.indicator t 1 false)
  | key :: outer => pure { s.indicator t 1 false with outer, possible := key }

/-- Reads a comma. -/
def readComma (s : Scan) : Except Fault Scan := do
  let s ← s.dropKey
  pure (s.indicator .flowEntry 1 true)

/-- Begins a block with an indicator, where this is allowed. Within brackets it begins none. -/
def beginBlock (s : Scan) (problem : Problem) (t : Token) : Except Fault Scan :=
  if s.inFlow then .ok s
  else if s.keyAllowed then .ok (s.openBlock s.mark.column none t s.mark)
  else .error (.malformed problem s.mark none)

/-- Reads the indicator of an item. -/
def readItem (s : Scan) : Except Fault Scan := do
  let s ← s.beginBlock .entryNotAllowed .blockSequenceStart
  let s ← s.dropKey
  pure (s.indicator .blockEntry 1 true)

/-- Reads the indicator of a key. -/
def readKey (s : Scan) : Except Fault Scan := do
  let s ← s.beginBlock .keyNotAllowed .blockMappingStart
  let s ← s.dropKey
  pure (s.indicator .key 1 !s.inFlow)

/-- Reads a colon: it makes a key of what may be one. -/
def readColon (s : Scan) : Except Fault Scan := do
  match s.possible with
  | some k =>
    let s := s.insert k.position .key k.mark
    let s := s.openBlock k.mark.column (some k.position) .blockMappingStart k.mark
    pure ({ s with possible := none }.indicator .value 1 false)
  | none =>
    let s ← s.beginBlock .valueNotAllowed .blockMappingStart
    pure (s.indicator .value 1 !s.inFlow)

/-! ### The next token -/

/-- Drops blanks, comments and line breaks. A tab is no blank where a key may begin in a block. -/
def dropBlanks : (fuel : Nat) → Scan → Scan
  | 0, s => s
  | fuel + 1, s =>
    let c := if s.mark.index = 0 && s.cursor.at? '\ufeff' then s.cursor.forward 1 else s.cursor
    let c := c.dropWhile fun x => x = ' ' || (x = '\t' && (s.inFlow || !s.keyAllowed))
    let c := if c.at? '#' then c.dropWhile fun x => !isBreak x else c
    match c.rest with
    | x :: _ =>
      if isBreak x then
        dropBlanks fuel { s with cursor := c.dropBreak, keyAllowed := s.keyAllowed || !s.inFlow }
      else { s with cursor := c }
    | [] => { s with cursor := c }

/-- Reads the end of the text, which counts as the beginning of a line. -/
def readEnd (s : Scan) : Except Fault Scan := do
  let m := s.mark
  let m := if m.column = 0 then m else m.nextLine 0
  let s := { s with cursor := ⟨[], m⟩ }
  let s ← (s.closeBlocks (-1)).dropKey
  pure { s.push .streamEnd m with keyAllowed := false }

/-- Whether a plain scalar begins with the next character. -/
def beginsPlain (s : Scan) (c : Char) (rest : List Char) : Bool :=
  !(isBlank c || isBreak c || "-?:,[]\x7b\x7d#&*!|>'\"%@`".toList.contains c) ||
    (c = '-' && !rest.head?.any isBlank) ||
    (!s.inFlow && (c = '?' || c = ':') && !atBlankOrEnd rest)

/-- Reads the tokens that the next characters are. -/
def readToken (s : Scan) : Except Fault Scan :=
  match s.cursor.rest with
  | [] => s.readEnd
  | c :: rest =>
    if s.mark.column = 0 && c = '%' then s.readDirective
    else if s.mark.column = 0 && atBoundary (c :: rest) then
      s.readBoundary (if c = '-' then .documentStart else .documentEnd)
    else if c = '[' then s.openFlow .flowSequenceStart
    else if c = '{' then s.openFlow .flowMappingStart
    else if c = ']' then s.closeFlow .flowSequenceEnd
    else if c = '}' then s.closeFlow .flowMappingEnd
    else if c = ',' then s.readComma
    else if c = '-' && atBlankOrEnd rest then s.readItem
    else if c = '?' && (s.inFlow || atBlankOrEnd rest) then s.readKey
    else if c = ':' && (s.inFlow || atBlankOrEnd rest) then s.readColon
    else if c = '*' then s.readAnchor .aliasName .aliasOf
    else if c = '&' then s.readAnchor .anchor .anchor
    else if c = '!' then s.readTag
    else if c = '|' && !s.inFlow then s.readBlock false
    else if c = '>' && !s.inFlow then s.readBlock true
    else if c = '\'' then s.readQuoted true
    else if c = '"' then s.readQuoted false
    else if s.beginsPlain c rest then s.readPlain
    else s.fail .nextToken s.mark .strayCharacter

/-- Reads on to the next token. -/
def next (s : Scan) : Except Fault Scan := do
  let s ← (dropBlanks (s.cursor.rest.length + 1) s).dropStaleKeys
  (s.closeBlocks s.mark.column).readToken

/-- The tokens that may be used though it is not known what follows: those before any possible key. -/
def settled (s : Scan) : List PlacedToken :=
  let keys := (s.possible :: s.outer).filterMap fun k => k.map PossibleKey.position
  let count := keys.foldl min s.count
  s.tokens.reverse.take count

end Scan

/-- The tokens of a text, up to its end or to a fault. -/
structure Tokens where
  /-- The tokens. -/
  tokens : List PlacedToken
  /-- The fault that follows them. -/
  fault : Option Fault := none
  deriving Repr

namespace Tokens

/-- Reads the tokens that follow. Each reading takes a character at least, or ends. -/
def ofScan : (fuel : Nat) → Scan → Tokens
  | 0, s => ⟨s.tokens.reverse, none⟩
  | fuel + 1, s =>
    match s.dropStaleKeys with
    | .error e => ⟨s.settled, some e⟩
    | .ok s =>
      match s.next with
      | .error e => ⟨s.settled, some e⟩
      | .ok next =>
        match next.tokens with
        | (.streamEnd, _) :: _ => ⟨next.tokens.reverse, none⟩
        | _ => ofScan fuel next

/-- The tokens of a text. A character that may not stand in YAML is found before anything else. -/
def ofText (text : String) : Tokens :=
  match unreadableAfter? text.toList with
  | some bytes => ⟨[], some (.unreadable bytes)⟩
  | none => ofScan (text.length + 2) { cursor := ⟨text.toList, {}⟩ }

end Tokens

end Manuscript.Yaml
