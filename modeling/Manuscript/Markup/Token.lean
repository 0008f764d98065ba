import Manuscript.Markup.Reference
import Manuscript.Text.Split

/-!
# Tokens of markup

HTML is read as a sequence of tags, comments, document types and texts. What comes next depends on
where the reader is: within a `script` or a `textarea` only the end tag counts as markup. So a
`Scanner` gives one token at a time, and its `ContentModel` may be changed between tokens.

## Main definitions

* `Token` — the tokens
* `Scanner.next` — the next token
* `decodeReferences` — a text with its character references replaced
-/

namespace Manuscript.Markup

/-- A start or end tag. -/
structure Tag where
  /-- The name, in lower case. -/
  name : String
  /-- The attributes, each name once. -/
  attributes : List (String × String) := []
  /-- Whether the tag ends in a slash. -/
  selfClosing : Bool := false
  deriving DecidableEq, Repr, Inhabited

/-- A document type. -/
structure Doctype where
  /-- The name, if there is one. -/
  name : Option String := none
  /-- The public identifier. -/
  publicId : Option String := none
  /-- The system identifier. -/
  systemId : Option String := none
  /-- Whether it is malformed. -/
  malformed : Bool := false
  deriving DecidableEq, Repr, Inhabited

/-- A token. -/
inductive Token where
  /-- A document type. -/
  | doctype (d : Doctype)
  /-- A start tag. -/
  | startTag (tag : Tag)
  /-- An end tag. -/
  | endTag (tag : Tag)
  /-- A comment. -/
  | comment (text : String)
  /-- A text that is either all blank or has no blank in it, unless it is raw text. -/
  | text (text : String)
  /-- A null character. -/
  | null
  /-- The end of the input. -/
  | eof
  deriving DecidableEq, Repr, Inhabited

/-- How the input is read. -/
inductive ContentModel where
  /-- Ordinary content. -/
  | data
  /-- Text with character references, up to an end tag. -/
  | escapableText
  /-- Text as it stands, up to an end tag. -/
  | rawText
  /-- The text of a script, in which comments may hide an end tag. -/
  | script
  /-- Text up to the end of the input. -/
  | plainText
  /-- A section of character data. -/
  | characterData
  deriving DecidableEq, Repr, Inhabited

/-- The blanks of markup: space, tab, line feed, form feed and carriage return. -/
def isMarkupBlank (c : Char) : Bool :=
  c = ' ' || c = '\t' || c = '\n' || c = '\x0c' || c = '\r'

/-- The replacement character for a null character, and all others as they are. -/
def replaceNull (c : Char) : Char := if c.toNat = 0 then replacementChar else c

/-! ### Character references -/

/-- The digits of a numeric reference: how many characters they and a semicolon take, and the
character they stand for. -/
def numericReference? (base : Nat) (digit? : Char → Option Nat) (cs : List Char) :
    Option (Nat × List Char) :=
  let digits := cs.takeWhile fun c => (digit? c).isSome
  if digits.isEmpty then none
  else
    let n := Text.ofDigitValues base (digits.filterMap digit?)
    let length := digits.length + (if cs[digits.length]? = some ';' then 1 else 0)
    some (length, [characterOfCode n])

/-- The reference behind an ampersand: how many characters it takes, and what it stands for. Within
an attribute, a name without a semicolon is none if `=`, a letter or a digit follows. -/
def reference? (inAttribute : Bool) (cs : List Char) : Option (Nat × List Char) :=
  match cs with
  | '#' :: 'x' :: rest | '#' :: 'X' :: rest =>
    (numericReference? 16 Text.hexValue? rest).map fun (n, out) => (n + 2, out)
  | '#' :: rest => (numericReference? 10 Text.digitValue? rest).map fun (n, out) => (n + 1, out)
  | _ => do
    let (name, text) ← longestReference? cs
    let blocked := inAttribute && name.getLast? ≠ some ';' &&
      (cs[name.length]?).any fun c => c = '=' || c.isAlphanum
    if blocked then none else some (name.length, text.toList)

/-- Whether a text begins with a numeric reference that no semicolon ends. -/
def startsOpenReference (cs : List Char) : Bool :=
  match cs with
  | '&' :: '#' :: rest =>
    match reference? false ('#' :: rest) with
    | some (length, _) => ('#' :: rest)[length - 1]? ≠ some ';'
    | none => false
  | _ => false

/-- Replaces the references of a text whose first `skip` characters belong to one already replaced. -/
def decodeReferencesFrom (inAttribute : Bool) (skip : Nat) : List Char → List Char
  | [] => []
  | c :: rest =>
    match skip with
    | k + 1 => decodeReferencesFrom inAttribute k rest
    | 0 =>
      match if c = '&' then reference? inAttribute rest else none with
      | some (length, out) => out ++ decodeReferencesFrom inAttribute length rest
      | none => c :: decodeReferencesFrom inAttribute 0 rest

/-- A text with its character references replaced. -/
def decodeReferences (inAttribute : Bool) (cs : List Char) : List Char :=
  decodeReferencesFrom inAttribute 0 cs

/-! ### Tags -/

/-- Where the reader is within a tag. -/
inductive TagState where
  /-- Before an attribute. -/
  | beforeName
  /-- Within the name of an attribute. -/
  | inName
  /-- Behind the name of an attribute. -/
  | afterName
  /-- Behind an equals sign. -/
  | beforeValue
  /-- Within a value between quotes. -/
  | quoted (mark : Char)
  /-- Within a value without quotes. -/
  | unquoted
  /-- Behind a slash. -/
  | afterSlash
  deriving DecidableEq, Repr

/-- The attributes read so far: the finished ones in reverse, and the one that is being read. -/
structure AttributeReader where
  /-- The finished attributes, in reverse. -/
  done : List (String × String) := []
  /-- The name that is being read, in reverse. -/
  name : List Char := []
  /-- The value that is being read, in reverse. -/
  value : List Char := []

namespace AttributeReader

/-- Finishes the attribute that is being read. Of two of one name the first one counts. -/
def finish (r : AttributeReader) : AttributeReader :=
  if r.name.isEmpty then { done := r.done }
  else
    let name := String.ofList r.name.reverse
    if r.done.any (·.1 = name) then { done := r.done }
    else
      let value := (decodeReferences true r.value.reverse).map replaceNull
      { done := (name, String.ofList value) :: r.done }

/-- Adds a character to the name. -/
def pushName (r : AttributeReader) (c : Char) : AttributeReader :=
  { r with name := replaceNull c.toLower :: r.name }

/-- Adds a character to the value. -/
def pushValue (r : AttributeReader) (c : Char) : AttributeReader := { r with value := c :: r.value }

end AttributeReader

/-- Reads the attributes of a tag: the attributes, whether the tag ends in a slash, and what follows.
`none` if the input ends before the tag does. -/
def readAttributes (state : TagState) (r : AttributeReader) :
    List Char → Option (List (String × String) × Bool × List Char)
  | [] => none
  | c :: rest =>
    let close (selfClosing : Bool) := some (r.finish.done.reverse, selfClosing, rest)
    match state with
    | .beforeName =>
      if isMarkupBlank c then readAttributes .beforeName r rest
      else if c = '/' then readAttributes .afterSlash r rest
      else if c = '>' then close false
      else readAttributes .inName (r.finish.pushName c) rest
    | .inName =>
      if isMarkupBlank c then readAttributes .afterName r rest
      else if c = '/' then readAttributes .afterSlash r rest
      else if c = '=' then readAttributes .beforeValue r rest
      else if c = '>' then close false
      else readAttributes .inName (r.pushName c) rest
    | .afterName =>
      if isMarkupBlank c then readAttributes .afterName r rest
      else if c = '/' then readAttributes .afterSlash r rest
      else if c = '=' then readAttributes .beforeValue r rest
      else if c = '>' then close false
      else readAttributes .inName (r.finish.pushName c) rest
    | .beforeValue =>
      if isMarkupBlank c then readAttributes .beforeValue r rest
      else if c = '"' || c = '\'' then readAttributes (.quoted c) r rest
      else if c = '>' then close false
      else readAttributes .unquoted (r.pushValue c) rest
    | .quoted mark =>
      if c = mark then readAttributes .beforeName r.finish rest
      else readAttributes (.quoted mark) (r.pushValue c) rest
    | .unquoted =>
      if isMarkupBlank c then readAttributes .beforeName r.finish rest
      else if c = '>' then close false
      else readAttributes .unquoted (r.pushValue c) rest
    | .afterSlash =>
      if c = '>' then close true
      else if isMarkupBlank c then readAttributes .beforeName r.finish rest
      else if c = '/' then readAttributes .afterSlash r.finish rest
      else readAttributes .inName (r.finish.pushName c) rest

/-- Whether a character ends the name of a tag. -/
def endsTagName (c : Char) : Bool := isMarkupBlank c || c = '/' || c = '>'

/-- Reads a tag from its name on; `none` if the input ends before the tag does. -/
def readTag (cs : List Char) : Option (Tag × List Char) :=
  let name := cs.takeWhile fun c => !endsTagName c
  (readAttributes .beforeName {} (cs.drop name.length)).map fun (attributes, selfClosing, rest) =>
    (⟨String.ofList (name.map fun c => replaceNull c.toLower), attributes, selfClosing⟩, rest)

/-! ### Comments -/

/-- Where the reader is within a comment: what its last characters were. -/
inductive CommentState where
  /-- Nothing has been read. -/
  | start
  /-- A dash has been read and nothing before it. -/
  | startDash
  /-- Within the text. -/
  | body
  /-- Behind a dash. -/
  | dash
  /-- Behind two dashes. -/
  | dashes
  /-- Behind two dashes and an exclamation mark. -/
  | bang
  deriving DecidableEq, Repr

/-- Reads a comment, whose text so far is `acc` in reverse: the text and what follows. -/
def readComment (state : CommentState) (acc : List Char) : List Char → List Char × List Char
  | [] => (acc.reverse, [])
  | c :: rest =>
    let goOn (before : List Char) :=
      if c = '-' then readComment .dash (before ++ acc) rest
      else readComment .body (replaceNull c :: (before ++ acc)) rest
    match state with
    | .start =>
      if c = '-' then readComment .startDash acc rest
      else if c = '>' then (acc.reverse, rest)
      else goOn []
    | .startDash =>
      if c = '-' then readComment .dashes acc rest
      else if c = '>' then (acc.reverse, rest)
      else goOn ['-']
    | .body => goOn []
    | .dash =>
      if c = '-' then readComment .dashes acc rest
      else goOn ['-']
    | .dashes =>
      if c = '>' then (acc.reverse, rest)
      else if c = '!' then readComment .bang acc rest
      else if c = '-' then readComment .dashes ('-' :: acc) rest
      else goOn ['-', '-']
    | .bang =>
      if c = '-' then readComment .dash ('!' :: '-' :: '-' :: acc) rest
      else if c = '>' then (acc.reverse, rest)
      else goOn ['!', '-', '-']

/-- Reads what is taken for a comment up to the next `>`. -/
def readBogusComment (cs : List Char) : List Char × List Char :=
  let text := cs.takeWhile (· ≠ '>')
  (text.map replaceNull, cs.drop (text.length + 1))

/-! ### Document types -/

/-- What follows a word at the start of a text, in any case of its letters. -/
def stripWord (word : String) (cs : List Char) : Option (List Char) :=
  let found := cs.take word.length
  if String.ofList (found.map Char.toLower) = word then some (cs.drop word.length) else none

/-- Skips blanks. -/
def skipMarkupBlanks (cs : List Char) : List Char := cs.dropWhile isMarkupBlank

/-- Skips what is left of a document type. -/
def skipDoctype (cs : List Char) : List Char := (cs.dropWhile (· ≠ '>')).drop 1

/-- Reads an identifier between quotes: the identifier, what follows it, and whether it is closed. -/
def readIdentifier : List Char → Option (String × List Char × Bool)
  | mark :: rest =>
    if mark = '"' || mark = '\'' then
      let id := rest.takeWhile fun c => c ≠ mark && c ≠ '>'
      let after := rest.drop id.length
      some (String.ofList (id.map replaceNull),
        if after.head? = some mark then after.drop 1 else after, after.head? = some mark)
    else none
  | [] => none

/-- Reads the system identifier that ends a document type, which it must have if `required`. -/
def readSystemId (d : Doctype) (required : Bool) (cs : List Char) : Doctype × List Char :=
  match skipMarkupBlanks cs with
  | [] => ({ d with malformed := true }, [])
  | '>' :: rest => ({ d with malformed := d.malformed || required }, rest)
  | rest =>
    match readIdentifier rest with
    | none => ({ d with malformed := true }, skipDoctype rest)
    | some (id, rest, closed) =>
      let d := { d with systemId := some id }
      if !closed then ({ d with malformed := true }, rest.drop 1)
      else match skipMarkupBlanks rest with
        | [] => ({ d with malformed := true }, [])
        | '>' :: rest => (d, rest)
        | rest => (d, skipDoctype rest)

/-- Reads a document type from behind its keyword. -/
def readDoctype (cs : List Char) : Doctype × List Char :=
  match skipMarkupBlanks cs with
  | [] => ({ malformed := true }, [])
  | '>' :: rest => ({ malformed := true }, rest)
  | cs =>
    let name := cs.takeWhile fun c => !isMarkupBlank c && c ≠ '>'
    let d : Doctype := { name := some (String.ofList (name.map fun c => replaceNull c.toLower)) }
    match skipMarkupBlanks (cs.drop name.length) with
    | [] => ({ d with malformed := true }, [])
    | '>' :: rest => (d, rest)
    | rest =>
      match stripWord "public" rest, stripWord "system" rest with
      | some after, _ =>
        match readIdentifier (skipMarkupBlanks after) with
        | none => ({ d with malformed := true }, skipDoctype after)
        | some (id, after, closed) =>
          let d := { d with publicId := some id }
          if closed then readSystemId d false after
          else ({ d with malformed := true }, after.drop 1)
      | none, some after => readSystemId d true after
      | none, none => ({ d with malformed := true }, skipDoctype rest)

/-! ### Raw text -/

/-- Whether an end tag with a name starts a text. -/
def startsEndTag (name : String) (cs : List Char) : Bool :=
  match cs with
  | '<' :: '/' :: rest =>
    match stripWord name rest with
    | some (c :: _) => name ≠ "" && endsTagName c
    | _ => false
  | _ => false

/-- Splits a text before the first end tag with a name. -/
def splitAtEndTag (name : String) : List Char → List Char × List Char
  | [] => ([], [])
  | c :: rest =>
    if startsEndTag name (c :: rest) then ([], c :: rest)
    else
      let (text, after) := splitAtEndTag name rest
      (c :: text, after)

/-- Where the reader is within a script. -/
inductive ScriptState where
  /-- Outside of comments. -/
  | plain
  /-- Within what may be the start of a comment, of which some characters behind the `<` are read. -/
  | opening (read : Nat)
  /-- Within a comment, behind some dashes. -/
  | escaped (dashes : Nat)
  /-- Within a comment, reading the word that may open an inner script. -/
  | openingInner (word : List Char)
  /-- Within an inner script, behind some dashes. -/
  | inner (dashes : Nat)
  /-- Within an inner script, before the slash of what may be its end tag. -/
  | slash
  /-- Within an inner script, reading the word that may close it. -/
  | closingInner (word : List Char)
  deriving DecidableEq, Repr

namespace ScriptState

/-- The state behind a character outside of comments. -/
def afterPlain (c : Char) (next : Option Char) : ScriptState :=
  if c = '<' && next = some '!' then .opening 0 else .plain

/-- The state behind a character within a comment. -/
def afterEscaped (dashes : Nat) (c : Char) (next : Option Char) : ScriptState :=
  if c = '<' then (if next.any Char.isAlpha then .openingInner [] else .escaped 0)
  else if c = '-' then .escaped (min (dashes + 1) 2)
  else if c = '>' && dashes = 2 then .plain
  else .escaped 0

/-- The state behind a character within an inner script. -/
def afterInner (dashes : Nat) (c : Char) (next : Option Char) : ScriptState :=
  if c = '<' then (if next = some '/' then .slash else .inner 0)
  else if c = '-' then .inner (min (dashes + 1) 2)
  else if c = '>' && dashes = 2 then .plain
  else .inner 0

/-- Whether the letters read, in reverse, are the word `script`. -/
def isScriptWord (word : List Char) : Bool := word = "script".toList.reverse

/-- The state behind a character, `next` being the one after it. -/
def step (state : ScriptState) (c : Char) (next : Option Char) : ScriptState :=
  match state with
  | .plain => afterPlain c next
  | .opening 0 => .opening 1
  | .opening 1 => if c = '-' then .opening 2 else afterPlain c next
  | .opening _ => if c = '-' then .escaped 2 else afterPlain c next
  | .escaped dashes => afterEscaped dashes c next
  | .openingInner word =>
    if endsTagName c then (if isScriptWord word then .inner 0 else .escaped 0)
    else if c.isAlpha then .openingInner (c.toLower :: word)
    else afterEscaped 0 c next
  | .inner dashes => afterInner dashes c next
  | .slash => .closingInner []
  | .closingInner word =>
    if endsTagName c then (if isScriptWord word then .escaped 0 else .inner 0)
    else if c.isAlpha then .closingInner (c.toLower :: word)
    else afterInner 0 c next

end ScriptState

/-- Whether an end tag ends the script in a state. -/
def ScriptState.endsHere : ScriptState → Bool
  | .plain | .opening _ | .escaped _ | .openingInner _ => true
  | .inner _ | .slash | .closingInner _ => false

/-- Splits the text of a script before the end tag that ends it. -/
def splitScript (state : ScriptState) : List Char → List Char × List Char
  | [] => ([], [])
  | c :: rest =>
    if state.endsHere && startsEndTag "script" (c :: rest) then ([], c :: rest)
    else
      let (text, after) := splitScript (state.step c rest.head?) rest
      (c :: text, after)

/-! ### The scanner -/

/-- A reader of tokens. -/
structure Scanner where
  /-- What is left to read. -/
  input : List Char
  /-- How it is read. -/
  model : ContentModel := .data
  /-- The name of the last start tag, whose end tag ends raw text. -/
  lastStartTag : String := ""

namespace Scanner

/-- A scanner that has read up to `input`. -/
def moveTo (s : Scanner) (input : List Char) : Scanner := { s with input }

/-- The token behind `</`. -/
def endTagOrComment (s : Scanner) (rest : List Char) : Option Token × Scanner :=
  match rest with
  | [] => (some (.text "</"), s.moveTo [])
  | '>' :: rest => (none, s.moveTo rest)
  | c :: _ =>
    if c.isAlpha then
      match readTag rest with
      | some (tag, rest) => (some (.endTag tag), { s with input := rest, model := .data })
      | none => (some .eof, s.moveTo [])
    else
      let (text, rest) := readBogusComment rest
      (some (.comment (String.ofList text)), s.moveTo rest)

/-- The token behind `<!`. -/
def declaration (s : Scanner) (allowCharacterData : Bool) (rest : List Char) :
    Option Token × Scanner :=
  match Text.stripPrefix ['-', '-'] rest with
  | some rest =>
    let (text, rest) := readComment .start [] rest
    (some (.comment (String.ofList text)), s.moveTo rest)
  | none =>
    match stripWord "doctype" rest with
    | some rest =>
      let (d, rest) := readDoctype rest
      (some (.doctype d), s.moveTo rest)
    | none =>
      match if allowCharacterData then Text.stripPrefix "[CDATA[".toList rest else none with
      | some rest => (none, { s with input := rest, model := .characterData })
      | none =>
        let (text, rest) := readBogusComment rest
        (some (.comment (String.ofList text)), s.moveTo rest)

/-- The token behind `<`. -/
def markup (s : Scanner) (allowCharacterData : Bool) (rest : List Char) : Option Token × Scanner :=
  match rest with
  | '/' :: rest => s.endTagOrComment rest
  | '!' :: rest => s.declaration allowCharacterData rest
  | '?' :: _ =>
    let (text, rest) := readBogusComment rest
    (some (.comment (String.ofList text)), s.moveTo rest)
  | c :: _ =>
    if c.isAlpha then
      match readTag rest with
      | some (tag, rest) =>
        (some (.startTag tag), { s with input := rest, lastStartTag := tag.name })
      | none => (some .eof, s.moveTo [])
    else (some (.text "<"), s.moveTo rest)
  | [] => (some (.text "<"), s.moveTo [])

/-- The longest run at the start of a text of characters that are all blank or none, up to `stop`. -/
def run (stop : Char → Bool) (cs : List Char) : List Char :=
  match cs with
  | [] => []
  | c :: _ =>
    let blank := isMarkupBlank c
    cs.takeWhile fun d => isMarkupBlank d == blank && !stop d && d.toNat ≠ 0

/-- The next token of ordinary content; nothing if what comes next makes none. -/
def nextData (s : Scanner) (allowCharacterData : Bool) : Option Token × Scanner :=
  match s.input with
  | [] => (some .eof, s)
  | '<' :: rest => s.markup allowCharacterData rest
  | '&' :: rest =>
    match reference? false rest with
    | some (length, out) => (some (.text (String.ofList out)), s.moveTo (rest.drop length))
    | none => (some (.text "&"), s.moveTo rest)
  | c :: rest =>
    if c.toNat = 0 then (some .null, s.moveTo rest)
    else
      let text := run (fun d => d = '<' || d = '&') (c :: rest)
      (some (.text (String.ofList text)), s.moveTo (rest.drop (text.length - 1)))

/-- The next token of a text that ends before an end tag: the end tag, or the whole text. -/
def nextRaw (s : Scanner) (split : List Char → List Char × List Char)
    (decode : List Char → List Char) : Option Token × Scanner :=
  match split s.input with
  | ([], []) => (some .eof, s.moveTo [])
  | ([], rest) => s.endTagOrComment (rest.drop 2)
  | (text, rest) =>
    (some (.text (String.ofList ((decode text).map replaceNull))), s.moveTo rest)

/-- The next token of a section of character data. -/
def nextCharacterData (s : Scanner) : Option Token × Scanner :=
  match s.input with
  | [] => (some .eof, s)
  | ']' :: ']' :: '>' :: rest => (none, { s with input := rest, model := .data })
  | ']' :: rest => (some (.text "]"), s.moveTo rest)
  | c :: rest =>
    if c.toNat = 0 then (some .null, s.moveTo rest)
    else
      let text := run (· = ']') (c :: rest)
      (some (.text (String.ofList text)), s.moveTo (rest.drop (text.length - 1)))

/-- Reads on: the next token, or nothing if what was read makes none. Character data are a section of
their own only if `allowCharacterData`. -/
def next (s : Scanner) (allowCharacterData : Bool) : Option Token × Scanner :=
  match s.model with
  | .data => s.nextData allowCharacterData
  | .escapableText => s.nextRaw (splitAtEndTag s.lastStartTag) (decodeReferences false)
  | .rawText => s.nextRaw (splitAtEndTag s.lastStartTag) id
  | .script => s.nextRaw (splitScript .plain) id
  | .plainText => s.nextRaw (fun cs => (cs, [])) id
  | .characterData => s.nextCharacterData

/-- Line feeds in the place of the other line ends. -/
def normalizeLineEnds : List Char → List Char
  | [] => []
  | '\r' :: '\n' :: rest => '\n' :: normalizeLineEnds rest
  | '\r' :: rest => '\n' :: normalizeLineEnds rest
  | c :: rest => c :: normalizeLineEnds rest

/-- A scanner of a text, without the mark of byte order at its start. -/
def ofText (text : String) : Scanner :=
  let cs := match text.toList with
    | c :: rest => if c.toNat = 0xFEFF then rest else c :: rest
    | [] => []
  { input := normalizeLineEnds cs }

end Scanner

end Manuscript.Markup
